import Mathlib

/-! Unicode text functions of the host language's standard library, over lists of characters.
Only the contextual rule of the capital sigma is left open: `finalSigma` stands for it. -/
namespace Foundation.Text

/-- The Unicode `White_Space` property. -/
def isWhitespace (c : Char) : Bool :=
  let n := c.toNat
  (9 ≤ n && n ≤ 13) || n == 32 || n == 0x85 || n == 0xA0 || n == 0x1680 ||
    (0x2000 ≤ n && n ≤ 0x200A) || n == 0x2028 || n == 0x2029 || n == 0x202F || n == 0x205F ||
    n == 0x3000

def trim (text : List Char) : List Char :=
  (text.dropWhile isWhitespace).rdropWhile isWhitespace

/-- The text before and after the first occurrence of the separator. -/
def splitOnce (separator : Char) (text : List Char) : Option (List Char × List Char) :=
  match text.dropWhile (· != separator) with
  | [] => none
  | _ :: rest => some (text.takeWhile (· != separator),rest)

def splitWhitespace (text : List Char) : List (List Char) :=
  (text.splitOnP isWhitespace).filter (· ≠ [])

def eqIgnoreAsciiCase (left right : List Char) : Bool :=
  left.map Char.toLower == right.map Char.toLower

/-- `str::replace` for a one-character pattern. -/
def replace (pattern : Char) (replacement text : List Char) : List Char :=
  text.flatMap (fun c => if c = pattern then replacement else [c])

def asBytes (text : String) : List UInt8 := text.toByteArray.data.toList

/-- A run `low`, `low+step`, … `high` of code points, each lowered by adding `delta`. -/
structure CaseRun where
  low : Nat
  high : Nat
  step : Nat
  delta : Int

def CaseRun.covers (run : CaseRun) (n : Nat) : Bool :=
  run.low ≤ n && n ≤ run.high && (n-run.low) % run.step == 0

def CaseRun.image (run : CaseRun) (n : Nat) : Nat := ((n : Int)+run.delta).toNat

/-- The simple lower-case mappings of Unicode 16 outside ASCII. -/
def lowerRuns : List CaseRun :=
  [⟨192,222,2,32⟩, ⟨193,213,2,32⟩, ⟨217,221,2,32⟩, ⟨256,302,2,1⟩, ⟨306,310,2,1⟩, ⟨313,327,2,1⟩,
    ⟨330,374,2,1⟩, ⟨376,376,1,-121⟩, ⟨377,381,2,1⟩, ⟨385,385,1,210⟩, ⟨386,388,2,1⟩, ⟨390,390,1,206⟩,
    ⟨391,391,1,1⟩, ⟨393,394,1,205⟩, ⟨395,395,1,1⟩, ⟨398,398,1,79⟩, ⟨399,399,1,202⟩, ⟨400,400,1,203⟩,
    ⟨401,401,1,1⟩, ⟨403,403,1,205⟩, ⟨404,404,1,207⟩, ⟨406,406,1,211⟩, ⟨407,407,1,209⟩, ⟨408,408,1,1⟩,
    ⟨412,412,1,211⟩, ⟨413,413,1,213⟩, ⟨415,415,1,214⟩, ⟨416,420,2,1⟩, ⟨422,422,1,218⟩, ⟨423,423,1,1⟩,
    ⟨425,425,1,218⟩, ⟨428,428,1,1⟩, ⟨430,430,1,218⟩, ⟨431,431,1,1⟩, ⟨433,434,1,217⟩, ⟨435,437,2,1⟩,
    ⟨439,439,1,219⟩, ⟨440,440,1,1⟩, ⟨444,444,1,1⟩, ⟨452,452,1,2⟩, ⟨453,453,1,1⟩, ⟨455,455,1,2⟩,
    ⟨456,456,1,1⟩, ⟨458,458,1,2⟩, ⟨459,475,2,1⟩, ⟨478,494,2,1⟩, ⟨497,497,1,2⟩, ⟨498,500,2,1⟩,
    ⟨502,502,1,-97⟩, ⟨503,503,1,-56⟩, ⟨504,542,2,1⟩, ⟨544,544,1,-130⟩, ⟨546,562,2,1⟩, ⟨570,570,1,10795⟩,
    ⟨571,571,1,1⟩, ⟨573,573,1,-163⟩, ⟨574,574,1,10792⟩, ⟨577,577,1,1⟩, ⟨579,579,1,-195⟩, ⟨580,580,1,69⟩,
    ⟨581,581,1,71⟩, ⟨582,590,2,1⟩, ⟨880,882,2,1⟩, ⟨886,886,1,1⟩, ⟨895,895,1,116⟩, ⟨902,902,1,38⟩,
    ⟨904,906,1,37⟩, ⟨908,908,1,64⟩, ⟨910,911,1,63⟩, ⟨913,939,2,32⟩, ⟨914,928,2,32⟩, ⟨932,938,2,32⟩,
    ⟨975,975,1,8⟩, ⟨984,1006,2,1⟩, ⟨1012,1012,1,-60⟩, ⟨1015,1015,1,1⟩, ⟨1017,1017,1,-7⟩, ⟨1018,1018,1,1⟩,
    ⟨1021,1023,1,-130⟩, ⟨1024,1039,1,80⟩, ⟨1040,1071,1,32⟩, ⟨1120,1152,2,1⟩, ⟨1162,1214,2,1⟩,
    ⟨1216,1216,1,15⟩, ⟨1217,1229,2,1⟩, ⟨1232,1326,2,1⟩, ⟨1329,1366,1,48⟩, ⟨4256,4293,1,7264⟩,
    ⟨4295,4295,1,7264⟩, ⟨4301,4301,1,7264⟩, ⟨5024,5103,1,38864⟩, ⟨5104,5109,1,8⟩, ⟨7312,7354,1,-3008⟩,
    ⟨7357,7359,1,-3008⟩, ⟨7680,7828,2,1⟩, ⟨7838,7838,1,-7615⟩, ⟨7840,7934,2,1⟩, ⟨7944,7951,1,-8⟩,
    ⟨7960,7965,1,-8⟩, ⟨7976,7983,1,-8⟩, ⟨7992,7999,1,-8⟩, ⟨8008,8013,1,-8⟩, ⟨8025,8031,2,-8⟩,
    ⟨8040,8047,1,-8⟩, ⟨8072,8079,1,-8⟩, ⟨8088,8095,1,-8⟩, ⟨8104,8111,1,-8⟩, ⟨8120,8121,1,-8⟩,
    ⟨8122,8123,1,-74⟩, ⟨8124,8124,1,-9⟩, ⟨8136,8139,1,-86⟩, ⟨8140,8140,1,-9⟩, ⟨8152,8153,1,-8⟩,
    ⟨8154,8155,1,-100⟩, ⟨8168,8169,1,-8⟩, ⟨8170,8171,1,-112⟩, ⟨8172,8172,1,-7⟩, ⟨8184,8185,1,-128⟩,
    ⟨8186,8187,1,-126⟩, ⟨8188,8188,1,-9⟩, ⟨8486,8486,1,-7517⟩, ⟨8490,8490,1,-8383⟩, ⟨8491,8491,1,-8262⟩,
    ⟨8498,8498,1,28⟩, ⟨8544,8559,1,16⟩, ⟨8579,8579,1,1⟩, ⟨9398,9423,1,26⟩, ⟨11264,11311,1,48⟩,
    ⟨11360,11360,1,1⟩, ⟨11362,11362,1,-10743⟩, ⟨11363,11363,1,-3814⟩, ⟨11364,11364,1,-10727⟩,
    ⟨11367,11371,2,1⟩, ⟨11373,11373,1,-10780⟩, ⟨11374,11374,1,-10749⟩, ⟨11375,11375,1,-10783⟩,
    ⟨11376,11376,1,-10782⟩, ⟨11378,11378,1,1⟩, ⟨11381,11381,1,1⟩, ⟨11390,11391,1,-10815⟩, ⟨11392,11490,2,1⟩,
    ⟨11499,11501,2,1⟩, ⟨11506,11506,1,1⟩, ⟨42560,42604,2,1⟩, ⟨42624,42650,2,1⟩, ⟨42786,42798,2,1⟩,
    ⟨42802,42862,2,1⟩, ⟨42873,42875,2,1⟩, ⟨42877,42877,1,-35332⟩, ⟨42878,42886,2,1⟩, ⟨42891,42891,1,1⟩,
    ⟨42893,42893,1,-42280⟩, ⟨42896,42898,2,1⟩, ⟨42902,42920,2,1⟩, ⟨42922,42922,1,-42308⟩,
    ⟨42923,42923,1,-42319⟩, ⟨42924,42924,1,-42315⟩, ⟨42925,42925,1,-42305⟩, ⟨42926,42926,1,-42308⟩,
    ⟨42928,42928,1,-42258⟩, ⟨42929,42929,1,-42282⟩, ⟨42930,42930,1,-42261⟩, ⟨42931,42931,1,928⟩,
    ⟨42932,42946,2,1⟩, ⟨42948,42948,1,-48⟩, ⟨42949,42949,1,-42307⟩, ⟨42950,42950,1,-35384⟩,
    ⟨42951,42953,2,1⟩, ⟨42955,42955,1,-42343⟩, ⟨42956,42956,1,1⟩, ⟨42960,42960,1,1⟩, ⟨42966,42970,2,1⟩,
    ⟨42972,42972,1,-42561⟩, ⟨42997,42997,1,1⟩, ⟨65313,65338,1,32⟩, ⟨66560,66599,1,40⟩, ⟨66736,66771,1,40⟩,
    ⟨66928,66964,2,39⟩, ⟨66929,66937,2,39⟩, ⟨66941,66953,2,39⟩, ⟨66957,66961,2,39⟩, ⟨66965,66965,1,39⟩,
    ⟨68736,68786,1,64⟩, ⟨68944,68965,1,32⟩, ⟨71840,71871,1,32⟩, ⟨93760,93791,1,32⟩, ⟨125184,125217,1,34⟩]

def lowerChar (c : Char) : List Char :=
  if c.toNat < 128 then [c.toLower]
  else if c.toNat = 0x130 then ['i',Char.ofNat 0x307]
  else match lowerRuns.find? (·.covers c.toNat) with
    | some run => [Char.ofNat (run.image c.toNat)]
    | none => [c]

/-- `str::to_lowercase`; the first argument list is the text already read. -/
def lowercaseFrom (finalSigma : List Char → List Char → Bool) (before : List Char) :
    List Char → List Char
  | [] => []
  | c :: rest =>
    (if c = 'Σ' then [if finalSigma before rest then 'ς' else 'σ'] else lowerChar c) ++
      lowercaseFrom finalSigma (before ++ [c]) rest

def toLowercase (finalSigma : List Char → List Char → Bool) (text : List Char) : List Char :=
  lowercaseFrom finalSigma [] text

theorem trim_eq_self (text : List Char) (first : ∀ c ∈ text.head?, isWhitespace c = false)
    (last : ∀ c ∈ text.getLast?, isWhitespace c = false) : trim text = text := by
  have kept : text.dropWhile isWhitespace = text := by
    cases text with
    | nil => rfl
    | cons c rest => exact List.dropWhile_cons_of_neg (by simp [first c rfl])
  unfold trim
  rw [kept]
  apply List.rdropWhile_eq_self_iff.mpr
  intro filled
  have visible := last (text.getLast filled) (List.getLast?_eq_some_getLast filled)
  simp [visible]

theorem splitOnce_some (separator : Char) (text before after : List Char) :
    splitOnce separator text = some (before,after) ↔
      text = before ++ separator :: after ∧ separator ∉ before := by
  have whole := List.takeWhile_append_dropWhile (p := (· != separator)) (l := text)
  constructor
  · intro found
    unfold splitOnce at found
    cases tail : text.dropWhile (· != separator) with
    | nil => simp [tail] at found
    | cons c rest =>
      simp only [tail,Option.some.injEq,Prod.mk.injEq] at found
      obtain ⟨first,second⟩ := found
      have stopped := List.head?_dropWhile_not (· != separator) text
      rw [tail] at stopped whole
      have same : c = separator := by simpa using stopped
      subst first; subst second; subst c
      refine ⟨whole.symm,?_⟩
      intro member
      have kept := List.mem_takeWhile_imp member
      simp at kept
  · rintro ⟨rfl,absent⟩
    have all : ∀ c ∈ before, (c != separator) = true := by
      intro c member
      simpa using fun same : c = separator => absent (same ▸ member)
    unfold splitOnce
    rw [List.dropWhile_append_of_pos all,List.takeWhile_append_of_pos all]
    simp

theorem splitOnce_none (separator : Char) (text : List Char) : splitOnce separator text = none ↔ separator ∉ text := by
  unfold splitOnce
  cases tail : text.dropWhile (· != separator) with
  | nil =>
    simp only [true_iff]
    intro member
    have other := List.dropWhile_eq_nil_iff.mp tail separator member
    simp at other
  | cons c rest =>
    simp only [reduceCtorEq,false_iff,not_not]
    have stopped := List.head?_dropWhile_not (· != separator) text
    rw [tail] at stopped
    have same : c = separator := by simpa using stopped
    exact (List.dropWhile_suffix (· != separator)).subset (tail ▸ same ▸ List.mem_cons_self)

/-- A trimmed text does not end in white space, so what follows a space in it is not blank. -/
theorem trim_after_space (text before after : List Char) (whole : trim text = before ++ ' ' :: after) :
    trim after ≠ [] := by
  intro blank
  have kept := List.rdropWhile_eq_nil_iff.mp blank
  have all : ∀ c ∈ ' ' :: after, isWhitespace c = true := by
    intro c member
    rcases List.mem_cons.mp member with rfl | inside
    · rfl
    · rcases List.mem_append.mp (List.takeWhile_append_dropWhile (p := isWhitespace) (l := after) ▸ inside) with front | back
      · exact List.mem_takeWhile_imp front
      · exact kept c back
  have visible := List.rdropWhile_last_not isWhitespace (text.dropWhile isWhitespace)
    (by change trim text ≠ []; rw [whole]; simp)
  apply visible
  have last : (trim text).getLast (by rw [whole]; simp) ∈ ' ' :: after := by
    simp only [whole]
    rw [List.getLast_append_of_ne_nil _ (List.cons_ne_nil _ _)]
    exact List.getLast_mem _
  exact all _ last

theorem not_mem_piece (separator : Char) (text : List Char) :
    ∀ piece ∈ text.splitOn separator, separator ∉ piece := by
  induction text with
  | nil => simp
  | cons c rest ih =>
    rw [List.splitOn_cons_eq_if_modifyHead]
    by_cases cut : c = separator
    · intro piece member
      rw [if_pos (beq_iff_eq.mpr cut)] at member
      rcases List.mem_cons.mp member with same | inside
      · simp [same]
      · exact ih piece inside
    · rw [if_neg (by simpa using cut)]
      cases pieces : rest.splitOn separator with
      | nil => exact absurd pieces (List.splitOn_ne_nil separator rest)
      | cons first others =>
        rw [pieces] at ih
        intro piece member
        rcases List.mem_cons.mp member with same | inside
        · rw [same]
          intro found
          rcases List.mem_cons.mp found with equal | deeper
          · exact cut equal.symm
          · exact ih first List.mem_cons_self deeper
        · exact ih piece (List.mem_cons_of_mem first inside)

/-- The images of a run are Unicode scalar values outside ASCII; the Kelvin sign alone has the
image `k`. -/
def CaseRun.Wide (run : CaseRun) : Prop :=
  (run.low = 8490 ∧ run.high = 8490 ∧ run.delta = -8383) ∨ (128 ≤ run.low+run.delta ∧
    (run.high+run.delta < 0xD800 ∨ (0xE000 ≤ run.low+run.delta ∧ run.high+run.delta < 0x110000)))

instance (run : CaseRun) : Decidable run.Wide := by unfold CaseRun.Wide; infer_instance

theorem lowerRuns_wide : ∀ run ∈ lowerRuns, run.Wide := by decide +kernel

theorem CaseRun.image_wide (run : CaseRun) (wide : run.Wide) (n : Nat) (covered : run.covers n = true) :
    128 ≤ (Char.ofNat (run.image n)).toNat ∨ Char.ofNat (run.image n) = 'k' := by
  simp only [CaseRun.covers,Bool.and_eq_true,decide_eq_true_eq] at covered
  rcases wide with ⟨low,high,delta⟩ | ⟨least,valid⟩
  · have same : n = 8490 := by omega
    exact Or.inr (by rw [CaseRun.image,same,delta]; decide)
  · have scalar : (run.image n).isValidChar := by
      unfold Nat.isValidChar CaseRun.image
      omega
    left
    rw [Char.toNat_ofNat,if_pos scalar]
    unfold CaseRun.image
    omega

/-- Lowering a character outside ASCII never leaves ASCII letters only, the Kelvin sign apart. -/
theorem lowerChar_wide (c : Char) (wide : 128 ≤ c.toNat) :
    ∃ d ∈ lowerChar c, 128 ≤ d.toNat ∨ d = 'k' := by
  unfold lowerChar
  rw [if_neg (by omega)]
  split
  · exact ⟨Char.ofNat 0x307,by simp,Or.inl (by decide)⟩
  · split
    · rename_i run found
      exact ⟨_,List.mem_singleton.mpr rfl,
        run.image_wide (lowerRuns_wide run (List.mem_of_find?_eq_some found)) _
          (by simpa using List.find?_some found)⟩
    · exact ⟨c,by simp,Or.inl wide⟩

private theorem lowercaseFrom_plain (finalSigma : List Char → List Char → Bool) (text : List Char) :
    ∀ (before target : List Char), (∀ d ∈ target, d.toNat < 128 ∧ d ≠ 'k') →
      (lowercaseFrom finalSigma before text = target ↔ text.map Char.toLower = target) := by
  induction text with
  | nil => intro before target plain; simp [lowercaseFrom]
  | cons c rest ih =>
    intro before target plain
    by_cases ascii : c.toNat < 128
    · have small : c ≠ 'Σ' := by rintro rfl; exact absurd ascii (by decide)
      simp only [lowercaseFrom,if_neg small,lowerChar,if_pos ascii,List.singleton_append,List.map_cons]
      cases target with
      | nil => simp
      | cons d target =>
        have tail := ih (before ++ [c]) target (fun e member => plain e (by simp [member]))
        simp only [List.cons.injEq,tail]
    · -- A character outside ASCII leaves a character that the target cannot hold, on both sides.
      have wide : 128 ≤ c.toNat := by omega
      constructor
      · rintro rfl
        exfalso
        simp only [lowercaseFrom] at plain
        by_cases sigma : c = 'Σ'
        · rw [if_pos sigma] at plain
          have bound := (plain _ (List.mem_append_left _ (List.mem_singleton.mpr rfl))).1
          cases rule : finalSigma before rest <;> simp [rule] at bound
        · rw [if_neg sigma] at plain
          obtain ⟨d,member,outside⟩ := lowerChar_wide c wide
          have inside := plain d (List.mem_append_left _ member)
          rcases outside with big | kelvin
          · omega
          · exact inside.2 kelvin
      · intro same
        exfalso
        have member : c.toLower ∈ target := by rw [← same]; simp
        have kept : c.toLower = c := by
          unfold Char.toLower
          rw [dif_neg]
          rintro ⟨_,upper⟩
          have := UInt32.le_iff_toNat_le.mp upper
          simp at this
          omega
        rw [kept] at member
        have bound := (plain c member).1
        omega

/-- A text without wide characters and without `k` is the lower case of exactly the texts that
spell it up to ASCII case. -/
theorem toLowercase_plain (finalSigma : List Char → List Char → Bool) (text target : List Char)
    (plain : ∀ d ∈ target, d.toNat < 128 ∧ d ≠ 'k') :
    toLowercase finalSigma text = target ↔ text.map Char.toLower = target :=
  lowercaseFrom_plain finalSigma text [] target plain

end Foundation.Text
