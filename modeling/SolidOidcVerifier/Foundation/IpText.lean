import Mathlib

/-! Internet addresses and their text forms, as Rust's `std::net` reads and writes them. What is
written is read back as the same address. -/
namespace Foundation

structure Ipv4Addr where
  a : UInt8
  b : UInt8
  c : UInt8
  d : UInt8
deriving DecidableEq,Repr

structure Ipv6Addr where
  segments : Vector UInt16 8
deriving DecidableEq,Repr

inductive IpAddr where
  | v4 (addr : Ipv4Addr)
  | v6 (addr : Ipv6Addr)
deriving DecidableEq,Repr

def Ipv4Addr.ofSegments (high low : UInt16) : Ipv4Addr :=
  ⟨(high >>> 8).toUInt8,(high &&& 0xff).toUInt8,(low >>> 8).toUInt8,(low &&& 0xff).toUInt8⟩

/-- `Ipv4Addr::from` of a `u32`. -/
def Ipv4Addr.ofBits (bits : BitVec 32) : Ipv4Addr :=
  ⟨.ofBitVec (bits.extractLsb' 24 8),.ofBitVec (bits.extractLsb' 16 8),.ofBitVec (bits.extractLsb' 8 8),
    .ofBitVec (bits.extractLsb' 0 8)⟩

/-- `u16::from_be_bytes`. -/
def beBytes (high low : UInt8) : UInt16 := high.toUInt16 <<< 8 ||| low.toUInt16

namespace Ipv6Addr

/-- The segments are those of the list, and zero where it is too short. -/
def ofList (segments : List UInt16) : Ipv6Addr := ⟨Vector.ofFn fun i => segments.getD i 0⟩

/-- One of the eight segments. -/
def segment (addr : Ipv6Addr) (i : Nat) : UInt16 := addr.segments.toList.getD i 0

def toIpv4Mapped (addr : Ipv6Addr) : Option Ipv4Addr :=
  if addr.segments.toList.take 6 = [0,0,0,0,0,0xffff] then
    some (.ofSegments (addr.segment 6) (addr.segment 7))
  else none

theorem segments_toList (addr : Ipv6Addr) : addr.segments.toList =
    [addr.segment 0,addr.segment 1,addr.segment 2,addr.segment 3,addr.segment 4,addr.segment 5,
      addr.segment 6,addr.segment 7] := by
  apply List.ext_getElem (by simp)
  intro i inside bounded
  have small : i < 8 := bounded
  rw [← List.getD_eq_getElem _ 0 inside,← List.getD_eq_getElem _ 0 bounded]
  interval_cases i <;> rfl

end Ipv6Addr

namespace IpText

/-! Reading. A reader takes a text and answers a value and the text behind it. -/

/-- `char::to_digit`. -/
def toDigit (radix : Nat) (c : Char) : Option Nat :=
  (if '0' ≤ c ∧ c ≤ '9' then some (c.toNat-48)
  else if 'a' ≤ c ∧ c ≤ 'z' then some (c.toNat-87)
  else if 'A' ≤ c ∧ c ≤ 'Z' then some (c.toNat-55)
  else none).filter (· < radix)

def isDigit (radix : Nat) (c : Char) : Bool := (toDigit radix c).isSome

def numeral (radix : Nat) (digits : List Char) : Nat :=
  digits.foldl (fun n c => n*radix+(toDigit radix c).getD 0) 0

def readNumber (radix maxDigits bound : Nat) (zeroPrefix : Bool) (text : List Char) :
    Option (Nat × List Char) :=
  let digits := text.takeWhile (isDigit radix)
  if maxDigits < digits.length ∨ digits = [] ∨
      (zeroPrefix = false ∧ digits.head? = some '0' ∧ 1 < digits.length) ∨ bound ≤ numeral radix digits then
    none
  else some (numeral radix digits,text.dropWhile (isDigit radix))

def readGivenChar (c : Char) (text : List Char) : Option (List Char) :=
  match text with
  | head :: rest => if head = c then some rest else none
  | [] => none

def readSeparator {α : Type} (separator : Char) (first : Bool) (inner : List Char → Option (α × List Char))
    (text : List Char) : Option (α × List Char) :=
  if first then inner text else (readGivenChar separator text).bind inner

def readOctet (first : Bool) (text : List Char) : Option (UInt8 × List Char) :=
  (readSeparator '.' first (readNumber 10 3 256 false) text).map fun (n,rest) => (UInt8.ofNat n,rest)

def readIpv4Addr (text : List Char) : Option (Ipv4Addr × List Char) := do
  let (a,text) ← readOctet true text
  let (b,text) ← readOctet false text
  let (c,text) ← readOctet false text
  let (d,text) ← readOctet false text
  return (⟨a,b,c,d⟩,text)

/-- At most `left` groups, and whether the last two of them were written as an IPv4 address. -/
def readGroups : (left : Nat) → (first : Bool) → List Char → List UInt16 × Bool × List Char
  | 0,_,text => ([],false,text)
  | left+1,first,text =>
    match if 0 < left then readSeparator ':' first readIpv4Addr text else none with
    | some (v4,rest) => ([beBytes v4.a v4.b,beBytes v4.c v4.d],true,rest)
    | none =>
      match readSeparator ':' first (readNumber 16 4 65536 true) text with
      | none => ([],false,text)
      | some (group,rest) =>
        let (groups,ipv4,last) := readGroups left false rest
        (UInt16.ofNat group :: groups,ipv4,last)

def readIpv6Addr (text : List Char) : Option (Ipv6Addr × List Char) :=
  let (head,headIpv4,rest) := readGroups 8 true text
  if head.length = 8 then some (.ofList head,rest)
  else if headIpv4 then none
  else do
    let rest ← readGivenChar ':' rest
    let rest ← readGivenChar ':' rest
    let (tail,_,rest) := readGroups (8-(head.length+1)) true rest
    return (.ofList (head ++ List.replicate (8-head.length-tail.length) 0 ++ tail),rest)

def readIpAddr (text : List Char) : Option (IpAddr × List Char) :=
  match readIpv4Addr text with
  | some (addr,rest) => some (.v4 addr,rest)
  | none => (readIpv6Addr text).map fun (addr,rest) => (.v6 addr,rest)

/-- `parse_with`: the whole text is read. -/
def parseWith {α : Type} (read : List Char → Option (α × List Char)) (text : String) : Option α :=
  match read text.toList with
  | some (value,[]) => some value
  | _ => none

def parseIpv4 (text : String) : Option Ipv4Addr := parseWith readIpv4Addr text

def parseIpv6 (text : String) : Option Ipv6Addr := parseWith readIpv6Addr text

def parseIp (text : String) : Option IpAddr := parseWith readIpAddr text

/-! Writing. -/

def octetText (octet : UInt8) : List Char := Nat.toDigits 10 octet.toNat

def ipv4Text (addr : Ipv4Addr) : List Char :=
  octetText addr.a ++ '.' :: octetText addr.b ++ '.' :: octetText addr.c ++ '.' :: octetText addr.d

def groupText (group : UInt16) : List Char := Nat.toDigits 16 group.toNat

def tailText (groups : List UInt16) : List Char := groups.flatMap fun group => ':' :: groupText group

def groupsText : List UInt16 → List Char
  | [] => []
  | group :: rest => groupText group ++ tailText rest

/-- The first of the longest runs of zero segments: where it starts, and its length. -/
structure Span where
  start : Nat
  len : Nat

/-- The pass over the segments from `index` on, with the longest run so far and the current one. -/
def zeroSpan : List UInt16 → (index : Nat) → (longest current : Span) → Span
  | [],_,longest,_ => longest
  | segment :: rest,index,longest,current =>
    if segment = 0 then
      let current : Span := ⟨if current.len = 0 then index else current.start,current.len+1⟩
      zeroSpan rest (index+1) (if longest.len < current.len then current else longest) current
    else zeroSpan rest (index+1) longest ⟨0,0⟩

def ipv6Text (addr : Ipv6Addr) : List Char :=
  match addr.toIpv4Mapped with
  | some v4 => [':',':','f','f','f','f',':'] ++ ipv4Text v4
  | none =>
    let segments := addr.segments.toList
    let zeroes := zeroSpan segments 0 ⟨0,0⟩ ⟨0,0⟩
    if 1 < zeroes.len then
      groupsText (segments.take zeroes.start) ++ [':',':'] ++ groupsText (segments.drop (zeroes.start+zeroes.len))
    else groupsText segments

def display : IpAddr → String
  | .v4 addr => String.ofList (ipv4Text addr)
  | .v6 addr => String.ofList (ipv6Text addr)

theorem toDigit_digitChar (radix d : Nat) (small : radix ≤ 16) (below : d < radix) :
    toDigit radix d.digitChar = some d := by
  have all : ∀ d < 16, toDigit 16 d.digitChar = some d := by decide
  have wide := all d (by omega)
  unfold toDigit at wide ⊢
  rw [Option.filter_eq_some_iff] at wide ⊢
  exact ⟨wide.1,by simpa using below⟩

section numerals

variable (radix : Nat) (least : 1 < radix) (small : radix ≤ 16)

include least small

theorem isDigit_toDigits (n : Nat) : ∀ c ∈ Nat.toDigits radix n, isDigit radix c = true := by
  induction n using Nat.strong_induction_on with
  | _ n ih =>
    intro c member
    rw [Nat.toDigits_eq_if least] at member
    split at member
    · rename_i single
      rw [List.mem_singleton] at member
      rw [member,isDigit,toDigit_digitChar radix n small single]
      rfl
    · rename_i several
      rcases List.mem_append.mp member with inside | last
      · exact ih (n/radix) (Nat.div_lt_self (by omega) least) c inside
      · rw [List.mem_singleton] at last
        rw [last,isDigit,toDigit_digitChar radix _ small (Nat.mod_lt n (by omega))]
        rfl

theorem numeral_toDigits (n : Nat) : numeral radix (Nat.toDigits radix n) = n := by
  induction n using Nat.strong_induction_on with
  | _ n ih =>
    rw [Nat.toDigits_eq_if least]
    split
    · rename_i single
      simp [numeral,toDigit_digitChar radix n small single]
    · rename_i several
      have front := ih (n/radix) (Nat.div_lt_self (by omega) least)
      unfold numeral at front ⊢
      rw [List.foldl_append,front]
      simp only [List.foldl_cons,List.foldl_nil,toDigit_digitChar radix _ small (Nat.mod_lt n (by omega)),
        Option.getD_some]
      rw [Nat.mul_comm]
      exact Nat.div_add_mod n radix

theorem head_toDigits (n : Nat) (positive : 0 < n) : (Nat.toDigits radix n).head? ≠ some '0' := by
  induction n using Nat.strong_induction_on with
  | _ n ih =>
    rw [Nat.toDigits_eq_if least]
    split
    · rename_i single
      have all : ∀ d < 16, 0 < d → d.digitChar ≠ '0' := by decide
      simpa using all n (by omega) positive
    · rename_i several
      rw [List.head?_append_of_ne_nil _ Nat.toDigits_ne_nil]
      exact ih (n/radix) (Nat.div_lt_self (by omega) least) (Nat.div_pos (by omega) (by omega))

theorem readNumber_toDigits (maxDigits bound n : Nat) (zeroPrefix : Bool) (rest : List Char) (within : n < bound)
    (width : n < radix^maxDigits) (filled : 0 < maxDigits)
    (ends : ∀ c ∈ rest.head?, isDigit radix c = false) :
    readNumber radix maxDigits bound zeroPrefix (Nat.toDigits radix n ++ rest) = some (n,rest) := by
  have digits := isDigit_toDigits radix least small n
  have front : (Nat.toDigits radix n ++ rest).takeWhile (isDigit radix) = Nat.toDigits radix n := by
    rw [List.takeWhile_append_of_pos digits]
    cases rest with
    | nil => simp
    | cons c rest => simp [ends c (by simp)]
  have back : (Nat.toDigits radix n ++ rest).dropWhile (isDigit radix) = rest := by
    rw [List.dropWhile_append_of_pos digits]
    cases rest with
    | nil => simp
    | cons c rest => simp [ends c (by simp)]
  have short := (Nat.length_toDigits_le_iff (n := n) least filled).mpr width
  have plain : ¬((Nat.toDigits radix n).head? = some '0' ∧ 1 < (Nat.toDigits radix n).length) := by
    intro padded
    by_cases zero : n = 0
    · rw [zero,Nat.toDigits_zero] at padded
      simp at padded
    · exact head_toDigits radix least small n (Nat.pos_of_ne_zero zero) padded.1
  unfold readNumber
  simp only [front,back,numeral_toDigits radix least small]
  apply if_neg
  intro refused
  rcases refused with long | empty | padded | large
  · exact absurd short (Nat.not_le.mpr long)
  · exact Nat.toDigits_ne_nil empty
  · exact plain padded.2
  · exact absurd within (Nat.not_lt.mpr large)

end numerals

theorem readOctet_text (octet : UInt8) (rest : List Char) (ends : ∀ c ∈ rest.head?, isDigit 10 c = false) :
    readOctet true (octetText octet ++ rest) = some (octet,rest) ∧
      readOctet false ('.' :: (octetText octet ++ rest)) = some (octet,rest) := by
  have read := readNumber_toDigits 10 (by decide) (by decide) 3 256 octet.toNat false rest octet.toNat_lt
    (by have := octet.toNat_lt; omega) (by decide) ends
  unfold readOctet readSeparator octetText
  simp [read,readGivenChar]

theorem readIpv4Addr_text (addr : Ipv4Addr) (rest : List Char)
    (ends : ∀ c ∈ rest.head?, isDigit 10 c = false) : readIpv4Addr (ipv4Text addr ++ rest) = some (addr,rest) := by
  have dot : ∀ rest : List Char, ∀ c ∈ ('.' :: rest).head?, isDigit 10 c = false := by
    intro rest c member
    cases member
    rfl
  have first := (readOctet_text addr.a ('.' :: (octetText addr.b ++ '.' :: (octetText addr.c ++ '.' ::
    (octetText addr.d ++ rest)))) (dot _)).1
  have second := (readOctet_text addr.b ('.' :: (octetText addr.c ++ '.' :: (octetText addr.d ++ rest)))
    (dot _)).2
  have third := (readOctet_text addr.c ('.' :: (octetText addr.d ++ rest)) (dot _)).2
  have fourth := (readOctet_text addr.d rest ends).2
  unfold readIpv4Addr ipv4Text
  simp only [List.append_assoc,List.cons_append,first,second,third,fourth,Option.bind_eq_bind,Option.bind_some]
  rfl

theorem readIpv4Addr_none (text : List Char) (stops : (text.dropWhile (isDigit 10)).head? ≠ some '.') :
    readIpv4Addr text = none := by
  cases first : readOctet true text with
  | none => simp [readIpv4Addr,first]
  | some read =>
    obtain ⟨a,rest⟩ := read
    have behind : rest = text.dropWhile (isDigit 10) := by
      unfold readOctet readSeparator readNumber at first
      simp only [if_true,Option.map_eq_some_iff,Prod.exists] at first
      obtain ⟨n,last,read,same⟩ := first
      split at read
      · cases read
      · cases read
        exact (congrArg Prod.snd same).symm
    have second : readOctet false rest = none := by
      unfold readOctet readSeparator readGivenChar
      cases rest with
      | nil => rfl
      | cons c rest =>
        have other : c ≠ '.' := by
          intro dot
          rw [← behind,dot] at stops
          exact stops rfl
        simp [other]
    simp [readIpv4Addr,first,second]

theorem readGroup_text (group : UInt16) (rest : List Char) (ends : ∀ c ∈ rest.head?, isDigit 16 c = false) :
    readNumber 16 4 65536 true (groupText group ++ rest) = some (group.toNat,rest) :=
  readNumber_toDigits 16 (by decide) (by decide) 4 65536 group.toNat true rest group.toNat_lt
    group.toNat_lt (by decide) ends

/-- A group is no start of an IPv4 address: no dot follows its digits. -/
theorem group_not_ipv4 (group : UInt16) (rest : List Char) (colon : ∀ c ∈ rest.head?, c = ':') :
    readIpv4Addr (groupText group ++ rest) = none := by
  apply readIpv4Addr_none
  intro dotted
  have hexadecimal := isDigit_toDigits 16 (by decide) (by decide) group.toNat
  rw [List.dropWhile_append] at dotted
  split at dotted
  · cases rest with
    | nil => cases dotted
    | cons c rest =>
      have same := colon c rfl
      rw [same,List.dropWhile_cons_of_neg (by decide)] at dotted
      cases dotted
  · rename_i remaining
    have filled : (groupText group).dropWhile (isDigit 10) ≠ [] := by
      intro empty
      rw [empty] at remaining
      exact remaining rfl
    rw [List.head?_append_of_ne_nil _ filled] at dotted
    have member := List.dropWhile_subset _ (List.mem_of_mem_head? dotted)
    have digit := hexadecimal '.' member
    revert digit
    decide

def GroupsEnd (rest : List Char) : Prop := rest = [] ∨ ∃ more, rest = ':' :: ':' :: more

theorem readSeparator_end {α : Type} (inner : List Char → Option (α × List Char)) (first : Bool)
    (rest : List Char) (ends : GroupsEnd rest) (blank : inner [] = none)
    (colon : ∀ more, inner (':' :: more) = none) : readSeparator ':' first inner rest = none := by
  obtain rfl | ⟨more,rfl⟩ := ends
  · cases first with
    | true => exact blank
    | false => rfl
  · cases first with
    | true => exact colon (':' :: more)
    | false => exact colon more

theorem readGroups_end (left : Nat) (first : Bool) (rest : List Char) (ends : GroupsEnd rest) :
    readGroups left first rest = ([],false,rest) := by
  have noIpv4 : readSeparator ':' first readIpv4Addr rest = none :=
    readSeparator_end _ first rest ends rfl (fun more => readIpv4Addr_none _ (by
      rw [List.dropWhile_cons_of_neg (by decide)]
      simp))
  have noGroup : readSeparator ':' first (readNumber 16 4 65536 true) rest = none := by
    apply readSeparator_end _ first rest ends rfl
    intro more
    have empty : (':' :: more).takeWhile (isDigit 16) = [] := List.takeWhile_cons_of_neg (by decide)
    simp [readNumber,empty]
  cases left with
  | zero => rfl
  | succ left => simp [readGroups,noIpv4,noGroup]

theorem tailText_head (groups : List UInt16) (rest : List Char) (ends : GroupsEnd rest) :
    ∀ c ∈ (tailText groups ++ rest).head?, c = ':' := by
  intro c member
  cases groups with
  | nil =>
    obtain rfl | ⟨more,rfl⟩ := ends
    · cases member
    · cases member
      rfl
  | cons group groups =>
    cases member
    rfl

theorem readGroups_cons (left : Nat) (first : Bool) (group : UInt16) (rest : List Char)
    (colon : ∀ c ∈ rest.head?, c = ':') (text : List Char)
    (opened : text = if first then groupText group ++ rest else ':' :: (groupText group ++ rest)) :
    readGroups (left+1) first text =
      (group :: (readGroups left false rest).1,(readGroups left false rest).2) := by
  have ends : ∀ c ∈ rest.head?, isDigit 16 c = false := by
    intro c member
    rw [colon c member]
    decide
  have noIpv4 : readSeparator ':' first readIpv4Addr text = none := by
    rw [opened]
    cases first with
    | true => exact group_not_ipv4 group rest colon
    | false => exact group_not_ipv4 group rest colon
  have read : readSeparator ':' first (readNumber 16 4 65536 true) text = some (group.toNat,rest) := by
    rw [opened]
    cases first with
    | true => exact readGroup_text group rest ends
    | false => exact readGroup_text group rest ends
  conv_lhs => unfold readGroups
  rw [noIpv4,read]
  simp

theorem readGroups_tail (groups : List UInt16) (rest : List Char) (ends : GroupsEnd rest) :
    ∀ left, groups.length ≤ left → readGroups left false (tailText groups ++ rest) = (groups,false,rest) := by
  induction groups with
  | nil =>
    intro left _
    exact readGroups_end left false rest ends
  | cons group groups ih =>
    intro left room
    obtain ⟨left,rfl⟩ := Nat.exists_eq_succ_of_ne_zero (Nat.ne_of_gt (Nat.lt_of_lt_of_le (Nat.zero_lt_succ _) room))
    rw [readGroups_cons left false group (tailText groups ++ rest) (tailText_head groups rest ends) _ (by
      simp [tailText]),ih left (Nat.le_of_succ_le_succ room)]

theorem readGroups_text (groups : List UInt16) (rest : List Char) (ends : GroupsEnd rest) (left : Nat)
    (room : groups.length ≤ left) : readGroups left true (groupsText groups ++ rest) = (groups,false,rest) := by
  cases groups with
  | nil => exact readGroups_end left true rest ends
  | cons group groups =>
    obtain ⟨left,rfl⟩ := Nat.exists_eq_succ_of_ne_zero (Nat.ne_of_gt (Nat.lt_of_lt_of_le (Nat.zero_lt_succ _) room))
    rw [readGroups_cons left true group (tailText groups ++ rest) (tailText_head groups rest ends) _ (by
      simp [groupsText]),readGroups_tail groups rest ends left (Nat.le_of_succ_le_succ room)]

def ZeroRun (segments : List UInt16) (span : Span) : Prop :=
  ∃ before after, segments = before ++ (List.replicate span.len 0 ++ after) ∧ before.length = span.start

theorem zeroSpan_run (rest : List UInt16) : ∀ (done : List UInt16) (longest current : Span),
    ZeroRun (done ++ rest) longest →
    (current.len = 0 ∨ ∃ before, done = before ++ List.replicate current.len 0 ∧ before.length = current.start) →
    ZeroRun (done ++ rest) (zeroSpan rest done.length longest current) := by
  induction rest with
  | nil =>
    intro done longest current found _
    exact found
  | cons segment rest ih =>
    intro done longest current found running
    have split : done ++ segment :: rest = (done ++ [segment]) ++ rest := by simp
    have index : done.length+1 = (done ++ [segment]).length := by simp
    rw [split] at found ⊢
    unfold zeroSpan
    by_cases zero : segment = 0
    · rw [if_pos zero]
      have grown : ∃ before, done ++ [segment] = before ++ List.replicate (current.len+1) 0 ∧
          before.length = if current.len = 0 then done.length else current.start := by
        obtain fresh | ⟨before,whole,start⟩ := running
        · refine ⟨done,?_,?_⟩
          · rw [fresh,zero]
            rfl
          · rw [if_pos fresh]
        · by_cases fresh : current.len = 0
          · refine ⟨done,?_,?_⟩
            · rw [fresh,zero]
              rfl
            · rw [if_pos fresh]
          · refine ⟨before,?_,?_⟩
            · rw [List.replicate_succ',← List.append_assoc,← whole,zero]
            · rw [if_neg fresh,start]
      simp only [index]
      apply ih
      · split
        · obtain ⟨before,whole,start⟩ := grown
          exact ⟨before,rest,by rw [whole,List.append_assoc],start⟩
        · exact found
      · exact Or.inr grown
    · rw [if_neg zero,index]
      exact ih _ _ _ found (Or.inl rfl)

theorem zeroSpan_split (segments : List UInt16) :
    segments = segments.take (zeroSpan segments 0 ⟨0,0⟩ ⟨0,0⟩).start ++
      (List.replicate (zeroSpan segments 0 ⟨0,0⟩ ⟨0,0⟩).len 0 ++
        segments.drop ((zeroSpan segments 0 ⟨0,0⟩ ⟨0,0⟩).start+(zeroSpan segments 0 ⟨0,0⟩ ⟨0,0⟩).len)) := by
  have run := zeroSpan_run segments [] ⟨0,0⟩ ⟨0,0⟩ ⟨[],segments,rfl,rfl⟩ (Or.inl rfl)
  rw [List.nil_append,List.length_nil] at run
  generalize zeroSpan segments 0 ⟨0,0⟩ ⟨0,0⟩ = span at run
  obtain ⟨before,after,whole,start⟩ := run
  have front : segments.take span.start = before := by
    rw [whole,← start,List.take_left]
  have back : segments.drop (span.start+span.len) = after := by
    rw [whole,← start,← List.drop_drop,List.drop_left]
    have width : span.len = (List.replicate span.len (0 : UInt16)).length := by simp
    conv_lhs => rw [width]
    rw [List.drop_append_of_le_length (by simp)]
    simp
  rw [front,back]
  exact whole

theorem ofList_segments (addr : Ipv6Addr) : Ipv6Addr.ofList addr.segments.toList = addr := by
  obtain ⟨segments⟩ := addr
  unfold Ipv6Addr.ofList
  congr 1
  ext i bound
  simp

theorem beBytes_halves (segment : UInt16) :
    beBytes (segment >>> 8).toUInt8 (segment &&& 0xff).toUInt8 = segment := by
  have bound := segment.toNat_lt
  have low : segment.toNat % 256 &&& 255 = segment.toNat % 256 := by
    rw [Nat.and_two_pow_sub_one_eq_mod _ 8,Nat.mod_mod]
  have high : (segment.toNat >>> 8 % 256) <<< 8 % 65536 = (segment.toNat/256) <<< 8 := by
    rw [Nat.shiftRight_eq_div_pow,Nat.shiftLeft_eq,Nat.shiftLeft_eq]
    omega
  apply UInt16.toNat_inj.mp
  simp [beBytes,low,high]
  rw [← Nat.shiftLeft_add_eq_or_of_lt (Nat.mod_lt _ (by decide)),Nat.shiftLeft_eq]
  omega

theorem readIpv6Addr_mapped (addr : Ipv6Addr) (v4 : Ipv4Addr) (mapped : addr.toIpv4Mapped = some v4) :
    readIpv6Addr ([':',':','f','f','f','f',':'] ++ ipv4Text v4) = some (addr,[]) := by
  unfold Ipv6Addr.toIpv4Mapped at mapped
  rw [Option.ite_none_right_eq_some] at mapped
  obtain ⟨front,same⟩ := mapped
  have embedded : readIpv4Addr (ipv4Text v4) = some (v4,[]) := by
    have read := readIpv4Addr_text v4 [] (by simp)
    rwa [List.append_nil] at read
  have word : groupText 0xffff = ['f','f','f','f'] := by decide
  -- Nothing before the double colon.
  have head := readGroups_end 8 true (':' :: ':' :: 'f' :: 'f' :: 'f' :: 'f' :: ':' :: ipv4Text v4)
    (Or.inr ⟨_,rfl⟩)
  have address : readGroups 6 false (':' :: ipv4Text v4) =
      ([beBytes v4.a v4.b,beBytes v4.c v4.d],true,[]) := by
    unfold readGroups
    simp [readSeparator,readGivenChar,embedded]
  have tail : readGroups 7 true ('f' :: 'f' :: 'f' :: 'f' :: ':' :: ipv4Text v4) =
      ([0xffff,beBytes v4.a v4.b,beBytes v4.c v4.d],true,[]) := by
    rw [readGroups_cons 6 true 0xffff (':' :: ipv4Text v4) (by simp) _ (by rw [word]; rfl),address]
  have whole : addr.segments.toList =
      ([0,0,0,0,0,0xffff,addr.segment 6,addr.segment 7] : List UInt16) := by
    have rest : addr.segments.toList.drop 6 = [addr.segment 6,addr.segment 7] := by
      rw [addr.segments_toList]
      rfl
    rw [← List.take_append_drop 6 addr.segments.toList,front,rest]
    rfl
  unfold readIpv6Addr
  simp only [List.cons_append,List.nil_append,head,List.length_nil]
  change some (Ipv6Addr.ofList (List.replicate (8-0-(readGroups 7 true ('f' :: 'f' :: 'f' :: 'f' :: ':' ::
    ipv4Text v4)).1.length) 0 ++ (readGroups 7 true ('f' :: 'f' :: 'f' :: 'f' :: ':' :: ipv4Text v4)).1),_) = _
  rw [tail]
  cases same
  simp only [Ipv4Addr.ofSegments,beBytes_halves]
  change some (Ipv6Addr.ofList [0,0,0,0,0,0xffff,addr.segment 6,addr.segment 7],[]) = _
  rw [← whole,ofList_segments]

theorem readIpv6Addr_plain (segments : List UInt16) (width : segments.length = 8) :
    readIpv6Addr (groupsText segments) = some (.ofList segments,[]) := by
  have head := readGroups_text segments [] (Or.inl rfl) 8 (Nat.le_of_eq width)
  rw [List.append_nil] at head
  unfold readIpv6Addr
  simp only [head,width,if_true]

theorem readIpv6Addr_compressed (before after : List UInt16) (len : Nat) (several : 1 < len)
    (width : before.length+(len+after.length) = 8) :
    readIpv6Addr (groupsText before ++ [':',':'] ++ groupsText after) =
      some (.ofList (before ++ (List.replicate len 0 ++ after)),[]) := by
  have head := readGroups_text before (':' :: ':' :: groupsText after) (Or.inr ⟨_,rfl⟩) 8 (by omega)
  have tail := readGroups_text after [] (Or.inl rfl) (7-before.length) (by omega)
  rw [List.append_nil] at tail
  have short : before.length ≠ 8 := by omega
  have zeroes : 8-before.length-after.length = len := by omega
  unfold readIpv6Addr
  simp only [List.append_assoc,List.cons_append,List.nil_append,head,if_neg short]
  simp [readGivenChar,tail,zeroes]

theorem readIpv6Addr_text (addr : Ipv6Addr) : readIpv6Addr (ipv6Text addr) = some (addr,[]) := by
  unfold ipv6Text
  cases mapped : addr.toIpv4Mapped with
  | some v4 => exact readIpv6Addr_mapped addr v4 mapped
  | none =>
    have width : addr.segments.toList.length = 8 := by simp
    have split := zeroSpan_split addr.segments.toList
    have same := ofList_segments addr
    generalize addr.segments.toList = segments at width split same
    simp only
    generalize zeroSpan segments 0 ⟨0,0⟩ ⟨0,0⟩ = zeroes at split
    by_cases several : 1 < zeroes.len
    · rw [if_pos several,readIpv6Addr_compressed _ _ zeroes.len several]
      · rw [← split,same]
      · have lengths := congrArg List.length split
        simp only [List.length_append,List.length_replicate] at lengths
        omega
    · rw [if_neg several,readIpv6Addr_plain segments width,same]

theorem readIpv4Addr_groups (groups : List UInt16) (rest : List Char) (ends : GroupsEnd rest) :
    readIpv4Addr (groupsText groups ++ rest) = none := by
  cases groups with
  | nil =>
    obtain rfl | ⟨more,rfl⟩ := ends
    · rfl
    · apply readIpv4Addr_none
      change ((':' :: ':' :: more).dropWhile (isDigit 10)).head? ≠ some '.'
      rw [List.dropWhile_cons_of_neg (by decide)]
      simp
  | cons group groups =>
    have read := group_not_ipv4 group (tailText groups ++ rest) (tailText_head groups rest ends)
    rwa [← List.append_assoc] at read

/-- No IPv6 text starts like an IPv4 address. -/
theorem readIpv4Addr_ipv6Text (addr : Ipv6Addr) : readIpv4Addr (ipv6Text addr) = none := by
  unfold ipv6Text
  cases addr.toIpv4Mapped with
  | some v4 => exact readIpv4Addr_groups [] _ (Or.inr ⟨_,rfl⟩)
  | none =>
    simp only
    split
    · rw [List.append_assoc]
      exact readIpv4Addr_groups _ _ (Or.inr ⟨_,rfl⟩)
    · have read := readIpv4Addr_groups addr.segments.toList [] (Or.inl rfl)
      rwa [List.append_nil] at read

theorem parseIp_display (ip : IpAddr) : parseIp (display ip) = some ip := by
  cases ip with
  | v4 addr =>
    have read := readIpv4Addr_text addr [] (by simp)
    rw [List.append_nil] at read
    simp [parseIp,parseWith,display,readIpAddr,read]
  | v6 addr =>
    simp [parseIp,parseWith,display,readIpAddr,readIpv4Addr_ipv6Text,readIpv6Addr_text]

/-- A text that is an address is one of exactly one family. -/
theorem parseIp_cases (text : String) (ip : IpAddr) (read : parseIp text = some ip) :
    (∃ addr, ip = .v4 addr ∧ parseIpv4 text = some addr) ∨
      ∃ addr, ip = .v6 addr ∧ parseIpv4 text = none ∧ parseIpv6 text = some addr := by
  unfold parseIp parseWith readIpAddr at read
  unfold parseIpv4 parseIpv6 parseWith
  cases first : readIpv4Addr text.toList with
  | some found =>
    obtain ⟨addr,rest⟩ := found
    rw [first] at read
    cases rest with
    | nil =>
      cases read
      exact Or.inl ⟨addr,rfl,rfl⟩
    | cons c rest => cases read
  | none =>
    rw [first] at read
    cases second : readIpv6Addr text.toList with
    | none =>
      rw [second] at read
      cases read
    | some found =>
      obtain ⟨addr,rest⟩ := found
      rw [second] at read
      cases rest with
      | nil =>
        cases read
        exact Or.inr ⟨addr,rfl,rfl,rfl⟩
      | cons c rest => cases read

/-- No IPv6 address starts with an IPv4 address. -/
theorem readIpv6Addr_ipv4 (text rest : List Char) (addr : Ipv4Addr) (read : readIpv4Addr text = some (addr,rest)) :
    readIpv6Addr text = none := by
  have groups : readGroups 8 true text = ([beBytes addr.a addr.b,beBytes addr.c addr.d],true,rest) := by
    unfold readGroups
    simp [readSeparator,read]
  unfold readIpv6Addr
  simp [groups]

theorem parseIp_none (text : String) (unread : parseIp text = none) :
    parseIpv4 text = none ∧ parseIpv6 text = none := by
  unfold parseIp parseWith readIpAddr at unread
  unfold parseIpv4 parseIpv6 parseWith
  cases first : readIpv4Addr text.toList with
  | some found =>
    obtain ⟨addr,rest⟩ := found
    rw [first] at unread
    rw [readIpv6Addr_ipv4 _ rest addr first]
    cases rest with
    | nil => cases unread
    | cons c rest => exact ⟨rfl,rfl⟩
  | none =>
    rw [first] at unread
    refine ⟨rfl,?_⟩
    cases second : readIpv6Addr text.toList with
    | none => rfl
    | some found =>
      obtain ⟨addr,rest⟩ := found
      rw [second] at unread
      cases rest with
      | nil => cases unread
      | cons c rest => rfl

end IpText

end Foundation
