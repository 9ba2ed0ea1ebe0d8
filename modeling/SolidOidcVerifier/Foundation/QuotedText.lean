import SolidOidcVerifier.Foundation.Text

/-! Quoted strings, where a backslash quotes the next character, and lists of named quoted strings. -/
namespace Foundation.QuotedText

def escapeChar (c : Char) : List Char :=
  if c = '\\' then ['\\','\\'] else if c = '"' then ['\\','"'] else [c]

def escape (text : List Char) : List Char := text.flatMap escapeChar

/-- The text up to the first double quote that no backslash quotes, and the text behind it. -/
def unquote : List Char → Option (List Char × List Char)
  | [] => none
  | c :: rest =>
    if c = '"' then some ([],rest)
    else if c = '\\' then
      match rest with
      | [] => none
      | quoted :: rest => (unquote rest).map fun (text,after) => (quoted :: text,after)
    else (unquote rest).map fun (text,after) => (c :: text,after)

theorem escape_cons (c : Char) (text : List Char) : escape (c :: text) = escapeChar c ++ escape text :=
  List.flatMap_cons

/-- The two whole-text replacements are one pass: the backslashes that the second one writes were not there
for the first. -/
theorem replace_escape (text : List Char) :
    Text.replace '"' ['\\','"'] (Text.replace '\\' ['\\','\\'] text) = escape text := by
  induction text with
  | nil => rfl
  | cons c rest ih =>
    unfold Text.replace at ih ⊢
    rw [escape_cons,← ih,List.flatMap_cons,List.flatMap_append]
    congr 1
    unfold escapeChar
    by_cases backslash : c = '\\'
    · rw [if_pos backslash,if_pos backslash]
      rfl
    · by_cases quote : c = '"'
      · simp [quote]
      · simp [backslash,quote]

theorem unquote_end (rest : List Char) : unquote ('"' :: rest) = some ([],rest) := by
  unfold unquote
  rfl

theorem unquote_quoted (c : Char) (rest : List Char) :
    unquote ('\\' :: c :: rest) = (unquote rest).map fun (text,after) => (c :: text,after) := by
  conv_lhs => unfold unquote
  rfl

theorem unquote_plain (c : Char) (rest : List Char) (backslash : c ≠ '\\') (quote : c ≠ '"') :
    unquote (c :: rest) = (unquote rest).map fun (text,after) => (c :: text,after) := by
  conv_lhs => unfold unquote
  rw [if_neg quote,if_neg backslash]

theorem unquote_escape (text rest : List Char) : unquote (escape text ++ '"' :: rest) = some (text,rest) := by
  induction text with
  | nil => exact unquote_end rest
  | cons c text ih =>
    rw [escape_cons]
    unfold escapeChar
    by_cases backslash : c = '\\'
    · simp [backslash,unquote_quoted,ih]
    · by_cases quote : c = '"'
      · simp [quote,unquote_quoted,ih]
      · simp [backslash,quote,unquote_plain,ih]

theorem escape_inj (left right before after : List Char)
    (same : escape left ++ '"' :: before = escape right ++ '"' :: after) : left = right ∧ before = after := by
  have read := unquote_escape left before
  rw [same,unquote_escape right after] at read
  cases read
  exact ⟨rfl,rfl⟩

theorem escape_length (text : List Char) : text.length ≤ (escape text).length := by
  induction text with
  | nil => simp
  | cons c rest ih =>
    have some : 0 < (escapeChar c).length := by
      unfold escapeChar
      split_ifs <;> simp
    rw [escape_cons,List.length_append,List.length_cons]
    omega

/-- A character that stands for itself. -/
def plainChar (c : Char) : Bool := c != '\\' && c != '"'

theorem escape_plain (text : List Char) (plain : text.all plainChar = true) : escape text = text := by
  induction text with
  | nil => rfl
  | cons c rest ih =>
    rw [List.all_cons,Bool.and_eq_true] at plain
    obtain ⟨head,tail⟩ := plain
    rw [escape_cons,ih tail]
    simp only [plainChar,Bool.and_eq_true,bne_iff_ne] at head
    simp [escapeChar,head]

/-! Parameters `name="value"`, separated by commas and spaces. -/

abbrev Param : Type := List Char × List Char

/-- The `tchar` of a header field's token. -/
def isTokenChar (c : Char) : Bool := c.isAlphanum || "!#$%&'*+-.^_|~".toList.contains c || c.toNat == 0x60

def Token (text : List Char) : Prop := text ≠ [] ∧ text.all isTokenChar = true

instance (text : List Char) : Decidable (Token text) :=
  inferInstanceAs (Decidable (text ≠ [] ∧ text.all isTokenChar = true))

theorem Token.mem {text : List Char} (token : Token text) : ∀ c ∈ text, isTokenChar c = true :=
  List.all_eq_true.mp token.2

def paramText (param : Param) : List Char := param.1 ++ '=' :: '"' :: (escape param.2 ++ ['"'])

def paramsText : List Param → List Char
  | [] => []
  | [param] => paramText param
  | param :: rest => paramText param ++ ',' :: ' ' :: paramsText rest

def readParam (text : List Char) : Option (Param × List Char) :=
  match text.takeWhile isTokenChar,text.dropWhile isTokenChar with
  | c :: name,'=' :: '"' :: rest => (unquote rest).map fun (value,after) => ((c :: name,value),after)
  | _,_ => none

/-- Parameters up to the end of the text; each has a unit of fuel. -/
def readParams : (fuel : Nat) → List Char → Option (List Param)
  | 0,_ => none
  | fuel+1,text =>
    match readParam text with
    | none => none
    | some (param,[]) => some [param]
    | some (param,',' :: rest) => (readParams fuel (rest.dropWhile (· == ' '))).map (param :: ·)
    | some (_,_ :: _) => none

/-- A scheme, a space and parameters. -/
def readChallenge (text : List Char) : Option (List Char × List Param) :=
  match text.takeWhile isTokenChar,text.dropWhile isTokenChar with
  | c :: scheme,' ' :: rest => (readParams rest.length rest).map fun params => (c :: scheme,params)
  | _,_ => none

theorem readToken (name rest : List Char) (stop : Char) (token : Token name) (ends : isTokenChar stop = false) :
    (name ++ stop :: rest).takeWhile isTokenChar = name ∧
      (name ++ stop :: rest).dropWhile isTokenChar = stop :: rest := by
  rw [List.takeWhile_append_of_pos token.mem,List.dropWhile_append_of_pos token.mem]
  simp [ends]

theorem readParam_text (param : Param) (rest : List Char) (token : Token param.1) :
    readParam (paramText param ++ rest) = some (param,rest) := by
  obtain ⟨name,value⟩ := param
  have whole : paramText (name,value) ++ rest = name ++ '=' :: ('"' :: (escape value ++ '"' :: rest)) := by
    simp [paramText]
  obtain ⟨front,back⟩ := readToken name ('"' :: (escape value ++ '"' :: rest)) '=' token (by decide)
  unfold readParam
  rw [whole,front,back]
  cases name with
  | nil => exact absurd rfl token.1
  | cons c name => simp [unquote_escape]

theorem paramsText_cons (param next : Param) (rest : List Param) :
    paramsText (param :: next :: rest) = paramText param ++ ',' :: ' ' :: paramsText (next :: rest) := rfl

theorem paramText_head (param : Param) (rest : List Char) (token : Token param.1) :
    (paramText param ++ rest).dropWhile (· == ' ') = paramText param ++ rest := by
  obtain ⟨name,value⟩ := param
  cases name with
  | nil => exact absurd rfl token.1
  | cons c name =>
    have letter := token.mem c List.mem_cons_self
    have visible : (c == ' ') = false := by
      rw [beq_eq_false_iff_ne]
      intro space
      rw [space] at letter
      exact absurd letter (by decide)
    simp [paramText,visible]

theorem readParams_text (params : List Param) (tokens : ∀ param ∈ params, Token param.1) (filled : params ≠ []) :
    ∀ fuel, params.length ≤ fuel → readParams fuel (paramsText params) = some params := by
  induction params with
  | nil => exact absurd rfl filled
  | cons param rest ih =>
    intro fuel room
    obtain ⟨fuel,rfl⟩ := Nat.exists_eq_add_of_le' (Nat.le_trans (Nat.succ_le_succ (Nat.zero_le _)) room)
    obtain ⟨token,others⟩ := List.forall_mem_cons.mp tokens
    cases rest with
    | nil =>
      have read := readParam_text param [] token
      rw [List.append_nil] at read
      simp [readParams,paramsText,read]
    | cons next rest =>
      have read := ih others (by simp) fuel (by simpa using room)
      have skipped : (paramsText (next :: rest)).dropWhile (· == ' ') = paramsText (next :: rest) := by
        have token := (List.forall_mem_cons.mp others).1
        cases rest with
        | nil =>
          have head := paramText_head next [] token
          rwa [List.append_nil] at head
        | cons third rest => exact paramText_head next _ token
      rw [paramsText_cons]
      unfold readParams
      rw [readParam_text param _ token]
      simp [skipped,read]

theorem paramsText_length (params : List Param) : params.length ≤ (paramsText params).length := by
  induction params with
  | nil => simp
  | cons param rest ih =>
    cases rest with
    | nil =>
      simp [paramsText,paramText]
      omega
    | cons next rest =>
      rw [paramsText_cons]
      simp only [List.length_append,List.length_cons] at ih ⊢
      omega

theorem readChallenge_text (scheme : List Char) (params : List Param) (token : Token scheme)
    (tokens : ∀ param ∈ params, Token param.1) (filled : params ≠ []) :
    readChallenge (scheme ++ ' ' :: paramsText params) = some (scheme,params) := by
  obtain ⟨front,back⟩ := readToken scheme (paramsText params) ' ' token (by decide)
  unfold readChallenge
  rw [front,back]
  cases scheme with
  | nil => exact absurd rfl token.1
  | cons c scheme => simp [readParams_text params tokens filled _ (paramsText_length params)]

end Foundation.QuotedText
