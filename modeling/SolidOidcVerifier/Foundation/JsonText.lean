import SolidOidcVerifier.Foundation.IpText
import SolidOidcVerifier.Foundation.QuotedText

/-! JSON texts after RFC 8259: a reader of whole values, and the writer of objects whose members are strings. -/
namespace Foundation.JsonText

/-- A number keeps its text. -/
inductive Value where
  | null
  | bool (value : Bool)
  | number (text : List Char)
  | string (text : List Char)
  | array (items : List Value)
  | object (members : List (List Char × Value))

/-- A reader takes a text and answers a value and the text behind it. -/
abbrev Reader (α : Type) : Type := List Char → Option (α × List Char)

def isBlank (c : Char) : Bool := c == ' ' || c == '\t' || c == '\n' || c == '\r'

def isControl (c : Char) : Bool := c.toNat < 0x20

/-! Strings (§7). -/

def simpleEscapes : List (Char × Char) :=
  [('"','"'),('\\','\\'),('/','/'),('b',Char.ofNat 8),('f',Char.ofNat 12),('n','\n'),('r','\r'),('t','\t')]

/-- Four hexadecimal digits. -/
def readUnit : Reader Nat
  | a :: b :: c :: d :: rest => do
    let a ← IpText.toDigit 16 a
    let b ← IpText.toDigit 16 b
    let c ← IpText.toDigit 16 c
    let d ← IpText.toDigit 16 d
    return (((a*16+b)*16+c)*16+d,rest)
  | _ => none

/-- What stands behind `\u`: a code unit, or a surrogate pair. A surrogate alone is no character. -/
def readUnicode : Reader Char := fun text => do
  let (unit,rest) ← readUnit text
  if 0xD800 ≤ unit ∧ unit < 0xDC00 then
    match rest with
    | '\\' :: 'u' :: rest => do
      let (low,rest) ← readUnit rest
      if 0xDC00 ≤ low ∧ low < 0xE000 then
        some (Char.ofNat (0x10000+(unit-0xD800)*0x400+(low-0xDC00)),rest)
      else none
    | _ => none
  else if 0xDC00 ≤ unit ∧ unit < 0xE000 then none
  else some (Char.ofNat unit,rest)

/-- What stands behind a backslash. -/
def readEscape : Reader Char
  | [] => none
  | c :: rest =>
    match simpleEscapes.lookup c with
    | some value => some (value,rest)
    | none => if c = 'u' then readUnicode rest else none

/-- The characters of a string up to its closing quote; each takes a unit of fuel. -/
def readChars : (fuel : Nat) → Reader (List Char)
  | 0,_ => none
  | _+1,[] => none
  | fuel+1,c :: rest =>
    if c = '"' then some ([],rest)
    else if c = '\\' then do
      let (value,rest) ← readEscape rest
      let (text,rest) ← readChars fuel rest
      return (value :: text,rest)
    else if isControl c then none
    else do
      let (text,rest) ← readChars fuel rest
      return (c :: text,rest)

def readString : Reader (List Char)
  | '"' :: rest => readChars rest.length rest
  | _ => none

/-! Numbers (§6). -/

def readDigits (text : List Char) : Option (List Char × List Char) :=
  let digits := text.takeWhile Char.isDigit
  if digits = [] then none else some (digits,text.dropWhile Char.isDigit)

def readInt : Reader (List Char)
  | '0' :: rest => some (['0'],rest)
  | text => readDigits text

def readFrac : Reader (List Char)
  | '.' :: rest => (readDigits rest).map fun (digits,rest) => ('.' :: digits,rest)
  | text => some ([],text)

def readSign : List Char → List Char × List Char
  | '+' :: rest => (['+'],rest)
  | '-' :: rest => (['-'],rest)
  | text => ([],text)

def readExp : Reader (List Char)
  | [] => some ([],[])
  | c :: rest =>
    if c = 'e' ∨ c = 'E' then
      (readDigits (readSign rest).2).map fun (digits,after) => (c :: ((readSign rest).1 ++ digits),after)
    else some ([],c :: rest)

def readNumber : Reader (List Char) := fun text => do
  let (minus,text) := match text with
    | '-' :: rest => (['-'],rest)
    | text => ([],text)
  let (int,text) ← readInt text
  let (frac,text) ← readFrac text
  let (exp,text) ← readExp text
  return (minus ++ int ++ frac ++ exp,text)

def readLiteral : Reader Value
  | 'n' :: 'u' :: 'l' :: 'l' :: rest => some (.null,rest)
  | 't' :: 'r' :: 'u' :: 'e' :: rest => some (.bool true,rest)
  | 'f' :: 'a' :: 'l' :: 's' :: 'e' :: rest => some (.bool false,rest)
  | text => (readNumber text).map fun (number,rest) => (.number number,rest)

/-! Values (§2 to §5). What may be passed over between two tokens is a parameter. -/

section values

variable (skip : List Char → List Char)

/-- Items separated by commas, up to the closing character. -/
def readItems {α : Type} (item : Reader α) (close : Char) : (fuel : Nat) → Reader (List α)
  | 0,_ => none
  | fuel+1,text => do
    let (first,text) ← item (skip text)
    match skip text with
    | [] => none
    | c :: rest =>
      if c = close then some ([first],rest)
      else if c = ',' then do
        let (items,rest) ← readItems item close fuel rest
        return (first :: items,rest)
      else none

/-- No item, or items up to the closing character. -/
def readList {α : Type} (item : Reader α) (close : Char) : Reader (List α) := fun text =>
  if (skip text).head? = some close then some ([],(skip text).tail)
  else readItems skip item close text.length text

def readMember (value : Reader Value) : Reader (List Char × Value) := fun text => do
  let (name,text) ← readString text
  match skip text with
  | ':' :: rest => do
    let (found,rest) ← value (skip rest)
    return ((name,found),rest)
  | _ => none

def readValue : (depth : Nat) → Reader Value
  | 0,_ => none
  | depth+1,text =>
    match text with
    | [] => none
    | c :: rest =>
      if c = '"' then (readString (c :: rest)).map fun (text,after) => (.string text,after)
      else if c = '{' then (readList skip (readMember skip (readValue depth)) '}' rest).map
        fun (members,after) => (.object members,after)
      else if c = '[' then (readList skip (readValue depth) ']' rest).map
        fun (items,after) => (.array items,after)
      else readLiteral (c :: rest)

/-- The value of a whole text. -/
def readWith (text : List Char) : Option Value :=
  match readValue skip text.length (skip text) with
  | some (value,rest) => if skip rest = [] then some value else none
  | none => none

end values

/-- A JSON text. -/
def read (text : List Char) : Option Value := readWith (·.dropWhile isBlank) text

/-- A JSON text without whitespace between its tokens. -/
def readCompact (text : List Char) : Option Value := readWith id text

/-! Objects of strings. -/

abbrev Member : Type := List Char × List Char

def stringText (text : List Char) : List Char := '"' :: (QuotedText.escape text ++ ['"'])

def memberText (member : Member) : List Char := stringText member.1 ++ ':' :: stringText member.2

def membersText : List Member → List Char
  | [] => []
  | [member] => memberText member
  | member :: rest => memberText member ++ ',' :: membersText rest

def objectText (members : List Member) : List Char := '{' :: (membersText members ++ ['}'])

/-- A control character, which a string holds only behind a backslash. -/
def Member.controlled (member : Member) : Bool := member.1.any isControl || member.2.any isControl

theorem readChars_quoted (fuel : Nat) (c : Char) (rest : List Char) (own : simpleEscapes.lookup c = some c) :
    readChars (fuel+1) ('\\' :: c :: rest) =
      (readChars fuel rest).map fun (text,after) => (c :: text,after) := by
  have escaped : readEscape (c :: rest) = some (c,rest) := by
    simp only [readEscape,own]
  simp only [readChars,if_neg (show '\\' ≠ '"' by decide),if_true,escaped,Option.bind_eq_bind,Option.bind_some]
  cases readChars fuel rest <;> rfl

theorem readChars_plain (fuel : Nat) (c : Char) (rest : List Char) (backslash : c ≠ '\\') (quote : c ≠ '"') :
    readChars (fuel+1) (c :: rest) = if isControl c then none
      else (readChars fuel rest).map fun (text,after) => (c :: text,after) := by
  simp only [readChars,if_neg quote,if_neg backslash,Option.bind_eq_bind]
  cases readChars fuel rest <;> rfl

theorem readChars_escape (text rest : List Char) (fuel : Nat) (room : text.length < fuel) :
    readChars fuel (QuotedText.escape text ++ '"' :: rest) =
      if text.any isControl then none else some (text,rest) := by
  induction text generalizing fuel with
  | nil =>
    obtain ⟨fuel,rfl⟩ := Nat.exists_eq_add_of_le' room
    rfl
  | cons c text ih =>
    obtain ⟨fuel,rfl⟩ := Nat.exists_eq_add_of_le' (Nat.succ_le_of_lt (Nat.zero_lt_of_lt room))
    have read := ih fuel (by simpa using room)
    have quotes : isControl '\\' = false ∧ isControl '"' = false := by decide
    rw [QuotedText.escape_cons,List.append_assoc]
    unfold QuotedText.escapeChar
    by_cases backslash : c = '\\'
    · rw [if_pos backslash,backslash,List.cons_append,List.cons_append,List.nil_append,
        readChars_quoted fuel '\\' _ rfl,read,List.any_cons,quotes.1,Bool.false_or]
      split <;> rfl
    · by_cases quote : c = '"'
      · rw [if_neg backslash,if_pos quote,quote,List.cons_append,List.cons_append,List.nil_append,
          readChars_quoted fuel '"' _ rfl,read,List.any_cons,quotes.2,Bool.false_or]
        split <;> rfl
      · rw [if_neg backslash,if_neg quote,List.cons_append,List.nil_append,
          readChars_plain fuel c _ backslash quote,read,List.any_cons]
        cases isControl c with
        | true => rfl
        | false =>
          rw [Bool.false_or,if_neg Bool.false_ne_true]
          split <;> rfl

theorem readString_text (text rest : List Char) :
    readString (stringText text ++ rest) = if text.any isControl then none else some (text,rest) := by
  have whole : stringText text ++ rest = '"' :: (QuotedText.escape text ++ '"' :: rest) := by simp [stringText]
  have longer := QuotedText.escape_length text
  rw [whole]
  unfold readString
  apply readChars_escape
  simp only [List.length_append,List.length_cons]
  omega

theorem membersText_cons (member next : Member) (rest : List Member) :
    membersText (member :: next :: rest) = memberText member ++ ',' :: membersText (next :: rest) := rfl

theorem membersText_length (members : List Member) : members.length ≤ (membersText members).length := by
  induction members with
  | nil => simp
  | cons member rest ih =>
    cases rest with
    | nil =>
      simp [membersText,memberText]
      omega
    | cons next rest =>
      rw [membersText_cons]
      simp only [List.length_append,List.length_cons] at ih ⊢
      omega

section objects

variable (skip : List Char → List Char) (keeps : ∀ c rest, isBlank c = false → skip (c :: rest) = c :: rest)

include keeps

theorem readMember_text (member : Member) (rest : List Char) (depth : Nat) :
    readMember skip (readValue skip (depth+1)) (memberText member ++ rest) =
      if member.controlled then none else some ((member.1,.string member.2),rest) := by
  obtain ⟨name,value⟩ := member
  have whole : memberText (name,value) ++ rest = stringText name ++ (':' :: (stringText value ++ rest)) := by
    simp [memberText]
  have colon := keeps ':' (stringText value ++ rest) (by decide)
  have quote : skip (stringText value ++ rest) = stringText value ++ rest := keeps '"' _ (by decide)
  have string : readValue skip (depth+1) (stringText value ++ rest) =
      if value.any isControl then none else some (.string value,rest) := by
    have head : stringText value ++ rest = '"' :: (QuotedText.escape value ++ ['"'] ++ rest) := rfl
    have read := readString_text value rest
    rw [head] at read ⊢
    simp only [readValue,if_true,read]
    split <;> rfl
  unfold readMember Member.controlled
  rw [whole,readString_text]
  dsimp only
  cases name.any isControl with
  | true => rfl
  | false =>
    simp only [Bool.false_eq_true,if_false,Option.bind_eq_bind,Option.bind_some,colon,quote,string,Bool.false_or]
    split <;> rfl

theorem memberText_head (member : Member) (rest : List Char) :
    skip (memberText member ++ rest) = memberText member ++ rest :=
  keeps '"' _ (by decide)

theorem readItems_text (members : List Member) (filled : members ≠ []) (rest : List Char) (depth fuel : Nat)
    (room : members.length ≤ fuel) :
    readItems skip (readMember skip (readValue skip (depth+1))) '}' fuel (membersText members ++ '}' :: rest) =
      if members.any Member.controlled then none
      else some (members.map fun member => (member.1,.string member.2),rest) := by
  induction members generalizing fuel with
  | nil => exact absurd rfl filled
  | cons member others ih =>
    obtain ⟨fuel,rfl⟩ := Nat.exists_eq_add_of_le' (Nat.le_trans (Nat.succ_le_succ (Nat.zero_le _)) room)
    unfold readItems
    cases others with
    | nil =>
      have close := keeps '}' rest (by decide)
      have whole : membersText [member] ++ '}' :: rest = memberText member ++ '}' :: rest := rfl
      rw [whole,memberText_head skip keeps,readMember_text skip keeps]
      cases controlled : member.controlled with
      | true => simp [controlled]
      | false => simp [controlled,close]
    | cons next others =>
      have comma := keeps ',' (membersText (next :: others) ++ '}' :: rest) (by decide)
      have read := ih (by simp) fuel (by simpa using room)
      have whole : membersText (member :: next :: others) ++ '}' :: rest =
          memberText member ++ ',' :: (membersText (next :: others) ++ '}' :: rest) := by
        rw [membersText_cons,List.append_assoc,List.cons_append]
      rw [whole,memberText_head skip keeps,readMember_text skip keeps,List.any_cons]
      cases controlled : member.controlled with
      | true => simp
      | false =>
        simp only [Bool.false_eq_true,if_false,Option.bind_eq_bind,Option.bind_some,comma,Bool.false_or]
        rw [if_neg (by decide),if_pos trivial,read]
        split <;> rfl

/-- A written object is read back, unless a text of it holds a control character; then it is no JSON. -/
theorem readWith_objectText (empty : skip [] = []) (members : List Member) :
    readWith skip (objectText members) = if members.any Member.controlled then none
      else some (.object (members.map fun member => (member.1,.string member.2))) := by
  obtain ⟨depth,deep⟩ : ∃ depth, (objectText members).length = depth+1+1 :=
    ⟨(membersText members).length,by simp [objectText]⟩
  have opening : skip (objectText members) = '{' :: (membersText members ++ ['}']) := keeps '{' _ (by decide)
  have body : readList skip (readMember skip (readValue skip (depth+1))) '}' (membersText members ++ ['}']) =
      if members.any Member.controlled then none
      else some (members.map fun member => (member.1,.string member.2),[]) := by
    have longer : members.length ≤ (membersText members ++ ['}']).length := by
      rw [List.length_append]
      exact Nat.le_add_right_of_le (membersText_length members)
    unfold readList
    cases members with
    | nil =>
      have close := keeps '}' [] (by decide)
      simp [membersText,close]
    | cons member rest =>
      have read := readItems_text skip keeps (member :: rest) (by simp) [] depth _ longer
      have quote : skip (membersText (member :: rest) ++ ['}']) = membersText (member :: rest) ++ ['}'] := by
        cases rest with
        | nil => exact memberText_head skip keeps member _
        | cons next rest => exact keeps '"' _ (by decide)
      have head : (membersText (member :: rest) ++ ['}']).head? = some '"' := by
        cases rest <;> rfl
      rw [quote,head,if_neg (by decide),read]
  have value : readValue skip (depth+1+1) ('{' :: (membersText members ++ ['}'])) =
      if members.any Member.controlled then none
      else some (.object (members.map fun member => (member.1,.string member.2)),[]) := by
    conv_lhs => unfold readValue
    simp only [if_neg (show '{' ≠ '"' by decide),if_true,body]
    split <;> rfl
  unfold readWith
  rw [opening,deep,value]
  cases members.any Member.controlled with
  | true => rfl
  | false => simp [empty]

end objects

theorem read_objectText (members : List Member) : read (objectText members) =
    if members.any Member.controlled then none
    else some (.object (members.map fun member => (member.1,.string member.2))) := by
  apply readWith_objectText
  · intro c rest visible
    exact List.dropWhile_cons_of_neg (by rw [visible]; decide)
  · rfl

theorem readCompact_objectText (members : List Member) : readCompact (objectText members) =
    if members.any Member.controlled then none
    else some (.object (members.map fun member => (member.1,.string member.2))) :=
  readWith_objectText id (fun _ _ _ => rfl) rfl members

theorem memberText_inj (left right : Member) (before after : List Char)
    (same : memberText left ++ before = memberText right ++ after) : left = right ∧ before = after := by
  obtain ⟨name,value⟩ := left
  obtain ⟨name',value'⟩ := right
  simp only [memberText,stringText,List.cons_append,List.append_assoc,List.nil_append,List.cons.injEq,
    true_and] at same
  obtain ⟨names,tails⟩ := QuotedText.escape_inj _ _ _ _ same
  simp only [List.cons.injEq,true_and] at tails
  obtain ⟨values,rests⟩ := QuotedText.escape_inj _ _ _ _ tails
  exact ⟨by rw [names,values],rests⟩

theorem membersText_inj (left right : List Member) (before after : List Char)
    (same : membersText left ++ '}' :: before = membersText right ++ '}' :: after) : left = right := by
  induction left generalizing right with
  | nil =>
    cases right with
    | nil => rfl
    | cons member rest => cases rest <;> simp [membersText,memberText,stringText] at same
  | cons member rest ih =>
    cases right with
    | nil => cases rest <;> simp [membersText,memberText,stringText] at same
    | cons member' rest' =>
      cases rest with
      | nil =>
        cases rest' with
        | nil => rw [(memberText_inj member member' _ _ same).1]
        | cons next' rest' =>
          rw [membersText_cons,List.append_assoc] at same
          exact absurd (List.cons.inj (memberText_inj member member' _ _ same).2).1 (by decide)
      | cons next rest =>
        cases rest' with
        | nil =>
          rw [membersText_cons,List.append_assoc] at same
          exact absurd (List.cons.inj (memberText_inj member member' _ _ same).2).1 (by decide)
        | cons next' rest' =>
          rw [membersText_cons,membersText_cons,List.append_assoc,List.append_assoc] at same
          obtain ⟨first,others⟩ := memberText_inj member member' _ _ same
          rw [first,ih (next' :: rest') (List.cons.inj others).2]

theorem objectText_inj (left right : List Member) (same : objectText left = objectText right) : left = right := by
  unfold objectText at same
  exact membersText_inj left right [] [] (List.cons.inj same).2

end Foundation.JsonText
