import SolidOidcVerifier.Foundation.Text

/-! Texts that a header field may carry: visible ASCII and spaces, without control characters. -/
namespace Foundation

def fieldChar (c : Char) : Bool := 0x20 ≤ c.toNat && c.toNat < 0x7F

def FieldText (text : String) : Prop := ∀ c ∈ text.toList, fieldChar c = true

instance (text : String) : Decidable (FieldText text) :=
  decidable_of_iff (text.toList.all fieldChar = true) List.all_eq_true

theorem fieldChar_of_toLower (c : Char) (lower : fieldChar c.toLower = true) : fieldChar c = true := by
  unfold Char.toLower at lower
  split at lower
  · rename_i upper
    obtain ⟨low,high⟩ := upper
    have low := UInt32.le_iff_toNat_le.mp low
    have high := UInt32.le_iff_toNat_le.mp high
    simp at low high
    unfold fieldChar
    simp only [Bool.and_eq_true,decide_eq_true_eq]
    change 65 ≤ c.toNat at low
    change c.toNat ≤ 90 at high
    omega
  · exact lower

namespace FieldText

/-- A literal is checked on its characters, not on its bytes. -/
theorem literal (chars : List Char) (printable : chars.all fieldChar = true) : FieldText (String.ofList chars) := by
  intro c member
  rw [String.toList_ofList] at member
  exact List.all_eq_true.mp printable c member

theorem of_ignoreCase (text want : String) (same : Text.eqIgnoreAsciiCase text.toList want.toList = true)
    (lowered : ∀ c ∈ want.toList.map Char.toLower, fieldChar c = true) : FieldText text := by
  intro c member
  apply fieldChar_of_toLower
  apply lowered
  rw [← eq_of_beq same]
  exact List.mem_map_of_mem member

theorem append (left right : String) : FieldText (left ++ right) ↔ FieldText left ∧ FieldText right := by
  unfold FieldText
  rw [String.toList_append]
  exact List.forall_mem_append

theorem quoted (before text after : String) (opening : FieldText before) (closing : FieldText after) :
    FieldText (before ++ text ++ after) ↔ FieldText text := by
  rw [append,append]
  simp [opening,closing]

theorem replace (pattern : Char) (replacement text : List Char) (plain : fieldChar pattern = true)
    (printable : ∀ c ∈ replacement, fieldChar c = true) :
    (∀ c ∈ Text.replace pattern replacement text, fieldChar c = true) ↔ ∀ c ∈ text, fieldChar c = true := by
  unfold Text.replace
  rw [List.forall_mem_flatMap]
  apply forall₂_congr
  intro c _
  by_cases same : c = pattern
  · rw [if_pos same,same]
    exact ⟨fun _ => plain,fun _ => printable⟩
  · rw [if_neg same]
    exact List.forall_mem_singleton

theorem intercalate (separator : String) (printable : FieldText separator) (texts : List String) :
    FieldText (String.intercalate separator texts) ↔ ∀ text ∈ texts, FieldText text := by
  cases texts with
  | nil => simp [FieldText]
  | cons first rest =>
    induction rest generalizing first with
    | nil => simp
    | cons second rest ih =>
      rw [String.intercalate_cons_cons,append,append,ih,List.forall_mem_cons (a := first)]
      simp [printable]

end FieldText

end Foundation
