import SolidOidcVerifier.Jwt

/-! The three segments of a compact JWS. -/
namespace SolidOidcVerifier
open Foundation

/-- `token` is `h.p.s` with non-empty segments that hold no further dot. -/
structure CompactJws (token : String) (h p s : List Char) : Prop where
  whole : token.toList = h ++ '.' :: (p ++ '.' :: s)
  header : h ≠ [] ∧ '.' ∉ h
  payload : p ≠ [] ∧ '.' ∉ p
  signature : s ≠ [] ∧ '.' ∉ s

theorem splitCompact_ok (token : String) (h p s : List Char) :
    splitCompact token = .ok (h,p,s) ↔ CompactJws token h p s := by
  constructor
  · intro split
    unfold splitCompact at split
    have whole : ['.'].intercalate (token.toList.splitOn '.') = token.toList := List.intercalate_splitOn '.'
    have dotless := Text.not_mem_piece '.' token.toList
    split at split
    · rename_i first second third pieces
      rw [pieces] at whole dotless
      split at split
      · rename_i full
        cases Except.ok.inj split
        refine ⟨?_,⟨full.1,dotless _ (by simp)⟩,⟨full.2.1,dotless _ (by simp)⟩,⟨full.2.2,dotless _ (by simp)⟩⟩
        rw [← whole]
        simp [List.intercalate]
      · cases split
    · cases split
  · intro compact
    have pieces : token.toList.splitOn '.' = [h,p,s] := by
      rw [compact.whole,List.splitOn_append_cons_self_of_not_mem compact.header.2,
        List.splitOn_append_cons_self_of_not_mem compact.payload.2,
        List.splitOn_eq_singleton compact.signature.2]
    unfold splitCompact
    rw [pieces]
    exact if_pos ⟨compact.header.1,compact.payload.1,compact.signature.1⟩

theorem peekClaims_some (crates : Crates) (token : String) (claims : Claims) :
    peekClaims crates token = some claims ↔ ∃ h p s bytes, CompactJws token h p s ∧
      b64urlDecode p = some bytes ∧ crates.fromSlice bytes = some (.object claims) := by
  unfold peekClaims
  simp only [Option.bind_eq_bind,Option.bind_eq_some_iff]
  constructor
  · intro run
    obtain ⟨⟨h,p,s⟩,split,bytes,decoded,value,parsed,members⟩ := run
    have compact : splitCompact token = .ok (h,p,s) := by
      cases found : splitCompact token with
      | error e => simp [found,Except.toOption] at split
      | ok segments =>
        simp only [found,Except.toOption,Option.some.injEq] at split
        rw [split]
    rw [Json.asObject_some] at members
    rw [members] at parsed
    exact ⟨h,p,s,bytes,(splitCompact_ok token h p s).mp compact,decoded,parsed⟩
  · intro read
    obtain ⟨h,p,s,bytes,compact,decoded,parsed⟩ := read
    exact ⟨(h,p,s),by rw [(splitCompact_ok token h p s).mpr compact]; rfl,bytes,decoded,_,parsed,rfl⟩

def encodedJws (header payload signature : List UInt8) : String :=
  String.ofList (Base64Url.encode header ++ '.' ::
    (Base64Url.encode payload ++ '.' :: Base64Url.encode signature))

theorem encodedJws_compact (header payload signature : List UInt8) (filledHeader : header ≠ [])
    (filledPayload : payload ≠ []) (filledSignature : signature ≠ []) :
    CompactJws (encodedJws header payload signature) (Base64Url.encode header)
      (Base64Url.encode payload) (Base64Url.encode signature) := by
  refine ⟨String.toList_ofList,?_,?_,?_⟩
  · exact ⟨mt (Base64Url.encode_eq_nil header).mp filledHeader,Base64Url.dot_not_mem_encode header⟩
  · exact ⟨mt (Base64Url.encode_eq_nil payload).mp filledPayload,Base64Url.dot_not_mem_encode payload⟩
  · exact ⟨mt (Base64Url.encode_eq_nil signature).mp filledSignature,Base64Url.dot_not_mem_encode signature⟩

end SolidOidcVerifier
