import SolidOidcVerifier.Error
import SolidOidcVerifier.Foundation.QuotedText
import SolidOidcVerifier.Jwk

/-! The challenge as its recipient reads it: a scheme and parameters with the texts that were put in. -/
namespace SolidOidcVerifier
open Foundation

def challengeScheme (dpop : Bool) : String := if dpop then "DPoP" else "Bearer"

/-- The parameters with the texts that they stand for. -/
def challengeParams (error : VerifyError) (trustedIssuers : List String) (dpop : Bool) : List (String × String) :=
  [("error",error.kind.code),("error_description",error.message),("scope","webid"),
    ("issuer",String.intercalate " " trustedIssuers)] ++
    if dpop then [("algs",String.intercalate " " dpopAlgs)] else []

def paramChars (param : String × String) : QuotedText.Param := (param.1.toList,param.2.toList)

def paramString (param : String × String) : String := param.1 ++ "=\"" ++ escapeQuoted param.2 ++ "\""

theorem escapeQuoted_toList (value : String) : (escapeQuoted value).toList = QuotedText.escape value.toList := by
  unfold escapeQuoted
  rw [String.toList_ofList,QuotedText.replace_escape]

theorem escapeQuoted_plain (value : String) (plain : value.toList.all QuotedText.plainChar = true) :
    escapeQuoted value = value := by
  rw [← String.toList_inj,escapeQuoted_toList,QuotedText.escape_plain _ plain]

theorem paramString_toList (param : String × String) :
    (paramString param).toList = QuotedText.paramText (paramChars param) := by
  unfold paramString QuotedText.paramText paramChars
  simp only [String.toList_append,escapeQuoted_toList]
  simp

theorem params_toList (params : List (String × String)) :
    (String.intercalate ", " (params.map paramString)).toList = QuotedText.paramsText (params.map paramChars) := by
  induction params with
  | nil => rfl
  | cons param rest ih =>
    cases rest with
    | nil =>
      rw [List.map_singleton,List.map_singleton,String.intercalate_singleton]
      exact paramString_toList param
    | cons next rest =>
      rw [List.map_cons,List.map_cons,String.intercalate_cons_cons,← List.map_cons,String.toList_append,
        String.toList_append,ih,paramString_toList]
      simp [QuotedText.paramsText_cons]

theorem code_plain (kind : ErrorKind) : escapeQuoted kind.code = kind.code := by
  apply escapeQuoted_plain
  cases kind <;> decide

theorem algs_plain : escapeQuoted (String.intercalate " " dpopAlgs) = String.intercalate " " dpopAlgs := by
  apply escapeQuoted_plain
  decide +kernel

theorem wwwAuthenticate_params (error : VerifyError) (trustedIssuers : List String) (requireDpop : Bool) :
    error.wwwAuthenticate trustedIssuers dpopAlgs requireDpop =
      challengeScheme (error.dpop || requireDpop) ++ " " ++ String.intercalate ", "
        ((challengeParams error trustedIssuers (error.dpop || requireDpop)).map paramString) := by
  unfold VerifyError.wwwAuthenticate challengeScheme challengeParams
  have code : paramString ("error",error.kind.code) = "error=\"" ++ error.kind.code ++ "\"" := by
    unfold paramString
    rw [code_plain]
    rfl
  have scope : paramString ("scope","webid") = "scope=\"webid\"" := by decide +kernel
  have algs : paramString ("algs",String.intercalate " " dpopAlgs) =
      "algs=\"" ++ String.intercalate " " dpopAlgs ++ "\"" := by
    unfold paramString
    rw [algs_plain]
    rfl
  have description : paramString ("error_description",error.message) =
      "error_description=\"" ++ escapeQuoted error.message ++ "\"" := rfl
  have issuer : paramString ("issuer",String.intercalate " " trustedIssuers) =
      "issuer=\"" ++ escapeQuoted (String.intercalate " " trustedIssuers) ++ "\"" := rfl
  cases error.dpop || requireDpop with
  | false =>
    simp only [List.map_append,List.map_cons,List.map_nil,code,scope,description,issuer,Bool.false_eq_true,
      if_false]
  | true => simp only [List.map_append,List.map_cons,List.map_nil,code,scope,description,issuer,algs,if_true]

theorem challengeParams_tokens (error : VerifyError) (trustedIssuers : List String) (dpop : Bool) :
    ∀ param ∈ (challengeParams error trustedIssuers dpop).map paramChars, QuotedText.Token param.1 := by
  have tokens : ∀ name ∈ ["error","error_description","scope","issuer","algs"], QuotedText.Token name.toList := by
    decide
  intro param member
  obtain ⟨named,listed,rfl⟩ := List.mem_map.mp member
  apply tokens
  unfold challengeParams at listed
  cases dpop with
  | false =>
    simp at listed
    obtain rfl | rfl | rfl | rfl := listed <;> simp
  | true =>
    simp at listed
    obtain rfl | rfl | rfl | rfl | rfl := listed <;> simp

/-- No text of a message or an issuer adds, ends or alters a parameter. -/
theorem challenge_decodes (error : VerifyError) (trustedIssuers : List String) (requireDpop : Bool) :
    QuotedText.readChallenge (error.wwwAuthenticate trustedIssuers dpopAlgs requireDpop).toList =
      some ((challengeScheme (error.dpop || requireDpop)).toList,
        (challengeParams error trustedIssuers (error.dpop || requireDpop)).map paramChars) := by
  have scheme : QuotedText.Token (challengeScheme (error.dpop || requireDpop)).toList := by
    cases error.dpop || requireDpop <;> decide
  have filled : (challengeParams error trustedIssuers (error.dpop || requireDpop)).map paramChars ≠ [] := by
    simp [challengeParams]
  rw [wwwAuthenticate_params,← QuotedText.readChallenge_text _ _ scheme
    (challengeParams_tokens error trustedIssuers _) filled,String.toList_append,String.toList_append,params_toList]
  simp

end SolidOidcVerifier
