import SolidOidcVerifier.Jwk
import SolidOidcVerifier.Net

/-! The key sets of the issuers, found through OIDC discovery. -/
namespace SolidOidcVerifier
open Foundation

/-- `Url::path` and `Url::set_path`. -/
structure UrlPaths (url : UrlCrate) where
  path : url.Url → String
  setPath : String → url.Url → url.Url

def maxKeys : Nat := 64

structure NetworkJwksProvider (T : Type) where
  crates : Crates
  paths : UrlPaths crates.url
  fetcher : SafeFetchConfig
  cacheTtl : T

/-- The base of the well-known address: a path that ends with a slash keeps its last segment. -/
def withTrailingSlash (url : UrlCrate) (paths : UrlPaths url) (base : url.Url) : url.Url :=
  if (paths.path base).toList.getLast? = some '/' then base
  else paths.setPath (paths.path base ++ "/") base

def joinWellKnown (url : UrlCrate) (paths : UrlPaths url) (issuer : String) : Option String := do
  let base ← url.parse issuer
  if url.scheme base ≠ "https" ∧ url.scheme base ≠ "http" then none
  else (url.join (withTrailingSlash url paths base) ".well-known/openid-configuration").map url.toText

/-- The loop over the entries: what is no key, is symmetric or carries private material is skipped. -/
def usableKeys : List Json → List Jwk
  | [] => []
  | entry :: rest =>
    match Jwk.fromValue entry with
    | some jwk => if jwk.isSymmetric || jwk.hasPrivateMaterial then usableKeys rest else jwk :: usableKeys rest
    | none => usableKeys rest

def parseJwks (crates : Crates) (body : List UInt8) : Except String (List Jwk) := do
  let doc ← orError (crates.fromSlice body) "JWKS is not valid JSON."
  let entries ← orError ((doc.get "keys").bind Json.asArray) "JWKS has no `keys` array."
  ensure (¬maxKeys < entries.length) "JWKS contains too many keys."
  ensure (usableKeys entries ≠ []) "JWKS contained no usable public keys."
  return usableKeys entries

/-- The `jwks_uri` of a discovery document, which has to name the issuer it was asked for. -/
def discoveredUri (crates : Crates) (issuer : String) (body : List UInt8) : Except String String := do
  let doc ← orError (crates.fromSlice body) "OIDC discovery document is not valid JSON."
  ensure ((doc.get "issuer").bind Json.asStr = some issuer) "OIDC discovery issuer mismatch."
  orError ((doc.get "jwks_uri").bind Json.asStr) "OIDC discovery document has no jwks_uri."

variable {N T : Type}

def NetworkJwksProvider.fetch (provider : NetworkJwksProvider T) (network : Network N) (context address : String) :
    Exec (NetWorld N) String SafeResponse :=
  Exec.mapReject (context ++ ·) (get network provider.crates.url provider.fetcher address "application/json")

def NetworkJwksProvider.fetchKeys (provider : NetworkJwksProvider T) (network : Network N) (issuer : String) :
    Exec (NetWorld N) String (List Jwk) := do
  let discoveryUrl ← Exec.lift (orError (joinWellKnown provider.crates.url provider.paths issuer)
    ("issuer is not a valid URL: " ++ issuer))
  let disc ← provider.fetch network "OIDC discovery failed: " discoveryUrl
  let jwksUri ← Exec.lift (discoveredUri provider.crates issuer disc.body)
  let jwks ← provider.fetch network "JWKS fetch failed: " jwksUri
  Exec.lift (parseJwks provider.crates jwks.body)

structure HoldsKeys (crates : Crates) (body : List UInt8) (keys : List Jwk) : Prop where
  entries : ∃ doc entries, crates.fromSlice body = some doc ∧ doc.get "keys" = some (.array entries) ∧
    keys = usableKeys entries ∧ ∀ key ∈ keys, ∃ entry ∈ entries, Jwk.fromValue entry = some key
  filled : 1 ≤ keys.length
  few : keys.length ≤ maxKeys
  isPublic : ∀ key ∈ keys, key.isSymmetric = false ∧ key.hasPrivateMaterial = false

structure DescribesIssuer (crates : Crates) (body : List UInt8) (issuer jwksUri : String) : Prop where
  members : ∃ doc, crates.fromSlice body = some doc ∧ doc.get "issuer" = some (.string issuer) ∧
    doc.get "jwks_uri" = some (.string jwksUri)

/-- The keys are those behind the `jwks_uri` of a discovery document of the issuer, as the network
delivered both. -/
def Discovered (provider : NetworkJwksProvider T) (network : Network N) (world : NetWorld N) (issuer : String)
    (keys : List Jwk) : Prop :=
  ∃ discoveryUrl disc jwksUri jwks, joinWellKnown provider.crates.url provider.paths issuer = some discoveryUrl ∧
    let discovery := get network provider.crates.url provider.fetcher discoveryUrl "application/json" world
    discovery.1 = .ok disc ∧ DescribesIssuer provider.crates disc.body issuer jwksUri ∧
    (get network provider.crates.url provider.fetcher jwksUri "application/json" discovery.2).1 = .ok jwks ∧
    HoldsKeys provider.crates jwks.body keys

theorem usableKeys_mem (entries : List Json) (key : Jwk) : key ∈ usableKeys entries ↔
    (∃ entry ∈ entries, Jwk.fromValue entry = some key) ∧ key.isSymmetric = false ∧
      key.hasPrivateMaterial = false := by
  induction entries with
  | nil => simp [usableKeys]
  | cons entry rest ih =>
    unfold usableKeys
    cases read : Jwk.fromValue entry with
    | none => simp [ih,read]
    | some jwk =>
      by_cases skipped : (jwk.isSymmetric || jwk.hasPrivateMaterial) = true
      · have other : key = jwk → ¬(key.isSymmetric = false ∧ key.hasPrivateMaterial = false) := by
          intro same fine
          rw [same] at fine
          simp [fine] at skipped
        simp only [if_pos skipped,ih,List.exists_mem_cons_iff,read,Option.some.injEq]
        apply Iff.intro
        · intro found
          exact ⟨Or.inr found.1,found.2⟩
        · intro found
          obtain ⟨same | found,fine⟩ := found
          · exact absurd fine (other same.symm)
          · exact ⟨found,fine⟩
      · have fine : jwk.isSymmetric = false ∧ jwk.hasPrivateMaterial = false := by simpa using skipped
        simp only [if_neg skipped,List.exists_mem_cons_iff,read,Option.some.injEq]
        rw [List.mem_cons,ih]
        apply Iff.intro
        · intro found
          obtain same | found := found
          · rw [same]
            exact ⟨Or.inl rfl,fine⟩
          · exact ⟨Or.inr found.1,found.2⟩
        · intro found
          obtain ⟨same | found,fine⟩ := found
          · exact Or.inl same.symm
          · exact Or.inr ⟨found,fine⟩

theorem usableKeys_length (entries : List Json) : (usableKeys entries).length ≤ entries.length := by
  induction entries with
  | nil => exact Nat.le_refl 0
  | cons entry rest ih =>
    unfold usableKeys
    cases Jwk.fromValue entry with
    | none => exact Nat.le_succ_of_le ih
    | some jwk =>
      by_cases skipped : (jwk.isSymmetric || jwk.hasPrivateMaterial) = true
      · simp only [if_pos skipped]
        exact Nat.le_succ_of_le ih
      · simp only [if_neg skipped]
        exact Nat.succ_le_succ ih

theorem parseJwks_ok (crates : Crates) (body : List UInt8) (keys : List Jwk)
    (parsed : parseJwks crates body = .ok keys) : HoldsKeys crates body keys := by
  unfold parseJwks at parsed
  simp only [Except.bind_ok,Except.orError_ok,Except.ensure_ok,exists_const] at parsed
  obtain ⟨doc,json,entries,array,few,filled,same⟩ := parsed
  cases same
  obtain ⟨value,member,listed⟩ := Option.bind_eq_some_iff.mp array
  have shape : value = .array entries := (Json.asArray_some value entries).mp listed
  rw [shape] at member
  refine ⟨⟨doc,entries,json,member,rfl,?_⟩,List.length_pos_iff.mpr filled,?_,?_⟩
  · intro key found
    exact ((usableKeys_mem entries key).mp found).1
  · exact (usableKeys_length entries).trans (Nat.not_lt.mp few)
  · intro key found
    exact ((usableKeys_mem entries key).mp found).2

theorem discoveredUri_ok (crates : Crates) (issuer jwksUri : String) (body : List UInt8)
    (read : discoveredUri crates issuer body = .ok jwksUri) : DescribesIssuer crates body issuer jwksUri := by
  unfold discoveredUri at read
  simp only [Except.bind_ok,Except.orError_ok,Except.ensure_ok,exists_const] at read
  obtain ⟨doc,json,named,address⟩ := read
  obtain ⟨issuerValue,issuerMember,issuerText⟩ := Option.bind_eq_some_iff.mp named
  obtain ⟨uriValue,uriMember,uriText⟩ := Option.bind_eq_some_iff.mp address
  rw [(issuerValue.asStr_some issuer).mp issuerText] at issuerMember
  rw [(uriValue.asStr_some jwksUri).mp uriText] at uriMember
  exact ⟨⟨doc,json,issuerMember,uriMember⟩⟩

theorem fetchKeys_discovered (provider : NetworkJwksProvider T) (network : Network N) (issuer : String)
    (world : NetWorld N) (keys : List Jwk) (fetched : (provider.fetchKeys network issuer world).1 = .ok keys) :
    Discovered provider network world issuer keys := by
  unfold NetworkJwksProvider.fetchKeys at fetched
  simp only [Exec.bind_value,Exec.lift_value,Except.orError_ok] at fetched
  obtain ⟨discoveryUrl,joined,disc,discovered,jwksUri,described,jwks,answered,parsed⟩ := fetched
  refine ⟨discoveryUrl,disc,jwksUri,jwks,joined,?_,discoveredUri_ok _ _ _ _ described,?_,parseJwks_ok _ _ _ parsed⟩
  · exact (Exec.mapReject_ok _ _ _ _).mp discovered
  · exact (Exec.mapReject_ok _ _ _ _).mp answered

end SolidOidcVerifier
