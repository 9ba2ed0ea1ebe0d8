import SolidOidcVerifier.Crates
import SolidOidcVerifier.Error
import SolidOidcVerifier.Ssrf

/-! The WebID claim, the profile seam and the gate that every fetched URL passes. -/
namespace SolidOidcVerifier
open Foundation

def solidOidcIssuer : String := "http://www.w3.org/ns/solid/terms#oidcIssuer"

structure WebIdProfile where
  issuers : Finset String

/-- `WebIdResolver::resolve`; an error carries its internal text. -/
abbrev WebIdResolver := String → Except String WebIdProfile

inductive BidirectionalMode where
  | strict
  | warn
  | off
deriving DecidableEq,Repr

def validateWebidClaim (url : UrlCrate) (raw : String) : Except VerifyError String := do
  ensure (raw ≠ "") (invalidToken "Token is missing the webid claim.")
  let parsed ← orError (url.parse raw) (invalidToken "WebID claim is not a valid URL.")
  ensure (url.scheme parsed = "https") (invalidToken "WebID claim must be an https: URL.")
  ensure (url.username parsed = "" ∧ url.password parsed = none)
    (invalidToken "WebID claim must not include userinfo.")
  return raw

def canonicaliseProfileUrl (url : UrlCrate) (webId : String) : String :=
  match url.parse webId with
  | some parsed => url.toText (url.clearPassword (url.clearUsername (url.clearFragment parsed)))
  | none => String.ofList (webId.toList.takeWhile (· != '#'))

def classifyResolvedAddressWithNat64 (url : UrlCrate) (address : String) (parsed : url.Url)
    (allowLoopback : Bool) (nat64 : Nat64Policy) : Except String Unit := do
  ensure (¬(url.scheme parsed = "http" ∧ allowLoopback ∧ ¬isLoopbackAddress address))
    ("WebID profile URL refused — http: WebID allowed only when ALL resolved addresses are loopback (got " ++
      address ++ "). Use https: in production.")
  ensure (isPublicAddressWithNat64 address allowLoopback nat64)
    ("WebID profile URL refused — " ++ (url.hostStr parsed).getD "" ++
      " resolves to a non-public address (" ++ address ++ ").")

/-- The host without the brackets of an IPv6 literal. -/
def trimBrackets (host : String) : String :=
  String.ofList ((host.toList.dropWhile (· == '[')).rdropWhile (· == ']'))

def gateScheme (url : UrlCrate) (parsed : url.Url) (allowLoopback : Bool) : Except String Unit :=
  if url.scheme parsed = "https" then .ok ()
  else if url.scheme parsed = "http" then
    ensure allowLoopback ("WebID profile URL must be https: (got http: " ++ (url.hostStr parsed).getD "" ++
      "). HTTP is permitted only when allowLoopback=true (dev/IT).")
  else .error ("WebID profile URL must be http/https (got " ++ url.scheme parsed ++ ":).")

def gateLiteral (url : UrlCrate) (parsed : url.Url) (allowLoopback : Bool) (nat64 : Nat64Policy) :
    Except String Unit :=
  match url.hostStr parsed with
  | some host =>
    let stripped := trimBrackets host
    if (IpText.parseIpv4 stripped).isSome ∨ (IpText.parseIpv6 stripped).isSome then
      classifyResolvedAddressWithNat64 url stripped parsed allowLoopback nat64
    else .ok ()
  | none => .ok ()

def ssrfGateStaticWithNat64 (url : UrlCrate) (rawUrl : String) (allowLoopback : Bool) (nat64 : Nat64Policy) :
    Except String Unit := do
  let parsed ← orError (url.parse rawUrl) ("WebID profile URL is malformed: " ++ rawUrl ++ ".")
  gateScheme url parsed allowLoopback
  ensure (url.username parsed = "" ∧ url.password parsed = none)
    "WebID profile URL must not carry userinfo."
  gateLiteral url parsed allowLoopback nat64

def AllowedIp (url : UrlCrate) (parsed : url.Url) (allowLoopback : Bool) (nat64 : Nat64Policy) (ip : IpAddr) :
    Prop :=
  PublicIp nat64 allowLoopback ip ∧ (url.scheme parsed = "http" → allowLoopback = true → LoopbackIp ip)

theorem classifyResolvedAddress_ok (url : UrlCrate) (address : String) (ip : IpAddr) (parsed : url.Url)
    (allowLoopback : Bool) (nat64 : Nat64Policy) (value : Unit) (read : IpText.parseIp address = some ip) :
    classifyResolvedAddressWithNat64 url address parsed allowLoopback nat64 = .ok value ↔
      AllowedIp url parsed allowLoopback nat64 ip := by
  unfold classifyResolvedAddressWithNat64 AllowedIp
  simp only [Except.bind_ok,Except.ensure_ok,exists_const,isPublicAddress_parsed address ip _ _ read]
  rw [← isLoopbackAddress_parsed address ip read]
  apply Iff.intro
  · intro accepted
    refine ⟨accepted.2,?_⟩
    intro http loopback
    by_contra outside
    exact accepted.1 ⟨http,loopback,outside⟩
  · intro allowed
    refine ⟨?_,allowed.1⟩
    intro refused
    exact refused.2.2 (allowed.2 refused.1 refused.2.1)

theorem gateScheme_ok (url : UrlCrate) (parsed : url.Url) (allowLoopback : Bool) (value : Unit) :
    gateScheme url parsed allowLoopback = .ok value ↔
      url.scheme parsed = "https" ∨ (url.scheme parsed = "http" ∧ allowLoopback = true) := by
  unfold gateScheme
  by_cases https : url.scheme parsed = "https"
  · simp [https]
  · by_cases http : url.scheme parsed = "http"
    · simp [http,Except.ensure_ok]
    · simp [https,http]

theorem gateLiteral_ok (url : UrlCrate) (parsed : url.Url) (allowLoopback : Bool) (nat64 : Nat64Policy)
    (host : String) (ip : IpAddr) (value : Unit) (named : url.hostStr parsed = some host)
    (literal : IpText.parseIp (trimBrackets host) = some ip)
    (passed : gateLiteral url parsed allowLoopback nat64 = .ok value) :
    AllowedIp url parsed allowLoopback nat64 ip := by
  have recognised : (IpText.parseIpv4 (trimBrackets host)).isSome ∨
      (IpText.parseIpv6 (trimBrackets host)).isSome := by
    obtain ⟨addr,_,v4⟩ | ⟨addr,_,_,v6⟩ := IpText.parseIp_cases _ ip literal
    · exact Or.inl (by rw [v4]; rfl)
    · exact Or.inr (by rw [v6]; rfl)
  unfold gateLiteral at passed
  rw [named] at passed
  simp only [if_pos recognised] at passed
  exact (classifyResolvedAddress_ok url _ ip parsed allowLoopback nat64 value literal).mp passed

end SolidOidcVerifier
