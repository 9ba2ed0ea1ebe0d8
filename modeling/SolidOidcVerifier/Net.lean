import SolidOidcVerifier.Crates
import SolidOidcVerifier.Webid

/-! The fetch primitive: every hop is gated, resolved, classified and pinned before it connects. -/
namespace SolidOidcVerifier
open Foundation

def maxBodyBytes : Nat := 1024*1024

def maxRedirects : Nat := 5

structure SafeFetchConfig where
  allowLoopback : Bool
  timeoutSecs : Nat
  maxBodyBytes : Nat
  maxRedirects : Nat
  nat64 : Nat64Policy

def SafeFetchConfig.default : SafeFetchConfig :=
  ⟨false,10,SolidOidcVerifier.maxBodyBytes,SolidOidcVerifier.maxRedirects,.strict⟩

structure SafeResponse where
  body : List UInt8
  finalUrl : String
deriving DecidableEq,Repr

structure SocketAddr where
  ip : IpAddr
  port : Nat
deriving DecidableEq,Repr

structure HopRequest where
  url : String
  host : String
  accept : String
  pinnedAddrs : List SocketAddr
  timeoutSecs : Nat
  maxBodyBytes : Nat
deriving DecidableEq,Repr

inductive BodyRead where
  | byte (value : UInt8)
  | finished
  | failed (text : String)
deriving DecidableEq,Repr

/-- A response. `location` is the header where it is visible ASCII; `statusText` is the status as it is
displayed. -/
structure Response where
  status : Nat
  statusText : String
  location : Option String
  contentLength : Option Nat
  body : Nat → BodyRead

/-- DNS and the servers, over a state that any of their answers may change. `exchange` is one request
of the pinned client, which connects to the pinned addresses only. -/
structure Network (N : Type) where
  resolveHost : String → N → Except String (List IpAddr) × N
  exchange : HopRequest → N → Except String Response × N

inductive NetCall where
  | resolve (host : String)
  | connect (request : HopRequest) (answer : Except String Response)

structure NetWorld (N : Type) where
  network : N
  calls : List NetCall

inductive HopOutcome where
  | redirect (location : String)
  | body (bytes : List UInt8)
deriving DecidableEq,Repr

def isRedirection (status : Nat) : Bool := decide (300 ≤ status ∧ status < 400)

def isSuccess (status : Nat) : Bool := decide (200 ≤ status ∧ status < 300)

/-- `read_to_end` of at most `left` bytes from the position on. -/
def readToEnd (body : Nat → BodyRead) : (left position : Nat) → Except String (List UInt8)
  | 0,_ => .ok []
  | left+1,position =>
    match body position with
    | .byte value => do
      let rest ← readToEnd body left (position+1)
      return value :: rest
    | .finished => .ok []
    | .failed text => .error ("body read failed: " ++ text)

def readBounded (body : Nat → BodyRead) (max : Nat) : Except String (List UInt8) := do
  -- One byte past the cap shows an oversized body.
  let limit := min (max+1) (2^64-1)
  let buf ← readToEnd body limit 0
  ensure (¬max < buf.length) "response body exceeds the size cap."
  return buf

variable {N : Type}

def resolveHost (network : Network N) (host : String) : Exec (NetWorld N) String (List IpAddr) := fun world =>
  let (answer,after) := network.resolveHost host world.network
  (answer.mapError .rejected,⟨after,world.calls ++ [.resolve host]⟩)

def send (network : Network N) (request : HopRequest) : Exec (NetWorld N) String Response := fun world =>
  let (answer,after) := network.exchange request world.network
  (answer.mapError .rejected,⟨after,world.calls ++ [.connect request answer]⟩)

def readResponse (resp : Response) (max : Nat) : Except String HopOutcome :=
  if isRedirection resp.status then do
    let location ← orError resp.location "redirect without a Location header."
    return .redirect location
  else do
    ensure (isSuccess resp.status) ("upstream returned HTTP " ++ resp.statusText ++ ".")
    ensure (∀ len ∈ resp.contentLength, len ≤ max) "response body exceeds the size cap."
    let body ← readBounded resp.body max
    return .body body

def runHttpHop (network : Network N) (req : HopRequest) : Exec (NetWorld N) String HopOutcome := do
  let resp ← send network req
  Exec.lift (readResponse resp req.maxBodyBytes)

def classifyRecords (url : UrlCrate) (config : SafeFetchConfig) (parsed : url.Url) :
    List IpAddr → Except String Unit
  | [] => .ok ()
  | ip :: rest => do
    classifyResolvedAddressWithNat64 url (IpText.display ip) parsed config.allowLoopback config.nat64
    classifyRecords url config parsed rest

def acceptRecords (url : UrlCrate) (config : SafeFetchConfig) (parsed : url.Url) (records : List IpAddr) :
    Except String (List IpAddr) := do
  ensure (records ≠ []) "host did not resolve to any address."
  classifyRecords url config parsed records
  return records

/-- The addresses of a hop: the literal that the gate has classified, or every classified record. -/
def pinnedIps (network : Network N) (url : UrlCrate) (config : SafeFetchConfig) (parsed : url.Url)
    (host : String) : Exec (NetWorld N) String (List IpAddr) :=
  match IpText.parseIp host with
  | some ip => pure [ip]
  | none => do
    let records ← resolveHost network host
    Exec.lift (acceptRecords url config parsed records)

def gateHop (url : UrlCrate) (config : SafeFetchConfig) (current : String) :
    Except String (url.Url × String) := do
  ssrfGateStaticWithNat64 url current config.allowLoopback config.nat64
  let parsed ← orError (url.parse current) "URL is malformed."
  let host ← orError (url.hostStr parsed) "URL has no host."
  return (parsed,trimBrackets host)

def hopRequest (url : UrlCrate) (config : SafeFetchConfig) (accept : String) (parsed : url.Url) (host : String)
    (pinned : List IpAddr) : Except String HopRequest := do
  let port ← orError (url.portOrKnownDefault parsed) "URL has no usable port."
  return {
    url := url.toText parsed
    host := host
    accept := accept
    pinnedAddrs := pinned.map fun ip => ⟨ip,port⟩
    timeoutSecs := config.timeoutSecs
    maxBodyBytes := config.maxBodyBytes }

/-- A redirect is resolved against the URL of the hop; it is gated when the loop turns. -/
def follow (url : UrlCrate) (parsed : url.Url) : HopOutcome → Except String (SafeResponse ⊕ String)
  | .redirect location => do
    let next ← orError (url.join parsed location) "redirect Location is malformed."
    return .inr (url.toText next)
  | .body body => return .inl ⟨body,url.toText parsed⟩

def hop (network : Network N) (url : UrlCrate) (config : SafeFetchConfig) (accept current : String) :
    Exec (NetWorld N) String (SafeResponse ⊕ String) := do
  let (parsed,host) ← Exec.lift (gateHop url config current)
  let pinned ← pinnedIps network url config parsed host
  let request ← Exec.lift (hopRequest url config accept parsed host pinned)
  let outcome ← runHttpHop network request
  Exec.lift (follow url parsed outcome)

def hops (network : Network N) (url : UrlCrate) (config : SafeFetchConfig) (accept : String) :
    (left : Nat) → (current : String) → Exec (NetWorld N) String SafeResponse
  | 0,_ => Exec.lift (.error "too many redirects.")
  | left+1,current => do
    let found ← hop network url config accept current
    match found with
    | .inl response => return response
    | .inr next => hops network url config accept left next

/-- `SafeFetcher::get`: the first request and up to `max_redirects` redirects. -/
def get (network : Network N) (url : UrlCrate) (config : SafeFetchConfig) (start accept : String) :
    Exec (NetWorld N) String SafeResponse :=
  hops network url config accept (config.maxRedirects+1) start

end SolidOidcVerifier
