import SolidOidcVerifier.Net

/-! Whatever DNS and the servers answer, a fetch connects only to addresses that it classified for the
hop's own URL, and its body is within the cap. -/
namespace SolidOidcVerifier
open Foundation

/-- A connection of a hop that started from the URL `current`. -/
structure Pinned (url : UrlCrate) (config : SafeFetchConfig) (current : String) (parsed : url.Url)
    (request : HopRequest) : Prop where
  read : url.parse current = some parsed
  target : request.url = url.toText parsed
  host : ∃ host, url.hostStr parsed = some host ∧ request.host = trimBrackets host
  gate : ssrfGateStaticWithNat64 url current config.allowLoopback config.nat64 = .ok ()
  scheme : url.scheme parsed = "https" ∨ (url.scheme parsed = "http" ∧ config.allowLoopback = true)
  userinfo : url.username parsed = "" ∧ url.password parsed = none
  filled : request.pinnedAddrs ≠ []
  classified : ∀ addr ∈ request.pinnedAddrs, classifyResolvedAddressWithNat64 url (IpText.display addr.ip) parsed
    config.allowLoopback config.nat64 = .ok ()
  isPublic : ∀ addr ∈ request.pinnedAddrs, PublicIp config.nat64 config.allowLoopback addr.ip
  loopback : url.scheme parsed = "http" → ∀ addr ∈ request.pinnedAddrs, LoopbackIp addr.ip
  literal : ∀ ip, IpText.parseIp request.host = some ip → ∀ addr ∈ request.pinnedAddrs, addr.ip = ip

/-- What one hop did: the URL it started from, the hosts it resolved and the connections it opened. -/
structure HopLog where
  current : String
  resolved : List String
  connected : List (HopRequest × Except String Response)

def HopLog.calls (log : HopLog) : List NetCall :=
  log.resolved.map .resolve ++ log.connected.map fun (request,answer) => .connect request answer

structure HopLog.Safe (url : UrlCrate) (config : SafeFetchConfig) (log : HopLog) : Prop where
  resolvedOnce : log.resolved.length ≤ 1
  connectedOnce : log.connected.length ≤ 1
  pinned : ∀ connection ∈ log.connected, ∃ parsed, Pinned url config log.current parsed connection.1 ∧
    ∀ host ∈ log.resolved, host = connection.1.host

def BeginsWith (body : Nat → BodyRead) (bytes : List UInt8) : Prop :=
  ∀ i (bound : i < bytes.length), body i = .byte bytes[i]

/-- The response is the body of a successful answer to the last connection of the hop. -/
def HopLog.Answers (config : SafeFetchConfig) (log : HopLog) (response : SafeResponse) : Prop :=
  ∃ request answer, log.connected = [(request,.ok answer)] ∧ 200 ≤ answer.status ∧ answer.status < 300 ∧
    response.finalUrl = request.url ∧ response.body.length ≤ config.maxBodyBytes ∧
    BeginsWith answer.body response.body ∧
    (config.maxBodyBytes < 2^64-1 → answer.body response.body.length = .finished)

theorem readToEnd_ok (body : Nat → BodyRead) (left : Nat) :
    ∀ position bytes, readToEnd body left position = .ok bytes → bytes.length ≤ left ∧
      (∀ i (bound : i < bytes.length), body (position+i) = .byte bytes[i]) ∧
      (bytes.length = left ∨ body (position+bytes.length) = .finished) := by
  induction left with
  | zero =>
    intro position bytes read
    cases read
    exact ⟨Nat.le_refl 0,by simp,Or.inl rfl⟩
  | succ left ih =>
    intro position bytes read
    unfold readToEnd at read
    cases next : body position with
    | byte value =>
      rw [next] at read
      obtain ⟨rest,tail,same⟩ := (Except.bind_ok _ _ _).mp read
      cases same
      obtain ⟨short,bytes,ends⟩ := ih (position+1) rest tail
      refine ⟨Nat.succ_le_succ short,?_,?_⟩
      · intro i bound
        cases i with
        | zero => exact next
        | succ i =>
          have shifted := bytes i (Nat.lt_of_succ_lt_succ bound)
          rw [show position+(i+1) = position+1+i by omega]
          exact shifted
      · obtain full | finished := ends
        · exact Or.inl (congrArg Nat.succ full)
        · right
          rw [List.length_cons,show position+(rest.length+1) = position+1+rest.length by omega]
          exact finished
    | finished =>
      rw [next] at read
      cases read
      exact ⟨Nat.zero_le _,by simp,Or.inr next⟩
    | failed text =>
      rw [next] at read
      cases read

theorem readBounded_ok (body : Nat → BodyRead) (max : Nat) (bytes : List UInt8)
    (read : readBounded body max = .ok bytes) : bytes.length ≤ max ∧ BeginsWith body bytes ∧
      (max < 2^64-1 → body bytes.length = .finished) := by
  unfold readBounded at read
  simp only [Except.bind_ok,Except.ensure_ok,exists_const] at read
  obtain ⟨found,ran,short,same⟩ := read
  cases same
  obtain ⟨_,prefixed,ends⟩ := readToEnd_ok body _ 0 _ ran
  refine ⟨Nat.not_lt.mp short,?_,?_⟩
  · intro i bound
    have here := prefixed i bound
    rwa [Nat.zero_add] at here
  · intro narrow
    obtain full | finished := ends
    · omega
    · rwa [Nat.zero_add] at finished

theorem classifyRecords_ok (url : UrlCrate) (config : SafeFetchConfig) (parsed : url.Url)
    (records : List IpAddr) (value : Unit) :
    classifyRecords url config parsed records = .ok value ↔ ∀ ip ∈ records, classifyResolvedAddressWithNat64 url
      (IpText.display ip) parsed config.allowLoopback config.nat64 = .ok () := by
  induction records with
  | nil => simp [classifyRecords]
  | cons ip rest ih =>
    unfold classifyRecords
    rw [Except.bind_ok,List.forall_mem_cons]
    apply Iff.intro
    · intro run
      obtain ⟨_,first,others⟩ := run
      exact ⟨first,ih.mp others⟩
    · intro all
      exact ⟨(),all.1,ih.mpr all.2⟩

theorem gateHop_ok (url : UrlCrate) (config : SafeFetchConfig) (current host : String) (parsed : url.Url) :
    gateHop url config current = .ok (parsed,host) ↔
      ssrfGateStaticWithNat64 url current config.allowLoopback config.nat64 = .ok () ∧
        url.parse current = some parsed ∧ ∃ named, url.hostStr parsed = some named ∧ host = trimBrackets named := by
  unfold gateHop
  simp only [Except.bind_ok,Except.orError_ok]
  apply Iff.intro
  · intro run
    obtain ⟨_,gate,found,read,named,host,same⟩ := run
    cases same
    exact ⟨gate,read,named,host,rfl⟩
  · intro facts
    obtain ⟨gate,read,named,host,same⟩ := facts
    exact ⟨(),gate,parsed,read,named,host,by rw [same]; rfl⟩

theorem ssrfGate_ok (url : UrlCrate) (current : String) (parsed : url.Url) (allowLoopback : Bool)
    (nat64 : Nat64Policy) (read : url.parse current = some parsed)
    (gate : ssrfGateStaticWithNat64 url current allowLoopback nat64 = .ok ()) :
    (url.scheme parsed = "https" ∨ (url.scheme parsed = "http" ∧ allowLoopback = true)) ∧
      (url.username parsed = "" ∧ url.password parsed = none) ∧
      gateLiteral url parsed allowLoopback nat64 = .ok () := by
  unfold ssrfGateStaticWithNat64 at gate
  simp only [Except.bind_ok,Except.orError_ok,Except.ensure_ok,gateScheme_ok,exists_const] at gate
  obtain ⟨found,same,scheme,userinfo,literal⟩ := gate
  rw [read] at same
  cases same
  exact ⟨scheme,userinfo,literal⟩

variable {N : Type}

theorem pinnedIps_run (network : Network N) (url : UrlCrate) (config : SafeFetchConfig) (parsed : url.Url)
    (host : String) (world after : NetWorld N) (result : Except (Stop String) (List IpAddr))
    (gated : ∀ ip, IpText.parseIp host = some ip →
      AllowedIp url parsed config.allowLoopback config.nat64 ip)
    (ran : pinnedIps network url config parsed host world = (result,after)) :
    ∃ resolved : List String, after.calls = world.calls ++ resolved.map .resolve ∧ resolved.length ≤ 1 ∧
      (∀ name ∈ resolved, name = host) ∧ ∀ pinned, result = .ok pinned → pinned ≠ [] ∧
        (∀ ip ∈ pinned, AllowedIp url parsed config.allowLoopback config.nat64 ip) ∧
        ∀ ip, IpText.parseIp host = some ip → pinned = [ip] := by
  unfold pinnedIps at ran
  cases literal : IpText.parseIp host with
  | some ip =>
    rw [literal] at ran
    cases ran
    refine ⟨[],by simp,by simp,by simp,?_⟩
    intro pinned same
    cases same
    refine ⟨by simp,?_,?_⟩
    · intro other member
      rw [List.mem_singleton.mp member]
      exact gated ip literal
    · intro other same
      cases same
      rfl
  | none =>
    rw [literal] at ran
    generalize looked : network.resolveHost host world.network = lookup
    obtain ⟨answer,state⟩ := lookup
    have asked : resolveHost network host world =
        (answer.mapError .rejected,⟨state,world.calls ++ [.resolve host]⟩) := by
      unfold resolveHost
      rw [looked]
    change (resolveHost network host >>= fun records => Exec.lift (acceptRecords url config parsed records)) world =
      (result,after) at ran
    cases answer with
    | error text =>
      rw [Exec.bind_of_error _ _ _ _ _ asked] at ran
      cases ran
      exact ⟨[host],rfl,by simp,by simp,fun pinned impossible => by cases impossible⟩
    | ok records =>
      rw [Exec.bind_of_ok _ _ _ _ records asked] at ran
      cases ran
      refine ⟨[host],rfl,by simp,by simp,?_⟩
      intro pinned accepted
      rw [Except.mapError_ok] at accepted
      unfold acceptRecords at accepted
      simp only [Except.bind_ok,Except.ensure_ok,classifyRecords_ok,exists_const] at accepted
      obtain ⟨filled,classified,same⟩ := accepted
      cases same
      refine ⟨filled,?_,by simp⟩
      intro ip member
      exact (classifyResolvedAddress_ok url _ ip parsed _ _ () (IpText.parseIp_display ip)).mp
        (classified ip member)

theorem answers_of_body (url : UrlCrate) (config : SafeFetchConfig) (parsed : url.Url)
    (request : HopRequest) (answer : Response) (outcome : HopOutcome) (response : SafeResponse)
    (current : String) (resolved : List String) (target : request.url = url.toText parsed)
    (read : readResponse answer config.maxBodyBytes = .ok outcome)
    (followed : follow url parsed outcome = .ok (.inl response)) :
    HopLog.Answers config ⟨current,resolved,[(request,.ok answer)]⟩ response := by
  cases outcome with
  | redirect location =>
    obtain ⟨next,_,impossible⟩ := (Except.bind_ok _ _ _).mp followed
    cases impossible
  | body bytes =>
    cases followed
    unfold readResponse at read
    split at read
    · obtain ⟨location,_,impossible⟩ := (Except.bind_ok _ _ _).mp read
      cases impossible
    · simp only [Except.bind_ok,Except.ensure_ok,exists_const] at read
      obtain ⟨success,_,found,bounded,same⟩ := read
      cases same
      obtain ⟨short,begins,ends⟩ := readBounded_ok answer.body config.maxBodyBytes bytes bounded
      unfold isSuccess at success
      rw [decide_eq_true_eq] at success
      exact ⟨request,answer,rfl,success.1,success.2,target.symm,short,begins,ends⟩

theorem exchange_run (network : Network N) (url : UrlCrate) (config : SafeFetchConfig) (parsed : url.Url)
    (request : HopRequest) (world after : NetWorld N) (result : Except (Stop String) (SafeResponse ⊕ String))
    (target : request.url = url.toText parsed) (capped : request.maxBodyBytes = config.maxBodyBytes)
    (ran : (runHttpHop network request >>= fun outcome => Exec.lift (follow url parsed outcome)) world =
      (result,after)) :
    ∃ answer, after.calls = world.calls ++ [.connect request answer] ∧
      ∀ response, result = .ok (.inl response) → ∀ current resolved,
        HopLog.Answers config ⟨current,resolved,[(request,answer)]⟩ response := by
  generalize exchanged : network.exchange request world.network = exchange
  obtain ⟨answer,state⟩ := exchange
  have sent : send network request world =
      (answer.mapError .rejected,⟨state,world.calls ++ [.connect request answer]⟩) := by
    unfold send
    rw [exchanged]
  refine ⟨answer,?_⟩
  cases answer with
  | error text =>
    have failed : runHttpHop network request world =
        (.error (.rejected text),⟨state,world.calls ++ [.connect request (.error text)]⟩) :=
      Exec.bind_of_error _ _ _ _ _ sent
    rw [Exec.bind_of_error _ _ _ _ _ failed] at ran
    cases ran
    exact ⟨rfl,fun response impossible => by cases impossible⟩
  | ok answer =>
    have read : runHttpHop network request world =
        ((readResponse answer request.maxBodyBytes).mapError .rejected,
          ⟨state,world.calls ++ [.connect request (.ok answer)]⟩) :=
      Exec.bind_of_ok _ _ _ _ _ sent
    rw [capped] at read
    cases found : readResponse answer config.maxBodyBytes with
    | error text =>
      rw [found] at read
      rw [Exec.bind_of_error _ _ _ _ _ read] at ran
      cases ran
      exact ⟨rfl,fun response impossible => by cases impossible⟩
    | ok outcome =>
      rw [found] at read
      rw [Exec.bind_of_ok _ _ _ _ outcome read] at ran
      cases ran
      refine ⟨rfl,?_⟩
      intro response followed current resolved
      rw [Except.mapError_ok] at followed
      exact answers_of_body url config parsed request answer outcome response current resolved target
        found followed

theorem hopRequest_pinned (url : UrlCrate) (config : SafeFetchConfig) (accept current named : String)
    (parsed : url.Url) (pins : List IpAddr) (request : HopRequest)
    (gate : ssrfGateStaticWithNat64 url current config.allowLoopback config.nat64 = .ok ())
    (read : url.parse current = some parsed) (spelled : url.hostStr parsed = some named) (filled : pins ≠ [])
    (allowed : ∀ ip ∈ pins, AllowedIp url parsed config.allowLoopback config.nat64 ip)
    (literal : ∀ ip, IpText.parseIp (trimBrackets named) = some ip → pins = [ip])
    (prepared : hopRequest url config accept parsed (trimBrackets named) pins = .ok request) :
    Pinned url config current parsed request ∧ request.maxBodyBytes = config.maxBodyBytes ∧
      request.host = trimBrackets named := by
  obtain ⟨port,_,built⟩ := (Except.bind_ok _ _ _).mp prepared
  cases built
  obtain ⟨scheme,userinfo,_⟩ := ssrfGate_ok url current parsed _ _ read gate
  have each : ∀ addr ∈ pins.map fun ip => SocketAddr.mk ip port,
      AllowedIp url parsed config.allowLoopback config.nat64 addr.ip := by
    intro addr member
    obtain ⟨ip,inside,same⟩ := List.mem_map.mp member
    rw [← same]
    exact allowed ip inside
  refine ⟨?_,rfl,rfl⟩
  exact {
    read := read
    target := rfl
    host := ⟨named,spelled,rfl⟩
    gate := gate
    scheme := scheme
    userinfo := userinfo
    filled := by simpa using filled
    classified := by
      intro addr member
      exact (classifyResolvedAddress_ok url _ addr.ip parsed _ _ () (IpText.parseIp_display addr.ip)).mpr
        (each addr member)
    isPublic := fun addr member => (each addr member).1
    loopback := by
      intro http addr member
      obtain https | ⟨_,loopback⟩ := scheme
      · rw [http] at https
        exact absurd https (by decide)
      · exact (each addr member).2 http loopback
    literal := by
      intro ip address addr member
      obtain ⟨other,inside,same⟩ := List.mem_map.mp member
      rw [literal ip address] at inside
      rw [← same]
      exact List.mem_singleton.mp inside }

/-- A hop does nothing but look its host up and connect to addresses that it pinned. -/
theorem hop_run (network : Network N) (url : UrlCrate) (config : SafeFetchConfig) (accept current : String)
    (world after : NetWorld N) (result : Except (Stop String) (SafeResponse ⊕ String))
    (ran : hop network url config accept current world = (result,after)) :
    ∃ log : HopLog, after.calls = world.calls ++ log.calls ∧ log.Safe url config ∧
      ∀ response, result = .ok (.inl response) → log.Answers config response := by
  change (Exec.lift (gateHop url config current) >>= fun found => _) world = (result,after) at ran
  cases gated : gateHop url config current with
  | error text =>
    rw [Exec.bind_of_error (Exec.lift (gateHop url config current)) _ world world (.rejected text) (by
      rw [gated]; rfl)] at ran
    cases ran
    refine ⟨⟨current,[],[]⟩,by simp [HopLog.calls],⟨by simp,by simp,by simp⟩,?_⟩
    intro response impossible
    cases impossible
  | ok found =>
    obtain ⟨parsed,host⟩ := found
    rw [Exec.bind_of_ok (Exec.lift (gateHop url config current)) _ world world (parsed,host) (by
      rw [gated]; rfl)] at ran
    obtain ⟨gate,read,named,spelled,same⟩ := (gateHop_ok url config current host parsed).mp gated
    obtain ⟨scheme,userinfo,literal⟩ := ssrfGate_ok url current parsed _ _ read gate
    have allowed : ∀ ip, IpText.parseIp host = some ip →
        AllowedIp url parsed config.allowLoopback config.nat64 ip := by
      intro ip address
      rw [same] at address
      exact gateLiteral_ok url parsed _ _ named ip () spelled address literal
    generalize looked : pinnedIps network url config parsed host world = outcome
    obtain ⟨pinnedResult,middle⟩ := outcome
    obtain ⟨resolved,calls,once,own,pinned⟩ :=
      pinnedIps_run network url config parsed host world middle pinnedResult allowed looked
    change (pinnedIps network url config parsed host >>= fun pinned => _) world = (result,after) at ran
    have unconnected : after = middle → (∀ response, result ≠ .ok (.inl response)) → ∃ log : HopLog,
        after.calls = world.calls ++ log.calls ∧ log.Safe url config ∧
          ∀ response, result = .ok (.inl response) → log.Answers config response := by
      intro ended failed
      refine ⟨⟨current,resolved,[]⟩,?_,⟨once,by simp,by simp⟩,?_⟩
      · rw [ended,calls]
        simp [HopLog.calls]
      · intro response answered
        exact absurd answered (failed response)
    cases pinnedResult with
    | error stop =>
      rw [Exec.bind_of_error _ _ world middle stop looked] at ran
      cases ran
      exact unconnected rfl (fun response impossible => by cases impossible)
    | ok pins =>
      rw [Exec.bind_of_ok _ _ world middle pins looked] at ran
      obtain ⟨filled,classified,only⟩ := pinned pins rfl
      cases prepared : hopRequest url config accept parsed host pins with
      | error text =>
        rw [Exec.bind_of_error (Exec.lift (hopRequest url config accept parsed host pins)) _ middle middle
          (.rejected text) (by rw [prepared]; rfl)] at ran
        cases ran
        exact unconnected rfl (fun response impossible => by cases impossible)
      | ok request =>
        rw [Exec.bind_of_ok (Exec.lift (hopRequest url config accept parsed host pins)) _ middle middle
          request (by rw [prepared]; rfl)] at ran
        rw [same] at prepared only own
        obtain ⟨safe,capped,host⟩ := hopRequest_pinned url config accept current named parsed pins request gate
          read spelled filled classified only prepared
        obtain ⟨answer,connected,answers⟩ :=
          exchange_run network url config parsed request middle after result safe.target capped ran
        refine ⟨⟨current,resolved,[(request,answer)]⟩,?_,⟨once,by simp,?_⟩,?_⟩
        · rw [connected,calls]
          simp [HopLog.calls]
        · intro connection member
          rw [List.mem_singleton.mp member]
          refine ⟨parsed,safe,?_⟩
          intro name inside
          rw [own name inside,host]
        · intro response answered
          exact answers response answered current resolved

/-- The run of the loop is a list of safe hops, at most as many as are left. -/
theorem hops_run (network : Network N) (url : UrlCrate) (config : SafeFetchConfig) (accept : String)
    (left : Nat) : ∀ (current : String) (world after : NetWorld N) (result : Except (Stop String) SafeResponse),
    hops network url config accept left current world = (result,after) → ∃ logs : List HopLog,
      after.calls = world.calls ++ logs.flatMap HopLog.calls ∧ logs.length ≤ left ∧
        (∀ log ∈ logs, log.Safe url config) ∧ ∀ response, result = .ok response →
          ∃ log, logs.getLast? = some log ∧ log.Answers config response := by
  induction left with
  | zero =>
    intro current world after result ran
    cases ran
    exact ⟨[],by simp,by simp,by simp,fun response impossible => by cases impossible⟩
  | succ left ih =>
    intro current world after result ran
    unfold hops at ran
    generalize turned : hop network url config accept current world = outcome
    obtain ⟨found,middle⟩ := outcome
    obtain ⟨log,calls,safe,answers⟩ := hop_run network url config accept current world middle found turned
    cases found with
    | error stop =>
      rw [Exec.bind_of_error _ _ world middle stop turned] at ran
      cases ran
      refine ⟨[log],by simpa using calls,by simp,by simpa using safe,?_⟩
      intro response impossible
      cases impossible
    | ok turn =>
      rw [Exec.bind_of_ok _ _ world middle turn turned] at ran
      cases turn with
      | inl response =>
        cases ran
        refine ⟨[log],by simpa using calls,by simp,by simpa using safe,?_⟩
        intro other same
        cases same
        exact ⟨log,rfl,answers response rfl⟩
      | inr next =>
        obtain ⟨logs,further,short,each,last⟩ := ih next middle after result ran
        refine ⟨log :: logs,?_,Nat.succ_le_succ short,?_,?_⟩
        · rw [further,calls,List.flatMap_cons,List.append_assoc]
        · intro other member
          rcases List.mem_cons.mp member with same | inside
          · rw [same]
            exact safe
          · exact each other inside
        · intro response answered
          obtain ⟨final,ends,body⟩ := last response answered
          refine ⟨final,?_,body⟩
          rw [List.getLast?_cons,ends]
          rfl

/-- Against every DNS and every server, a fetch is a list of at most `max_redirects + 1` hops, each of
which resolves its host at most once and connects at most once, to a non-empty list of addresses that
are all allowed for its gated URL; its response is the capped body that the last hop was sent. -/
theorem get_pins_every_hop (network : Network N) (url : UrlCrate) (config : SafeFetchConfig)
    (start accept : String) (world : NetWorld N) :
    ∃ logs : List HopLog,
      (get network url config start accept world).2.calls = world.calls ++ logs.flatMap HopLog.calls ∧
      logs.length ≤ config.maxRedirects+1 ∧
      (logs.flatMap HopLog.connected).length ≤ config.maxRedirects+1 ∧
      (∀ log ∈ logs, log.Safe url config) ∧
      ∀ response, (get network url config start accept world).1 = .ok response →
        ∃ log, logs.getLast? = some log ∧ log.Answers config response := by
  obtain ⟨logs,calls,short,safe,last⟩ :=
    hops_run network url config accept (config.maxRedirects+1) start world _ _ rfl
  refine ⟨logs,calls,short,?_,safe,last⟩
  have each : (logs.flatMap HopLog.connected).length ≤ logs.length := by
    rw [List.length_flatMap]
    have bound := List.sum_le_card_nsmul (logs.map fun log => log.connected.length) 1 (by
      intro n member
      obtain ⟨log,inside,same⟩ := List.mem_map.mp member
      rw [← same]
      exact (safe log inside).connectedOnce)
    simpa using bound
  exact each.trans short

end SolidOidcVerifier
