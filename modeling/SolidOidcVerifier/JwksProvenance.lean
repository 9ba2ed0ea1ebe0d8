import SolidOidcVerifier.JwksCache

/-! Where the keys come from that concurrent calls of `keys_for` return. -/
namespace SolidOidcVerifier
open Foundation

variable {N T : Type}

theorem JwksSystem.advance_stage (system : JwksSystem T) (call : Nat) (stage : JwksStage) :
    (system.advance call stage).stage call = some stage := Function.update_self call _ _

theorem JwksSystem.advance_other (system : JwksSystem T) (call other : Nat) (stage : JwksStage)
    (differs : other ≠ call) : (system.advance call stage).stage other = system.stage other :=
  Function.update_of_ne differs _ _

theorem JwksSystem.advance_reached (system : JwksSystem T) (call other : Nat) (stage reached : JwksStage)
    (now : (system.advance call stage).stage other = some reached) :
    other = call ∧ stage = reached ∨ system.stage other = some reached := by
  by_cases same : other = call
  · rw [same,system.advance_stage] at now
    exact Or.inl ⟨same,Option.some.inj now⟩
  · rw [system.advance_other call other stage same] at now
    exact Or.inr now

theorem JwksCache.insert_other (now : T) (issuer other : String) (keys : List Jwk) (cache : JwksCache T)
    (differs : other ≠ issuer) : (cache.insert now issuer keys).entries.lookup other = cache.entries.lookup other := by
  unfold JwksCache.insert
  by_cases locked : cache.poisoned = true
  · rw [if_pos locked]
  · rw [if_neg locked]
    exact AList.lookup_insert_ne differs

theorem JwksCache.insert_locked (cache : JwksCache T) (now : T) (issuer : String) (keys : List Jwk)
    (locked : cache.poisoned = true) : cache.insert now issuer keys = cache := if_pos locked

theorem JwksCache.insert_sound (cache : JwksCache T) (now : T) (issuer : String) (keys : List Jwk)
    (sound : cache.poisoned = false) :
    (cache.insert now issuer keys).entries.lookup issuer = some ⟨keys,now⟩ := by
  unfold JwksCache.insert
  rw [if_neg (by simp [sound])]
  exact AList.lookup_insert _

theorem JwksCache.insert_self (now : T) (issuer : String) (keys : List Jwk) (cache : JwksCache T) :
    cache.insert now issuer keys = cache ∨
      (cache.insert now issuer keys).entries.lookup issuer = some ⟨keys,now⟩ := by
  cases locked : cache.poisoned with
  | true => exact Or.inl (cache.insert_locked now issuer keys locked)
  | false => exact Or.inr (cache.insert_sound now issuer keys locked)

theorem JwksCache.insert_poisoned (cache : JwksCache T) (now : T) (issuer : String) (keys : List Jwk) :
    (cache.insert now issuer keys).poisoned = cache.poisoned := by
  unfold JwksCache.insert
  by_cases locked : cache.poisoned = true
  · rw [if_pos locked]
  · rw [if_neg locked]

variable [LinearOrder T] [Sub T] [Zero T]

theorem elapsed_of_le (fetchedAt now : T) (order : fetchedAt ≤ now) : elapsed fetchedAt now = now-fetchedAt :=
  if_pos order

namespace NetworkJwksProvider

def Accounted (provider : NetworkJwksProvider T) (start : T) (events : List (JwksEvent N T)) (call : Nat) :
    JwksStage → Prop
  | .fetching _ => True
  | .fetched issuer keys => FetchedBy provider start call issuer keys events
  | .returned _ (.error _) => True
  | .returned issuer (.ok keys) =>
    FetchedBy provider start call issuer keys events ∨ ServedFresh provider start call issuer keys events

/-- Every entry of the cache was stored by a call for its issuer, and every call is accounted for. -/
structure Sourced (provider : NetworkJwksProvider T) (start : T) (events : List (JwksEvent N T))
    (system : JwksSystem T) : Prop where
  entries : ∀ issuer entry, system.cache.entries.lookup issuer = some entry →
    entry.fetchedAt ≤ system.now ∧ StoredAt provider start issuer entry.keys entry.fetchedAt events
  calls : ∀ call stage, system.stage call = some stage → Accounted provider start events call stage

theorem Accounted.append {provider : NetworkJwksProvider T} {start : T} {events : List (JwksEvent N T)}
    {call : Nat} {stage : JwksStage} (before : Accounted provider start events call stage)
    (later : List (JwksEvent N T)) : Accounted provider start (events ++ later) call stage := by
  cases stage with
  | fetching issuer => trivial
  | fetched issuer keys => exact Happened.append _ _ _ before
  | returned issuer result =>
    cases result with
    | error stop => trivial
    | ok keys => exact Or.imp (Happened.append _ _ _) (Happened.append _ _ _) before

theorem Sourced.append {provider : NetworkJwksProvider T} {start : T} {events : List (JwksEvent N T)}
    {system : JwksSystem T} (before : Sourced provider start events system) (later : List (JwksEvent N T)) :
    Sourced provider start (events ++ later) system := by
  refine ⟨?_,?_⟩
  · intro issuer entry found
    obtain ⟨order,stored⟩ := before.entries issuer entry found
    exact ⟨order,Happened.append _ _ _ stored⟩
  · intro call stage was
    exact (before.calls call stage was).append later

theorem Sourced.advance {provider : NetworkJwksProvider T} {start : T} {events : List (JwksEvent N T)}
    {system : JwksSystem T} {call : Nat} {stage : JwksStage} (before : Sourced provider start events system)
    (accounted : Accounted provider start events call stage) :
    Sourced provider start events (system.advance call stage) := by
  refine ⟨before.entries,?_⟩
  intro other reached was
  obtain ⟨rfl,rfl⟩ | kept := system.advance_reached call other stage reached was
  · exact accounted
  · exact before.calls other reached kept

theorem Sourced.insert {provider : NetworkJwksProvider T} {start : T} {events : List (JwksEvent N T)}
    {system : JwksSystem T} {issuer : String} {keys : List Jwk} (before : Sourced provider start events system)
    (stored : StoredAt provider start issuer keys system.now events) :
    Sourced provider start events {system with cache := system.cache.insert system.now issuer keys} := by
  refine ⟨?_,before.calls⟩
  intro other entry found
  change (system.cache.insert system.now issuer keys).entries.lookup other = some entry at found
  by_cases same : other = issuer
  · obtain skipped | inserted := system.cache.insert_self system.now issuer keys
    · rw [skipped] at found
      exact before.entries other entry found
    · rw [same,inserted] at found
      cases found
      rw [same]
      exact ⟨le_refl _,stored⟩
  · rw [system.cache.insert_other system.now issuer other keys same] at found
    exact before.entries other entry found

theorem new_sourced (provider : NetworkJwksProvider T) (start : T) :
    Sourced provider start ([] : List (JwksEvent N T)) (.new start) := by
  refine ⟨?_,?_⟩
  · intro issuer entry found
    cases found
  · intro call stage was
    cases was

theorem step_sourced (provider : NetworkJwksProvider T) (start : T) (events : List (JwksEvent N T))
    (event : JwksEvent N T) (before : Sourced provider start events (provider.run events start)) :
    Sourced provider start (events ++ [event]) (provider.step event (provider.run events start)) := by
  have kept := before.append [event]
  have moved := step_moves provider event (provider.run events start)
  generalize provider.step event (provider.run events start) = after at moved
  cases moved with
  | none => exact kept
  | ticked reading =>
    refine ⟨?_,kept.calls⟩
    intro issuer entry found
    obtain ⟨order,stored⟩ := kept.entries issuer entry found
    exact ⟨le_max_of_le_left order,stored⟩
  | poisoned => exact ⟨kept.entries,kept.calls⟩
  | refused call issuer begins locked => exact kept.advance trivial
  | served call issuer entry begins found fresh =>
    obtain ⟨order,stored⟩ := before.entries issuer entry found
    rw [elapsed_of_le _ _ order] at fresh
    have served : ServedFresh provider start call issuer entry.keys (events ++ [.lookup call issuer]) :=
      Happened.last _ _ _ ⟨rfl,entry.fetchedAt,stored,found,order,fresh⟩
    exact kept.advance (Or.inr served)
  | missed call issuer begins => exact kept.advance trivial
  | failed call network world issuer stop was outcome => exact kept.advance trivial
  | fetched call network world issuer keys was outcome =>
    have fetched : FetchedBy provider start call issuer keys (events ++ [.fetch call network world]) :=
      Happened.last _ _ _ ⟨network,world,rfl,was,outcome⟩
    exact kept.advance fetched
  | stored call issuer keys was =>
    have fetched : FetchedBy provider start call issuer keys events := before.calls call _ was
    have stored : StoredAt provider start issuer keys (provider.run events start).now (events ++ [.store call]) :=
      Happened.last _ _ _ ⟨call,rfl,rfl,fetched⟩
    have returned : Accounted provider start (events ++ [.store call]) call (.returned issuer (.ok keys)) :=
      Or.inl (Happened.append _ _ _ fetched)
    exact (kept.insert stored).advance returned

theorem run_sourced (provider : NetworkJwksProvider T) (start : T) (events : List (JwksEvent N T)) :
    Sourced provider start events (provider.run events start) :=
  History.run_keeps provider.step (.new start) (Sourced provider start) (new_sourced provider start)
    (step_sourced provider start) events

theorem fetchedBy_discovered (provider : NetworkJwksProvider T) (start : T) (call : Nat) (issuer : String)
    (keys : List Jwk) (events : List (JwksEvent N T)) (fetched : FetchedBy provider start call issuer keys events) :
    ∃ (network : Network N) (world : NetWorld N), (provider.fetchKeys network issuer world).1 = .ok keys ∧
      Discovered provider network world issuer keys := by
  obtain ⟨_,_,_,_,network,world,_,_,outcome⟩ := fetched
  exact ⟨network,world,outcome,fetchKeys_discovered provider network issuer world keys outcome⟩

theorem servedFresh_discovered (provider : NetworkJwksProvider T) (start : T) (call : Nat) (issuer : String)
    (keys : List Jwk) (events : List (JwksEvent N T)) (served : ServedFresh provider start call issuer keys events) :
    ∃ (network : Network N) (world : NetWorld N), (provider.fetchKeys network issuer world).1 = .ok keys ∧
      Discovered provider network world issuer keys := by
  obtain ⟨before,_,_,_,_,instant,stored,_⟩ := served
  obtain ⟨earlier,_,_,_,storer,_,_,fetched⟩ := stored
  exact fetchedBy_discovered provider start storer issuer keys earlier fetched

theorem step_returned (provider : NetworkJwksProvider T) (event : JwksEvent N T) (system : JwksSystem T)
    (call : Nat) (issuer : String) (result : Except (Stop String) (List Jwk))
    (returned : system.stage call = some (.returned issuer result)) :
    (provider.step event system).stage call = some (.returned issuer result) := by
  have moved := step_moves provider event system
  generalize provider.step event system = after at moved
  have others : ∀ other stage, system.stage other ≠ some (.returned issuer result) →
      (system.advance other stage).stage call = some (.returned issuer result) := by
    intro other stage unreturned
    rw [system.advance_other other call stage]
    · exact returned
    · intro same
      rw [← same] at unreturned
      exact unreturned returned
  cases moved with
  | none => exact returned
  | ticked reading => exact returned
  | poisoned => exact returned
  | refused other _ begins _ => exact others other _ (by simp [begins])
  | served other _ _ begins _ _ => exact others other _ (by simp [begins])
  | missed other _ begins => exact others other _ (by simp [begins])
  | failed other _ _ _ _ was _ => exact others other _ (by simp [was])
  | fetched other _ _ _ _ was _ => exact others other _ (by simp [was])
  | stored other _ _ was => exact others other _ (by simp [was])

theorem step_failed (provider : NetworkJwksProvider T) (network : Network N) (world : NetWorld N)
    (system : JwksSystem T) (call : Nat) (issuer : String) (stop : Stop String)
    (was : system.stage call = some (.fetching issuer))
    (failed : (provider.fetchKeys network issuer world).1 = .error stop) :
    provider.step (.fetch call network world) system = system.advance call (.returned issuer (.error stop)) := by
  simp only [step,was,failed,fetchStage]

theorem step_entries (provider : NetworkJwksProvider T) (event : JwksEvent N T) (system : JwksSystem T)
    (issuer : String) :
    (provider.step event system).cache.entries.lookup issuer = system.cache.entries.lookup issuer ∨
      ∃ call keys, event = .store call ∧ system.stage call = some (.fetched issuer keys) := by
  have moved := step_moves provider event system
  generalize provider.step event system = after at moved
  cases moved with
  | stored call other keys was =>
    by_cases same : issuer = other
    · rw [← same] at was
      exact Or.inr ⟨call,keys,rfl,was⟩
    · exact Or.inl (system.cache.insert_other system.now other issuer keys same)
  | _ => exact Or.inl rfl

theorem step_expired (provider : NetworkJwksProvider T) (system : JwksSystem T) (call : Nat) (issuer : String)
    (entry : JwksCacheEntry T) (begins : system.stage call = none)
    (found : system.cache.entries.lookup issuer = some entry)
    (expired : ¬elapsed entry.fetchedAt system.now < provider.cacheTtl) :
    (provider.step (N := N) (.lookup call issuer) system).stage call = some (.fetching issuer) ∨
      (provider.step (N := N) (.lookup call issuer) system).stage call =
        some (.returned issuer (.error (.rejected jwksPoisonedError))) := by
  simp only [step,begins,JwksSystem.advance_stage,JwksCache.lookup,found,if_neg expired]
  by_cases locked : system.cache.poisoned = true
  · right
    rw [if_pos locked]
    rfl
  · left
    rw [if_neg locked]
    rfl

/-- A call whose steps nothing interrupts does what `keys_for` does. -/
theorem uninterrupted (provider : NetworkJwksProvider T) (network : Network N) (world : NetWorld N)
    (system : JwksSystem T) (call : Nat) (issuer : String) (reading : T) (begins : system.stage call = none) :
    let outcome := provider.keysFor network system.now (max system.now reading) issuer system.cache world
    let after := History.run provider.step
      [.lookup call issuer,.fetch call network world,.tick reading,.store call] system
    after.cache = outcome.2.1 ∧ after.stage call = some (.returned issuer outcome.1) := by
  intro outcome after
  have begun : after = History.run provider.step [.fetch call network world,.tick reading,.store call]
      (system.advance call (lookupStage issuer (system.cache.lookup provider.cacheTtl system.now issuer))) := by
    simp only [after,History.run,step,begins]
  cases looked : system.cache.lookup provider.cacheTtl system.now issuer with
  | error text =>
    have answered : outcome = (.error (.rejected text),system.cache,world) := by
      simp only [outcome,keysFor,looked]
    rw [begun,answered,looked]
    simp only [History.run,step,lookupStage,JwksSystem.advance_stage]
    exact ⟨rfl,trivial⟩
  | ok cached =>
    cases cached with
    | some keys =>
      have answered : outcome = (.ok keys,system.cache,world) := by
        simp only [outcome,keysFor,looked]
      rw [begun,answered,looked]
      simp only [History.run,step,lookupStage,JwksSystem.advance_stage]
      exact ⟨rfl,trivial⟩
    | none =>
      generalize ran : provider.fetchKeys network issuer world = result
      obtain ⟨found,last⟩ := result
      cases found with
      | error stop =>
        have answered : outcome = (.error stop,system.cache,last) := by
          simp only [outcome,keysFor,looked,ran]
        rw [begun,answered,looked]
        simp only [History.run,step,lookupStage,fetchStage,JwksSystem.advance_stage,ran]
        exact ⟨rfl,trivial⟩
      | ok keys =>
        have answered : outcome = (.ok keys,system.cache.insert (max system.now reading) issuer keys,last) := by
          simp only [outcome,keysFor,looked,ran]
        rw [begun,answered,looked]
        simp only [History.run,step,lookupStage,fetchStage,JwksSystem.advance_stage,ran]
        exact ⟨rfl,trivial⟩

theorem run_append (provider : NetworkJwksProvider T) (start : T) (events later : List (JwksEvent N T)) :
    provider.run (events ++ later) start = History.run provider.step later (provider.run events start) :=
  History.run_append provider.step events later (.new start)

/-- In whatever order concurrent calls take their steps, the keys that a call returns were discovered
for its issuer, by its own fetch or by one whose entry is fresh; a failed fetch leaves the cache alone and
ends its call with the error; an expired entry is fetched anew; and the entry of an issuer changes only
where a call stores the keys that it fetched for this issuer. -/
theorem concurrent_calls (provider : NetworkJwksProvider T) (start : T) (events : List (JwksEvent N T)) :
    let system := provider.run events start
    (∀ call issuer keys, system.stage call = some (.returned issuer (.ok keys)) →
      (∃ (network : Network N) (world : NetWorld N), (provider.fetchKeys network issuer world).1 = .ok keys ∧
        Discovered provider network world issuer keys) ∧
      (FetchedBy provider start call issuer keys events ∨ ServedFresh provider start call issuer keys events)) ∧
    (∀ call issuer network world stop, system.stage call = some (.fetching issuer) →
      (provider.fetchKeys network issuer world).1 = .error stop →
      (provider.step (.fetch call network world) system).cache = system.cache ∧
      ∀ later, (provider.run (events ++ .fetch call network world :: later) start).stage call =
        some (.returned issuer (.error stop))) ∧
    (∀ call issuer entry, system.stage call = none → system.cache.entries.lookup issuer = some entry →
      ¬system.now-entry.fetchedAt < provider.cacheTtl →
      (provider.step (N := N) (.lookup call issuer) system).stage call = some (.fetching issuer) ∨
        (provider.step (N := N) (.lookup call issuer) system).stage call =
          some (.returned issuer (.error (.rejected jwksPoisonedError)))) ∧
    ∀ event issuer,
      (provider.step event system).cache.entries.lookup issuer = system.cache.entries.lookup issuer ∨
        ∃ call keys, event = JwksEvent.store (N := N) call ∧ system.stage call = some (.fetched issuer keys) := by
  intro system
  have sourced : Sourced provider start events system := run_sourced provider start events
  refine ⟨?_,?_,?_,fun event => step_entries provider event system⟩
  · intro call issuer keys returned
    have accounted : FetchedBy provider start call issuer keys events ∨
        ServedFresh provider start call issuer keys events := sourced.calls call _ returned
    refine ⟨?_,accounted⟩
    obtain fetched | served := accounted
    · exact fetchedBy_discovered provider start call issuer keys events fetched
    · exact servedFresh_discovered provider start call issuer keys events served
  · intro call issuer network world stop was failed
    have ended := step_failed provider network world system call issuer stop was failed
    refine ⟨by rw [ended]; rfl,?_⟩
    intro later
    rw [run_append]
    change (History.run provider.step later (provider.step (.fetch call network world) system)).stage call = _
    rw [ended]
    exact History.run_stays provider.step (fun after => after.stage call = some (.returned issuer (.error stop)))
      (fun event after => step_returned provider event after call issuer _) later _ (system.advance_stage call _)
  · intro call issuer entry begins found expired
    rw [← elapsed_of_le _ _ (sourced.entries issuer entry found).1] at expired
    exact step_expired provider system call issuer entry begins found expired

theorem second_call (provider : NetworkJwksProvider T) (network : Network N) (world : NetWorld N) (issuer : String)
    (keys : List Jwk) (start later : T) (fetched : (provider.fetchKeys network issuer world).1 = .ok keys)
    (order : start ≤ later) (fresh : later-start < provider.cacheTtl) :
    (provider.run [.lookup 0 issuer,.fetch 0 network world,.store 0,.tick later,.lookup 1 issuer] start).stage 1 =
      some (.returned issuer (.ok keys)) := by
  have recent : elapsed start later < provider.cacheTtl := by rwa [elapsed_of_le start later order]
  simp [run,History.run,JwksSystem.new,step,JwksCache.lookup,JwksCache.insert,lookupStage,fetchStage,
    JwksSystem.advance,fetched,recent,order,-AList.insert_empty]

end NetworkJwksProvider

def sampleIssuer : String := "https://idp.example/"

def sampleDiscovery : String :=
  "\x7b\"issuer\":\"https://idp.example/\",\"jwks_uri\":\"https://idp.example/jwks\"\x7d"

def sampleJwks : String :=
  "\x7b\"keys\":[\x7b\"kty\":\"OKP\",\"crv\":\"Ed25519\",\"x\":\"AA\"\x7d,\x7b\"kty\":\"oct\",\"k\":\"AA\"\x7d]\x7d"

def sampleDocument (bytes : List UInt8) : Option Json :=
  if bytes = Text.asBytes sampleDiscovery then
    some (.object [("issuer",.string "https://idp.example/"),("jwks_uri",.string "https://idp.example/jwks")])
  else if bytes = Text.asBytes sampleJwks then
    some (.object [("keys",.array [.object [("kty",.string "OKP"),("crv",.string "Ed25519"),("x",.string "AA")],
      .object [("kty",.string "oct"),("k",.string "AA")]])])
  else none

def sampleIdpUrl : UrlCrate where
  Url := String
  parse text := some text
  join base reference := some (base ++ reference)
  toText url := url
  scheme _ := "https"
  username _ := ""
  password _ := none
  hostStr _ := some "idp.example"
  portOrKnownDefault _ := some 443
  clearQuery url := url
  clearFragment url := url
  clearUsername url := url
  clearPassword url := url

def sampleIdpCrates : Crates where
  finalSigma _ _ := false
  fromSlice := sampleDocument
  sha256 _ := []
  url := sampleIdpUrl
  jsonwebtoken := ⟨Empty,fun _ _ => .error "",fun _ _ => .error "",fun _ => .error "",fun _ key => key.elim⟩
  p521 := ⟨Empty,Empty,fun _ => none,fun _ => none,fun key => key.elim⟩

def sampleProvider : NetworkJwksProvider Nat where
  crates := sampleIdpCrates
  paths := ⟨fun _ => "/",fun _ url => url⟩
  fetcher := .default
  cacheTtl := 60

def sampleIdpResponse (text : String) : Response where
  status := 200
  statusText := "200 OK"
  location := none
  contentLength := none
  body position := ((Text.asBytes text)[position]?.map BodyRead.byte).getD .finished

def sampleIdpNetwork : Network Unit where
  resolveHost _ world := (.ok [.v4 (Ipv4Addr.ofBits 134744072)],world)
  exchange request world :=
    (if request.url = "https://idp.example/jwks" then .ok (sampleIdpResponse sampleJwks)
      else .ok (sampleIdpResponse sampleDiscovery),world)

def sampleIdpKey : Jwk where
  kty := "OKP"
  crv := some "Ed25519"
  x := some "AA"
  y := none
  n := none
  e := none
  d := none
  p := none
  q := none
  dp := none
  dq := none
  qi := none
  alg := none
  use := none
  kid := none

theorem sampleProvider_fetched : (sampleProvider.fetchKeys sampleIdpNetwork sampleIssuer ⟨(),[]⟩).1 = .ok [sampleIdpKey] := by
  decide +kernel

def sampleCalls : List (JwksEvent Unit Nat) :=
  [.lookup 0 sampleIssuer,.fetch 0 sampleIdpNetwork ⟨(),[]⟩,.store 0,.tick 5,.lookup 1 sampleIssuer]

theorem concurrent_calls_sample :
    (∃ (network : Network Unit) (world : NetWorld Unit),
      (sampleProvider.fetchKeys network sampleIssuer world).1 = .ok [sampleIdpKey] ∧
        Discovered sampleProvider network world sampleIssuer [sampleIdpKey]) ∧
    (sampleProvider.FetchedBy 0 1 sampleIssuer [sampleIdpKey] sampleCalls ∨
      sampleProvider.ServedFresh 0 1 sampleIssuer [sampleIdpKey] sampleCalls) := by
  have fresh : (5 : Nat)-0 < sampleProvider.cacheTtl := by decide
  have returned := sampleProvider.second_call sampleIdpNetwork ⟨(),[]⟩ sampleIssuer [sampleIdpKey] 0 5
    sampleProvider_fetched (Nat.zero_le 5) fresh
  have sound := (sampleProvider.concurrent_calls 0 sampleCalls).1 1 sampleIssuer [sampleIdpKey]
  unfold sampleCalls at sound ⊢
  exact sound returned

end SolidOidcVerifier
