import SolidOidcVerifier.KeyWithdrawal

/-! How old the keys are that `keys_for` returns. A call fetches them after its own lookup, or is served an
entry that was stored less than the time to live before it. -/
namespace SolidOidcVerifier
open Foundation

variable {N T : Type}

namespace NetworkJwksProvider

section events

variable [LinearOrder T] [Sub T] [Zero T]

def LookedUpAt (provider : NetworkJwksProvider T) (start : T) (call : Nat) (issuer : String) (instant : T) :
    List (JwksEvent N T) → Prop :=
  Happened fun before event => event = .lookup call issuer ∧ (provider.run before start).stage call = none ∧
    (provider.run before start).now = instant

def FetchedAt (provider : NetworkJwksProvider T) (start : T) (call : Nat) (issuer : String) (keys : List Jwk)
    (instant : T) : List (JwksEvent N T) → Prop :=
  Happened fun before event => ∃ network world, event = .fetch call network world ∧
    (provider.run before start).stage call = some (.fetching issuer) ∧
    (provider.fetchKeys network issuer world).1 = .ok keys ∧ (provider.run before start).now = instant

def InsertedAt (provider : NetworkJwksProvider T) (start : T) (call : Nat) (issuer : String) (keys : List Jwk)
    (instant : T) : List (JwksEvent N T) → Prop :=
  Happened fun before event => event = .store call ∧
    (provider.run before start).stage call = some (.fetched issuer keys) ∧ (provider.run before start).now = instant

/-- Where the keys of a call come from that looked the issuer up at `looked`. -/
def Provided (provider : NetworkJwksProvider T) (start : T) (call : Nat) (issuer : String) (keys : List Jwk) (looked : T)
    (events : List (JwksEvent N T)) : Prop :=
  (∃ instant, FetchedAt provider start call issuer keys instant events ∧ looked ≤ instant) ∨
    ∃ storer instant, InsertedAt provider start storer issuer keys instant events ∧ instant ≤ looked ∧
      looked-instant < provider.cacheTtl

/-- What is known of a call at its stage, when the clock is at `now`. -/
def Looked (provider : NetworkJwksProvider T) (start : T) (events : List (JwksEvent N T)) (now : T) (call : Nat) :
    JwksStage → Prop
  | .fetching issuer => ∃ looked, LookedUpAt provider start call issuer looked events ∧ looked ≤ now
  | .fetched issuer keys => ∃ looked instant, LookedUpAt provider start call issuer looked events ∧
    FetchedAt provider start call issuer keys instant events ∧ looked ≤ instant
  | .returned _ (.error _) => True
  | .returned issuer (.ok keys) => ∃ looked, LookedUpAt provider start call issuer looked events ∧
    Provided provider start call issuer keys looked events

/-- Every entry was inserted at its instant, and every call knows when it looked its issuer up. -/
structure Dated (provider : NetworkJwksProvider T) (start : T) (events : List (JwksEvent N T)) (system : JwksSystem T) :
    Prop where
  entries : ∀ issuer entry, system.cache.entries.lookup issuer = some entry → entry.fetchedAt ≤ system.now ∧
    ∃ storer, InsertedAt provider start storer issuer entry.keys entry.fetchedAt events
  calls : ∀ call stage, system.stage call = some stage → Looked provider start events system.now call stage

theorem Provided.append {provider : NetworkJwksProvider T} {start : T} {call : Nat} {issuer : String} {keys : List Jwk}
    {looked : T} {events : List (JwksEvent N T)} (provided : Provided provider start call issuer keys looked events)
    (later : List (JwksEvent N T)) : Provided provider start call issuer keys looked (events ++ later) := by
  obtain ⟨instant,fetched,order⟩ | ⟨storer,instant,inserted,window⟩ := provided
  · exact Or.inl ⟨instant,Happened.append _ _ _ fetched,order⟩
  · exact Or.inr ⟨storer,instant,Happened.append _ _ _ inserted,window⟩

theorem Looked.later {provider : NetworkJwksProvider T} {start : T} {events : List (JwksEvent N T)}
    {now after : T} {call : Nat} {stage : JwksStage} (before : Looked provider start events now call stage)
    (later : List (JwksEvent N T)) (passes : now ≤ after) :
    Looked provider start (events ++ later) after call stage := by
  cases stage with
  | fetching issuer =>
    obtain ⟨looked,at_lookup,order⟩ := before
    exact ⟨looked,Happened.append _ _ _ at_lookup,order.trans passes⟩
  | fetched issuer keys =>
    obtain ⟨looked,instant,at_lookup,fetched,order⟩ := before
    exact ⟨looked,instant,Happened.append _ _ _ at_lookup,Happened.append _ _ _ fetched,order⟩
  | returned issuer result =>
    cases result with
    | error stop => trivial
    | ok keys =>
      obtain ⟨looked,at_lookup,provided⟩ := before
      exact ⟨looked,Happened.append _ _ _ at_lookup,provided.append later⟩

theorem Dated.advance {provider : NetworkJwksProvider T} {start : T} {events : List (JwksEvent N T)}
    {system : JwksSystem T} {call : Nat} {stage : JwksStage} (before : Dated provider start events system)
    (looked : Looked provider start events system.now call stage) : Dated provider start events (system.advance call stage) := by
  refine ⟨before.entries,?_⟩
  intro other reached was
  obtain ⟨rfl,rfl⟩ | kept := system.advance_reached call other stage reached was
  · exact looked
  · exact before.calls other reached kept

theorem Dated.later {provider : NetworkJwksProvider T} {start : T} {events : List (JwksEvent N T)}
    {system : JwksSystem T} (before : Dated provider start events system) (later : List (JwksEvent N T)) :
    Dated provider start (events ++ later) system := by
  refine ⟨?_,?_⟩
  · intro issuer entry found
    obtain ⟨order,storer,inserted⟩ := before.entries issuer entry found
    exact ⟨order,storer,Happened.append _ _ _ inserted⟩
  · intro call stage was
    exact (before.calls call stage was).later later (le_refl _)

theorem Dated.insert {provider : NetworkJwksProvider T} {start : T} {events : List (JwksEvent N T)}
    {system : JwksSystem T} {storer : Nat} {issuer : String} {keys : List Jwk} (before : Dated provider start events system)
    (inserted : InsertedAt provider start storer issuer keys system.now events) :
    Dated provider start events {system with cache := system.cache.insert system.now issuer keys} := by
  refine ⟨?_,before.calls⟩
  intro other entry found
  change (system.cache.insert system.now issuer keys).entries.lookup other = some entry at found
  by_cases same : other = issuer
  · obtain skipped | stored := system.cache.insert_self system.now issuer keys
    · rw [skipped] at found
      exact before.entries other entry found
    · rw [same,stored] at found
      cases found
      rw [same]
      exact ⟨le_refl _,storer,inserted⟩
  · rw [system.cache.insert_other system.now issuer other keys same] at found
    exact before.entries other entry found

theorem step_dated (provider : NetworkJwksProvider T) (start : T) (events : List (JwksEvent N T)) (event : JwksEvent N T)
    (before : Dated provider start events (provider.run events start)) :
    Dated provider start (events ++ [event]) (provider.step event (provider.run events start)) := by
  have kept := before.later [event]
  have moved := step_moves provider event (provider.run events start)
  generalize provider.step event (provider.run events start) = after at moved
  cases moved with
  | none => exact kept
  | ticked reading =>
    refine ⟨?_,?_⟩
    · intro issuer entry found
      obtain ⟨order,inserted⟩ := kept.entries issuer entry found
      exact ⟨le_max_of_le_left order,inserted⟩
    · intro call stage was
      exact (before.calls call stage was).later [.tick reading] (le_max_left _ _)
  | poisoned => exact ⟨kept.entries,kept.calls⟩
  | refused call issuer begins locked => exact kept.advance trivial
  | served call issuer entry begins found fresh =>
    obtain ⟨order,storer,inserted⟩ := kept.entries issuer entry found
    rw [elapsed_of_le _ _ order] at fresh
    have looked : LookedUpAt provider start call issuer (provider.run events start).now (events ++ [.lookup call issuer]) :=
      Happened.last _ _ _ ⟨rfl,begins,rfl⟩
    exact kept.advance ⟨_,looked,Or.inr ⟨storer,entry.fetchedAt,inserted,order,fresh⟩⟩
  | missed call issuer begins =>
    have looked : LookedUpAt provider start call issuer (provider.run events start).now (events ++ [.lookup call issuer]) :=
      Happened.last _ _ _ ⟨rfl,begins,rfl⟩
    exact kept.advance ⟨_,looked,le_refl _⟩
  | failed call network world issuer stop was outcome => exact kept.advance trivial
  | fetched call network world issuer keys was outcome =>
    obtain ⟨looked,lookup,order⟩ := kept.calls call _ was
    have fetched : FetchedAt provider start call issuer keys (provider.run events start).now
        (events ++ [.fetch call network world]) :=
      Happened.last _ _ _ ⟨network,world,rfl,was,outcome,rfl⟩
    exact kept.advance ⟨looked,_,lookup,fetched,order⟩
  | stored call issuer keys was =>
    obtain ⟨looked,instant,lookup,fetched,order⟩ := kept.calls call _ was
    have inserted : InsertedAt provider start call issuer keys (provider.run events start).now (events ++ [.store call]) :=
      Happened.last _ _ _ ⟨rfl,was,rfl⟩
    exact (kept.insert inserted).advance ⟨looked,lookup,Or.inl ⟨instant,fetched,order⟩⟩

theorem run_dated (provider : NetworkJwksProvider T) (start : T) (events : List (JwksEvent N T)) :
    Dated provider start events (provider.run events start) := by
  apply History.run_keeps provider.step (.new start) (Dated provider start)
  · refine ⟨?_,?_⟩
    · intro issuer entry found
      cases found
    · intro call stage was
      cases was
  · exact step_dated provider start

theorem lookedUpAt_begun (provider : NetworkJwksProvider T) (start : T) (call : Nat) (issuer : String) (instant : T)
    (events : List (JwksEvent N T)) (looked : LookedUpAt provider start call issuer instant events) :
    (provider.run events start).stage call ≠ none := by
  obtain ⟨before,event,later,rfl,rfl,begins,_⟩ := looked
  have stage : (provider.run (before ++ [.lookup call issuer]) start).stage call ≠ none := by
    rw [run_last]
    simp only [step,begins,JwksSystem.advance_stage]
    exact Option.some_ne_none _
  have whole : before ++ .lookup call issuer :: later = (before ++ [.lookup call issuer]) ++ later := by
    rw [List.append_assoc,List.cons_append,List.nil_append]
  rw [whole]
  exact provider.begun_stays start call _ later stage

/-- A call looks up once. -/
theorem lookedUpAt_unique (provider : NetworkJwksProvider T) (start : T) (call : Nat) (issuer other : String)
    (instant again : T) (events : List (JwksEvent N T)) :
    LookedUpAt provider start call issuer instant events → LookedUpAt provider start call other again events →
      issuer = other ∧ instant = again := by
  induction events using List.reverseRecOn with
  | nil =>
    intro looked
    obtain ⟨_,_,_,same,_⟩ := looked
    simp at same
  | append_singleton events event ih =>
    intro looked second
    obtain earlier | ⟨same,begins,now⟩ := (Happened.last_iff _ events event).mp looked
    · obtain before | ⟨_,idle,_⟩ := (Happened.last_iff _ events event).mp second
      · exact ih earlier before
      · exact absurd idle (lookedUpAt_begun provider start call issuer instant events earlier)
    · obtain before | ⟨twice,_,clock⟩ := (Happened.last_iff _ events event).mp second
      · exact absurd begins (lookedUpAt_begun provider start call other again events before)
      · rw [same] at twice
        cases twice
        exact ⟨rfl,now.symm.trans clock⟩

end events

section withdrawal

variable [AddCommGroup T] [LinearOrder T] [IsOrderedAddMonoid T]

/-- From the moment on, no fetch for the issuer brings a key that is gone. -/
def WithdrawnFrom (provider : NetworkJwksProvider T) (start : T) (issuer : String) (gone : Jwk → Prop) (moment : T)
    (events : List (JwksEvent N T)) : Prop :=
  ∀ call keys instant, FetchedAt provider start call issuer keys instant events → moment ≤ instant →
    ∀ key ∈ keys, ¬gone key

/-- A call stores within the delay what it fetched for the issuer. -/
def StoresWithin (provider : NetworkJwksProvider T) (start : T) (issuer : String) (delay : T)
    (events : List (JwksEvent N T)) : Prop :=
  ∀ call keys instant, InsertedAt provider start call issuer keys instant events →
    ∃ fetched, FetchedAt provider start call issuer keys fetched events ∧ instant-fetched ≤ delay

omit [IsOrderedAddMonoid T] in
theorem step_later (provider : NetworkJwksProvider T) (event : JwksEvent N T) (system : JwksSystem T) :
    system.now ≤ (provider.step event system).now := by
  have moved := step_moves provider event system
  generalize provider.step event system = after at moved
  cases moved with
  | ticked reading => exact le_max_left _ _
  | _ => exact le_refl _

omit [IsOrderedAddMonoid T] in
theorem run_later (provider : NetworkJwksProvider T) (start : T) (events later : List (JwksEvent N T)) :
    (provider.run events start).now ≤ (provider.run (events ++ later) start).now := by
  rw [run_append]
  exact History.run_stays provider.step (fun after => (provider.run events start).now ≤ after.now)
    (fun event after reached => reached.trans (provider.step_later event after)) later _ (le_refl _)

omit [IsOrderedAddMonoid T] in
/-- When the only call has stored what it fetched, no call has keys to store. -/
theorem uninterrupted_settled (provider : NetworkJwksProvider T) (start : T) (call : Nat) (issuer : String)
    (network : Network N) (world : NetWorld N) (reading : T) (later : List (JwksEvent N T))
    (unasked : ∀ other, .lookup other issuer ∉ later) (other : Nat) (keys : List Jwk) :
    (provider.run ([.lookup call issuer,.fetch call network world,.tick reading,.store call] ++ later) start).stage other ≠
      some (.fetched issuer keys) := by
  intro waits
  obtain ⟨_,_,looked,_⟩ := (provider.run_dated start _).calls other _ waits
  obtain ⟨before,event,after,split,rfl,_⟩ := looked
  have asked : JwksEvent.lookup other issuer ∈
      ([.lookup call issuer,.fetch call network world,.tick reading,.store call] ++ later : List (JwksEvent N T)) := by
    rw [split]
    simp
  have own : other = call := by simpa [unasked other] using asked
  obtain ⟨_,returned⟩ := provider.uninterrupted network world (.new start) call issuer reading rfl
  have still := provider.returned_stays start call issuer _ _ later returned
  rw [own] at waits
  cases still.symm.trans waits

/-- Later events keep the stores prompt where they take no longer than the delay and no fetched keys wait when
they begin. -/
theorem StoresWithin.append {provider : NetworkJwksProvider T} {start : T} {issuer : String} {delay : T}
    {events : List (JwksEvent N T)} (before : StoresWithin provider start issuer delay events)
    (later : List (JwksEvent N T))
    (settled : ∀ call keys, (provider.run events start).stage call ≠ some (.fetched issuer keys))
    (span : (provider.run (events ++ later) start).now-(provider.run events start).now ≤ delay) :
    StoresWithin provider start issuer delay (events ++ later) := by
  intro call keys instant inserted
  obtain earlier | ⟨mid,event,rest,rfl,rfl,was,rfl⟩ := Happened.split _ events later inserted
  · obtain ⟨received,fetched,within⟩ := before call keys instant earlier
    exact ⟨received,Happened.append _ _ _ fetched,within⟩
  · obtain ⟨_,received,_,fetched,_⟩ := (provider.run_dated start (events ++ mid)).calls call _ was
    rw [← List.append_assoc] at span ⊢
    refine ⟨received,Happened.append _ _ _ fetched,?_⟩
    have ended := provider.run_later start (events ++ mid) (.store call :: rest)
    obtain ⟨earlier,event,after,rfl,network,world,rfl,began,brought,_⟩ | ⟨first,event,after,rfl,_,_,_,_,_,rfl⟩ :=
      Happened.split _ events mid fetched
    · -- What it fetched before it would have stored before, or still wait.
      have fetchedBy : FetchedBy provider start call issuer keys (earlier ++ .fetch call network world :: after) :=
        ⟨earlier,_,after,rfl,network,world,rfl,began,brought⟩
      obtain waits | ⟨returned,_⟩ := provider.fetchedBy_stage start issuer call keys _ fetchedBy
      · exact absurd waits (settled call keys)
      · have still := provider.returned_stays start call issuer _ _ mid returned
        cases still.symm.trans was
    · have begun := provider.run_later start events first
      exact (sub_le_sub ended begun).trans span

omit [IsOrderedAddMonoid T] in
/-- So do later events of which none stores. -/
theorem StoresWithin.unstored {provider : NetworkJwksProvider T} {start : T} {issuer : String} {delay : T}
    {events : List (JwksEvent N T)} (before : StoresWithin provider start issuer delay events)
    (later : List (JwksEvent N T)) (idle : ∀ call, .store call ∉ later) :
    StoresWithin provider start issuer delay (events ++ later) := by
  intro call keys instant inserted
  obtain earlier | ⟨mid,event,rest,rfl,rfl,_⟩ := Happened.split _ events later inserted
  · obtain ⟨received,fetched,within⟩ := before call keys instant earlier
    exact ⟨received,Happened.append _ _ _ fetched,within⟩
  · exact absurd (List.mem_append_right mid List.mem_cons_self) (idle call)

theorem storesWithin_span (provider : NetworkJwksProvider T) (start : T) (issuer : String) (delay : T)
    (events : List (JwksEvent N T)) (span : (provider.run events start).now-start ≤ delay) :
    StoresWithin provider start issuer delay events := by
  have none : StoresWithin provider start issuer delay ([] : List (JwksEvent N T)) := by
    intro call keys instant inserted
    obtain ⟨before,event,later,same,_⟩ := inserted
    simp at same
  apply none.append events _ span
  intro call keys waits
  cases waits

/-- Withdrawn keys are out of use one time to live, and the delay of a store, after their withdrawal: no call that
looks up from then on returns one. -/
theorem withdrawn_keys_expire (provider : NetworkJwksProvider T) (start : T) (events : List (JwksEvent N T))
    (issuer : String) (gone : Jwk → Prop) (moment delay : T) (nonnegative : 0 ≤ delay+provider.cacheTtl)
    (withdrawn : WithdrawnFrom provider start issuer gone moment events)
    (prompt : StoresWithin provider start issuer delay events) (call : Nat) (keys : List Jwk) (looked : T)
    (lookup : LookedUpAt provider start call issuer looked events)
    (returned : (provider.run events start).stage call = some (.returned issuer (.ok keys)))
    (late : moment+(delay+provider.cacheTtl) ≤ looked) : ∀ key ∈ keys, ¬gone key := by
  obtain ⟨other,again,provided⟩ := (provider.run_dated start events).calls call _ returned
  obtain ⟨_,rfl⟩ := lookedUpAt_unique provider start call issuer issuer looked other events lookup again
  obtain ⟨instant,fetched,order⟩ | ⟨storer,instant,inserted,order,fresh⟩ := provided
  · apply withdrawn call keys instant fetched
    have expired : moment ≤ moment+(delay+provider.cacheTtl) := le_add_of_nonneg_right nonnegative
    exact (expired.trans late).trans order
  · obtain ⟨received,fetched,within⟩ := prompt storer keys instant inserted
    apply withdrawn storer keys received fetched
    have recent : looked < instant+provider.cacheTtl := sub_lt_iff_lt_add'.mp fresh
    have stored : instant ≤ received+delay := sub_le_iff_le_add'.mp within
    have bound : moment+(delay+provider.cacheTtl) ≤ received+(delay+provider.cacheTtl) := by
      calc moment+(delay+provider.cacheTtl) ≤ looked := late
        _ ≤ instant+provider.cacheTtl := le_of_lt recent
        _ ≤ received+delay+provider.cacheTtl := add_le_add_left stored _
        _ = received+(delay+provider.cacheTtl) := add_assoc _ _ _
    exact le_of_add_le_add_right bound

end withdrawal

end NetworkJwksProvider

end SolidOidcVerifier
