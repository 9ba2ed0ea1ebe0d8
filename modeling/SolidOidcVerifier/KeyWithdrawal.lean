import SolidOidcVerifier.JwksProvenance

/-! Which fetch the keys of a cache entry and of an answer come from, and what becomes of a response
that another fetch has overtaken before its call stores it. -/
namespace SolidOidcVerifier
open Foundation

variable {N T : Type} [LinearOrder T] [Sub T] [Zero T]

namespace NetworkJwksProvider

/-- The call stores the keys that it fetched for the issuer, and the lock is sound. -/
def Inserts (provider : NetworkJwksProvider T) (start : T) (issuer : String) (call : Nat) (keys : List Jwk)
    (before : List (JwksEvent N T)) (event : JwksEvent N T) : Prop :=
  event = .store call ∧ (provider.run before start).stage call = some (.fetched issuer keys) ∧
    (provider.run before start).cache.poisoned = false

/-- The issuer's entry holds what the call fetched, as no other insertion for the issuer has followed. -/
def HeldFrom (provider : NetworkJwksProvider T) (start : T) (issuer : String) (call : Nat) (keys : List Jwk) :
    List (JwksEvent N T) → Prop :=
  Since (fun before event => ¬∃ other fetched, Inserts provider start issuer other fetched before event)
    (Inserts provider start issuer call keys)

def ServedFrom (provider : NetworkJwksProvider T) (start : T) (issuer : String) (reader source : Nat)
    (keys : List Jwk) : List (JwksEvent N T) → Prop :=
  Happened fun before event => event = .lookup reader issuer ∧ (provider.run before start).stage reader = none ∧
    (provider.run before start).cache.lookup provider.cacheTtl (provider.run before start).now issuer =
      .ok (some keys) ∧
    HeldFrom provider start issuer source keys before

/-- The reader has the keys from the source's fetch: its own, or the one it found in the cache. -/
def AnsweredFrom (provider : NetworkJwksProvider T) (start : T) (issuer : String) (reader source : Nat)
    (keys : List Jwk) (events : List (JwksEvent N T)) : Prop :=
  reader = source ∧ FetchedBy provider start reader issuer keys events ∨
    ServedFrom provider start issuer reader source keys events

/-- The newer call began to fetch when the older one had its response. -/
def BeganAfter (provider : NetworkJwksProvider T) (start : T) (issuer : String) (newer older : Nat) :
    List (JwksEvent N T) → Prop :=
  Happened fun before event => event = .lookup newer issuer ∧ (provider.run before start).stage newer = none ∧
    (provider.run (before ++ [event]) start).stage newer = some (.fetching issuer) ∧
    ∃ keys, FetchedBy provider start older issuer keys before

/-- The newer call fetched its keys when the older one had its response. -/
def FetchedAfter (provider : NetworkJwksProvider T) (start : T) (issuer : String) (newer older : Nat)
    (keys : List Jwk) : List (JwksEvent N T) → Prop :=
  Happened fun before event => (∃ network world, event = .fetch newer network world ∧
    (provider.run before start).stage newer = some (.fetching issuer) ∧
    (provider.fetchKeys network issuer world).1 = .ok keys) ∧
    ∃ earlier, FetchedBy provider start older issuer earlier before

def StoredBy (provider : NetworkJwksProvider T) (start : T) (issuer : String) (call : Nat) (keys : List Jwk) :
    List (JwksEvent N T) → Prop :=
  Happened fun before event => event = .store call ∧
    (provider.run before start).stage call = some (.fetched issuer keys)

/-- The older call inserted its keys when the newer one had stored its own. -/
def InsertedAfter (provider : NetworkJwksProvider T) (start : T) (issuer : String) (newer older : Nat)
    (keys earlier : List Jwk) : List (JwksEvent N T) → Prop :=
  Happened fun before event => Inserts provider start issuer older earlier before event ∧
    StoredBy provider start issuer newer keys before

theorem run_last (provider : NetworkJwksProvider T) (start : T) (events : List (JwksEvent N T))
    (event : JwksEvent N T) :
    provider.run (events ++ [event]) start = provider.step event (provider.run events start) :=
  History.run_last provider.step events event (.new start)

theorem step_fetched (provider : NetworkJwksProvider T) (event : JwksEvent N T) (system : JwksSystem T) (call : Nat)
    (issuer : String) (keys : List Jwk) (was : system.stage call = some (.fetched issuer keys)) :
    (provider.step event system).stage call = some (.fetched issuer keys) ∨
      event = .store call ∧ (provider.step event system).stage call = some (.returned issuer (.ok keys)) := by
  have moved := step_moves provider event system
  generalize provider.step event system = after at moved
  have others : ∀ other stage, other ≠ call → (system.advance other stage).stage call = some (.fetched issuer keys) := by
    intro other stage differs
    rw [system.advance_other other call stage (Ne.symm differs)]
    exact was
  have unlike : ∀ other, system.stage other ≠ some (.fetched issuer keys) → other ≠ call := by
    intro other differs same
    rw [same] at differs
    exact differs was
  cases moved with
  | none => exact Or.inl was
  | ticked reading => exact Or.inl was
  | poisoned => exact Or.inl was
  | refused other _ begins _ => exact Or.inl (others other _ (unlike other (by simp [begins])))
  | served other _ _ begins _ _ => exact Or.inl (others other _ (unlike other (by simp [begins])))
  | missed other _ begins => exact Or.inl (others other _ (unlike other (by simp [begins])))
  | failed other _ _ _ _ fetching _ => exact Or.inl (others other _ (unlike other (by simp [fetching])))
  | fetched other _ _ _ _ fetching _ => exact Or.inl (others other _ (unlike other (by simp [fetching])))
  | stored other stored found held =>
    by_cases same : other = call
    · right
      rw [same] at held
      cases was.symm.trans held
      refine ⟨by rw [same],?_⟩
      rw [same]
      exact system.advance_stage call _
    · exact Or.inl (others other _ same)

/-- A call that has fetched keys has them until it stores them, and returns them then. -/
theorem fetchedBy_stage (provider : NetworkJwksProvider T) (start : T) (issuer : String) (call : Nat)
    (keys : List Jwk) (events : List (JwksEvent N T)) (fetched : FetchedBy provider start call issuer keys events) :
    (provider.run events start).stage call = some (.fetched issuer keys) ∨
      (provider.run events start).stage call = some (.returned issuer (.ok keys)) ∧
        StoredBy provider start issuer call keys events := by
  induction events using List.reverseRecOn with
  | nil =>
    obtain ⟨before,event,after,same,_⟩ := fetched
    simp at same
  | append_singleton events event ih =>
    rw [run_last]
    obtain earlier | ⟨network,world,same,was,outcome⟩ := (Happened.last_iff _ events event).mp fetched
    · obtain was | ⟨was,stored⟩ := ih earlier
      · obtain kept | ⟨same,returned⟩ := step_fetched provider event _ call issuer keys was
        · exact Or.inl kept
        · have stored : StoredBy provider start issuer call keys (events ++ [event]) :=
            Happened.last _ events event ⟨same,was⟩
          exact Or.inr ⟨returned,stored⟩
      · right
        exact ⟨step_returned provider event _ call issuer _ was,Happened.append _ events [event] stored⟩
    · left
      rw [same]
      simp only [step,was,outcome,fetchStage,JwksSystem.advance_stage]

theorem step_begun (provider : NetworkJwksProvider T) (event : JwksEvent N T) (system : JwksSystem T) (call : Nat)
    (begun : system.stage call ≠ none) : (provider.step event system).stage call ≠ none := by
  have moved := step_moves provider event system
  generalize provider.step event system = after at moved
  have advanced : ∀ other stage, (system.advance other stage).stage call ≠ none := by
    intro other stage
    by_cases same : call = other
    · rw [same,system.advance_stage]
      exact Option.some_ne_none stage
    · rw [system.advance_other other call stage same]
      exact begun
  cases moved with
  | none => exact begun
  | ticked reading => exact begun
  | poisoned => exact begun
  | _ => exact advanced _ _

theorem step_poisoned (provider : NetworkJwksProvider T) (event : JwksEvent N T) (system : JwksSystem T)
    (locked : system.cache.poisoned = true) : (provider.step event system).cache.poisoned = true := by
  have moved := step_moves provider event system
  generalize provider.step event system = after at moved
  cases moved with
  | poisoned => rfl
  | stored call issuer keys was =>
    change (system.cache.insert system.now issuer keys).poisoned = true
    rw [JwksCache.insert_poisoned]
    exact locked
  | _ => exact locked

theorem returned_stays (provider : NetworkJwksProvider T) (start : T) (call : Nat) (issuer : String)
    (result : Except (Stop String) (List Jwk)) (events later : List (JwksEvent N T))
    (returned : (provider.run events start).stage call = some (.returned issuer result)) :
    (provider.run (events ++ later) start).stage call = some (.returned issuer result) := by
  rw [run_append]
  exact History.run_stays provider.step (fun after => after.stage call = some (.returned issuer result))
    (fun event after => step_returned provider event after call issuer result) later _ returned

theorem begun_stays (provider : NetworkJwksProvider T) (start : T) (call : Nat) (events later : List (JwksEvent N T))
    (begun : (provider.run events start).stage call ≠ none) :
    (provider.run (events ++ later) start).stage call ≠ none := by
  rw [run_append]
  exact History.run_stays provider.step (fun after => after.stage call ≠ none)
    (fun event after => step_begun provider event after call) later _ begun

theorem poisoned_stays (provider : NetworkJwksProvider T) (start : T) (events later : List (JwksEvent N T))
    (locked : (provider.run events start).cache.poisoned = true) :
    (provider.run (events ++ later) start).cache.poisoned = true := by
  rw [run_append]
  exact History.run_stays provider.step (fun after => after.cache.poisoned = true)
    (fun event after => step_poisoned provider event after) later _ locked

theorem heldFrom_last (provider : NetworkJwksProvider T) (start : T) (issuer : String) (call : Nat) (keys : List Jwk)
    (events : List (JwksEvent N T)) (event : JwksEvent N T) :
    HeldFrom provider start issuer call keys (events ++ [event]) ↔
      Inserts provider start issuer call keys events event ∨ HeldFrom provider start issuer call keys events ∧
        ¬∃ other fetched, Inserts provider start issuer other fetched events event :=
  Since.last_iff _ _ events event

theorem heldFrom_unique (provider : NetworkJwksProvider T) (start : T) (issuer : String) (call other : Nat)
    (keys fetched : List Jwk) (events : List (JwksEvent N T))
    (held : HeldFrom provider start issuer call keys events)
    (second : HeldFrom provider start issuer other fetched events) : call = other ∧ keys = fetched := by
  apply Since.meet _ _ _ (call = other ∧ keys = fetched) ?_ ?_ ?_ events held second
  · intro before event inserts kept
    exact kept ⟨call,keys,inserts⟩
  · intro before event inserts kept
    exact kept ⟨other,fetched,inserts⟩
  · intro before event inserts again
    obtain ⟨same,was,_⟩ := inserts
    obtain ⟨also,held,_⟩ := again
    cases same.symm.trans also
    cases was.symm.trans held
    exact ⟨rfl,rfl⟩

/-- The event leaves the issuer's entry alone unless a call inserts its keys there. -/
theorem step_inserts (provider : NetworkJwksProvider T) (start : T) (issuer : String) (events : List (JwksEvent N T))
    (event : JwksEvent N T) :
    (¬∃ call keys, Inserts provider start issuer call keys events event) ∧
      (provider.run (events ++ [event]) start).cache.entries.lookup issuer =
        (provider.run events start).cache.entries.lookup issuer ∨
    ∃ call keys, Inserts provider start issuer call keys events event ∧
      (provider.run (events ++ [event]) start).cache.entries.lookup issuer =
        some ⟨keys,(provider.run events start).now⟩ := by
  by_cases inserted : ∃ call keys, Inserts provider start issuer call keys events event
  · right
    obtain ⟨call,keys,same,was,sound⟩ := inserted
    refine ⟨call,keys,⟨same,was,sound⟩,?_⟩
    rw [run_last,same]
    simp only [step,was]
    exact JwksCache.insert_sound _ _ issuer keys sound
  · left
    refine ⟨inserted,?_⟩
    rw [run_last]
    obtain kept | ⟨call,keys,same,was⟩ := step_entries provider event (provider.run events start) issuer
    · exact kept
    · have locked : (provider.run events start).cache.poisoned = true := by
        by_contra sound
        exact inserted ⟨call,keys,same,was,Bool.not_eq_true _ ▸ sound⟩
      rw [same]
      simp only [step,was]
      rw [JwksCache.insert_locked _ _ issuer keys locked]

theorem entry_held (provider : NetworkJwksProvider T) (start : T) (issuer : String) (events : List (JwksEvent N T)) :
    ∀ entry, (provider.run events start).cache.entries.lookup issuer = some entry →
      ∃ call, HeldFrom provider start issuer call entry.keys events := by
  induction events using List.reverseRecOn with
  | nil =>
    intro entry found
    cases found
  | append_singleton events event ih =>
    intro entry found
    obtain ⟨alone,kept⟩ | ⟨call,keys,inserts,stored⟩ := step_inserts provider start issuer events event
    · rw [kept] at found
      obtain ⟨call,held⟩ := ih entry found
      exact ⟨call,(heldFrom_last provider start issuer call entry.keys events event).mpr (Or.inr ⟨held,alone⟩)⟩
    · rw [stored] at found
      cases found
      exact ⟨call,(heldFrom_last provider start issuer call keys events event).mpr (Or.inl inserts)⟩

theorem held_entry (provider : NetworkJwksProvider T) (start : T) (issuer : String) (call : Nat) (keys : List Jwk)
    (events : List (JwksEvent N T)) : HeldFrom provider start issuer call keys events →
      ∃ instant, (provider.run events start).cache.entries.lookup issuer = some ⟨keys,instant⟩ := by
  induction events using List.reverseRecOn with
  | nil =>
    intro held
    exact absurd held (Since.not_nil _ _)
  | append_singleton events event ih =>
    intro held
    obtain ⟨alone,kept⟩ | ⟨other,fetched,inserts,stored⟩ := step_inserts provider start issuer events event
    · rw [kept]
      obtain inserts | ⟨before,_⟩ := (heldFrom_last provider start issuer call keys events event).mp held
      · exact absurd ⟨call,keys,inserts⟩ alone
      · exact ih before
    · have also := (heldFrom_last provider start issuer other fetched events event).mpr (Or.inl inserts)
      obtain ⟨_,same⟩ := heldFrom_unique provider start issuer call other keys fetched _ held also
      rw [same]
      exact ⟨_,stored⟩

theorem lookup_unpoisoned (cache : JwksCache T) (ttl now : T) (issuer : String) (keys : List Jwk)
    (found : cache.lookup ttl now issuer = .ok (some keys)) :
    cache.poisoned = false ∧ ∃ entry, cache.entries.lookup issuer = some entry ∧ entry.keys = keys := by
  unfold JwksCache.lookup at found
  by_cases locked : cache.poisoned = true
  · rw [if_pos locked] at found
    cases found
  · rw [if_neg locked] at found
    refine ⟨Bool.not_eq_true _ ▸ locked,?_⟩
    cases held : cache.entries.lookup issuer with
    | none => simp [held] at found
    | some entry =>
      rw [held] at found
      by_cases fresh : elapsed entry.fetchedAt now < ttl
      · simp only [if_pos fresh,Except.ok.injEq,Option.some.injEq] at found
        exact ⟨entry,rfl,found⟩
      · simp [if_neg fresh] at found

theorem lookupStage_answered (sought issuer : String) (looked : Except String (Option (List Jwk))) (keys : List Jwk)
    (answered : lookupStage sought looked = .returned issuer (.ok keys)) : sought = issuer ∧ looked = .ok (some keys) := by
  cases looked with
  | error text => simp [lookupStage] at answered
  | ok cached =>
    cases cached with
    | none => simp [lookupStage] at answered
    | some found => simpa [lookupStage] using answered

/-- The steps at which a call gets to return keys. -/
theorem step_answered (provider : NetworkJwksProvider T) (event : JwksEvent N T) (system : JwksSystem T) (call : Nat)
    (issuer : String) (keys : List Jwk)
    (returned : (provider.step event system).stage call = some (.returned issuer (.ok keys))) :
    system.stage call = some (.returned issuer (.ok keys)) ∨
      event = .lookup call issuer ∧ system.stage call = none ∧
        system.cache.lookup provider.cacheTtl system.now issuer = .ok (some keys) ∨
      event = .store call ∧ system.stage call = some (.fetched issuer keys) := by
  have moved := step_moves provider event system
  generalize stepped : provider.step event system = after at moved returned
  cases moved with
  | none => exact Or.inl returned
  | ticked reading => exact Or.inl returned
  | poisoned => exact Or.inl returned
  | served other sought entry begins _ _ =>
    rw [← stepped] at returned
    simp only [step,begins] at returned
    obtain ⟨rfl,reached⟩ | kept := system.advance_reached other call _ _ returned
    · obtain ⟨rfl,looked⟩ := lookupStage_answered sought issuer _ keys reached
      exact Or.inr (Or.inl ⟨rfl,begins,looked⟩)
    · exact Or.inl kept
  | stored other sought found was =>
    obtain ⟨rfl,reached⟩ | kept := system.advance_reached other call _ _ returned
    · cases reached
      exact Or.inr (Or.inr ⟨rfl,was⟩)
    · exact Or.inl kept
  | _ =>
    obtain ⟨_,reached⟩ | kept := system.advance_reached _ call _ _ returned
    · cases reached
    · exact Or.inl kept

theorem returned_answered (provider : NetworkJwksProvider T) (start : T) (issuer : String) (call : Nat)
    (keys : List Jwk) (events : List (JwksEvent N T)) :
    (provider.run events start).stage call = some (.returned issuer (.ok keys)) →
      ∃ source, AnsweredFrom provider start issuer call source keys events := by
  induction events using List.reverseRecOn with
  | nil =>
    intro returned
    cases returned
  | append_singleton events event ih =>
    intro returned
    rw [run_last] at returned
    obtain before | ⟨same,begins,looked⟩ | ⟨_,was⟩ := step_answered provider event _ call issuer keys returned
    · obtain ⟨source,⟨own,fetched⟩ | served⟩ := ih before
      · exact ⟨source,Or.inl ⟨own,Happened.append _ events [event] fetched⟩⟩
      · exact ⟨source,Or.inr (Happened.append _ events [event] served)⟩
    · obtain ⟨_,entry,found,holds⟩ := lookup_unpoisoned _ _ _ issuer keys looked
      obtain ⟨source,held⟩ := entry_held provider start issuer events entry found
      rw [holds] at held
      exact ⟨source,Or.inr (Happened.last _ events event ⟨same,begins,looked,held⟩)⟩
    · have fetched : FetchedBy provider start call issuer keys events :=
        (run_sourced provider start events).calls call _ was
      exact ⟨call,Or.inl ⟨rfl,Happened.append _ events [event] fetched⟩⟩

theorem heldFrom_later (provider : NetworkJwksProvider T) (start : T) (issuer : String) (call : Nat) (keys : List Jwk)
    (events later : List (JwksEvent N T)) : HeldFrom provider start issuer call keys (events ++ later) →
      HeldFrom provider start issuer call keys events ∨
        Happened (fun mid event => Inserts provider start issuer call keys (events ++ mid) event) later := by
  induction later using List.reverseRecOn with
  | nil =>
    intro held
    rw [List.append_nil] at held
    exact Or.inl held
  | append_singleton later event ih =>
    intro held
    rw [← List.append_assoc] at held
    obtain inserts | ⟨before,_⟩ := (heldFrom_last provider start issuer call keys _ event).mp held
    · exact Or.inr (Happened.last _ later event inserts)
    · obtain kept | inserted := ih before
      · exact Or.inl kept
      · exact Or.inr (Happened.append _ later [event] inserted)

/-- Keys that are held when another call has stored its own were inserted after that. -/
theorem held_insertedAfter (provider : NetworkJwksProvider T) (start : T) (issuer : String) (newer older : Nat)
    (keys earlier : List Jwk) (differ : newer ≠ older) (events : List (JwksEvent N T)) :
    StoredBy provider start issuer newer keys events → HeldFrom provider start issuer older earlier events →
      (provider.run events start).cache.poisoned = false →
      InsertedAfter provider start issuer newer older keys earlier events := by
  induction events using List.reverseRecOn with
  | nil =>
    intro stored held
    exact absurd held (Since.not_nil _ _)
  | append_singleton events event ih =>
    intro stored held sound
    have unpoisoned : (provider.run events start).cache.poisoned = false := by
      cases locked : (provider.run events start).cache.poisoned with
      | false => rfl
      | true =>
        rw [poisoned_stays provider start events [event] locked] at sound
        cases sound
    obtain before | ⟨same,was⟩ := (Happened.last_iff _ events event).mp stored
    · obtain inserts | ⟨kept,_⟩ := (heldFrom_last provider start issuer older earlier events event).mp held
      · exact Happened.last _ events event ⟨inserts,before⟩
      · exact Happened.append _ events [event] (ih before kept unpoisoned)
    · have inserts : Inserts provider start issuer newer keys events event := ⟨same,was,unpoisoned⟩
      have also := (heldFrom_last provider start issuer newer keys events event).mpr (Or.inl inserts)
      obtain ⟨one,_⟩ := heldFrom_unique provider start issuer newer older keys earlier _ also held
      exact absurd one differ

theorem fetchedAfter_facts (provider : NetworkJwksProvider T) (start : T) (issuer : String) (newer older : Nat)
    (keys : List Jwk) (events : List (JwksEvent N T))
    (overtaken : FetchedAfter provider start issuer newer older keys events) :
    newer ≠ older ∧ ∃ earlier, FetchedBy provider start older issuer earlier events := by
  obtain ⟨before,event,after,same,⟨_,_,_,fetching,_⟩,earlier,received⟩ := overtaken
  refine ⟨?_,earlier,?_⟩
  · intro one
    rw [one] at fetching
    obtain was | ⟨was,_⟩ := fetchedBy_stage provider start issuer older earlier before received
    · cases was.symm.trans fetching
    · cases was.symm.trans fetching
  · rw [same]
    exact Happened.append _ before (event :: after) received

/-- A call that has returned the keys of a fetch does so after that fetch's call has stored them. -/
theorem answered_stored (provider : NetworkJwksProvider T) (start : T) (issuer : String) (reader source : Nat)
    (keys : List Jwk) (events : List (JwksEvent N T))
    (returned : (provider.run events start).stage reader = some (.returned issuer (.ok keys)))
    (answered : AnsweredFrom provider start issuer reader source keys events) :
    StoredBy provider start issuer source keys events := by
  obtain ⟨own,fetched⟩ | ⟨before,event,after,same,_,_,_,held⟩ := answered
  · rw [← own]
    obtain was | ⟨_,stored⟩ := fetchedBy_stage provider start issuer reader keys events fetched
    · cases was.symm.trans returned
    · exact stored
  · obtain ⟨earlier,event,rest,split,⟨stores,was,_⟩⟩ := Since.happened _ _ before held
    have stored : StoredBy provider start issuer source keys before := ⟨earlier,event,rest,split,stores,was⟩
    rw [same]
    exact Happened.append _ before _ stored

/-- A response that another fetch has overtaken takes the place of the newer keys in the cache where its
own call stores it after them, and only there; a call that begins when the newer keys have been returned
gets the older ones in that case only. -/
theorem overtaken_response (provider : NetworkJwksProvider T) (start : T) (issuer : String) (newer older : Nat)
    (keys : List Jwk) (events : List (JwksEvent N T))
    (overtaken : FetchedAfter provider start issuer newer older keys events) :
    (HeldFrom provider start issuer newer keys events →
      (∃ instant, (provider.run events start).cache.entries.lookup issuer = some ⟨keys,instant⟩) ∧
      (∀ later entry, (provider.run (events ++ later) start).cache.entries.lookup issuer = some entry →
        ∃ source, HeldFrom provider start issuer source entry.keys (events ++ later)) ∧
      (∀ event earlier, HeldFrom provider start issuer older earlier (events ++ [event]) ↔
        Inserts provider start issuer older earlier events event) ∧
      ∀ later earlier, HeldFrom provider start issuer older earlier (events ++ later) →
        (∃ instant, (provider.run (events ++ later) start).cache.entries.lookup issuer = some ⟨earlier,instant⟩) ∧
        (provider.run events start).stage older = some (.fetched issuer earlier) ∧
        Happened (fun mid event => Inserts provider start issuer older earlier (events ++ mid) event) later) ∧
    ∀ reader call, (provider.run events start).stage reader = some (.returned issuer (.ok keys)) →
      AnsweredFrom provider start issuer reader newer keys events → (provider.run events start).stage call = none →
      ∀ later answer, (provider.run (events ++ later) start).stage call = some (.returned issuer (.ok answer)) →
        (∃ source, AnsweredFrom provider start issuer call source answer (events ++ later)) ∧
        (AnsweredFrom provider start issuer call older answer (events ++ later) →
          InsertedAfter provider start issuer newer older keys answer (events ++ later)) := by
  obtain ⟨differ,response,received⟩ := fetchedAfter_facts provider start issuer newer older keys events overtaken
  have absent : ∀ earlier, HeldFrom provider start issuer newer keys events →
      ¬HeldFrom provider start issuer older earlier events := by
    intro earlier held other
    exact differ (heldFrom_unique provider start issuer newer older keys earlier events held other).1
  refine ⟨?_,?_⟩
  · intro held
    refine ⟨held_entry provider start issuer newer keys events held,?_,?_,?_⟩
    · intro later entry found
      exact entry_held provider start issuer (events ++ later) entry found
    · intro event earlier
      rw [heldFrom_last]
      constructor
      · intro replaced
        obtain inserts | ⟨before,_⟩ := replaced
        · exact inserts
        · exact absurd before (absent earlier held)
      · intro inserts
        exact Or.inl inserts
    · intro later earlier replaced
      obtain before | inserted := heldFrom_later provider start issuer older earlier events later replaced
      · exact absurd before (absent earlier held)
      · refine ⟨held_entry provider start issuer older earlier _ replaced,?_,inserted⟩
        obtain ⟨mid,event,rest,_,_,was,_⟩ := inserted
        obtain pending | ⟨returned,_⟩ := fetchedBy_stage provider start issuer older response events received
        · have kept : FetchedBy provider start older issuer response (events ++ mid) :=
            Happened.append _ events mid received
          obtain now | ⟨now,_⟩ := fetchedBy_stage provider start issuer older response (events ++ mid) kept
          · cases now.symm.trans was
            exact pending
          · cases now.symm.trans was
        · have now := returned_stays provider start older issuer _ events mid returned
          cases now.symm.trans was
  · intro reader call returned answered begins later answer finished
    refine ⟨returned_answered provider start issuer call answer (events ++ later) finished,?_⟩
    intro old
    obtain ⟨own,_⟩ | served := old
    · rw [own] at begins
      obtain was | ⟨was,_⟩ := fetchedBy_stage provider start issuer older response events received
      · cases was.symm.trans begins
      · cases was.symm.trans begins
    · obtain ⟨before,event,after,same,lookup,unbegun,_⟩ | ⟨mid,event,rest,same,_,_,looked,held⟩ :=
        Happened.split _ events later served
      · have begun : (provider.run (before ++ [event]) start).stage call ≠ none := by
          rw [run_last,lookup]
          simp only [step,unbegun,JwksSystem.advance_stage]
          exact Option.some_ne_none _
        have still := begun_stays provider start call (before ++ [event]) after begun
        rw [List.append_assoc,List.singleton_append,← same] at still
        exact absurd begins still
      · obtain ⟨sound,_⟩ := lookup_unpoisoned _ _ _ issuer answer looked
        have stored := answered_stored provider start issuer reader newer keys events returned answered
        have inserted := held_insertedAfter provider start issuer newer older keys answer differ (events ++ mid)
          (Happened.append _ events mid stored) held sound
        rw [same,← List.append_assoc]
        exact Happened.append _ (events ++ mid) _ inserted

/-- Two calls that miss together: the second fetches when the first has its response, and stores first. -/
theorem overtaken_calls (provider : NetworkJwksProvider T) (network rotated : Network N) (world : NetWorld N)
    (issuer : String) (old new : List Jwk) (start : T) (withdrawn : (provider.fetchKeys network issuer world).1 = .ok old)
    (current : (provider.fetchKeys rotated issuer world).1 = .ok new) (fresh : start-start < provider.cacheTtl) :
    let before : List (JwksEvent N T) :=
      [.lookup 0 issuer,.fetch 0 network world,.lookup 1 issuer,.fetch 1 rotated world,.store 1]
    let after := before ++ [.store 0,.lookup 2 issuer]
    BeganAfter provider start issuer 1 0 before ∧ FetchedAfter provider start issuer 1 0 new before ∧
      HeldFrom provider start issuer 1 new before ∧
      AnsweredFrom provider start issuer 1 1 new before ∧
      (provider.run before start).stage 1 = some (.returned issuer (.ok new)) ∧
      (provider.run before start).stage 2 = none ∧ HeldFrom provider start issuer 0 old after ∧
      AnsweredFrom provider start issuer 2 0 old after ∧
      (provider.run after start).stage 2 = some (.returned issuer (.ok old)) := by
  intro before after
  have recent : elapsed start start < provider.cacheTtl := by rwa [elapsed_of_le start start (le_refl start)]
  let asked : List (JwksEvent N T) := [.lookup 0 issuer]
  let answered := asked ++ [.fetch 0 network world]
  let joined := answered ++ [.lookup 1 issuer]
  let rotating := joined ++ [.fetch 1 rotated world]
  let restored := before ++ [.store 0]
  -- The system after each of these steps.
  let first := (JwksSystem.new start).advance 0 (.fetching issuer)
  let second := first.advance 0 (.fetched issuer old)
  let third := second.advance 1 (.fetching issuer)
  let fourth := third.advance 1 (.fetched issuer new)
  let fifth := {fourth.advance 1 (.returned issuer (.ok new)) with cache := fourth.cache.insert start issuer new}
  let sixth := {fifth.advance 0 (.returned issuer (.ok old)) with cache := fifth.cache.insert start issuer old}
  have run_asked : provider.run asked start = first := rfl
  have run_answered : provider.run answered start = second := by
    apply (run_last provider start asked (.fetch 0 network world)).trans
    rw [run_asked]
    simp only [step,first,JwksSystem.advance_stage,withdrawn]
    rfl
  have run_joined : provider.run joined start = third := by
    apply (run_last provider start answered (.lookup 1 issuer)).trans
    rw [run_answered]
    rfl
  have waiting : (provider.run joined start).stage 1 = some (.fetching issuer) := by
    rw [run_joined]
    exact second.advance_stage 1 _
  have run_rotating : provider.run rotating start = fourth := by
    apply (run_last provider start joined (.fetch 1 rotated world)).trans
    simp only [step,waiting,current]
    rw [run_joined]
    rfl
  have ready : (provider.run rotating start).stage 1 = some (.fetched issuer new) := by
    rw [run_rotating]
    exact third.advance_stage 1 _
  have run_before : provider.run before start = fifth := by
    apply (run_last provider start rotating (.store 1)).trans
    simp only [step,ready]
    rw [run_rotating]
    rfl
  have late : (provider.run before start).stage 0 = some (.fetched issuer old) := by
    rw [run_before]
    rfl
  have sound : (provider.run before start).cache.poisoned = false := by
    rw [run_before]
    rfl
  have run_restored : provider.run restored start = sixth := by
    apply (run_last provider start before (.store 0)).trans
    simp only [step,late]
    rw [run_before]
    rfl
  have idle : (provider.run restored start).stage 2 = none := by
    rw [run_restored]
    rfl
  have found : (provider.run restored start).cache.lookup provider.cacheTtl (provider.run restored start).now issuer =
      .ok (some old) := by
    have entry : sixth.cache.entries.lookup issuer = some ⟨old,start⟩ := JwksCache.insert_sound _ start issuer old rfl
    have unpoisoned : sixth.cache.poisoned = false := rfl
    rw [run_restored]
    unfold JwksCache.lookup
    rw [if_neg (Bool.eq_false_iff.mp unpoisoned),entry]
    exact if_pos recent
  have received : FetchedBy provider start 0 issuer old answered :=
    ⟨asked,.fetch 0 network world,[],rfl,network,world,rfl,rfl,withdrawn⟩
  have fetched : FetchedBy provider start 1 issuer new before :=
    ⟨joined,.fetch 1 rotated world,[.store 1],rfl,rotated,world,rfl,waiting,current⟩
  have held : HeldFrom provider start issuer 0 old restored :=
    (heldFrom_last provider start issuer 0 old before (.store 0)).mpr (Or.inl ⟨rfl,late,sound⟩)
  refine ⟨?_,?_,?_,Or.inl ⟨rfl,fetched⟩,?_,?_,?_,?_,?_⟩
  · refine ⟨answered,.lookup 1 issuer,[.fetch 1 rotated world,.store 1],rfl,rfl,?_,waiting,old,received⟩
    rw [run_answered]
    rfl
  · refine ⟨joined,.fetch 1 rotated world,[.store 1],rfl,⟨rotated,world,rfl,waiting,current⟩,old,?_⟩
    exact Happened.append _ answered [.lookup 1 issuer] received
  · refine (heldFrom_last provider start issuer 1 new rotating (.store 1)).mpr (Or.inl ⟨rfl,ready,?_⟩)
    rw [run_rotating]
    rfl
  · rw [run_before]
    rfl
  · rw [run_before]
    rfl
  · refine (heldFrom_last provider start issuer 0 old restored (.lookup 2 issuer)).mpr (Or.inr ⟨held,?_⟩)
    intro inserts
    obtain ⟨_,_,same,_⟩ := inserts
    cases same
  · exact Or.inr (Happened.last _ restored (.lookup 2 issuer) ⟨rfl,idle,found,held⟩)
  · apply (congrArg (fun after => after.stage 2) (run_last provider start restored (.lookup 2 issuer))).trans
    simp only [step,idle,found,lookupStage,JwksSystem.advance_stage]

end NetworkJwksProvider

def rotatedJwks : String :=
  "\x7b\"keys\":[\x7b\"kty\":\"OKP\",\"crv\":\"Ed25519\",\"x\":\"AQ\"\x7d]\x7d"

def rotatedDocument (bytes : List UInt8) : Option Json :=
  if bytes = Text.asBytes rotatedJwks then
    some (.object [("keys",.array [.object [("kty",.string "OKP"),("crv",.string "Ed25519"),("x",.string "AQ")]])])
  else sampleDocument bytes

def rotatedProvider : NetworkJwksProvider Nat :=
  {sampleProvider with crates := {sampleIdpCrates with fromSlice := rotatedDocument}}

def rotatedNetwork : Network Unit where
  resolveHost _ world := (.ok [.v4 (Ipv4Addr.ofBits 134744072)],world)
  exchange request world :=
    (if request.url = "https://idp.example/jwks" then .ok (sampleIdpResponse rotatedJwks)
      else .ok (sampleIdpResponse sampleDiscovery),world)

def rotatedKey : Jwk := {sampleIdpKey with x := some "AQ"}

theorem withdrawn_fetched :
    (rotatedProvider.fetchKeys sampleIdpNetwork sampleIssuer ⟨(),[]⟩).1 = .ok [sampleIdpKey] := by
  decide +kernel

theorem rotated_fetched :
    (rotatedProvider.fetchKeys rotatedNetwork sampleIssuer ⟨(),[]⟩).1 = .ok [rotatedKey] := by
  decide +kernel

def overtakenCalls : List (JwksEvent Unit Nat) :=
  [.lookup 0 sampleIssuer,.fetch 0 sampleIdpNetwork ⟨(),[]⟩,.lookup 1 sampleIssuer,.fetch 1 rotatedNetwork ⟨(),[]⟩,
    .store 1]

def returningCalls : List (JwksEvent Unit Nat) := [.store 0,.lookup 2 sampleIssuer]

/-- The newer keys are held and returned, and a call that begins then returns the older ones. -/
theorem withdrawn_key_returns :
    rotatedProvider.BeganAfter 0 sampleIssuer 1 0 overtakenCalls ∧
    rotatedProvider.HeldFrom 0 sampleIssuer 1 [rotatedKey] overtakenCalls ∧
    (rotatedProvider.run overtakenCalls 0).stage 1 = some (.returned sampleIssuer (.ok [rotatedKey])) ∧
    (rotatedProvider.run overtakenCalls 0).stage 2 = none ∧
    rotatedProvider.HeldFrom 0 sampleIssuer 0 [sampleIdpKey] (overtakenCalls ++ returningCalls) ∧
    (rotatedProvider.run (overtakenCalls ++ returningCalls) 0).stage 2 =
      some (.returned sampleIssuer (.ok [sampleIdpKey])) ∧
    [sampleIdpKey] ≠ [rotatedKey] := by
  have fresh : (0 : Nat)-0 < rotatedProvider.cacheTtl := by decide
  obtain ⟨began,_,held,_,returned,idle,restored,_,old⟩ := rotatedProvider.overtaken_calls sampleIdpNetwork rotatedNetwork
    ⟨(),[]⟩ sampleIssuer [sampleIdpKey] [rotatedKey] 0 withdrawn_fetched rotated_fetched fresh
  unfold overtakenCalls returningCalls
  exact ⟨began,held,returned,idle,restored,old,by decide⟩

theorem overtaken_response_rotated :
    (∃ instant, (rotatedProvider.run overtakenCalls 0).cache.entries.lookup sampleIssuer = some ⟨[rotatedKey],instant⟩) ∧
    (∃ instant, (rotatedProvider.run (overtakenCalls ++ returningCalls) 0).cache.entries.lookup sampleIssuer =
      some ⟨[sampleIdpKey],instant⟩) ∧
    (rotatedProvider.run overtakenCalls 0).stage 0 = some (.fetched sampleIssuer [sampleIdpKey]) ∧
    rotatedProvider.InsertedAfter 0 sampleIssuer 1 0 [rotatedKey] [sampleIdpKey] (overtakenCalls ++ returningCalls) := by
  have fresh : (0 : Nat)-0 < rotatedProvider.cacheTtl := by decide
  obtain ⟨_,overtaken,held,answered,returned,idle,restored,served,old⟩ := rotatedProvider.overtaken_calls
    sampleIdpNetwork rotatedNetwork ⟨(),[]⟩ sampleIssuer [sampleIdpKey] [rotatedKey] 0 withdrawn_fetched rotated_fetched
    fresh
  unfold overtakenCalls returningCalls
  obtain ⟨kept,later⟩ := rotatedProvider.overtaken_response 0 sampleIssuer 1 0 [rotatedKey] _ overtaken
  obtain ⟨entry,_,_,replaced⟩ := kept held
  obtain ⟨replacement,pending,_⟩ := replaced [.store 0,.lookup 2 sampleIssuer] [sampleIdpKey] restored
  refine ⟨entry,replacement,pending,?_⟩
  exact (later 1 2 returned answered idle [.store 0,.lookup 2 sampleIssuer] [sampleIdpKey] old).2 served

end SolidOidcVerifier
