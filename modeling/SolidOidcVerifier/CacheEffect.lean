import SolidOidcVerifier.ServerWithdrawal

/-! What the cache of key sets spares and what it leaves as it is. A call goes to the network only where no key
set of its issuer was stored within the time to live, and where the issuers keep to their keys no call can tell
the provider from one that holds these keys from the beginning. -/
namespace SolidOidcVerifier
open Foundation

structure StaticJwksProvider where
  entries : ExpiryMap.Map String (List Jwk)

namespace StaticJwksProvider

def new : StaticJwksProvider := ⟨∅⟩

def withIssuer (provider : StaticJwksProvider) (issuer : String) (keys : List Jwk) : StaticJwksProvider :=
  ⟨provider.entries.insert issuer keys⟩

def keysFor (provider : StaticJwksProvider) (issuer : String) : Except String (List Jwk) :=
  match provider.entries.lookup issuer with
  | some keys => .ok keys
  | none => .error ("no JWKS configured for issuer " ++ issuer)

theorem keysFor_withIssuer (provider : StaticJwksProvider) (issuer other : String) (keys : List Jwk) :
    (provider.withIssuer issuer keys).keysFor other = if other = issuer then .ok keys else provider.keysFor other := by
  unfold keysFor withIssuer
  by_cases same : other = issuer
  · rw [if_pos same,same,AList.lookup_insert]
  · rw [if_neg same,AList.lookup_insert_ne same]

end StaticJwksProvider

variable {N T : Type}

namespace NetworkJwksProvider

section stale

variable [LinearOrder T] [Sub T] [Zero T]

/-- The lookup of a call that found no fresh entry. -/
def SentToFetch (provider : NetworkJwksProvider T) (start : T) (call : Nat) (issuer : String) (instant : T) :
    List (JwksEvent N T) → Prop :=
  Happened fun before event => event = .lookup call issuer ∧ (provider.run before start).now = instant ∧
    (provider.run before start).stage call = none ∧
    (provider.run before start).cache.lookup provider.cacheTtl instant issuer = .ok none

/-- The entry of an issuer is at least as new as every insertion for it, unless the cache is locked. -/
def Newest (provider : NetworkJwksProvider T) (start : T) (events : List (JwksEvent N T)) (system : JwksSystem T) :
    Prop :=
  system.cache.poisoned = false → ∀ issuer storer keys instant, InsertedAt provider start storer issuer keys instant events →
    ∃ entry, system.cache.entries.lookup issuer = some entry ∧ instant ≤ entry.fetchedAt ∧ entry.fetchedAt ≤ system.now

theorem Newest.quiet (provider : NetworkJwksProvider T) (start : T) (events : List (JwksEvent N T))
    (event : JwksEvent N T) (system next : JwksSystem T) (newest : Newest provider start events system)
    (cache : next.cache = system.cache) (later : system.now ≤ next.now) (unstored : ∀ call, event ≠ .store call) :
    Newest provider start (events ++ [event]) next := by
  intro sound issuer storer keys instant inserted
  rw [cache] at sound ⊢
  rcases (Happened.last_iff _ events event).mp inserted with earlier | ⟨same,_⟩
  · obtain ⟨entry,found,order,past⟩ := newest sound issuer storer keys instant earlier
    exact ⟨entry,found,order,past.trans later⟩
  · exact absurd same (unstored storer)

theorem Newest.insert (provider : NetworkJwksProvider T) (start : T) (events : List (JwksEvent N T)) (call : Nat)
    (issuer : String) (keys : List Jwk) (newest : Newest provider start events (provider.run events start))
    (was : (provider.run events start).stage call = some (.fetched issuer keys)) :
    Newest provider start (events ++ [.store call])
      {(provider.run events start).advance call (.returned issuer (.ok keys)) with
        cache := (provider.run events start).cache.insert (provider.run events start).now issuer keys} := by
  intro sound other storer held instant inserted
  change ((provider.run events start).cache.insert (provider.run events start).now issuer keys).poisoned = false at sound
  rw [JwksCache.insert_poisoned] at sound
  have past : instant ≤ (provider.run events start).now := by
    rcases (Happened.last_iff _ events _).mp inserted with earlier | ⟨_,_,now⟩
    · obtain ⟨entry,_,order,before⟩ := newest sound other storer held instant earlier
      exact order.trans before
    · exact now.ge
  by_cases same : other = issuer
  · rw [same]
    exact ⟨_,JwksCache.insert_sound _ _ _ _ sound,past,le_refl _⟩
  · rw [JwksCache.insert_other _ _ _ _ _ same]
    rcases (Happened.last_iff _ events _).mp inserted with earlier | ⟨again,stage,_⟩
    · exact newest sound other storer held instant earlier
    · cases again
      rw [was] at stage
      cases stage
      exact absurd rfl same

theorem step_newest (provider : NetworkJwksProvider T) (start : T) (events : List (JwksEvent N T))
    (event : JwksEvent N T) (newest : Newest provider start events (provider.run events start)) :
    Newest provider start (events ++ [event]) (provider.step event (provider.run events start)) := by
  have unstored : ∀ call, event = .store call → (∀ issuer keys, (provider.run events start).stage call ≠
      some (.fetched issuer keys)) → Newest provider start (events ++ [event]) (provider.run events start) := by
    intro call same unfetched sound issuer storer keys instant inserted
    rcases (Happened.last_iff _ events event).mp inserted with earlier | ⟨again,was,_⟩
    · exact newest sound issuer storer keys instant earlier
    · rw [same] at again
      cases again
      exact absurd was (unfetched issuer keys)
  cases event with
  | tick reading => exact newest.quiet provider start events _ _ _ rfl (le_max_left _ _) (by simp)
  | poison =>
    intro sound
    cases sound
  | lookup call issuer =>
    cases was : (provider.run events start).stage call with
    | none =>
      simp only [step,was]
      exact newest.quiet provider start events _ _ _ rfl (le_refl _) (by simp)
    | some stage =>
      simp only [step,was]
      exact newest.quiet provider start events _ _ _ rfl (le_refl _) (by simp)
  | fetch call network world =>
    have still := step_moves provider (.fetch call network world) (provider.run events start)
    generalize provider.step (.fetch call network world) (provider.run events start) = after at still
    cases still with
    | none => exact newest.quiet provider start events _ _ _ rfl (le_refl _) (by simp)
    | failed => exact newest.quiet provider start events _ _ _ rfl (le_refl _) (by simp)
    | fetched => exact newest.quiet provider start events _ _ _ rfl (le_refl _) (by simp)
  | store call =>
    cases was : (provider.run events start).stage call with
    | none =>
      simp only [step,was]
      exact unstored call rfl (by simp [was])
    | some stage =>
      cases stage with
      | fetched issuer keys =>
        simp only [step,was]
        exact newest.insert provider start events call issuer keys was
      | _ =>
        simp only [step,was]
        exact unstored call rfl (by simp [was])

theorem run_newest (provider : NetworkJwksProvider T) (start : T) (events : List (JwksEvent N T)) :
    Newest provider start events (provider.run events start) := by
  apply History.run_keeps provider.step (.new start) (Newest provider start)
  · intro _ issuer storer keys instant inserted
    obtain ⟨_,_,_,same,_⟩ := inserted
    simp at same
  · exact step_newest provider start

theorem lookup_missed (cache : JwksCache T) (ttl now : T) (issuer : String) (missed : cache.lookup ttl now issuer = .ok none) :
    cache.poisoned = false ∧ ∀ entry, cache.entries.lookup issuer = some entry → ttl ≤ elapsed entry.fetchedAt now := by
  unfold JwksCache.lookup at missed
  cases locked : cache.poisoned with
  | true =>
    rw [if_pos locked] at missed
    cases missed
  | false =>
    refine ⟨rfl,?_⟩
    intro entry found
    rw [if_neg (by simp [locked]),found] at missed
    by_contra fresh
    simp only [if_pos (not_le.mp fresh)] at missed
    cases missed

/-- A call that goes to the network was sent there by its own lookup. -/
def Sent (provider : NetworkJwksProvider T) (start : T) (events : List (JwksEvent N T)) (system : JwksSystem T) : Prop :=
  ∀ call issuer, system.stage call = some (.fetching issuer) → ∃ looked, looked ≤ system.now ∧
    SentToFetch provider start call issuer looked events

theorem Sent.advance (provider : NetworkJwksProvider T) (start : T) (events : List (JwksEvent N T))
    (event : JwksEvent N T) (system : JwksSystem T) (call : Nat) (stage : JwksStage)
    (sent : Sent provider start events system) (reached : ∀ issuer, stage = .fetching issuer →
      SentToFetch provider start call issuer system.now (events ++ [event])) :
    Sent provider start (events ++ [event]) (system.advance call stage) := by
  intro other issuer was
  rcases system.advance_reached call other stage _ was with ⟨rfl,same⟩ | kept
  · exact ⟨system.now,le_refl _,reached issuer same⟩
  · obtain ⟨looked,past,before⟩ := sent other issuer kept
    exact ⟨looked,past,Happened.append _ _ _ before⟩

theorem Sent.later (provider : NetworkJwksProvider T) (start : T) (events later : List (JwksEvent N T))
    (system : JwksSystem T) (now : T) (cache : JwksCache T) (sent : Sent provider start events system)
    (onward : system.now ≤ now) : Sent provider start (events ++ later) {system with now := now,cache := cache} := by
  intro call issuer was
  obtain ⟨looked,past,before⟩ := sent call issuer was
  exact ⟨looked,past.trans onward,Happened.append _ _ _ before⟩

theorem step_sent (provider : NetworkJwksProvider T) (start : T) (events : List (JwksEvent N T))
    (event : JwksEvent N T) (sent : Sent provider start events (provider.run events start)) :
    Sent provider start (events ++ [event]) (provider.step event (provider.run events start)) := by
  cases event with
  | tick reading => exact sent.later provider start events _ _ _ _ (le_max_left _ _)
  | poison => exact sent.later provider start events _ _ _ _ (le_refl _)
  | lookup call issuer =>
    cases begins : (provider.run events start).stage call with
    | some stage =>
      simp only [step,begins]
      exact sent.later provider start events _ _ _ _ (le_refl _)
    | none =>
      simp only [step,begins]
      apply sent.advance provider start events
      intro sought reached
      generalize missed : (provider.run events start).cache.lookup provider.cacheTtl (provider.run events start).now
        issuer = looked at reached
      rcases looked with _ | _ | keys
      · cases reached
      · cases reached
        exact Happened.last _ _ _ ⟨rfl,rfl,begins,missed⟩
      · cases reached
  | fetch call network world =>
    cases was : (provider.run events start).stage call with
    | none =>
      simp only [step,was]
      exact sent.later provider start events _ _ _ _ (le_refl _)
    | some stage =>
      cases stage with
      | fetching issuer =>
        simp only [step,was]
        apply sent.advance provider start events
        intro sought reached
        cases outcome : (provider.fetchKeys network issuer world).1 with
        | error stop =>
          rw [outcome] at reached
          cases reached
        | ok keys =>
          rw [outcome] at reached
          cases reached
      | _ =>
        simp only [step,was]
        exact sent.later provider start events _ _ _ _ (le_refl _)
  | store call =>
    cases was : (provider.run events start).stage call with
    | none =>
      simp only [step,was]
      exact sent.later provider start events _ _ _ _ (le_refl _)
    | some stage =>
      cases stage with
      | fetched issuer keys =>
        simp only [step,was]
        have moved := sent.advance provider start events (.store call) _ call (.returned issuer (.ok keys)) (by simp)
        intro other sought reached
        exact moved other sought reached
      | _ =>
        simp only [step,was]
        exact sent.later provider start events _ _ _ _ (le_refl _)

theorem run_sent (provider : NetworkJwksProvider T) (start : T) (events : List (JwksEvent N T)) :
    Sent provider start events (provider.run events start) := by
  apply History.run_keeps provider.step (.new start) (Sent provider start)
  · intro call issuer was
    cases was
  · exact step_sent provider start

end stale

section span

variable [AddCommGroup T] [LinearOrder T] [IsOrderedAddMonoid T]

/-- A call goes to the network only if no key set of its issuer was stored less than the time to live before it
looked, whichever calls stored meanwhile. -/
theorem fetches_when_stale (provider : NetworkJwksProvider T) (start : T) (events : List (JwksEvent N T)) (call : Nat)
    (issuer : String) (was : (provider.run events start).stage call = some (.fetching issuer)) :
    ∃ looked, LookedUpAt provider start call issuer looked events ∧ looked ≤ (provider.run events start).now ∧
      ∀ storer keys stored, InsertedAt provider start storer issuer keys stored events → stored < looked →
        provider.cacheTtl ≤ looked-stored := by
  obtain ⟨looked,past,before,event,after,rfl,rfl,clock,begins,missed⟩ := provider.run_sent start events call issuer was
  refine ⟨looked,⟨before,_,after,rfl,rfl,begins,clock⟩,past,?_⟩
  intro storer keys stored inserted earlier
  obtain ⟨sound,stale⟩ := lookup_missed _ _ _ _ missed
  rcases Happened.split _ before _ inserted with own | ⟨mid,other,rest,_,_,_,instant⟩
  · obtain ⟨entry,found,order,old⟩ := provider.run_newest start before sound issuer storer keys stored own
    have expired := stale entry found
    rw [clock] at old
    rw [elapsed_of_le _ _ old] at expired
    exact expired.trans (sub_le_sub_left order looked)
  · have onward := provider.run_later start before mid
    rw [clock,instant] at onward
    exact absurd earlier (not_lt.mpr onward)

omit [IsOrderedAddMonoid T] in
theorem expired_call (provider : NetworkJwksProvider T) (network : Network N) (world : NetWorld N) (issuer : String)
    (keys : List Jwk) (start later : T) (fetched : (provider.fetchKeys network issuer world).1 = .ok keys)
    (order : start ≤ later) (stale : provider.cacheTtl ≤ later-start) :
    (provider.run [.lookup 0 issuer,.fetch 0 network world,.store 0,.tick later,.lookup 1 issuer] start).stage 1 =
      some (.fetching issuer) ∧
    InsertedAt provider start 0 issuer keys start
      [.lookup 0 issuer,.fetch 0 network world,.store 0,.tick later,.lookup 1 issuer] := by
  have expired : ¬elapsed start later < provider.cacheTtl := by
    rw [elapsed_of_le start later order]
    exact not_lt.mpr stale
  refine ⟨?_,[.lookup 0 issuer,.fetch 0 network world],.store 0,[.tick later,.lookup 1 issuer],rfl,rfl,?_,?_⟩
  · simp [run,History.run,JwksSystem.new,step,JwksCache.lookup,JwksCache.insert,lookupStage,fetchStage,
      JwksSystem.advance,fetched,expired,order,-AList.insert_empty]
  · simp [run,History.run,JwksSystem.new,step,JwksCache.lookup,lookupStage,fetchStage,JwksSystem.advance,fetched]
  · simp [run,History.run,JwksSystem.new,step,JwksCache.lookup,lookupStage,fetchStage,JwksSystem.advance,fetched]

end span

section settled

variable [LinearOrder T] [Sub T] [Zero T]

/-- Every fetch of the run answers as the static provider does, up to the text of a failure. -/
def Settled (provider : NetworkJwksProvider T) (held : StaticJwksProvider) (start : T) (events : List (JwksEvent N T)) :
    Prop :=
  ∀ before call network world issuer after, events = before ++ .fetch call network world :: after →
    (provider.run before start).stage call = some (.fetching issuer) →
      (provider.fetchKeys network issuer world).1.toOption = (held.keysFor issuer).toOption

def Held (held : StaticJwksProvider) : JwksStage → Prop
  | .fetching _ => True
  | .fetched issuer keys => held.keysFor issuer = .ok keys
  | .returned issuer result => result.toOption = (held.keysFor issuer).toOption

structure Faithful (held : StaticJwksProvider) (system : JwksSystem T) : Prop where
  sound : system.cache.poisoned = false
  entries : ∀ issuer entry, system.cache.entries.lookup issuer = some entry → held.keysFor issuer = .ok entry.keys
  calls : ∀ call stage, system.stage call = some stage → Held held stage

omit [LinearOrder T] [Sub T] [Zero T] in
theorem Faithful.advance (held : StaticJwksProvider) (system : JwksSystem T) (call : Nat) (stage : JwksStage)
    (faithful : Faithful held system) (reached : Held held stage) : Faithful held (system.advance call stage) := by
  refine ⟨faithful.sound,faithful.entries,?_⟩
  intro other later was
  rcases system.advance_reached call other stage later was with ⟨_,rfl⟩ | kept
  · exact reached
  · exact faithful.calls other later kept

theorem toOption_ok {ε α : Type} (result : Except ε α) (value : α) (found : result.toOption = some value) :
    result = .ok value := by
  cases result with
  | error error => cases found
  | ok other =>
    cases found
    rfl

theorem step_faithful (provider : NetworkJwksProvider T) (held : StaticJwksProvider) (event : JwksEvent N T)
    (system : JwksSystem T) (faithful : Faithful held system) (sound : event ≠ .poison)
    (settled : ∀ call network world issuer, event = .fetch call network world →
      system.stage call = some (.fetching issuer) →
        (provider.fetchKeys network issuer world).1.toOption = (held.keysFor issuer).toOption) :
    Faithful held (provider.step event system) := by
  have moved := step_moves provider event system
  generalize provider.step event system = after at moved
  cases moved with
  | none => exact faithful
  | ticked reading => exact ⟨faithful.sound,faithful.entries,faithful.calls⟩
  | poisoned => exact absurd rfl sound
  | refused call issuer begins locked =>
    rw [faithful.sound] at locked
    cases locked
  | served call issuer entry begins found fresh =>
    apply faithful.advance
    exact (congrArg Except.toOption (faithful.entries issuer entry found)).symm
  | missed call issuer begins => exact faithful.advance held system call _ trivial
  | failed call network world issuer stop was outcome =>
    apply faithful.advance
    have agrees := settled call network world issuer rfl was
    rw [outcome] at agrees
    exact agrees
  | fetched call network world issuer keys was outcome =>
    apply faithful.advance
    have agrees := settled call network world issuer rfl was
    rw [outcome] at agrees
    exact toOption_ok _ keys agrees.symm
  | stored call issuer keys was =>
    have kept : held.keysFor issuer = .ok keys := faithful.calls call _ was
    have advanced := faithful.advance held system call (.returned issuer (.ok keys)) (congrArg Except.toOption kept).symm
    refine ⟨(JwksCache.insert_poisoned _ _ _ _).trans faithful.sound,?_,advanced.calls⟩
    intro other entry found
    by_cases same : other = issuer
    · change (system.cache.insert system.now issuer keys).entries.lookup other = some entry at found
      rw [same,JwksCache.insert_sound _ _ _ _ faithful.sound] at found
      cases found
      rw [same]
      exact kept
    · apply faithful.entries other entry
      rw [← found]
      exact (JwksCache.insert_other _ _ _ _ _ same).symm

theorem Settled.earlier (provider : NetworkJwksProvider T) (held : StaticJwksProvider) (start : T)
    (events later : List (JwksEvent N T)) (settled : Settled provider held start (events ++ later)) :
    Settled provider held start events := by
  intro before call network world issuer after same
  apply settled before call network world issuer (after ++ later)
  rw [same,List.append_assoc,List.cons_append]

theorem run_faithful (provider : NetworkJwksProvider T) (held : StaticJwksProvider) (start : T)
    (events : List (JwksEvent N T)) : Settled provider held start events → .poison ∉ events →
      Faithful held (provider.run events start) := by
  induction events using List.reverseRecOn with
  | nil =>
    intro _ _
    refine ⟨rfl,?_,?_⟩
    · intro issuer entry found
      cases found
    · intro call stage was
      cases was
  | append_singleton events event ih =>
    intro settled sound
    have calm : .poison ∉ events ∧ event ≠ .poison := by
      constructor
      · intro member
        exact sound (List.mem_append_left _ member)
      · intro same
        exact sound (by simp [same])
    rw [run_last]
    apply provider.step_faithful held event _ (ih (settled.earlier provider held start events [event]) calm.1) calm.2
    intro call network world issuer same was
    exact settled events call network world issuer [] (by rw [same]) was

end settled

end NetworkJwksProvider

theorem fetches_when_stale_sample :
    ∃ looked, sampleServer.provider.LookedUpAt (N := Unit) 0 1 sampleIssuer looked
        [.lookup 0 sampleIssuer,.fetch 0 sampleIdpNetwork ⟨(),[]⟩,.store 0,.tick 60,.lookup 1 sampleIssuer] ∧
      (0 < looked → 60 ≤ looked) := by
  obtain ⟨sent,inserted⟩ := sampleServer.provider.expired_call sampleIdpNetwork ⟨(),[]⟩ sampleIssuer [sampleIdpKey] 0 60
    sampleServer_keys (by decide +kernel) (by decide +kernel)
  obtain ⟨looked,lookup,_,spared⟩ := sampleServer.provider.fetches_when_stale 0 _ 1 sampleIssuer sent
  refine ⟨looked,lookup,?_⟩
  intro later
  have apart := spared 0 [sampleIdpKey] 0 inserted later
  rw [sub_zero] at apart
  exact apart

end SolidOidcVerifier
