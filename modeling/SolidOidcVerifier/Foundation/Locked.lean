import SolidOidcVerifier.Foundation.History
import SolidOidcVerifier.Foundation.Mealy

/-! An object behind a lock. A call waits for the lock, reads the clock under it, takes its effect and
lets go; whatever the calls do in between, they take effect one after another. -/
namespace Foundation.Locked

inductive Stage (R A T : Type) where
  | blocked (request : R)
  | holding (request : R)
  | sampled (request : R) (reading : T)
  | returned (request : R) (reading : T) (answer : A)

structure Entry (R T : Type) where
  call : Nat
  request : R
  reading : T
deriving DecidableEq,Repr

/-- `log` is not part of the object: it lists the effects in the order they were taken. -/
structure System (R A σ T : Type) where
  now : T
  object : σ
  holder : Option Nat
  stage : Nat → Option (Stage R A T)
  log : List (Entry R T)

inductive Event (R T : Type) where
  | tick (reading : T)
  | invoke (call : Nat) (request : R)
  | acquire (call : Nat)
  | sample (call : Nat)
  | operate (call : Nat)

variable {R A σ T : Type}

def System.new (start : T) (object : σ) : System R A σ T := ⟨start,object,none,fun _ => none,[]⟩

def System.advance (system : System R A σ T) (call : Nat) (stage : Stage R A T) : System R A σ T :=
  {system with stage := Function.update system.stage call (some stage)}

/-- The object's answer to a request at a reading of the clock. -/
abbrev Perform (R A σ T : Type) : Type := R → T → σ → A × σ

def Perform.entry (perform : Perform R A σ T) (entry : Entry R T) : σ → A × σ := perform entry.request entry.reading

theorem advance_stage (system : System R A σ T) (call : Nat) (stage : Stage R A T) :
    (system.advance call stage).stage call = some stage := Function.update_self call _ _

theorem advance_other (system : System R A σ T) (call other : Nat) (stage : Stage R A T) (differs : other ≠ call) :
    (system.advance call stage).stage other = system.stage other := Function.update_of_ne differs _ _

theorem advance_reached (system : System R A σ T) (call other : Nat) (stage reached : Stage R A T)
    (now : (system.advance call stage).stage other = some reached) :
    other = call ∧ stage = reached ∨ other ≠ call ∧ system.stage other = some reached := by
  by_cases same : other = call
  · rw [same,advance_stage] at now
    exact Or.inl ⟨same,Option.some.inj now⟩
  · rw [advance_other system call other stage same] at now
    exact Or.inr ⟨same,now⟩

variable [LinearOrder T]

/-- A step that its call cannot take now changes nothing. -/
def step (perform : Perform R A σ T) (event : Event R T) (system : System R A σ T) : System R A σ T :=
  match event with
  | .tick reading => {system with now := max system.now reading}
  | .invoke call request =>
    match system.stage call with
    | none => system.advance call (.blocked request)
    | some _ => system
  | .acquire call =>
    match system.stage call,system.holder with
    | some (.blocked request),none => {system.advance call (.holding request) with holder := some call}
    | _,_ => system
  | .sample call =>
    match system.stage call with
    | some (.holding request) => system.advance call (.sampled request system.now)
    | _ => system
  | .operate call =>
    match system.stage call with
    | some (.sampled request reading) =>
      let (answer,next) := perform request reading system.object
      {system.advance call (.returned request reading answer) with
        object := next,holder := none,log := system.log ++ [⟨call,request,reading⟩]}
    | _ => system

def run (perform : Perform R A σ T) (events : List (Event R T)) (system : System R A σ T) : System R A σ T :=
  History.run (step perform) events system

/-- What a step can do. -/
inductive Moves (perform : Perform R A σ T) (system : System R A σ T) : Event R T → System R A σ T → Prop where
  | none (event : Event R T) : Moves perform system event system
  | ticked (reading : T) : Moves perform system (.tick reading) {system with now := max system.now reading}
  | invoked (call : Nat) (request : R) (begins : system.stage call = Option.none) :
      Moves perform system (.invoke call request) (system.advance call (.blocked request))
  | acquired (call : Nat) (request : R) (was : system.stage call = some (.blocked request))
      (free : system.holder = Option.none) :
      Moves perform system (.acquire call) {system.advance call (.holding request) with holder := some call}
  | sampled (call : Nat) (request : R) (was : system.stage call = some (.holding request)) :
      Moves perform system (.sample call) (system.advance call (.sampled request system.now))
  | operated (call : Nat) (request : R) (reading : T) (was : system.stage call = some (.sampled request reading)) :
      Moves perform system (.operate call) {system.advance call
          (.returned request reading (perform request reading system.object).1) with
        object := (perform request reading system.object).2,holder := Option.none
        log := system.log ++ [⟨call,request,reading⟩]}

theorem step_moves (perform : Perform R A σ T) (event : Event R T) (system : System R A σ T) :
    Moves perform system event (step perform event system) := by
  cases event with
  | tick reading => exact Moves.ticked reading
  | invoke call request =>
    cases begins : system.stage call with
    | none =>
      simp only [step,begins]
      exact Moves.invoked call request begins
    | some stage =>
      simp only [step,begins]
      exact Moves.none _
  | acquire call =>
    cases was : system.stage call with
    | none =>
      simp only [step,was]
      exact Moves.none _
    | some stage =>
      cases stage with
      | blocked request =>
        cases free : system.holder with
        | none =>
          simp only [step,was,free]
          exact Moves.acquired call request was free
        | some other =>
          simp only [step,was,free]
          exact Moves.none _
      | _ =>
        simp only [step,was]
        exact Moves.none _
  | sample call =>
    cases was : system.stage call with
    | none =>
      simp only [step,was]
      exact Moves.none _
    | some stage =>
      cases stage with
      | holding request =>
        simp only [step,was]
        exact Moves.sampled call request was
      | _ =>
        simp only [step,was]
        exact Moves.none _
  | operate call =>
    cases was : system.stage call with
    | none =>
      simp only [step,was]
      exact Moves.none _
    | some stage =>
      cases stage with
      | sampled request reading =>
        simp only [step,was]
        exact Moves.operated call request reading was
      | _ =>
        simp only [step,was]
        exact Moves.none _

def Stage.Holds : Stage R A T → Prop
  | .blocked _ => False
  | .holding _ => True
  | .sampled _ _ => True
  | .returned _ _ _ => False

/-- The effects so far are a run of the object alone, at readings that never go back, and each call
that has returned has the answer of its own effect. -/
structure Serial (perform : Perform R A σ T) (object : σ) (system : System R A σ T) : Prop where
  replayed : system.object = (Mealy.run perform.entry system.log object).2
  ordered : system.log.Pairwise (fun first second => first.reading ≤ second.reading)
  past : ∀ entry ∈ system.log, entry.reading ≤ system.now
  exclusive : ∀ call stage, system.stage call = some stage → stage.Holds → system.holder = some call
  latest : ∀ call request reading, system.stage call = some (.sampled request reading) →
    reading ≤ system.now ∧ ∀ entry ∈ system.log, entry.reading ≤ reading
  effective : ∀ call request reading answer, system.stage call = some (.returned request reading answer) →
    ∃ i : Nat, system.log[i]? = some ⟨call,request,reading⟩ ∧ (Mealy.run perform.entry system.log object).1[i]? = some answer
  logged : ∀ entry ∈ system.log, ∃ answer, system.stage entry.call = some (.returned entry.request entry.reading answer)

theorem new_serial (perform : Perform R A σ T) (start : T) (object : σ) :
    Serial perform object (.new start object) := by
  refine ⟨rfl,List.Pairwise.nil,?_,?_,?_,?_,?_⟩
  · exact fun entry member => absurd member List.not_mem_nil
  · exact fun call stage was => nomatch was
  · exact fun call request reading was => nomatch was
  · exact fun call request reading answer was => nomatch was
  · exact fun entry member => absurd member List.not_mem_nil

/-- A step of one call that takes no effect. -/
theorem Serial.advance (perform : Perform R A σ T) (object : σ) (system : System R A σ T)
    (serial : Serial perform object system) (call : Nat) (stage : Stage R A T) (holder : Option Nat)
    (unlogged : ∀ request reading answer, system.stage call ≠ some (.returned request reading answer))
    (unreturned : ∀ request reading answer, stage ≠ .returned request reading answer)
    (held : stage.Holds → holder = some call)
    (kept : ∀ other, other ≠ call → system.holder = some other → holder = some other)
    (latest : ∀ request reading, stage = .sampled request reading → reading = system.now) :
    Serial perform object {system.advance call stage with holder := holder} := by
  refine ⟨serial.replayed,serial.ordered,serial.past,?_,?_,?_,?_⟩
  · intro other reached was holds
    obtain ⟨rfl,rfl⟩ | ⟨differs,before⟩ := advance_reached system call other stage reached was
    · exact held holds
    · exact kept other differs (serial.exclusive other reached before holds)
  · intro other request reading was
    obtain ⟨_,same⟩ | ⟨_,before⟩ := advance_reached system call other stage _ was
    · rw [latest request reading same]
      exact ⟨le_refl _,serial.past⟩
    · exact serial.latest other request reading before
  · intro other request reading answer was
    obtain ⟨_,same⟩ | ⟨_,before⟩ := advance_reached system call other stage _ was
    · exact absurd same (unreturned request reading answer)
    · exact serial.effective other request reading answer before
  · intro entry member
    obtain ⟨answer,returned⟩ := serial.logged entry member
    refine ⟨answer,?_⟩
    have differs : entry.call ≠ call := by
      intro same
      rw [same] at returned
      exact unlogged _ _ _ returned
    exact (advance_other system call entry.call stage differs).trans returned

/-- The effect of the call that holds the lock. -/
theorem Serial.operate (perform : Perform R A σ T) (object : σ) (system : System R A σ T)
    (serial : Serial perform object system) (call : Nat) (request : R) (reading : T)
    (was : system.stage call = some (.sampled request reading)) :
    Serial perform object {system.advance call (.returned request reading (perform request reading system.object).1) with
      object := (perform request reading system.object).2,holder := Option.none
      log := system.log ++ [⟨call,request,reading⟩]} := by
  have holder := serial.exclusive call _ was trivial
  obtain ⟨past,last⟩ := serial.latest call request reading was
  have answers := Mealy.run_last perform.entry system.log ⟨call,request,reading⟩ object
  rw [← serial.replayed] at answers
  have length := Mealy.run_length perform.entry system.log object
  refine ⟨?_,?_,?_,?_,?_,?_,?_⟩
  · rw [answers]
    rfl
  · apply List.pairwise_append.mpr
    refine ⟨serial.ordered,List.pairwise_singleton _ _,?_⟩
    intro entry member other added
    rw [List.mem_singleton.mp added]
    exact last entry member
  · intro entry member
    rcases List.mem_append.mp member with before | added
    · exact serial.past entry before
    · rw [List.mem_singleton.mp added]
      exact past
  · intro other stage now holds
    obtain ⟨rfl,rfl⟩ | ⟨differs,before⟩ := advance_reached system call other _ stage now
    · exact absurd holds id
    · have second := serial.exclusive other stage before holds
      rw [holder] at second
      exact absurd (Option.some.inj second).symm differs
  · intro other found instant now
    obtain ⟨_,same⟩ | ⟨differs,before⟩ := advance_reached system call other _ _ now
    · cases same
    · have second := serial.exclusive other _ before trivial
      rw [holder] at second
      exact absurd (Option.some.inj second).symm differs
  · intro other found instant answer now
    rw [answers]
    obtain ⟨rfl,same⟩ | ⟨_,before⟩ := advance_reached system call other _ _ now
    · cases same
      refine ⟨system.log.length,List.getElem?_concat_length,?_⟩
      rw [← length]
      exact List.getElem?_concat_length
    · obtain ⟨i,entered,answered⟩ := serial.effective other found instant answer before
      refine ⟨i,?_,?_⟩
      · exact List.getElem?_append_left (List.getElem?_eq_some_iff.mp entered).1 ▸ entered
      · exact List.getElem?_append_left (List.getElem?_eq_some_iff.mp answered).1 ▸ answered
  · intro entry member
    rcases List.mem_append.mp member with before | added
    · obtain ⟨answer,returned⟩ := serial.logged entry before
      have differs : entry.call ≠ call := by
        intro same
        rw [same,was] at returned
        cases returned
      exact ⟨answer,(advance_other system call entry.call _ differs).trans returned⟩
    · rw [List.mem_singleton.mp added]
      exact ⟨_,advance_stage system call _⟩

theorem step_serial (perform : Perform R A σ T) (object : σ) (event : Event R T) (system : System R A σ T)
    (serial : Serial perform object system) : Serial perform object (step perform event system) := by
  have moved := step_moves perform event system
  generalize step perform event system = next at moved
  cases moved with
  | none => exact serial
  | ticked reading =>
    refine ⟨serial.replayed,serial.ordered,?_,serial.exclusive,?_,serial.effective,serial.logged⟩
    · intro entry member
      exact (serial.past entry member).trans (le_max_left _ _)
    · intro call request instant was
      obtain ⟨past,last⟩ := serial.latest call request instant was
      exact ⟨past.trans (le_max_left _ _),last⟩
  | invoked call request begins =>
    apply serial.advance perform object system call (.blocked request) system.holder
    · simp [begins]
    · simp
    · exact False.elim
    · exact fun _ _ held => held
    · simp
  | acquired call request was free =>
    apply serial.advance perform object system call (.holding request) (some call)
    · simp [was]
    · simp
    · exact fun _ => rfl
    · intro other _ held
      rw [free] at held
      cases held
    · simp
  | sampled call request was =>
    apply serial.advance perform object system call (.sampled request system.now) system.holder
    · simp [was]
    · simp
    · exact fun _ => serial.exclusive call _ was trivial
    · exact fun _ _ held => held
    · intro found reading same
      cases same
      rfl
  | operated call request reading was => exact serial.operate perform object system call request reading was

theorem run_serial (perform : Perform R A σ T) (events : List (Event R T)) (start : T) (object : σ) :
    Serial perform object (run perform events (.new start object)) :=
  History.run_stays (step perform) (Serial perform object) (step_serial perform object) events _
    (new_serial perform start object)

theorem run_append (perform : Perform R A σ T) (before after : List (Event R T)) (system : System R A σ T) :
    run perform (before ++ after) system = run perform after (run perform before system) :=
  History.run_append (step perform) before after system

theorem run_log (perform : Perform R A σ T) (events : List (Event R T)) (system : System R A σ T) :
    system.log <+: (run perform events system).log := by
  apply History.run_stays (step perform) (fun after => system.log <+: after.log)
  · intro event after grown
    have moved := step_moves perform event after
    generalize step perform event after = next at moved
    cases moved with
    | operated call request reading was => exact grown.trans (List.prefix_append _ _)
    | _ => exact grown
  · exact List.prefix_rfl

/-- What a call reads after an instant. -/
def Stage.After (instant : T) : Stage R A T → Prop
  | .sampled _ reading => instant ≤ reading
  | .returned _ reading _ => instant ≤ reading
  | _ => True

theorem run_after (perform : Perform R A σ T) (events : List (Event R T)) (system : System R A σ T) (call : Nat)
    (begins : system.stage call = none) :
    ∀ stage, (run perform events system).stage call = some stage → stage.After system.now := by
  have kept : system.now ≤ (run perform events system).now ∧
      ∀ stage, (run perform events system).stage call = some stage → stage.After system.now := by
    apply History.run_stays (step perform)
      (fun after => system.now ≤ after.now ∧ ∀ stage, after.stage call = some stage → stage.After system.now)
    · intro event after holds
      obtain ⟨clock,read⟩ := holds
      have moved := step_moves perform event after
      generalize step perform event after = next at moved
      have advanced : ∀ other stage, (other = call → stage.After system.now) → ∀ reached,
          (after.advance other stage).stage call = some reached → reached.After system.now := by
        intro other stage own reached now
        obtain ⟨rfl,rfl⟩ | ⟨_,before⟩ := advance_reached after other call stage reached now
        · exact own rfl
        · exact read reached before
      cases moved with
      | none => exact ⟨clock,read⟩
      | ticked reading => exact ⟨clock.trans (le_max_left _ _),read⟩
      | invoked other request begins => exact ⟨clock,advanced other _ (fun _ => trivial)⟩
      | acquired other request was free => exact ⟨clock,advanced other _ (fun _ => trivial)⟩
      | sampled other request was => exact ⟨clock,advanced other _ (fun _ => clock)⟩
      | operated other request reading was =>
        refine ⟨clock,advanced other _ ?_⟩
        intro same
        rw [same] at was
        have read : system.now ≤ reading := read (.sampled request reading) was
        exact read
    · refine ⟨le_refl _,?_⟩
      intro stage was
      rw [begins] at was
      cases was
  exact kept.2

/-- A call that returned before another began took its effect before it, at a reading no later than the
other call's beginning. -/
theorem real_time (perform : Perform R A σ T) (start : T) (object : σ) (before after : List (Event R T))
    (first second : Nat) (request other : R) (reading instant : T) (answer reply : A)
    (returned : (run perform before (.new start object)).stage first = some (.returned request reading answer))
    (begins : (run perform before (.new start object)).stage second = none)
    (later : (run perform (before ++ after) (.new start object)).stage second = some (.returned other instant reply)) :
    reading ≤ (run perform before (.new start object)).now ∧ (run perform before (.new start object)).now ≤ instant ∧
      ∃ i j : Nat, i < j ∧ (run perform (before ++ after) (.new start object)).log[i]? = some ⟨first,request,reading⟩ ∧
        (run perform (before ++ after) (.new start object)).log[j]? = some ⟨second,other,instant⟩ := by
  have early := run_serial perform before start object
  have late := run_serial perform (before ++ after) start object
  obtain ⟨i,entered,_⟩ := early.effective first request reading answer returned
  obtain ⟨j,followed,_⟩ := late.effective second other instant reply later
  have clock := run_after perform after _ second begins
  rw [← run_append] at clock
  have grown := run_log perform after (run perform before (.new start object))
  rw [← run_append] at grown
  obtain ⟨more,grown⟩ := grown
  have bound := (List.getElem?_eq_some_iff.mp entered).1
  refine ⟨early.past _ (List.mem_of_getElem? entered),clock _ later,i,j,?_,?_,followed⟩
  · by_contra order
    have inside : j < (run perform before (.new start object)).log.length := by omega
    rw [← grown,List.getElem?_append_left inside] at followed
    obtain ⟨reply,found⟩ := early.logged _ (List.mem_of_getElem? followed)
    rw [begins] at found
    cases found
  · rw [← grown,List.getElem?_append_left bound]
    exact entered

end Foundation.Locked
