import ContentWorkflow.Engine.Session
import Mathlib.Logic.Relation

/-!
# The steps of an action

An action makes steps of a kind when the session it leaves behind can be reached by such steps,
whether it gave an answer or ended in a fault. `Makes.bind` puts the steps of two actions
together, and the other lemmas say what steps the basic actions make.
-/

namespace ContentWorkflow.Action

open Relation (ReflTransGen)

/-- The action gives the answer in some session. -/
def Answers {α : Type} (action : Action α) (answer : α) : Prop :=
  ∃ session session', action.run session = (.ok answer, session')

/-- In every session the action makes steps of the kind and nothing else, whether it gives an answer
or ends in a fault. -/
def Makes {α : Type} (step : Session → Session → Prop) (action : Action α) : Prop :=
  ∀ session, ReflTransGen step session (action.run session).2

variable {α β : Type} {step wider : Session → Session → Prop} {action : Action α}
  {next : α → Action β}

/-- Two actions in a row run in a row, unless the first one ends in a fault. -/
theorem run_bind (action : Action α) (next : α → Action β) (session : Session) :
    (action >>= next).run session =
      match action.run session with
      | (.ok answer, middle) => (next answer).run middle
      | (.error fault, middle) => (.error fault, middle) := by
  simp only [ExceptT.run, bind, ExceptT.bind, ExceptT.mk, StateT.bind]
  generalize action session = result
  obtain ⟨answer | fault, middle⟩ := result <;> rfl

/-- Passing over the answer of an action leaves behind what the action leaves behind. -/
theorem run_forget (action : Action α) (session : Session) :
    ((do let _ ← action : Action Unit).run session).2 = (action.run session).2 := by
  rw [run_bind]
  split
  · next hrun => rw [hrun]; rfl
  · next hrun => rw [hrun]

/-- Looking at the store gives the store. -/
theorem run_store (session : Session) : Action.store.run session = (.ok session.store, session) :=
  rfl

/-- A change of the store happens. -/
theorem run_change (change : Store → Store) (session : Session) :
    (Action.change change).run session =
      (.ok (), { session with store := change session.store }) :=
  rfl

/-- Logging a line logs it. -/
theorem run_log (level : LogLevel) (message : String) (session : Session) :
    (Action.log level message).run session = (.ok (), session.note level message) :=
  rfl

/-- A line that is logged under a condition is logged before what follows in any case. -/
theorem run_log_if (p : Prop) [Decidable p] (level : LogLevel) (message : String)
    (next : Action α) (session : Session) :
    ((if p then do Action.log level message; next else next : Action α)).run session =
      next.run (if p then session.note level message else session) := by
  split <;> rfl

/-- A change of the store that may break a key either happens or ends in a fault. -/
theorem run_attempt (change : Store → Except Constraint Store) (session : Session) :
    (Action.attempt change).run session =
      match change session.store with
      | .ok store => (.ok (), { session with store := store })
      | .error constraint => (.error (.constraint constraint), session) := by
  rw [Action.attempt, run_bind, run_store]
  dsimp only
  cases change session.store with
  | ok store => rfl
  | error constraint => rfl

/-- The step of a session either gives its answer or ends in a fault. -/
theorem run_of_step (run : Session → Except Fault (α × Session)) (session : Session) :
    (Action.ofStep run).run session =
      match run session with
      | .ok (answer, after) => (.ok answer, after)
      | .error fault => (.error fault, session) := by
  rw [Action.ofStep, run_bind]
  -- reading the session gives the session that the step is run on
  show (match run session with
    | .ok (answer, after) => (do set after; return answer : Action α)
    | .error fault => throw fault).run session = _
  cases run session with
  | ok answer => rfl
  | error fault => rfl

/-! ## Answers -/

/-- What an answer says was answered. -/
theorem Answers.eq_of_pure {answer other : α} (h : (Pure.pure answer : Action α).Answers other) :
    other = answer := by
  obtain ⟨session, session', hrun⟩ := h
  cases hrun
  rfl

/-- A demanded value is answered only where there is one. -/
theorem Answers.of_demand {value : Option α} {misuse : Misuse} {answer : α}
    (h : (Action.demand value misuse).Answers answer) : value = some answer := by
  obtain ⟨session, session', hrun⟩ := h
  cases value with
  | none => cases hrun
  | some value =>
      cases hrun
      rfl

/-- An action and what follows on it answer what follows on some answer of the action. -/
theorem Answers.of_bind {answer : β} (h : (action >>= next).Answers answer) :
    ∃ first, action.Answers first ∧ (next first).Answers answer := by
  obtain ⟨session, session', hrun⟩ := h
  rw [run_bind] at hrun
  split at hrun
  · next first middle hfirst => exact ⟨first, ⟨session, middle, hfirst⟩, middle, session', hrun⟩
  · cases hrun

/-- A refused call has no answer. -/
theorem Answers.not_refuse {misuse : Misuse} {answer : α} :
    ¬ (Action.refuse misuse : Action α).Answers answer := by
  rintro ⟨session, session', hrun⟩
  cases hrun

/-! ## Steps -/

/-- An action that makes steps of a kind makes steps of every wider kind. -/
theorem Makes.mono (h : action.Makes step)
    (hwider : ∀ session session', step session session' → wider session session') :
    action.Makes wider :=
  fun session => ReflTransGen.mono hwider _ _ (h session)

/-- An action that leaves every session as it was takes no steps. -/
theorem Makes.of_still (h : ∀ session, (action.run session).2 = session) : action.Makes step := by
  intro session
  rw [h]

/-- What no step of an action changes stays as it was. -/
theorem Makes.keeps {κ : Type} {value : Session → κ}
    (h : action.Makes fun first second => value second = value first) (session : Session) :
    value (action.run session).2 = value session := by
  have hsteps := h session
  generalize (action.run session).2 = last at hsteps
  induction hsteps with
  | refl => rfl
  | tail _ hlast ih => exact hlast.trans ih

/-- An answer by itself takes no steps. -/
theorem Makes.pure (answer : α) : Makes step (Pure.pure answer : Action α) :=
  .of_still fun _ => rfl

/-- Refusing a call takes no steps. -/
theorem Makes.refuse (misuse : Misuse) : Makes step (Action.refuse misuse : Action α) :=
  .of_still fun _ => rfl

/-- Nothing follows on a call that was refused. -/
theorem Makes.refuse_bind (misuse : Misuse) :
    Makes step ((Action.refuse misuse : Action α) >>= next) :=
  .of_still fun _ => rfl

/-- Looking at the store takes no steps. -/
theorem Makes.store : Makes step Action.store :=
  .of_still fun _ => rfl

/-- Demanding a value takes no steps. -/
theorem Makes.demand (value : Option α) (misuse : Misuse) :
    Makes step (Action.demand value misuse) := by
  cases value with
  | none => exact .refuse misuse
  | some value => exact .pure value

/-- From a session, an action and then what follows on its answer make the steps of both. -/
theorem steps_bind {session : Session}
    (haction : ReflTransGen step session (action.run session).2)
    (hnext : ∀ answer middle, action.run session = (.ok answer, middle) →
      ReflTransGen step middle ((next answer).run middle).2) :
    ReflTransGen step session ((action >>= next).run session).2 := by
  rw [run_bind]
  -- where the first action ends in a fault, its own steps are all there are
  cases hrun : action.run session with
  | mk result middle =>
      rw [hrun] at haction
      cases result with
      | error fault => exact haction
      | ok answer => exact haction.trans (hnext answer middle hrun)

/-- An action and then what follows on its answer make the steps of both. -/
theorem Makes.bind (haction : action.Makes step)
    (hnext : ∀ answer, action.Answers answer → (next answer).Makes step) :
    (action >>= next).Makes step :=
  fun session => steps_bind (haction session) fun answer middle hrun =>
    hnext answer ⟨session, middle, hrun⟩ middle

/-- What follows on an action that takes no steps follows in the same session. -/
theorem steps_after {session : Session} (hstill : action.Makes fun _ _ => False)
    (hnext : ∀ answer, action.run session = (.ok answer, session) →
      ReflTransGen step session ((next answer).run session).2) :
    ReflTransGen step session ((action >>= next).run session).2 := by
  have hsame : (action.run session).2 = session := by
    have hsteps := hstill session
    generalize (action.run session).2 = last at hsteps
    cases hsteps with
    | refl => rfl
    | tail _ hstep => exact hstep.elim
  refine steps_bind (by rw [hsame]) fun answer middle hrun => ?_
  obtain rfl : middle = session := by rw [← hsame, hrun]
  exact hnext answer hrun

/-- Logging a line makes the one step that it is. -/
theorem Makes.log (hnote : ∀ session : Session, ∀ level message,
      step session (session.note level message)) (level : LogLevel) (message : String) :
    Makes step (Action.log level message) :=
  fun session => .single (hnote session level message)

/-- A change of the store makes the one step that it is. -/
theorem Makes.change {change : Store → Store}
    (hchange : ∀ session : Session, step session { session with store := change session.store }) :
    Makes step (Action.change change) :=
  fun session => .single (hchange session)

/-- From a session, a change of the store that may break a key makes the one step that it is,
or none. -/
theorem steps_attempt {change : Store → Except Constraint Store} {session : Session}
    (hchange : ∀ store, change session.store = .ok store →
      step session { session with store := store }) :
    ReflTransGen step session ((Action.attempt change).run session).2 := by
  rw [run_attempt]
  split
  · next store hstore => exact .single (hchange store hstore)
  · exact .refl

/-- A change of the store that may break a key makes the one step that it is, or none. -/
theorem Makes.attempt {change : Store → Except Constraint Store}
    (hchange : ∀ (session : Session) store, change session.store = .ok store →
      step session { session with store := store }) :
    Makes step (Action.attempt change) :=
  fun session => steps_attempt (hchange session)

/-- The step of one session makes the steps that lead to its answer. -/
theorem steps_of_step {run : Session → Except Fault (α × Session)} {session : Session}
    (hrun : ∀ answer session', run session = .ok (answer, session') →
      ReflTransGen step session session') :
    ReflTransGen step session ((Action.ofStep run).run session).2 := by
  rw [run_of_step]
  split
  · next answer after h => exact hrun answer after h
  · exact .refl

/-- The step of a session makes the steps that lead to its answer. -/
theorem Makes.of_step {run : Session → Except Fault (α × Session)}
    (hrun : ∀ session answer session', run session = .ok (answer, session') →
      ReflTransGen step session session') :
    Makes step (Action.ofStep run) :=
  fun session => steps_of_step (hrun session)

/-- A loop over a list makes the steps of its rounds. -/
theorem Makes.fold {items : List β} {round : α → β → Action α}
    (hround : ∀ answer, ∀ item ∈ items, (round answer item).Makes step) (start : α) :
    (items.foldlM round start).Makes step := by
  induction items generalizing start with
  | nil => exact .pure start
  | cons item items ih =>
      rw [List.foldlM_cons]
      refine .bind (hround start item List.mem_cons_self) fun answer _ => ih ?_ answer
      intro answer other hother
      exact hround answer other (List.mem_cons_of_mem item hother)

end ContentWorkflow.Action
