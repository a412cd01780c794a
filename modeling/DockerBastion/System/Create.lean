import DockerBastion.Manager.Create
import DockerBastion.System.State
import Mathlib.Data.List.ReduceOption

/-!
# Creating a container in the running system

The system cuts `CreateContainer` between docker and the table.  A creation whose answer
is lost is an event of docker there, next to a call that only fails.  The events of one
request, right after each other, are the handler.
-/

namespace DockerBastion.System

open Foundation Manager

def lostCreation (name : Bytes) (steps : CreateSteps) : List Event :=
  match steps.creating with
  | .lost _ => [.dockerCreate steps.cid name]
  | _ => []

/-- The events that a creation in docker is, whether or not the client hears of it. -/
def creationEvents (docker : Docker) (body : Option Fields) (steps : CreateSteps) :
    List Event :=
  match createParams body with
  | .error _ => [.act (.createContainer body ⟨.error .errNotFound, none, .error .errNotFound⟩)]
  | .ok (name, _) =>
      lostCreation name steps ++
        [.act (.createContainer body
          ⟨(createInDocker name steps docker).1, none, .error .errNotFound⟩)]

def wholeCreate (s : State) (body : Option Fields) (steps : CreateSteps) (now : Nat) :
    List Event :=
  creationEvents s.docker body steps ++
    [.act (.insertCreated s.creating.length steps.insert now)]

variable (env : Env) {s : State}

/-- A request that is not at its second half has nothing to insert. -/
theorem step_insertCreated_length (fault : Option GoError) (now : Nat) :
    step env s (.act (.insertCreated s.creating.length fault now)) = s ∧
      answer env s (.act (.insertCreated s.creating.length fault now)) = none := by
  constructor
  · simp [step, perform, insertCreatedAt]
  · simp [answer, respond]

theorem dockerCreate_error (err : GoError) :
    dockerCreate ⟨.error err, none, .error .errNotFound⟩ = .error err := by
  cases err <;> rfl

theorem step_dockerCreate {docker' : Docker} {cid name : Bytes}
    (h : s.docker.create cid name = some docker') :
    step env s (.dockerCreate cid name) = { s with docker := docker' } := by
  simp [step, h]

/-- A creation that fails for the client changes nothing and is answered at once. -/
theorem step_createContainer_error (hup : s.up = true) {body : Option Fields}
    {params : Bytes × Bytes} (hparams : createParams body = .ok params) (err : GoError) :
    step env s (.act (.createContainer body ⟨.error err, none, .error .errNotFound⟩)) = s ∧
      answer env s (.act (.createContainer body ⟨.error err, none, .error .errNotFound⟩)) =
        some (showError err {}) := by
  constructor
  · simp [step, hup, perform, createContainer, hparams, dockerCreate_error]
  · simp [answer, hup, respond, hparams, dockerCreate_error]

theorem refused_createContainer (hup : s.up = true) {body : Option Fields}
    {params : Bytes × Bytes} (hparams : createParams body = .ok params) (err : GoError)
    (fault : Option GoError) (now : Nat) :
    run (step env) s [.act (.createContainer body ⟨.error err, none, .error .errNotFound⟩),
        .act (.insertCreated s.creating.length fault now)] = s ∧
      trace (step env) (answer env) s
          [.act (.createContainer body ⟨.error err, none, .error .errNotFound⟩),
            .act (.insertCreated s.creating.length fault now)] =
        [some (showError err {}), none] := by
  obtain ⟨hfirst, hrefused⟩ := step_createContainer_error env hup hparams err
  obtain ⟨hstay, hanswer⟩ := step_insertCreated_length env (s := s) fault now
  constructor
  · rw [run_cons, run_cons, run_nil, hfirst, hstay]
  · simp only [trace, hfirst, hrefused, hanswer]

theorem lostCreation_fails {name : Bytes} {steps : CreateSteps}
    (h : steps.creating.acted = true → s.docker.create steps.cid name = none) :
    lostCreation name steps = [] ∨
      ∃ e, lostCreation name steps = [e] ∧ step env s e = s ∧ answer env s e = none := by
  unfold lostCreation
  cases hcall : steps.creating with
  | served => exact .inl rfl
  | refused err => exact .inl rfl
  | lost message =>
      have hfails := h (by rw [hcall]; rfl)
      exact .inr ⟨_, rfl, by simp [step, hfails], rfl⟩

section Halves

variable {name userId cid : Bytes} {docker' : Docker} {body : Option Fields}

theorem step_createContainer_ok (hup : s.up = true)
    (hparams : createParams body = .ok (name, userId))
    (hcreate : s.docker.create cid name = some docker') :
    step env s (.act (.createContainer body ⟨.ok cid, none, .error .errNotFound⟩)) =
        { s with docker := docker', creating := s.creating ++ [(cid, userId)] } ∧
      answer env s (.act (.createContainer body ⟨.ok cid, none, .error .errNotFound⟩)) =
        none := by
  constructor
  · simp [step, hup, perform, createContainer, hparams, dockerCreate, hcreate]
  · simp [answer, hup, respond, hparams, dockerCreate]

/-- The second half takes the request from the list and inserts its grant. -/
theorem step_insertCreated (hup : s.up = true) (fault : Option GoError) (now : Nat) :
    step env { s with docker := docker', creating := s.creating ++ [(cid, userId)] }
        (.act (.insertCreated s.creating.length fault now)) =
      (match s.db.exec fault (.insertContainer cid (env.integerAffinity userId) now) with
        | .error _ => { s with docker := docker' }
        | .ok (db', _) => { s with db := db', docker := docker'.start cid }) ∧
    answer env { s with docker := docker', creating := s.creating ++ [(cid, userId)] }
        (.act (.insertCreated s.creating.length fault now)) =
      some (insertCreated env cid userId fault now s.db).1 := by
  have herase : (s.creating ++ [(cid, userId)]).eraseIdx s.creating.length = s.creating := by
    rw [List.eraseIdx_append_of_length_le (Nat.le_refl _)]
    simp
  constructor
  · simp only [step, hup, perform, insertCreatedAt, List.getElem?_concat_length, if_true,
      herase, insertCreated]
    cases s.db.exec fault (.insertContainer cid (env.integerAffinity userId) now) <;> rfl
  · simp [answer, hup, respond]

end Halves

/--
The events of one request that docker starts the container of, with no others between
them, do what the handler does and give its one answer.
-/
theorem run_wholeCreate (env : Env) (s : State) (body : Option Fields) (steps : CreateSteps)
    (now : Nat) (hup : s.up = true) (hstart : steps.start.acted = true) :
    run (step env) s (wholeCreate s body steps now) =
        { s with
          db := (Manager.createContainer env body steps now s.db s.docker).db
          docker := (Manager.createContainer env body steps now s.db s.docker).docker } ∧
      (trace (step env) (answer env) s (wholeCreate s body steps now)).reduceOption =
        [(Manager.createContainer env body steps now s.db s.docker).response] := by
  unfold wholeCreate creationEvents
  cases hparams : createParams body with
  | error w =>
      obtain ⟨hstay, hanswer⟩ := step_insertCreated_length env (s := s) steps.insert now
      have hfirst : step env s (.act (.createContainer body
          ⟨.error .errNotFound, none, .error .errNotFound⟩)) = s := by
        simp [step, perform, createContainer, hparams]
      have hrefused : answer env s (.act (.createContainer body
          ⟨.error .errNotFound, none, .error .errNotFound⟩)) = some w := by
        simp [answer, hup, respond, hparams]
      simp [trace, hfirst, hrefused, hstay, hanswer, Manager.createContainer, hparams]
  | ok params =>
      obtain ⟨name, userId⟩ := params
      have hcreation := creation name steps s.docker
      generalize hcreated : createInDocker name steps s.docker = created at hcreation
      cases hcreation with
      | nothing err hnone =>
          obtain ⟨hrun, htrace⟩ :=
            refused_createContainer env hup hparams err steps.insert now
          rcases lostCreation_fails env hnone with hlost | ⟨e, hlost, hstay, hanswer⟩
          · simp only [hlost, List.nil_append, List.singleton_append,
              Manager.createContainer, hparams, hcreated]
            exact ⟨hrun, by rw [htrace]; rfl⟩
          · simp only [hlost, List.cons_append, List.nil_append, run_cons (step env) s e, trace,
              hstay, Manager.createContainer, hparams, hcreated]
            exact ⟨hrun, by rw [hanswer]; exact congrArg List.reduceOption htrace⟩
      | @unreported docker' message hcall hcreate =>
          have hlost : lostCreation name steps = [.dockerCreate steps.cid name] := by
            rw [lostCreation, hcall]
          obtain ⟨hrun, htrace⟩ := refused_createContainer env
            (s := { s with docker := docker' }) hup hparams (.other message) steps.insert now
          have hfirst := step_dockerCreate env hcreate
          simp only [hlost, List.cons_append, List.nil_append, run_cons, trace, hfirst,
            Manager.createContainer, hparams, hcreated]
          exact ⟨hrun, congrArg List.reduceOption htrace⟩
      | @reported docker' hcall hcreate =>
          have hlost : lostCreation name steps = [] := by rw [lostCreation, hcall]
          obtain ⟨hfirst, hwaits⟩ := step_createContainer_ok env hup hparams hcreate
          obtain ⟨hsecond, hanswer⟩ := @step_insertCreated env s userId steps.cid docker' hup
            steps.insert now
          simp only [hlost, List.nil_append, List.singleton_append, run_cons, run_nil, trace,
            hfirst, hwaits, hsecond, hanswer, Manager.createContainer, hparams, hcreated,
            insertCreated]
          cases hexec : s.db.exec steps.insert
              (.insertContainer steps.cid (env.integerAffinity userId) now) with
          | error err => exact ⟨rfl, rfl⟩
          | ok inserted =>
              simp only [startCreated, if_pos hstart]
              exact ⟨trivial, rfl⟩

def startedState : State := step markedEnv .initial .started

theorem wholeCreate_unanswered :
    run (step markedEnv) startedState (wholeCreate startedState webBody unansweredSteps 0) =
        { startedState with
          db := (Manager.createContainer markedEnv webBody unansweredSteps 0 startedState.db
            startedState.docker).db
          docker := (Manager.createContainer markedEnv webBody unansweredSteps 0 startedState.db
            startedState.docker).docker } ∧
      (trace (step markedEnv) (answer markedEnv) startedState
          (wholeCreate startedState webBody unansweredSteps 0)).reduceOption =
        [(Manager.createContainer markedEnv webBody unansweredSteps 0 startedState.db
          startedState.docker).response] :=
  run_wholeCreate markedEnv startedState webBody unansweredSteps 0 (by decide) (by decide)

end DockerBastion.System
