import DockerBastion.Docker
import DockerBastion.Manager.Api

/-!
# Creating a container

`CreateContainer` creates a container in docker, pulling the image if docker does not
have it, then inserts the grant, then starts the container.  It undoes nothing when a
later step fails, and does not look at the result of the last one.  Docker may have done
what it was asked to although the client reports an error.
-/

namespace DockerBastion.Manager

open Foundation

/-- How a call of docker ends; the answer of one that was served may be lost on the way. -/
inductive Call where
  | served
  | refused (err : GoError)
  | lost (message : Bytes)
  deriving DecidableEq, Repr

def Call.acted : Call → Bool
  | .served | .lost _ => true
  | .refused _ => false

structure CreateSteps where
  first : Call
  pull : Option GoError := none
  second : Call := .served
  /-- The id of the container, if docker creates one. -/
  cid : Bytes
  /-- The text of docker's error if the name is taken. -/
  conflict : Bytes := []
  insert : Option GoError := none
  start : Call := .served

structure CreateResult where
  response : Response
  db : Store
  docker : Docker

/-- The client's `CreateContainer`, and docker afterwards. -/
def clientCreate (name : Bytes) (steps : CreateSteps) (call : Call) (docker : Docker) :
    Except GoError Bytes × Docker :=
  match call with
  | .refused err => (.error err, docker)
  | .lost message => (.error (.other message), (docker.create steps.cid name).getD docker)
  | .served =>
      match docker.create steps.cid name with
      | none => (.error (.other steps.conflict), docker)
      | some docker' => (.ok steps.cid, docker')

def createInDocker (name : Bytes) (steps : CreateSteps) (docker : Docker) :
    Except GoError Bytes × Docker :=
  match clientCreate name steps steps.first docker with
  | (.error .errNotFound, docker') =>
      match steps.pull with
      | some err => (.error err, docker')
      | none => clientCreate name steps steps.second docker'
  | result => result

/-- The error of `StartContainer` is dropped. -/
def startCreated (cid : Bytes) (call : Call) (docker : Docker) : Docker :=
  if call.acted then docker.start cid else docker

def createContainer (env : Env) (body : Option Fields) (steps : CreateSteps) (now : Nat)
    (db : Store) (docker : Docker) : CreateResult :=
  match createParams body with
  | .error w => ⟨w, db, docker⟩
  | .ok (name, userId) =>
      match createInDocker name steps docker with
      | (.error err, docker') => ⟨showError err {}, db, docker'⟩
      | (.ok cid, docker') =>
          match db.exec steps.insert (.insertContainer cid (env.integerAffinity userId) now) with
          | .error err => ⟨showError err {}, db, docker'⟩
          | .ok (db', _) =>
              ⟨({} : Response).write (.text (ascii "cid") cid), db',
                startCreated cid steps.start docker'⟩

/-! ## All or nothing -/

section Create

variable (env : Env) (body : Option Fields) (steps : CreateSteps) (now : Nat) (db : Store)
  (docker : Docker)

def LeftNothing (result : CreateResult) : Prop :=
  result.docker.containers = docker.containers ∧ result.db.containers = db.containers

/-- One more container, running, and one more grant, of it to the user asked for. -/
def LeftAll (result : CreateResult) : Prop :=
  ∃ name userId cid, createParams body = .ok (name, userId) ∧
    result.docker.containers = docker.containers ++ [⟨cid, name, true⟩] ∧
    result.db.containers.rows = db.containers.rows ++
      [⟨db.containers.nextId, ⟨cid, env.integerAffinity userId, now⟩⟩]

structure AllOrNothing : Prop where
  nothing : 400 ≤ (createContainer env body steps now db docker).response.code →
    LeftNothing db docker (createContainer env body steps now db docker)
  all : (createContainer env body steps now db docker).response.code = 200 →
    LeftAll env body now db docker (createContainer env body steps now db docker)

/-- The last call that asks docker to create the container. -/
def CreateSteps.creating (steps : CreateSteps) : Call :=
  if steps.first = .refused .errNotFound ∧ steps.pull = none then steps.second
  else steps.first

/--
If docker creates the container, its answer arrives, the insertion succeeds, and docker
starts the container.
-/
def Smooth : Prop :=
  ∀ name userId, createParams body = .ok (name, userId) →
    steps.creating.acted = true → (docker.create steps.cid name).isSome →
      steps.creating = .served ∧ steps.insert = none ∧
        (∀ r ∈ db.containers, r.val.key ≠ (steps.cid, env.integerAffinity userId)) ∧
          steps.start.acted = true

end Create

variable {env : Env} {body : Option Fields} {steps : CreateSteps} {now : Nat} {db : Store}
  {docker : Docker}

/-! ## What docker and the table hold afterwards -/

theorem containers_create {docker' : Docker} {cid name : Bytes}
    (h : docker.create cid name = some docker') :
    docker'.containers = docker.containers ++ [⟨cid, name, false⟩] := by
  unfold Docker.create at h
  split at h
  · cases h
    rfl
  · cases h

theorem containers_start_create {docker' : Docker} {cid name : Bytes}
    (h : docker.create cid name = some docker') :
    (docker'.start cid).containers = docker.containers ++ [⟨cid, name, true⟩] := by
  have hnew : cid ∉ docker.issued := (Docker.create_eq_some h).2.1
  have hold : docker.containers.map (Docker.started cid) = docker.containers := by
    refine (List.map_congr_left fun c hc => ?_).trans (List.map_id _)
    have hne : c.id ≠ cid := fun heq => hnew (heq ▸ docker.ids_issued c hc)
    simp [Docker.started, hne]
  simp [Docker.start, Docker.modify, containers_create h, hold, Docker.started]

theorem exec_insertContainer_ok {cid : Bytes} {userId : Cell} {fault : Option GoError}
    {db' : Store} {id : Nat}
    (h : db.exec fault (.insertContainer cid userId now) = .ok (db', id)) :
    fault = none ∧ (∀ r ∈ db.containers, r.val.key ≠ (cid, userId)) ∧
      db'.containers.rows = db.containers.rows ++
        [⟨db.containers.nextId, ⟨cid, userId, now⟩⟩] := by
  cases fault with
  | some err => cases h
  | none =>
      simp only [Store.exec_none, Store.apply] at h
      split at h
      · rename_i containers hinsert
        cases h
        refine ⟨rfl, fun r hr hkey => ?_, Table.rows_insert hinsert⟩
        have hnone : db.containers.insert ⟨cid, userId, now⟩ = none :=
          Table.insert_eq_none_iff.mpr ⟨r, hr, hkey⟩
        rw [hnone] at hinsert
        cases hinsert
      · cases h

theorem exec_insertContainer_error {cid : Bytes} {userId : Cell} {err : GoError}
    (h : db.exec none (.insertContainer cid userId now) = .error err) :
    ∃ r ∈ db.containers, r.val.key = (cid, userId) := by
  simp only [Store.exec_none, Store.apply] at h
  split at h
  · cases h
  · rename_i hinsert
    exact Table.insert_eq_none_iff.mp hinsert

/-! ## When it is all or nothing -/

theorem code_createParams {w : Response} (h : createParams body = .error w) :
    w.code = 400 := by
  unfold createParams at h
  split at h
  · cases h
    rfl
  · split at h
    · cases h
      rfl
    · cases h

/-! ## What docker has done -/

/-- The three ways in which docker and the client can leave the creation. -/
inductive Creation (name : Bytes) (steps : CreateSteps) (docker : Docker) :
    Except GoError Bytes × Docker → Prop where
  | nothing (err : GoError)
      (h : steps.creating.acted = true → docker.create steps.cid name = none) :
      Creation name steps docker (.error err, docker)
  | unreported {docker' : Docker} (message : Bytes) (hcall : steps.creating = .lost message)
      (hcreate : docker.create steps.cid name = some docker') :
      Creation name steps docker (.error (.other message), docker')
  | reported {docker' : Docker} (hcall : steps.creating = .served)
      (hcreate : docker.create steps.cid name = some docker') :
      Creation name steps docker (.ok steps.cid, docker')

section Outcomes

variable {name userId : Bytes} {docker' : Docker}

theorem creation_clientCreate (name : Bytes) (steps : CreateSteps) (docker : Docker) :
    Creation name steps docker (clientCreate name steps steps.creating docker) := by
  cases hcall : steps.creating with
  | refused err => exact .nothing err (by simp [hcall, Call.acted])
  | lost message =>
      cases hcreate : docker.create steps.cid name with
      | none =>
          simp only [clientCreate, hcreate, Option.getD_none]
          exact .nothing _ fun _ => hcreate
      | some docker' =>
          simp only [clientCreate, hcreate, Option.getD_some]
          exact .unreported message hcall hcreate
  | served =>
      cases hcreate : docker.create steps.cid name with
      | none =>
          simp only [clientCreate, hcreate]
          exact .nothing _ fun _ => hcreate
      | some docker' =>
          simp only [clientCreate, hcreate]
          exact .reported hcall hcreate

theorem clientCreate_eq_errNotFound {call : Call} :
    (clientCreate name steps call docker).1 = .error .errNotFound ↔
      call = .refused .errNotFound := by
  cases call with
  | served =>
      simp only [clientCreate]
      split <;> simp
  | refused err => simp [clientCreate]
  | lost message => simp [clientCreate]

theorem createInDocker_eq (h : steps.first ≠ .refused .errNotFound) :
    createInDocker name steps docker = clientCreate name steps steps.first docker := by
  have hne : (clientCreate name steps steps.first docker).1 ≠ .error .errNotFound :=
    mt clientCreate_eq_errNotFound.mp h
  unfold createInDocker
  split
  · rename_i heq
    rw [heq] at hne
    exact absurd rfl hne
  · rfl

theorem creation (name : Bytes) (steps : CreateSteps) (docker : Docker) :
    Creation name steps docker (createInDocker name steps docker) := by
  have hlast := creation_clientCreate name steps docker
  by_cases hfirst : steps.first = .refused .errNotFound
  · cases hpull : steps.pull with
    | some err =>
        have hcall : steps.creating = .refused .errNotFound := by
          simp [CreateSteps.creating, hfirst, hpull]
        simp only [createInDocker, hfirst, clientCreate, hpull]
        exact .nothing err (by simp [hcall, Call.acted])
    | none =>
        have hcall : steps.creating = steps.second := by
          simp [CreateSteps.creating, hfirst, hpull]
        rw [hcall] at hlast
        simpa only [createInDocker, hfirst, clientCreate, hpull] using hlast
  · have hcall : steps.creating = steps.first := by
      simp [CreateSteps.creating, hfirst]
    rw [createInDocker_eq hfirst]
    rwa [hcall] at hlast

/-! ## The three outcomes -/

theorem smooth_iff (hparams : createParams body = .ok (name, userId))
    (hacted : steps.creating.acted = true)
    (hcreate : docker.create steps.cid name = some docker') :
    Smooth env body steps db docker ↔
      steps.creating = .served ∧ steps.insert = none ∧
        (∀ r ∈ db.containers, r.val.key ≠ (steps.cid, env.integerAffinity userId)) ∧
          steps.start.acted = true := by
  constructor
  · intro h
    exact h name userId hparams hacted (by rw [hcreate]; rfl)
  · intro h name' userId' hparams' _ _
    rw [hparams] at hparams'
    cases hparams'
    exact h

theorem allOrNothing_of_nothing {w : Response}
    (h : createContainer env body steps now db docker = ⟨w, db, docker⟩)
    (hcode : 400 ≤ w.code) : AllOrNothing env body steps now db docker where
  nothing _ := by
    rw [h]
    exact ⟨rfl, rfl⟩
  all hok := by
    rw [h] at hok
    have hok : w.code = 200 := hok
    omega

theorem not_allOrNothing_of_refused {w : Response}
    (h : createContainer env body steps now db docker = ⟨w, db, docker'⟩)
    (hcode : 400 ≤ w.code) (hcreate : docker.create steps.cid name = some docker') :
    ¬ AllOrNothing env body steps now db docker := by
  intro hall
  have hleft := (hall.nothing (by rw [h]; exact hcode)).1
  rw [h] at hleft
  have hlength := congrArg List.length hleft
  simp [containers_create hcreate] at hlength

theorem allOrNothing_iff_started {db' : Store} {payload : Payload}
    (hparams : createParams body = .ok (name, userId))
    (h : createContainer env body steps now db docker =
      ⟨({} : Response).write payload, db', startCreated steps.cid steps.start docker'⟩)
    (hcreate : docker.create steps.cid name = some docker')
    (hrows : db'.containers.rows = db.containers.rows ++
      [⟨db.containers.nextId, ⟨steps.cid, env.integerAffinity userId, now⟩⟩]) :
    AllOrNothing env body steps now db docker ↔ steps.start.acted = true := by
  constructor
  · intro hall
    obtain ⟨name', userId', cid', -, hcontainers, -⟩ := hall.all (by rw [h]; rfl)
    rw [h] at hcontainers
    cases hstart : steps.start.acted with
    | true => rfl
    | false => simp [hstart, startCreated, containers_create hcreate] at hcontainers
  · intro hstart
    constructor
    · intro hcode
      rw [h] at hcode
      have hcode : 400 ≤ 200 := hcode
      omega
    · intro _
      refine ⟨name, userId, steps.cid, hparams, ?_, ?_⟩
      · rw [h, startCreated, if_pos hstart]
        exact containers_start_create hcreate
      · rw [h]
        exact hrows

end Outcomes

/--
A request is all or nothing exactly if nothing fails once docker has created the
container, the answer to the client included.
-/
theorem allOrNothing_iff_smooth (env : Env) (body : Option Fields) (steps : CreateSteps)
    (now : Nat) (db : Store) (docker : Docker) :
    AllOrNothing env body steps now db docker ↔ Smooth env body steps db docker := by
  cases hparams : createParams body with
  | error w =>
      have hresult : createContainer env body steps now db docker = ⟨w, db, docker⟩ := by
        simp only [createContainer, hparams]
      refine iff_of_true (allOrNothing_of_nothing hresult ?_) ?_
      · rw [code_createParams hparams]
      · intro name userId hok
        rw [hparams] at hok
        cases hok
  | ok params =>
      obtain ⟨name, userId⟩ := params
      have hcreation := creation name steps docker
      generalize hcreated : createInDocker name steps docker = created at hcreation
      cases hcreation with
      | nothing err hnone =>
          have hresult : createContainer env body steps now db docker =
              ⟨showError err {}, db, docker⟩ := by
            simp only [createContainer, hparams, hcreated]
          refine iff_of_true (allOrNothing_of_nothing hresult (le_errorStatus err)) ?_
          intro name' userId' hok hacted hsome
          rw [hparams] at hok
          cases hok
          rw [hnone hacted] at hsome
          cases hsome
      | @unreported docker' message hcall hcreate =>
          have hresult : createContainer env body steps now db docker =
              ⟨showError (.other message) {}, db, docker'⟩ := by
            simp only [createContainer, hparams, hcreated]
          rw [smooth_iff hparams (by rw [hcall]; rfl) hcreate]
          refine iff_of_false
            (not_allOrNothing_of_refused hresult (le_errorStatus (.other message)) hcreate) ?_
          rintro ⟨hserved, -⟩
          rw [hcall] at hserved
          cases hserved
      | @reported docker' hcall hcreate =>
          rw [smooth_iff hparams (by rw [hcall]; rfl) hcreate]
          cases hinsert : db.exec steps.insert
              (.insertContainer steps.cid (env.integerAffinity userId) now) with
          | error err =>
              have hresult : createContainer env body steps now db docker =
                  ⟨showError err {}, db, docker'⟩ := by
                simp only [createContainer, hparams, hcreated, hinsert]
              refine iff_of_false
                (not_allOrNothing_of_refused hresult (le_errorStatus err) hcreate) ?_
              rintro ⟨-, hfault, hfree, -⟩
              rw [hfault] at hinsert
              obtain ⟨r, hr, hkey⟩ := exec_insertContainer_error hinsert
              exact hfree r hr hkey
          | ok inserted =>
              obtain ⟨db', id⟩ := inserted
              obtain ⟨hfault, hfree, hrows⟩ := exec_insertContainer_ok hinsert
              have hresult : createContainer env body steps now db docker =
                  ⟨({} : Response).write (.text (ascii "cid") steps.cid), db',
                    startCreated steps.cid steps.start docker'⟩ := by
                simp only [createContainer, hparams, hcreated, hinsert]
              rw [allOrNothing_iff_started hparams hresult hcreate hrows]
              exact ⟨fun hstart => ⟨hcall, hfault, hfree, hstart⟩, fun h => h.2.2.2⟩

def webBody : Option Fields :=
  some [(ascii "name", ascii "web"), (ascii "image", ascii "busybox"),
    (ascii "user_id", ascii "1")]

def createdId : Bytes :=
  ascii "0123456789abcdef0123456789abcdef0123456789abcdef0123456789abcdef"

def lockedSteps : CreateSteps where
  first := .served
  cid := createdId
  insert := some (.other (ascii "database is locked"))

def unansweredSteps : CreateSteps where
  first := .lost (ascii "unexpected EOF")
  cid := createdId

def unstartedSteps : CreateSteps where
  first := .served
  cid := createdId
  start := .refused (.other (ascii "500 Internal Server Error: "))

theorem failures_are_not_undone :
    ¬ AllOrNothing markedEnv webBody lockedSteps 0 .empty .empty ∧
      ¬ AllOrNothing markedEnv webBody unansweredSteps 0 .empty .empty ∧
      ¬ AllOrNothing markedEnv webBody unstartedSteps 0 .empty .empty := by
  refine ⟨?_, ?_, ?_⟩
  · intro h
    have hleft := (h.nothing (by decide)).1
    exact absurd hleft (by decide)
  · intro h
    have hleft := (h.nothing (by decide)).1
    exact absurd hleft (by decide)
  · intro h
    obtain ⟨name, userId, cid, -, hcontainers, -⟩ := h.all (by decide)
    have hrunning : ∀ c ∈ (createContainer markedEnv webBody unstartedSteps 0 .empty
        .empty).docker.containers, c.running = false := by
      decide
    rw [hcontainers] at hrunning
    simpa using hrunning ⟨cid, name, true⟩ (by simp)

end DockerBastion.Manager
