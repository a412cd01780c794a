import DockerBastion.System.Change
import DockerBastion.System.Docker

/-!
# The background pass that drops stale grants

`refreshContainers` takes the list of containers and then deletes the grants of
all others.  Docker never gives an id twice, so a grant is deleted wrongly exactly
if it names a container that was created after the list was taken.
-/

namespace DockerBastion.System

open Foundation Manager

variable {env : Env} {s : State}

private theorem listing_perform {a : Action} {ids : List Bytes}
    (h : (perform env s a).listing = some ids) :
    s.listing = some ids ∨ (a = .listContainers none ∧ ids = s.docker.ids) := by
  cases htouches : a.touchesListing with
  | false =>
      have hlisting : (perform env s a).listing = s.listing :=
        (frame_perform a).listing htouches
      exact .inl (hlisting ▸ h)
  | true =>
      cases a with
      | listContainers fault =>
          simp only [perform, listContainers] at h
          split at h
          · exact .inr ⟨rfl, (Option.some.inj h).symm⟩
          · exact .inl h
      | deleteStale fault =>
          simp only [perform, deleteStale] at h
          split at h
          · exact .inl h
          · cases h
      | _ => cases htouches

theorem listing_step {e : Event} {ids : List Bytes}
    (h : (step env s e).listing = some ids) :
    s.listing = some ids ∨ (e = .act (.listContainers none) ∧ ids = s.docker.ids) := by
  cases e with
  | act a =>
      simp only [step] at h
      split at h
      · rcases listing_perform h with hold | ⟨rfl, hids⟩
        · exact .inl hold
        · exact .inr ⟨rfl, hids⟩
      · exact .inl h
  | stop => cases h
  | start faults now =>
      simp only [step] at h
      split at h
      · exact .inl h
      · split at h <;> exact .inl h
  | dockerCreate id name =>
      simp only [step] at h
      split at h <;> exact .inl h
  | dockerRename id name =>
      simp only [step] at h
      split at h <;> exact .inl h
  | dockerRemove id => exact .inl h

/-! ## Passes -/

/-- A run in which a pass has taken its list and is about to delete. -/
structure Pass (env : Env) (events : List Event) where
  before : List Event
  between : List Event
  split : events = before ++ .act (.listContainers none) :: between
  up : (run (step env) .initial events).up = true
  listed : (run (step env) .initial events).listing =
    some (run (step env) .initial before).docker.ids

namespace Pass

variable {events : List Event}

/-- The state in which the list is taken. -/
def listState (pass : Pass env events) : State := run (step env) .initial pass.before

/-- The state in which the statement runs. -/
def deleteState (_ : Pass env events) : State := run (step env) .initial events

def result (pass : Pass env events) (fault : Option GoError) : Store :=
  (step env pass.deleteState (.act (.deleteStale fault))).db

theorem result_eq (pass : Pass env events) (fault : Option GoError) :
    pass.result fault =
      pass.deleteState.db.commit (refreshChange pass.listState.docker.ids fault) := by
  have hup : pass.deleteState.up = true := pass.up
  have hlisted : pass.deleteState.listing = some pass.listState.docker.ids := pass.listed
  simp [result, step_db, change, actionChange, hup, hlisted]

theorem deleteState_eq (pass : Pass env events) :
    pass.deleteState = run (step env) pass.listState
      (.act (.listContainers none) :: pass.between) := by
  have hsplit := congrArg (run (step env) .initial) pass.split
  rwa [run_append] at hsplit

/-- The pass deletes only grants of containers that docker does not have. -/
def KeepsLive (pass : Pass env events) (fault : Option GoError) : Prop :=
  ∀ r ∈ pass.deleteState.db.containers, isFullId r.val.cid = true →
    r ∉ (pass.result fault).containers → r.val.cid ∉ pass.deleteState.docker.ids

end Pass

/-- Every state in which the process holds a list is the second half of a pass. -/
theorem exists_pass {events : List Event} {ids : List Bytes}
    (hup : (run (step env) .initial events).up = true)
    (hlisting : (run (step env) .initial events).listing = some ids) :
    Nonempty (Pass env events) := by
  obtain ⟨before, e, between, rfl, hnot, hkept⟩ :=
    exists_last_change (P := fun s : State => s.listing = some ids)
      (by simp [State.initial]) hlisting
  rcases listing_step hkept.first with hold | ⟨rfl, rfl⟩
  · exact absurd hold hnot
  exact ⟨⟨before, between, rfl, hup, hlisting⟩⟩

/--
A pass keeps all grants of existing containers exactly if its statement fails or no
grant names an existing container that is younger than the list.
-/
theorem keepsLive_iff (env : Env) (events : List Event) (pass : Pass env events)
    (fault : Option GoError) :
    pass.KeepsLive fault ↔
      fault ≠ none ∨
        ∀ r ∈ pass.deleteState.db.containers,
          r.val.cid ∈ pass.deleteState.docker.ids →
            r.val.cid ∈ pass.listState.docker.issued := by
  unfold Pass.KeepsLive
  rw [pass.result_eq]
  cases fault with
  | some err =>
      simp only [ne_eq, reduceCtorEq, not_false_eq_true, true_or, iff_true]
      exact fun r hr _ hgone => absurd hr hgone
  | none =>
      simp only [ne_eq, not_true_eq_false, false_or, refreshChange, Store.commit,
        Table.mem_deleteWhere, decide_eq_false_iff_not, not_not]
      constructor
      · intro hkeeps r hr hlive
        by_contra hyoung
        have hunlisted : r.val.cid ∉ pass.listState.docker.ids := fun hlisted =>
          hyoung (Docker.issued_of_mem_ids hlisted)
        exact hkeeps r hr (Docker.isFullId_of_mem_ids hlive)
          (fun hkept => hunlisted hkept.2) hlive
      · intro hold r hr _ hdeleted hlive
        have hunlisted : r.val.cid ∉ pass.listState.docker.ids := fun hlisted =>
          hdeleted ⟨hr, hlisted⟩
        rw [pass.deleteState_eq] at hlive
        -- what had gone before the list was taken cannot be back
        exact gone_run (hold r hr (by rwa [pass.deleteState_eq])) hunlisted _ hlive

def youngRun : List Event :=
  [.started, .act (.listContainers none), .dockerCreate webId (ascii "web"),
   .userAdded (ascii "bob") (ascii "secret"), .granted (ascii "1") webId]

def youngPass : Pass markedEnv youngRun where
  before := [.started]
  between := youngRun.drop 2
  split := rfl
  up := by decide
  listed := by decide

theorem youngPass_deletes_live : ¬ youngPass.KeepsLive none := by
  intro hkeeps
  have hlive : ∃ r ∈ youngPass.deleteState.db.containers, isFullId r.val.cid = true ∧
      r ∉ (youngPass.result none).containers ∧
        r.val.cid ∈ youngPass.deleteState.docker.ids := by
    decide
  obtain ⟨r, hr, hfull, hgone, hids⟩ := hlive
  exact hkeeps r hr hfull hgone hids

end DockerBastion.System
