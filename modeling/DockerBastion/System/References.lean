import DockerBastion.System.Refresh

/-!
# References to containers

Docker accepts a full id, a name or a unique id prefix for a container.  `Grant` stores
the reference that it is given, `refreshContainers` keeps full ids only, and
`DeleteContainer` deletes the rows that hold its own parameter, byte for byte.
-/

namespace DockerBastion.System

open Foundation Manager

variable {env : Env} {events : List Event}

/-! ## Grants and the background pass -/

/-- `Grant` stored the row, under a reference that docker took for the container `id`. -/
def Stored (env : Env) (events : List Event) (r : Row Container) (id : Bytes) : Prop :=
  ∃ before form now after, events = before ++ .act (.grant form none now) :: after ∧
    (run (step env) .initial before).docker.resolve r.val.cid = some id ∧
    r ∉ (run (step env) .initial before).db.containers ∧
    r ∈ (run (step env) .initial
      (before ++ [.act (.grant form none now)])).db.containers

/-- A row of the table whose container exists during the whole pass. -/
def Pass.Concerns (pass : Pass env events) (r : Row Container) : Prop :=
  r ∈ pass.deleteState.db.containers ∧ ∃ id, Stored env events r id ∧
    id ∈ pass.listState.docker.ids ∧ id ∈ pass.deleteState.docker.ids

def Pass.KeepsReferences (pass : Pass env events) (fault : Option GoError) : Prop :=
  ∀ r, pass.Concerns r → r ∈ (pass.result fault).containers

theorem Pass.keepsReferences_iff (pass : Pass env events) (fault : Option GoError) :
    pass.KeepsReferences fault ↔
      fault ≠ none ∨ ∀ r, pass.Concerns r → r.val.cid ∈ pass.listState.docker.ids := by
  unfold KeepsReferences
  rw [pass.result_eq]
  cases fault with
  | some err => exact iff_of_true (fun r hr => hr.1) (.inl nofun)
  | none =>
      simp only [ne_eq, not_true_eq_false, false_or, refreshChange, Store.commit,
        Table.mem_deleteWhere, decide_eq_false_iff_not, not_not]
      exact forall₂_congr fun r hr => and_iff_right hr.1

/-! ## Deleting a container -/

/-- A run in which `DeleteContainer` has removed its container and not yet the rows. -/
structure Removal (env : Env) (events : List Event) where
  before : List Event
  ref : Bytes
  id : Bytes
  between : List Event
  split : events = before ++ .act (.deleteContainer ref none) :: between
  resolves : (run (step env) .initial before).docker.resolve ref = some id
  i : Nat
  pending : (run (step env) .initial events).removing[i]? = some ref
  up : (run (step env) .initial events).up = true

namespace Removal

def deleteState (_ : Removal env events) : State := run (step env) .initial events

def statement (removal : Removal env events) (fault : Option GoError) : Event :=
  .act (.deleteRemoved removal.i fault)

/-- Just before the removal, docker took the text of the row for the container. -/
def Denotes (removal : Removal env events) (r : Row Container) : Prop :=
  (run (step env) .initial removal.before).docker.resolve r.val.cid = some removal.id

/-- An answer of 204 means that no row denotes the container. -/
def Clears (removal : Removal env events) (fault : Option GoError) : Prop :=
  ∀ w ∈ answer env removal.deleteState (removal.statement fault), w.code = 204 →
    ∀ r ∈ (step env removal.deleteState (removal.statement fault)).db.containers,
      ¬ removal.Denotes r

theorem answer_eq (removal : Removal env events) (fault : Option GoError) :
    ∃ w ∈ answer env removal.deleteState (removal.statement fault), w.code = 204 := by
  have hup : removal.deleteState.up = true := removal.up
  have hpending : removal.deleteState.removing[removal.i]? = some removal.ref :=
    removal.pending
  refine ⟨(deleteRemoved removal.ref fault removal.deleteState.db).1, ?_, ?_⟩
  · simp [answer, statement, respond, hup, hpending]
  · unfold deleteRemoved
    split <;> rfl

theorem db_eq (removal : Removal env events) (fault : Option GoError) :
    (step env removal.deleteState (removal.statement fault)).db =
      removal.deleteState.db.commit (deleteRemovedChange removal.ref fault) := by
  have hup : removal.deleteState.up = true := removal.up
  have hpending : removal.deleteState.removing[removal.i]? = some removal.ref :=
    removal.pending
  simp [statement, step_db, change, actionChange, hup, hpending]

theorem clears_iff (removal : Removal env events) (fault : Option GoError) :
    removal.Clears fault ↔
      ∀ r ∈ removal.deleteState.db.containers, removal.Denotes r →
        fault = none ∧ r.val.cid = removal.ref := by
  have hanswered : removal.Clears fault ↔
      ∀ r ∈ (step env removal.deleteState (removal.statement fault)).db.containers,
        ¬ removal.Denotes r := by
    obtain ⟨w, hw, hcode⟩ := removal.answer_eq fault
    exact ⟨fun h => h w hw hcode, fun h _ _ _ => h⟩
  rw [hanswered, removal.db_eq]
  cases fault with
  | some err => simp [deleteRemovedChange, Store.commit]
  | none =>
      simp only [deleteRemovedChange, Store.commit, Table.mem_deleteWhere,
        decide_eq_false_iff_not, true_and]
      constructor
      · intro h r hr hdenotes
        by_contra hne
        exact h r ⟨hr, hne⟩ hdenotes
      · rintro h r ⟨hr, hne⟩ hdenotes
        exact hne (h r hr hdenotes)

end Removal

/-! ## The requests that wait for their statement -/

section Waiting

variable {s : State}

def Action.touchesRemoving : Action → Bool
  | .deleteContainer _ _ | .deleteRemoved _ _ => true
  | _ => false

private theorem removing_perform {a : Action} (h : a.touchesRemoving = false) :
    (perform env s a).removing = s.removing := by
  cases a with
  | deleteContainer id fault => cases h
  | deleteRemoved i fault => cases h
  | chPasswd session authFault body salt fault =>
      simp only [perform, changePassword]
      split
      · rfl
      · split <;> rfl
  | createContainer body outcome =>
      simp only [perform, createContainer]
      split
      · split <;> rfl
      · rfl
  | insertCreated i fault now =>
      simp only [perform, insertCreatedAt]
      split
      · rfl
      · split <;> rfl
  | listContainers fault =>
      simp only [perform, listContainers]
      split <;> rfl
  | deleteStale fault =>
      simp only [perform, deleteStale]
      split <;> rfl
  | lookupUser k user pass faults =>
      simp only [perform, lookupUser]
      split
      · split <;> rfl
      · rfl
  | checkContainer k faults =>
      simp only [perform, checkConn]
      split
      · split <;> rfl
      · rfl
  | _ => rfl

private theorem mem_removing_perform {a : Action} {ref : Bytes}
    (h : ref ∈ (perform env s a).removing) :
    ref ∈ s.removing ∨
      a = .deleteContainer ref none ∧ ∃ id, s.docker.resolve ref = some id := by
  cases htouches : a.touchesRemoving with
  | false =>
      rw [removing_perform htouches] at h
      exact .inl h
  | true =>
      cases a with
      | deleteContainer id fault =>
          simp only [perform, deleteContainer] at h
          split at h
          · rename_i cid hresolve
            rcases List.mem_append.mp h with hold | hnew
            · exact .inl hold
            · obtain rfl := List.mem_singleton.mp hnew
              exact .inr ⟨rfl, cid, hresolve⟩
          · exact .inl h
      | deleteRemoved i fault =>
          simp only [perform, deleteRemovedAt] at h
          split at h
          · exact .inl h
          · exact .inl (List.mem_of_mem_eraseIdx h)
      | _ => cases htouches

theorem mem_removing_step {e : Event} {ref : Bytes} (h : ref ∈ (step env s e).removing) :
    ref ∈ s.removing ∨
      e = .act (.deleteContainer ref none) ∧ ∃ id, s.docker.resolve ref = some id := by
  cases e with
  | act a =>
      simp only [step] at h
      split at h
      · rcases mem_removing_perform h with hold | ⟨rfl, hresolve⟩
        · exact .inl hold
        · exact .inr ⟨rfl, hresolve⟩
      · exact .inl h
  | stop => cases h
  | start faults now =>
      simp only [step] at h
      split at h
      · exact .inl h
      · split at h <;> exact .inl h
  | dockerCreate id name =>
      simp only [step] at h
      split at h <;> exact .inl h
  | dockerRename id name =>
      simp only [step] at h
      split at h <;> exact .inl h
  | dockerRemove id => exact .inl h

/-- Every statement of `DeleteContainer` that is still to run is the end of a removal. -/
theorem exists_removal {events : List Event} {i : Nat} {ref : Bytes}
    (hup : (run (step env) .initial events).up = true)
    (hpending : (run (step env) .initial events).removing[i]? = some ref) :
    ∃ removal : Removal env events, removal.i = i ∧ removal.ref = ref := by
  obtain ⟨before, e, between, rfl, hnot, hkept⟩ :=
    exists_last_change (P := fun s : State => ref ∈ s.removing)
      (by simp [State.initial]) (List.mem_of_getElem? hpending)
  rcases mem_removing_step hkept.first with hold | ⟨rfl, id, hresolve⟩
  · exact absurd hold hnot
  · exact ⟨⟨before, ref, id, between, rfl, hresolve, i, hpending, hup⟩, rfl, rfl⟩

end Waiting

/--
A pass keeps the grants of existing containers exactly if they hold full ids of the
list or its statement fails; a deletion leaves no row behind exactly if all that denote
the container hold the reference that was deleted and its statement does not fail.
-/
theorem references_agree_iff (env : Env) (events : List Event) :
    (∀ (pass : Pass env events) (fault : Option GoError), pass.KeepsReferences fault ↔
      fault ≠ none ∨ ∀ r, pass.Concerns r → r.val.cid ∈ pass.listState.docker.ids) ∧
    ∀ (removal : Removal env events) (fault : Option GoError), removal.Clears fault ↔
      ∀ r ∈ removal.deleteState.db.containers, removal.Denotes r →
        fault = none ∧ r.val.cid = removal.ref :=
  ⟨Pass.keepsReferences_iff, Removal.clears_iff⟩

def namedRun : List Event :=
  [.started, .dockerCreate webId (ascii "dev1"), .userAdded (ascii "bob") (ascii "secret"),
   .granted (ascii "1") (ascii "dev1")]

def namedPass : Pass markedEnv (namedRun ++ [.act (.listContainers none)]) where
  before := namedRun
  between := []
  split := rfl
  up := by decide
  listed := by decide

def namedRemoval : Removal markedEnv (namedRun ++ [.act (.deleteContainer webId none)]) where
  before := namedRun
  ref := webId
  id := webId
  between := []
  split := rfl
  resolves := by decide
  i := 0
  pending := by decide
  up := by decide

def namedRow : Row Container := ⟨1, ⟨ascii "dev1", .integer 1, 0⟩⟩

theorem namedRun_disagrees : ¬ namedPass.KeepsReferences none ∧ ¬ namedRemoval.Clears none := by
  constructor
  · intro h
    have hstored : Stored markedEnv (namedRun ++ [.act (.listContainers none)]) namedRow webId :=
      ⟨namedRun.take 3, _, 0, [.act (.listContainers none)], rfl, by decide, by decide, by decide⟩
    have hkept := h namedRow ⟨by decide, webId, hstored, by decide, by decide⟩
    exact absurd hkept (by decide)
  · intro h
    obtain ⟨w, hw, hcode⟩ := namedRemoval.answer_eq none
    exact h w hw hcode namedRow (by decide) rfl

end DockerBastion.System
