import DockerBastion.Manager.Change
import DockerBastion.System.State

/-!
# What an event does to the tables

The change of every event, and what follows from it for the tables whatever the
event is.  Users and grants are only added with ids above those present, or
dropped; nothing updates them.
-/

namespace DockerBastion.System

open Foundation Manager Sshd

section

variable (env : Env) (s : State)

def actionChange : Action → Option Change
  | .chPasswd session authFault body salt fault =>
      match authMidware (ascii "POST") (ascii "/api/passwd") session authFault s.db with
      | some _ => none
      | none => chPasswdChange env session body salt fault
  | .addUser body salt fault now => addUserChange env body salt fault now
  | .deleteUser id faults => deleteUserChange id faults
  | .grant form fault now => grantChange form fault now
  | .revoke id fault => revokeChange id fault
  | .insertCreated i fault now =>
      s.creating[i]?.bind fun (cid, userId) =>
        insertCreatedChange env cid userId fault now
  | .deleteRemoved i fault => s.removing[i]?.bind fun id => deleteRemovedChange id fault
  | .deleteStale fault => s.listing.bind fun ids => refreshChange ids fault
  | _ => none

def change : Event → Option Change
  | .start faults now => if s.up then none else startChange faults now s.db
  | .act a => if s.up then actionChange env s a else none
  | _ => none

/-- The grant that an event inserts, if its key is free. -/
def newGrant (e : Event) : Option Container :=
  match change env s e with
  | some (.addContainer container) => some container
  | _ => none

end

variable {env : Env} {s : State}

private theorem insertCreatedAt_db (i : Nat) (fault : Option GoError) (now : Nat) :
    (insertCreatedAt env s i fault now).db =
      s.db.commit (s.creating[i]?.bind fun (cid, userId) =>
        insertCreatedChange env cid userId fault now) := by
  unfold insertCreatedAt
  cases s.creating[i]? with
  | none => rfl
  | some request =>
      obtain ⟨cid, userId⟩ := request
      simp only [Option.bind_some, ← insertCreated_db]
      split
      · rename_i err hexec
        simp [insertCreated, hexec]
      · rfl

private theorem changePassword_db (session : Session) (authFault : Bool)
    (body : Option Fields) (salt : Except GoError Bytes) (fault : Option GoError) :
    (changePassword env s session authFault body salt fault).db =
      s.db.commit
        (actionChange env s (.chPasswd session authFault body salt fault)) := by
  simp only [changePassword, actionChange]
  cases authMidware (ascii "POST") (ascii "/api/passwd") session authFault s.db with
  | some status => rfl
  | none =>
      simp only [← chPasswd_db]
      cases chPasswd env session body salt fault s.db <;> rfl

private theorem perform_db (a : Action) :
    (perform env s a).db = s.db.commit (actionChange env s a) := by
  cases a with
  | login body fault => rfl
  | chPasswd session authFault body salt fault => exact changePassword_db ..
  | addUser body salt fault now => exact addUser_db ..
  | deleteUser id faults => exact deleteUser_db ..
  | grant form fault now => exact grant_db ..
  | revoke id fault => exact revoke_db ..
  | createContainer body outcome =>
      simp only [perform, createContainer]
      split
      · split <;> rfl
      · rfl
  | insertCreated i fault now => exact insertCreatedAt_db ..
  | deleteContainer id fault =>
      simp only [perform, deleteContainer]
      split <;> rfl
  | deleteRemoved i fault =>
      simp only [perform, deleteRemovedAt, actionChange]
      cases s.removing[i]? with
      | none => rfl
      | some id => exact deleteRemoved_db ..
  | listContainers fault =>
      simp only [perform, listContainers]
      split <;> rfl
  | deleteStale fault =>
      simp only [perform, deleteStale, actionChange]
      cases s.listing with
      | none => rfl
      | some ids => exact refreshContainers_db ..
  | lookupUser k user pass faults =>
      simp only [perform, lookupUser]
      split
      · split <;> rfl
      · rfl
  | checkContainer k faults =>
      simp only [perform, checkConn]
      split
      · split <;> rfl
      · rfl
  | openChannel k type acceptFails => rfl
  | disconnect k => rfl

/-- The tables after an event are the tables before it with its change. -/
theorem step_db (e : Event) : (step env s e).db = s.db.commit (change env s e) := by
  cases e with
  | stop => rfl
  | start faults now =>
      simp only [step, change]
      split
      · rfl
      · cases hstart : Manager.start faults now s.db with
        | error err => simp [startChange, hstart, Store.commit]
        | ok db => exact start_db hstart
  | dockerCreate id name =>
      simp only [step]
      split <;> rfl
  | dockerRename id name =>
      simp only [step]
      split <;> rfl
  | dockerRemove id => rfl
  | act a =>
      simp only [step, change]
      split
      · exact perform_db a
      · rfl

/-! ## Rows -/

@[simp] theorem newGrant_eq_some_iff {e : Event} {container : Container} :
    newGrant env s e = some container ↔
      change env s e = some (.addContainer container) := by
  unfold newGrant
  split
  · rename_i container' hchange
    simp [hchange]
  · rename_i hnot
    simp only [reduceCtorEq, false_iff]
    exact hnot container

theorem mem_users_step {e : Event} {r : Row User} (h : r ∈ (step env s e).db.users) :
    r ∈ s.db.users ∨
      ∃ user, change env s e = some (.addUser user) ∧
        r = ⟨s.db.users.nextId, user⟩ := by
  rw [step_db] at h
  cases hchange : change env s e with
  | none => exact .inl (by simpa [hchange, Store.commit] using h)
  | some c =>
      rw [hchange] at h
      cases c with
      | addUser user =>
          rcases Table.mem_getD_insert h with hold | hnew
          · exact .inl hold
          · exact .inr ⟨user, rfl, hnew⟩
      | dropUser id => exact .inl (Table.mem_deleteWhere.mp h).1
      | _ => exact .inl h

theorem mem_containers_step {e : Event} {r : Row Container}
    (h : r ∈ (step env s e).db.containers) :
    r ∈ s.db.containers ∨
      ∃ container, change env s e = some (.addContainer container) ∧
        r = ⟨s.db.containers.nextId, container⟩ := by
  rw [step_db] at h
  cases hchange : change env s e with
  | none => exact .inl (by simpa [hchange, Store.commit] using h)
  | some c =>
      rw [hchange] at h
      cases c with
      | addContainer container =>
          rcases Table.mem_getD_insert h with hold | hnew
          · exact .inl hold
          · exact .inr ⟨container, rfl, hnew⟩
      | dropUser id => exact .inl (Table.mem_deleteWhere.mp h).1
      | dropContainers p => exact .inl (Table.mem_deleteWhere.mp h).1
      | _ => exact .inl h

private theorem addContainer_action {a : Action} {container : Container}
    (h : actionChange env s a = some (.addContainer container)) :
    (∃ form fault now uid, a = .grant form fault now ∧
      grantParams form = .ok (uid, container.cid) ∧
      container.userId = .integer uid) ∨
    (∃ i fault now userId, a = .insertCreated i fault now ∧
      s.creating[i]? = some (container.cid, userId) ∧
      container.userId = env.integerAffinity userId) := by
  cases a with
  | grant form fault now =>
      simp only [actionChange, grantChange] at h
      split at h
      · rename_i uid cid hparams
        cases h
        exact .inl ⟨form, none, now, uid, rfl, hparams, rfl⟩
      · cases h
  | insertCreated i fault now =>
      simp only [actionChange, Option.bind_eq_some_iff] at h
      obtain ⟨⟨cid, userId⟩, hcreating, h⟩ := h
      cases fault with
      | some err => cases h
      | none =>
          cases h
          exact .inr ⟨i, none, now, userId, rfl, hcreating, rfl⟩
  | chPasswd session authFault body salt fault =>
      simp only [actionChange, chPasswdChange] at h
      split at h
      · cases h
      · split at h <;> cases h
  | addUser body salt fault now =>
      simp only [actionChange, addUserChange] at h
      split at h <;> cases h
  | deleteUser id faults =>
      simp only [actionChange, deleteUserChange] at h
      split at h <;> cases h
  | revoke id fault =>
      simp only [actionChange, revokeChange] at h
      split at h <;> cases h
  | deleteRemoved i fault =>
      simp only [actionChange, Option.bind_eq_some_iff] at h
      obtain ⟨id, -, h⟩ := h
      cases fault <;> cases h
  | deleteStale fault =>
      simp only [actionChange, Option.bind_eq_some_iff] at h
      obtain ⟨ids, -, h⟩ := h
      cases fault <;> cases h
  | _ => cases h

/-- Only `Grant` and `CreateContainer` insert grants. -/
theorem addContainer_cases {e : Event} {container : Container}
    (h : change env s e = some (.addContainer container)) :
    (∃ form fault now uid, e = .act (.grant form fault now) ∧
      grantParams form = .ok (uid, container.cid) ∧
      container.userId = .integer uid) ∨
    (∃ i fault now userId, e = .act (.insertCreated i fault now) ∧
      s.creating[i]? = some (container.cid, userId) ∧
      container.userId = env.integerAffinity userId) := by
  cases e with
  | act a =>
      simp only [change] at h
      split at h
      · rcases addContainer_action h with ⟨form, fault, now, uid, rfl, hrest⟩ |
          ⟨i, fault, now, userId, rfl, hrest⟩
        · exact .inl ⟨form, fault, now, uid, rfl, hrest⟩
        · exact .inr ⟨i, fault, now, userId, rfl, hrest⟩
      · cases h
  | start faults now =>
      simp only [change, startChange] at h
      split at h
      · cases h
      · split at h
        · cases h
        · split at h <;> cases h
  | _ => cases h

theorem absent_step {p : Container → Prop} {e : Event}
    (h : ∀ r ∈ s.db.containers, ¬ p r.val)
    (he : ∀ container ∈ newGrant env s e, ¬ p container) :
    ∀ r ∈ (step env s e).db.containers, ¬ p r.val := by
  intro r hr
  rcases mem_containers_step hr with hold | ⟨container, hchange, rfl⟩
  · exact h r hold
  · exact he container (by simp [hchange])

theorem users_grow (env : Env) (s : State) (e : Event) :
    Table.Grows s.db.users (step env s e).db.users := by
  intro r hr
  rcases mem_users_step hr with hold | ⟨user, -, rfl⟩
  · exact .inl hold
  · exact .inr fun q hq => Table.id_lt_nextId hq

theorem containers_grow (env : Env) (s : State) (e : Event) :
    Table.Grows s.db.containers (step env s e).db.containers := by
  intro r hr
  rcases mem_containers_step hr with hold | ⟨container, -, rfl⟩
  · exact .inl hold
  · exact .inr fun q hq => Table.id_lt_nextId hq

end DockerBastion.System
