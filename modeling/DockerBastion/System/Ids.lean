import DockerBastion.System.Change

/-!
# Ids of users and grants

The tables are declared without AUTOINCREMENT: a new row gets the id above the
largest present, which is one that was given before if the last row was deleted.
A request that deletes by an id taken from an earlier listing is safe as long as
the table has held a row with that id or a larger one all the time.
-/

namespace DockerBastion.System

open Foundation Manager

section

variable {α κ : Type} {key : α → κ} (table : State → Table α key)

def Gives (env : Env) (s : State) (e : Event) (r : Row α) : Prop :=
  r ∉ table s ∧ r ∈ table (step env s e)

/-- No row of a run gets an id that an earlier row of the run had got. -/
def IdsFresh (env : Env) (events : List Event) : Prop :=
  ∀ before e mid e' after r r', events = before ++ e :: (mid ++ e' :: after) →
    Gives table env (run (step env) .initial before) e r →
    Gives table env (run (step env) .initial (before ++ e :: mid)) e' r' →
    r'.id ≠ r.id

def Covers (i : Nat) (s : State) : Prop := ∃ r ∈ table s, i ≤ r.id

instance (i : Nat) : DecidablePred (Covers table i) := fun s =>
  inferInstanceAs (Decidable (∃ r ∈ table s, i ≤ r.id))

end

def users (s : State) : Table User User.name := s.db.users

def containers (s : State) : Table Container Container.key := s.db.containers

variable {env : Env} {s : State} {e : Event}

theorem id_of_gives_user {r : Row User} (h : Gives users env s e r) :
    r.id = (users s).nextId := by
  rcases mem_users_step h.2 with hold | ⟨user, -, rfl⟩
  · exact absurd hold h.1
  · rfl

theorem id_of_gives_container {r : Row Container} (h : Gives containers env s e r) :
    r.id = (containers s).nextId := by
  rcases mem_containers_step h.2 with hold | ⟨container, -, rfl⟩
  · exact absurd hold h.1
  · rfl

/-- Nothing changes but that rows go, of `users` those with `P`, of `containers` with `Q`. -/
structure OnlyDeletes (P : Row User → Prop) (Q : Row Container → Prop) (s s' : State) :
    Prop where
  users_old : ∀ r ∈ users s', r ∈ users s
  containers_old : ∀ r ∈ containers s', r ∈ containers s
  admins_eq : s'.db.admins = s.db.admins
  users_gone : ∀ r ∈ users s, r ∉ users s' → P r
  containers_gone : ∀ r ∈ containers s, r ∉ containers s' → Q r

theorem onlyDeletes_of_db_eq {P : Row User → Prop} {Q : Row Container → Prop} {s s' : State}
    (h : s'.db = s.db) : OnlyDeletes P Q s s' := by
  constructor <;> simp +contextual [users, containers, h]

theorem change_deleteUser (id : Bytes) (faults : TxFaults) :
    change env s (.act (.deleteUser id faults)) = none ∨
      ∃ uid, atoi id = .ok uid ∧
        change env s (.act (.deleteUser id faults)) = some (.dropUser uid) := by
  simp only [change, actionChange, deleteUserChange]
  split
  swap
  · exact .inl rfl
  split
  · rename_i uid huid _ _ _ _
    exact .inr ⟨uid, huid, rfl⟩
  · exact .inl rfl

theorem change_revoke (id : Bytes) (fault : Option GoError) :
    change env s (.act (.revoke id fault)) = none ∨
      ∃ privId, atoi id = .ok privId ∧
        change env s (.act (.revoke id fault)) =
          some (.dropContainers fun r => (r.id : Int) = privId) := by
  simp only [change, actionChange, revokeChange]
  split
  swap
  · exact .inl rfl
  split
  · rename_i privId hpriv
    exact .inr ⟨privId, hpriv, rfl⟩
  · exact .inl rfl

/-- A deleted user takes with him every row of `containers` with his id. -/
theorem onlyDeletes_deleteUser {id : Bytes} {uid : Int} (hid : atoi id = .ok uid)
    (faults : TxFaults) :
    OnlyDeletes (fun r => (r.id : Int) = uid) (fun r => r.val.userId = .integer uid) s
      (step env s (.act (.deleteUser id faults))) := by
  rcases change_deleteUser id faults with hnone | ⟨uid', huid, hdrop⟩
  · exact onlyDeletes_of_db_eq (by rw [step_db, hnone]; rfl)
  · obtain rfl : uid = uid' := Except.ok.inj (hid.symm.trans huid)
    have hdb := @step_db env s (.act (.deleteUser id faults))
    rw [hdrop] at hdb
    constructor <;>
      simp +contextual [users, containers, hdb, Store.commit, Table.mem_deleteWhere]

theorem onlyDeletes_revoke {id : Bytes} {privId : Int} (hid : atoi id = .ok privId)
    (fault : Option GoError) :
    OnlyDeletes (fun _ => False) (fun r => (r.id : Int) = privId) s
      (step env s (.act (.revoke id fault))) := by
  rcases change_revoke id fault with hnone | ⟨privId', hpriv, hdrop⟩
  · exact onlyDeletes_of_db_eq (by rw [step_db, hnone]; rfl)
  · obtain rfl : privId = privId' := Except.ok.inj (hid.symm.trans hpriv)
    have hdb := @step_db env s (.act (.revoke id fault))
    rw [hdrop] at hdb
    constructor <;>
      simp +contextual [users, containers, hdb, Store.commit, Table.mem_deleteWhere]

theorem OnlyDeletes.mono {P P' : Row User → Prop} {Q Q' : Row Container → Prop}
    {s s' : State} (h : OnlyDeletes P Q s s') (hP : ∀ r ∈ users s, P r → P' r)
    (hQ : ∀ r ∈ containers s, Q r → Q' r) : OnlyDeletes P' Q' s s' where
  users_old := h.users_old
  containers_old := h.containers_old
  admins_eq := h.admins_eq
  users_gone r hr hgone := hP r hr (h.users_gone r hr hgone)
  containers_gone r hr hgone := hQ r hr (h.containers_gone r hr hgone)

/-- A grant to the id `i`, which is a grant to the user listed in `s` while he is there. -/
def GrantTo (i : Nat) (s s' : State) (r : Row Container) : Prop :=
  r.val.userId = .integer i ∧ ∀ u ∈ users s', u.id = i → u ∈ users s

def twoUsers : State :=
  run (step markedEnv) .initial
    [.started, .userAdded (ascii "bob") (ascii "secret"),
     .userAdded (ascii "eve") (ascii "other")]

/-- The user 1 goes and the name `web` is granted to the id that nobody has. -/
def regranted : List Event := [.userDeleted (ascii "1"), .granted (ascii "1") (ascii "web")]

/-- The last user is deleted and the next one gets his id. -/
def reuseRun : List Event :=
  [.started, .userAdded (ascii "bob") (ascii "secret"), .userDeleted (ascii "1"),
   .userAdded (ascii "eve") (ascii "other")]

end DockerBastion.System
