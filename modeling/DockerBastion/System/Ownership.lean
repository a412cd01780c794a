import DockerBastion.System.Change

/-!
# Grants and the users they name

The table of grants holds the id of a user without a foreign key.  Deleting a
user keeps every grant pointing to a user; inserting one keeps it exactly if the
request names a user that exists.  A grant to an id that is still free waits for
the next account that gets this id.
-/

namespace DockerBastion.System

open Foundation Manager Sshd

/-- Every grant belongs to an existing user. -/
def Owned (s : State) : Prop :=
  ∀ r ∈ s.db.containers, ∃ u ∈ s.db.users, r.val.userId = .integer u.id

/-- The grant that the event inserts names a user that exists. -/
def NamesUser (env : Env) (s : State) (e : Event) : Prop :=
  ∀ container ∈ newGrant env s e, ∃ u ∈ s.db.users, container.userId = .integer u.id

def Ungranted (uid : Nat) (s : State) : Prop :=
  ∀ r ∈ s.db.containers, ¬ r.val.userId = .integer uid

/--
Until a request names a new user, the user has no grant and is let into no
container.
-/
def NewUsersRefused (env : Env) (events : List Event) : Prop :=
  ∀ before e mid after (u : Row User), events = before ++ e :: (mid ++ after) →
    u ∉ (run (step env) .initial before).db.users →
    u ∈ (run (step env) .initial (before ++ [e])).db.users →
    EachStep (step env)
      (fun s e => ∀ container ∈ newGrant env s e, ¬ container.userId = .integer u.id)
      (run (step env) .initial (before ++ [e])) mid →
    Ungranted u.id (run (step env) .initial (before ++ e :: mid)) ∧
      ∀ faults first user pass, verifyUser env faults first user pass = .ok u.id →
        passwordCallback env faults first
          (run (step env) .initial (before ++ e :: mid)).db user pass ≠ none

variable {env : Env}

instance : DecidablePred Owned := fun s =>
  inferInstanceAs (Decidable
    (∀ r ∈ s.db.containers, ∃ u ∈ s.db.users, r.val.userId = .integer u.id))

theorem owned_initial : Owned .initial := by
  simp [Owned, State.initial, Store.empty]

/-- Only the deletion of a user removes users, and it removes his grants as well. -/
theorem owned_step {s : State} {e : Event} (h : Owned s) (he : NamesUser env s e) :
    Owned (step env s e) := by
  intro r hr
  have howner : ∃ u ∈ s.db.users, r.val.userId = .integer u.id := by
    rcases mem_containers_step hr with hold | ⟨container, hchange, rfl⟩
    · exact h r hold
    · exact he container (by simp [hchange])
  obtain ⟨u, hu, huid⟩ := howner
  refine ⟨u, ?_, huid⟩
  rw [step_db] at hr ⊢
  cases hchange : change env s e with
  | none => exact hu
  | some c =>
      rw [hchange] at hr
      cases c with
      | addUser user => exact Table.mem_getD_insert_of_mem hu
      | dropUser id =>
          obtain ⟨-, hkept⟩ := Table.mem_deleteWhere.mp hr
          refine Table.mem_deleteWhere.mpr ⟨hu, ?_⟩
          simpa [huid] using hkept
      | _ => exact hu

theorem namesUser_of_owned {s : State} {e : Event} (h : Owned s)
    (hnext : Owned (step env s e)) : NamesUser env s e := by
  intro container hcontainer
  have hchange := newGrant_eq_some_iff.mp hcontainer
  have hdb : (step env s e).db = s.db.commit (change env s e) := step_db e
  rw [hchange] at hdb
  cases hinsert : s.db.containers.insert container with
  | none =>
      -- the pair is there already
      obtain ⟨r, hr, hkey⟩ := Table.insert_eq_none_iff.mp hinsert
      obtain ⟨u, hu, huid⟩ := h r hr
      exact ⟨u, hu, by rw [← huid, (Prod.mk.inj hkey).2]⟩
  | some containers =>
      have hrow : (⟨s.db.containers.nextId, container⟩ : Row Container) ∈
          (step env s e).db.containers := by
        simp only [hdb, Store.commit, hinsert, Option.getD_some]
        exact (Table.mem_insert hinsert).mpr (.inr rfl)
      obtain ⟨u, hu, huid⟩ := hnext _ hrow
      rw [hdb] at hu
      exact ⟨u, hu, huid⟩

theorem ungranted_step {s : State} {e : Event} {uid : Nat} (h : Ungranted uid s)
    (he : ∀ container ∈ newGrant env s e, ¬ container.userId = .integer uid) :
    Ungranted uid (step env s e) :=
  absent_step (p := fun container => container.userId = .integer uid) h he

/-- The id of a new user is above those of all users, and so of all grants. -/
theorem ungranted_new_user {s : State} {e : Event} {u : Row User} (h : Owned s)
    (hold : u ∉ s.db.users) (hnew : u ∈ (step env s e).db.users) :
    Ungranted u.id (step env s e) := by
  rcases mem_users_step hnew with hu | ⟨user, hchange, rfl⟩
  · exact absurd hu hold
  refine ungranted_step ?_ (by simp [newGrant, hchange])
  intro r hr huid
  obtain ⟨v, hv, hvid⟩ := h r hr
  have hlt := Table.id_lt_nextId hv
  rw [hvid] at huid
  have heq := Cell.integer.inj huid
  simp only at heq
  omega

theorem refused_of_ungranted {s : State} {uid : Nat} (h : Ungranted uid s)
    {faults : LoginFaults} {first : Store} {user pass : Bytes}
    (hverify : verifyUser env faults first user pass = .ok uid) :
    passwordCallback env faults first s.db user pass ≠ none := by
  intro haccept
  obtain ⟨uid', hverify', hcheck⟩ := passwordCallback_eq_none_iff.mp haccept
  obtain rfl : uid = uid' := Except.ok.inj (hverify.symm.trans hverify')
  obtain ⟨r, hr, huid, -⟩ := checkContainer_eq_ok hcheck
  exact h r hr huid

theorem newUsersRefused_of_owned {events : List Event}
    (h : Always (step env) Owned .initial events) : NewUsersRefused env events := by
  rintro before e mid after u rfl hold hnew hmid
  have hungranted : Ungranted u.id (run (step env) .initial (before ++ e :: mid)) := by
    rw [run_append] at hnew
    have hfirst := ungranted_new_user h.at hold hnew
    rw [run_append] at hmid ⊢
    exact (always_of_step (fun _ _ => ungranted_step) hfirst hmid).last
  exact ⟨hungranted, fun _ _ _ _ => refused_of_ungranted hungranted⟩

/--
Grants belong to existing users in all states of a run, and new users are let in
nowhere, exactly if every grant was inserted for a user that existed.
-/
theorem owned_iff_namesUser (env : Env) (events : List Event) :
    (Always (step env) Owned .initial events ∧ NewUsersRefused env events) ↔
      EachStep (step env) (NamesUser env) .initial events := by
  constructor
  · rintro ⟨howned, -⟩
    exact eachStep_of_always (fun _ _ => namesUser_of_owned) howned
  · intro hnames
    have howned := always_of_step (fun _ _ => owned_step) owned_initial hnames
    exact ⟨howned, newUsersRefused_of_owned howned⟩

/-- A grant to user 1, who does not exist, and then the first user. -/
def danglingRun : List Event :=
  [.started, .granted (ascii "1") (ascii "0123456789ab"),
   .userAdded (ascii "bob") (ascii "secret")]

theorem danglingRun_not_owned :
    ¬ Always (step markedEnv) Owned .initial danglingRun ∧
      ¬ NewUsersRefused markedEnv danglingRun := by
  constructor
  · decide
  · intro hrefused
    obtain ⟨hungranted, -⟩ := hrefused (danglingRun.take 2)
      (.userAdded (ascii "bob") (ascii "secret")) [] []
      ⟨1, ⟨ascii "bob", 0 :: ascii "secret", 0⟩⟩ rfl (by decide) (by decide) trivial
    have hgranted : ∃ r ∈ (run (step markedEnv) .initial danglingRun).db.containers,
        r.val.userId = .integer 1 := by
      decide
    obtain ⟨r, hr, huid⟩ := hgranted
    exact hungranted r hr huid

end DockerBastion.System
