import DockerBastion.System.Change
import DockerBastion.System.Login

/-!
# `passwordCallback` between two states

The two queries of `passwordCallback` see the tables at two moments.  If the
account that the first one read is still there whenever a grant for its id comes
in, an accepted login was justified at one moment in between.
-/

namespace DockerBastion.System

open Foundation Manager Sshd

/-- The grant lets user `uid` in under the login name. -/
def Admits (user : Bytes) (uid : Nat) (container : Container) : Prop :=
  container.userId = .integer uid ∧
    like (getContainerId user ++ [percent]) container.cid = true

/-- At this moment the login name and the password are those of a granted user. -/
def Entitled (env : Env) (user pass : Bytes) (s : State) : Prop :=
  ∃ u ∈ s.db.users,
    (u.val.name = getUsername user ∧ env.bcrypt.compare u.val.password pass = none) ∧
      ∃ r ∈ s.db.containers, Admits user u.id r.val

/-- A grant that admits the user comes in only while the account is there. -/
def GrantsToPresent (env : Env) (user : Bytes) (u : Row User) (s : State) (e : Event) :
    Prop :=
  ∀ container ∈ newGrant env s e, Admits user u.id container → u ∈ s.db.users

variable {env : Env}

instance (user : Bytes) (uid : Nat) (container : Container) :
    Decidable (Admits user uid container) :=
  inferInstanceAs (Decidable (_ ∧ _))

instance (user pass : Bytes) : DecidablePred (Entitled env user pass) := fun s =>
  inferInstanceAs (Decidable (∃ u ∈ s.db.users,
    (u.val.name = getUsername user ∧ env.bcrypt.compare u.val.password pass = none) ∧
      ∃ r ∈ s.db.containers, Admits user u.id r.val))

instance (user : Bytes) (u : Row User) (s : State) (e : Event) :
    Decidable (GrantsToPresent env user u s e) :=
  inferInstanceAs (Decidable
    (∀ container ∈ newGrant env s e, Admits user u.id container → u ∈ s.db.users))

private theorem users_of_newGrant {s : State} {e : Event} {container : Container}
    (h : change env s e = some (.addContainer container)) :
    (step env s e).db.users = s.db.users := by
  rw [step_db, h]
  rfl

private theorem sometime_of_granted {s : State} {between : List Event}
    {user pass : Bytes} {u : Row User} (hname : u.val.name = getUsername user)
    (hpass : env.bcrypt.compare u.val.password pass = none)
    (hgrants : EachStep (step env) (GrantsToPresent env user u) s between)
    (hbefore : ¬ ∃ r ∈ s.db.containers, Admits user u.id r.val)
    (hafter : ∃ r ∈ (run (step env) s between).db.containers, Admits user u.id r.val) :
    Sometime (step env) (Entitled env user pass) s between := by
  obtain ⟨before, e, after, rfl, hnot, hkept⟩ :=
    exists_last_change
      (P := fun s : State => ∃ r ∈ s.db.containers, Admits user u.id r.val) hbefore hafter
  obtain ⟨r, hr, hadmits⟩ := hkept.first
  -- the event that brought the grant in, and with it the moment to show
  rcases mem_containers_step hr with hold | ⟨container, hchange, rfl⟩
  · exact absurd ⟨r, hold, hadmits⟩ hnot
  have hu : u ∈ (run (step env) s before).db.users :=
    (eachStep_append.mp hgrants).2.1 container (newGrant_eq_some_iff.mpr hchange) hadmits
  refine sometime_iff.mpr ⟨before ++ [e], after, by simp, ?_⟩
  rw [run_append]
  refine ⟨u, ?_, ⟨hname, hpass⟩, _, hr, hadmits⟩
  rw [run_cons, run_nil, users_of_newGrant hchange]
  exact hu

/--
A login that is accepted was justified at one moment between the two queries if it
was at the first, or if every grant that came in for it since found the account
that the first query read.
-/
theorem entitled_of_accepted (env : Env) (faults : LoginFaults) (s : State)
    (between : List Event) (user pass : Bytes)
    (hgrants : Entitled env user pass s ∨
      ∀ u ∈ s.db.userByName (getUsername user),
        EachStep (step env) (GrantsToPresent env user u) s between)
    (haccept : passwordCallback env faults s.db (run (step env) s between).db user pass =
      none) :
    Sometime (step env) (Entitled env user pass) s between := by
  obtain ⟨uid, hverify, hcheck⟩ := passwordCallback_eq_none_iff.mp haccept
  obtain ⟨-, u, hu, rfl, hname, hpass⟩ := verifyUser_eq_ok hverify
  have hafter := checkContainer_eq_ok hcheck
  by_cases hbefore : ∃ r ∈ s.db.containers, Admits user u.id r.val
  · exact sometime_iff.mpr ⟨[], between, rfl, u, hu, ⟨hname, hpass⟩, hbefore⟩
  · rcases hgrants with ⟨v, hv, ⟨hvname, hvpass⟩, hvadmits⟩ | hgrants
    · exact sometime_iff.mpr ⟨[], between, rfl, v, hv, ⟨hvname, hvpass⟩, hvadmits⟩
    · exact sometime_of_granted hname hpass
        (hgrants u (Store.userByName_eq_some_iff.mpr ⟨hu, hname⟩)) hbefore hafter

def bobAdded : State :=
  run (step markedEnv) .initial [.started, .userAdded (ascii "bob") (ascii "secret")]

theorem entitled_granted_between :
    Sometime (step markedEnv)
      (Entitled markedEnv (ascii "bob.0123456789ab") (ascii "secret")) bobAdded
      [.granted (ascii "1") (ascii "0123456789ab")] :=
  entitled_of_accepted markedEnv {} bobAdded
    [.granted (ascii "1") (ascii "0123456789ab")] (ascii "bob.0123456789ab")
    (ascii "secret") (.inr (by decide)) (by decide)

/-- Bob is deleted and the next user, who gets his id, is granted a container. -/
def successor : List Event :=
  [.userDeleted (ascii "1"), .userAdded (ascii "eve") (ascii "other"),
   .granted (ascii "1") (ascii "0123456789ab")]

theorem accepted_never_entitled :
    passwordCallback markedEnv {} bobAdded.db (run (step markedEnv) bobAdded successor).db
        (ascii "bob.0123456789ab") (ascii "secret") = none ∧
      ¬ Sometime (step markedEnv)
        (Entitled markedEnv (ascii "bob.0123456789ab") (ascii "secret")) bobAdded
        successor := by
  constructor <;> decide

end DockerBastion.System
