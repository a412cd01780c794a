import DockerBastion.System.Exec

/-!
# Taking a grant away

The grant is looked up once, when a connection is let in; `handleChannels` keeps
the container it was started with.  Taking a grant away therefore closes the
container to every later login, and leaves a connection that is established as
it is.
-/

namespace DockerBastion.System

open Foundation Manager Sshd

/-- The request answers 204 and takes container `cid` away from user `uid`. -/
structure Revokes (env : Env) (s : State) (e : Event) (uid : Nat) (cid : Bytes) :
    Prop where
  answered : ∃ w, answer env s e = some w ∧ w.code = 204
  request :
    (∃ id fault, e = .act (.revoke id fault) ∧
      ∃ r ∈ s.db.containers, atoi id = .ok (r.id : Int) ∧
        r.val.userId = .integer uid ∧ r.val.cid = cid) ∨
    (∃ id faults, e = .act (.deleteUser id faults) ∧ atoi id = .ok (uid : Int))

def NotGranting (env : Env) (uid : Nat) (cid : Bytes) (s : State) (e : Event) : Prop :=
  ∀ container ∈ newGrant env s e,
    ¬ (container.userId = .integer uid ∧ container.cid = cid)

def Absent (uid : Nat) (cid : Bytes) (s : State) : Prop :=
  ∀ r ∈ s.db.containers, ¬ (r.val.userId = .integer uid ∧ r.val.cid = cid)

variable {env : Env}

instance (uid : Nat) (cid : Bytes) (s : State) (e : Event) :
    Decidable (NotGranting env uid cid s e) :=
  inferInstanceAs (Decidable (∀ container ∈ newGrant env s e,
    ¬ (container.userId = .integer uid ∧ container.cid = cid)))

theorem absent_of_notGranting {s : State} {e : Event} {uid : Nat} {cid : Bytes}
    (h : Absent uid cid s) (he : NotGranting env uid cid s e) :
    Absent uid cid (step env s e) :=
  absent_step
    (p := fun container => container.userId = .integer uid ∧ container.cid = cid) h he

private theorem change_of_answered {s : State} {a : Action} {w : Response}
    (h : answer env s (.act a) = some w) :
    respond env s a = some w ∧ change env s (.act a) = actionChange env s a := by
  simp only [answer] at h
  split at h
  · rename_i hup
    exact ⟨h, by simp [change, hup]⟩
  · cases h

theorem absent_of_revokes {s : State} {e : Event} {uid : Nat} {cid : Bytes}
    (h : Revokes env s e uid cid) : Absent uid cid (step env s e) := by
  obtain ⟨⟨w, hanswer, hcode⟩, hrequest⟩ := h
  intro q hq ⟨huser, hcid⟩
  rw [step_db] at hq
  rcases hrequest with ⟨id, fault, rfl, r, hr, hid, hruser, hrcid⟩ |
    ⟨id, faults, rfl, hid⟩
  · obtain ⟨hrespond, hchange⟩ := change_of_answered hanswer
    cases hrespond
    obtain ⟨privId, hpriv, hdrop⟩ := revokeChange_of_code hcode
    obtain rfl : (r.id : Int) = privId := Except.ok.inj (hid.symm.trans hpriv)
    rw [hchange, actionChange, hdrop] at hq
    obtain ⟨hq, hne⟩ := Table.mem_deleteWhere.mp hq
    -- the unique index leaves no second row for the pair
    have hqr : q = r := Table.eq_of_key_eq hq hr (by
      simp [Container.key, huser, hcid, hruser, hrcid])
    simp [hqr] at hne
  · obtain ⟨hrespond, hchange⟩ := change_of_answered hanswer
    cases hrespond
    obtain ⟨uid', huid, hdrop⟩ := deleteUserChange_of_code hcode
    obtain rfl : (uid : Int) = uid' := Except.ok.inj (hid.symm.trans huid)
    rw [hchange, actionChange, hdrop] at hq
    obtain ⟨-, hne⟩ := Table.mem_deleteWhere.mp hq
    simp [huser] at hne

/-! ## Sessions after the revocation -/

/-- A session of user `uid` enters container `cid` after it was taken from him. -/
structure LateEntry (env : Env) (events : List Event) where
  before : List Event
  revocation : Event
  mid : List Event
  entry : Event
  after : List Event
  uid : Nat
  cid : Bytes
  k : Nat
  user : Bytes
  container : Bytes
  split : events = before ++ revocation :: (mid ++ entry :: after)
  revokes : Revokes env (run (step env) .initial before) revocation uid cid
  notGranted : EachStep (step env) (NotGranting env uid cid)
    (run (step env) .initial (before ++ [revocation])) mid
  established : (run (step env) .initial (before ++ revocation :: mid)).conns k =
    .established user uid
  execs : execStart (run (step env) .initial (before ++ revocation :: mid)) entry =
    some (k, container)
  resolves : (run (step env) .initial (before ++ revocation :: mid)).docker.resolve
    container = some cid

namespace LateEntry

variable {events : List Event}

def untilEntry (late : LateEntry env events) : List Event :=
  late.before ++ late.revocation :: late.mid

theorem absent (late : LateEntry env events) {later rest : List Event}
    (h : late.mid = later ++ rest) :
    Absent late.uid late.cid
      (run (step env) .initial (late.before ++ late.revocation :: later)) := by
  have hfirst : Absent late.uid late.cid
      (run (step env) .initial (late.before ++ [late.revocation])) := by
    rw [run_append]
    exact absent_of_revokes late.revokes
  have hmid := late.notGranted
  rw [h] at hmid
  have hlast := (always_of_step (fun _ _ => absent_of_notGranting) hfirst
    (eachStep_append.mp hmid).1).last
  rwa [← run_append, List.append_assoc, List.singleton_append] at hlast

end LateEntry

/-- Taking a grant away closes the container to every session of the user. -/
def RevocationComplete (env : Env) (events : List Event) : Prop :=
  IsEmpty (LateEntry env events)

/--
In an exact run, whoever enters a container after it was taken from him does so on
a connection whose grant had been checked before.
-/
theorem checked_before_revocation (env : Env) (events : List Event)
    (hexact : EachStep (step env) Exact .initial events)
    (late : LateEntry env events) :
    ∃ login : Login env late.untilEntry late.k,
      login.user = late.user ∧ login.uid = late.uid ∧
        login.untilCheck <+: late.before := by
  have hconn : (run (step env) .initial late.untilEntry).conns late.k =
    .established late.user late.uid := late.established
  obtain ⟨login, huser, huid⟩ := exists_login hconn
  refine ⟨login, huser, huid, ?_⟩
  have hsplit : events = late.untilEntry ++ late.entry :: late.after := by
    simp [LateEntry.untilEntry, late.split]
  rw [hsplit] at hexact
  obtain ⟨hrun, hentry, -⟩ := eachStep_append.mp hexact
  obtain ⟨-, r, hr, hruser, hrcid⟩ := granted_of_exec hrun hentry late.execs
    late.resolves login ⟨late.user, late.uid, hconn, huser, huid⟩
  have hbegins : login.untilCheck <+: late.before ++ late.revocation :: late.mid :=
    login.untilCheck_prefix
  rcases List.prefix_or_prefix_of_prefix hbegins
    (List.prefix_append late.before (late.revocation :: late.mid)) with
    hbefore | ⟨rest, hrest⟩
  · exact hbefore
  cases rest with
  | nil =>
      rw [List.append_nil] at hrest
      rw [← hrest]
  | cons e rest =>
      -- the check ran after the revocation, when the grant was gone
      exfalso
      rw [← hrest, List.prefix_append_right_inj, List.cons_prefix_cons] at hbegins
      obtain ⟨rfl, later, hlater⟩ := hbegins
      refine late.absent hlater.symm r ?_ ⟨huid ▸ hruser, hrcid⟩
      rw [hrest]
      exact hr

/-- Bob logs in, his grant is taken away, and he opens a session. -/
def lateRun : List Event :=
  [.started,
   .userAdded (ascii "bob") (ascii "secret"),
   .dockerCreate webId (ascii "web"),
   .granted (ascii "1") webId,
   .looked 0 (ascii "bob.0123456789ab") (ascii "secret"),
   .checked 0,
   .revoked (ascii "1"),
   .sessionOpened 0]

def lateEntry : LateEntry markedEnv lateRun where
  before := lateRun.take 6
  revocation := .revoked (ascii "1")
  mid := []
  entry := .sessionOpened 0
  after := []
  uid := 1
  cid := webId
  k := 0
  user := ascii "bob.0123456789ab"
  container := ascii "0123456789ab"
  split := rfl
  revokes := ⟨⟨_, rfl, by decide⟩, .inl ⟨_, _, rfl, by decide⟩⟩
  notGranted := trivial
  established := by decide
  execs := by decide
  resolves := by decide

theorem lateEntry_checked_before :
    ∃ login : Login markedEnv lateEntry.untilEntry lateEntry.k,
      login.user = lateEntry.user ∧ login.uid = lateEntry.uid ∧
        login.untilCheck <+: lateEntry.before :=
  checked_before_revocation markedEnv lateRun (by decide) lateEntry

/-- The grant is taken away, but there is another one under the short id. -/
def twoFormsRun : List Event :=
  [.started,
   .userAdded (ascii "bob") (ascii "secret"),
   .dockerCreate webId (ascii "web"),
   .granted (ascii "1") webId,
   .granted (ascii "1") (shortId webId),
   .revoked (ascii "1"),
   .looked 0 (ascii "bob.0123456789ab") (ascii "secret"),
   .checked 0,
   .sessionOpened 0]

def twoFormsEntry : LateEntry markedEnv twoFormsRun where
  before := twoFormsRun.take 5
  revocation := .revoked (ascii "1")
  mid := [.looked 0 (ascii "bob.0123456789ab") (ascii "secret"), .checked 0]
  entry := .sessionOpened 0
  after := []
  uid := 1
  cid := webId
  k := 0
  user := ascii "bob.0123456789ab"
  container := ascii "0123456789ab"
  split := rfl
  revokes := ⟨⟨_, rfl, by decide⟩, .inl ⟨_, _, rfl, by decide⟩⟩
  notGranted := by decide
  established := by decide
  execs := by decide
  resolves := by decide

theorem revocation_not_complete :
    ¬ RevocationComplete markedEnv lateRun ∧
      ¬ RevocationComplete markedEnv twoFormsRun :=
  ⟨fun h => h.false lateEntry, fun h => h.false twoFormsEntry⟩

end DockerBastion.System
