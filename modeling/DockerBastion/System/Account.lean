import DockerBastion.System.Change

/-!
# Accounts that can log in

The API only asks for three bytes of an account name; `passwordCallback` takes the
login name apart at its first dot.  An account with a grant can be used exactly if
its name has no dot.
-/

namespace DockerBastion.System

open Foundation Manager Sshd

/-- An account with a grant, both accepted by the API and both there ever since. -/
structure Account (env : Env) where
  start : State
  fields : Fields
  salt : Except GoError Bytes
  addFault : Option GoError
  addNow : Nat
  uid : Nat
  added : answer env start (.act (.addUser (some fields) salt addFault addNow)) =
    some (({} : Response).write (.user (fields.get "name") uid))
  /-- From the account to its grant. -/
  mid : List Event
  form : Form
  grantFault : Option GoError
  grantNow : Nat
  cid : Bytes
  params : grantParams form = .ok ((uid : Int), cid)
  full : isFullId cid = true
  granted : (answer env
    (run (step env) start (.act (.addUser (some fields) salt addFault addNow) :: mid))
    (.act (.grant form grantFault grantNow))).map Response.code = some 200
  /-- From the grant to the first query of a login. -/
  upto : List Event
  /-- From the first query to the second. -/
  between : List Event
  userKept : Always (step env) (fun s => ∃ u ∈ s.db.users, u.id = uid)
    (step env start (.act (.addUser (some fields) salt addFault addNow)))
    (mid ++ .act (.grant form grantFault grantNow) :: (upto ++ between))
  grantKept : Always (step env)
    (fun s => ∃ r ∈ s.db.containers, r.val.userId = .integer uid ∧ r.val.cid = cid)
    (run (step env) start (.act (.addUser (some fields) salt addFault addNow) ::
      (mid ++ [.act (.grant form grantFault grantNow)])))
    (upto ++ between)

namespace Account

variable {env : Env}

def name (account : Account env) : Bytes := account.fields.get "name"

def password (account : Account env) : Bytes := account.fields.get "password"

def addedState (account : Account env) : State :=
  step env account.start
    (.act (.addUser (some account.fields) account.salt account.addFault account.addNow))

def firstState (account : Account env) : State :=
  run (step env) account.addedState
    (account.mid ++ .act (.grant account.form account.grantFault account.grantNow) ::
      account.upto)

def secondState (account : Account env) : State :=
  run (step env) account.firstState account.between

/-- The login under the documented name, with the password of the account. -/
def login (account : Account env) : Option GoError :=
  passwordCallback env {} account.firstState.db account.secondState.db
    (loginName account.name account.cid) account.password

private theorem newUser_eq_ok {fields : Fields} {salt : Except GoError Bytes}
    {name passwd : Bytes} (h : newUser env (some fields) salt = .ok (name, passwd)) :
    name = fields.get "name" ∧
      ∃ salt', passwd = env.bcrypt.generate salt' (fields.get "password") := by
  unfold newUser at h
  split at h
  · cases h
  · rename_i req hreq
    cases hreq
    split at h
    · cases h
    · split at h
      · cases h
      · rename_i salt'
        cases h
        exact ⟨rfl, salt', rfl⟩

theorem exists_row (account : Account env) :
    ∃ u ∈ account.addedState.db.users, u.id = account.uid ∧
      u.val.name = account.name ∧
        ∃ salt, u.val.password = env.bcrypt.generate salt account.password := by
  have hanswer := account.added
  simp only [answer] at hanswer
  split at hanswer
  swap
  · cases hanswer
  rename_i hup
  have hresponse := Option.some.inj hanswer
  obtain ⟨name, passwd, users, huser, hfault, hinsert, hwritten⟩ :=
    addUserChange_of_code (congrArg Response.code hresponse)
  obtain ⟨rfl, salt, rfl⟩ := newUser_eq_ok huser
  have huid : account.start.db.users.nextId = account.uid := by
    have heq := hwritten.symm.trans hresponse
    simp only [Response.write, Response.mk.injEq, List.nil_append, List.cons.injEq,
      Payload.user.injEq, true_and, and_true] at heq
    exact heq
  refine ⟨⟨account.start.db.users.nextId, ⟨_, _, account.addNow⟩⟩, ?_, huid, rfl, salt, rfl⟩
  rw [addedState, step_db, change, if_pos hup]
  simp only [actionChange, addUserChange, huser, hfault, Store.commit, hinsert,
    Option.getD_some]
  exact (Table.mem_insert hinsert).mpr (.inr rfl)

theorem exists_row_first (account : Account env) :
    ∃ u ∈ account.firstState.db.users, u.id = account.uid ∧
      u.val.name = account.name ∧
        ∃ salt, u.val.password = env.bcrypt.generate salt account.password := by
  obtain ⟨u, hu, hid, hrow⟩ := account.exists_row
  have hkept := account.userKept
  rw [← List.cons_append, ← List.append_assoc] at hkept
  have hupto := (always_append.mp hkept).1
  -- the id has been in use all the time, so its row is still the same
  obtain ⟨v, hv, hvid⟩ := hupto.last
  have hv0 : v ∈ account.addedState.db.users :=
    Table.mem_of_mem_run (users_grow env)
      (hupto.mono fun s ⟨q, hq, hqid⟩ => ⟨q, hq, hqid.ge⟩) hv hvid
  obtain rfl := Table.eq_of_id_eq hu hv0 (hid.trans hvid.symm)
  exact ⟨u, hv, hid, hrow⟩

theorem exists_grant_second (account : Account env) :
    ∃ r ∈ account.secondState.db.containers, r.val.userId = .integer account.uid ∧
      r.val.cid = account.cid := by
  have hlast := account.grantKept.last
  have hstate : account.secondState =
      run (step env) (run (step env) account.start
        (.act (.addUser (some account.fields) account.salt account.addFault
          account.addNow) :: (account.mid ++
            [.act (.grant account.form account.grantFault account.grantNow)])))
        (account.upto ++ account.between) := by
    simp [secondState, firstState, addedState]
  rw [hstate]
  exact hlast

end Account

/--
An account with a grant is let in under its documented login name exactly if there
is no dot in its name; exactly then the login name can be taken apart again.
-/
theorem login_iff_no_dot (env : Env) (account : Account env) :
    (account.login = none ↔ dot ∉ account.name) ∧
      ((getUsername (loginName account.name account.cid) = account.name ∧
        getContainerId (loginName account.name account.cid) = shortId account.cid) ↔
          dot ∉ account.name) := by
  refine ⟨?_, split_loginName_iff _ _⟩
  have hshort := shortId_length account.full
  constructor
  · intro haccept hdot
    obtain ⟨uid, hverify, -⟩ := passwordCallback_eq_none_iff.mp haccept
    have hlength := (verifyUser_eq_ok hverify).1
    have hlonger := getContainerId_length_gt hdot (shortId account.cid)
    rw [loginName] at hlength
    omega
  · intro hdot
    have huser : getUsername (loginName account.name account.cid) = account.name :=
      getUsername_append hdot _
    have hcontainer : getContainerId (loginName account.name account.cid) =
        shortId account.cid := getContainerId_append hdot _
    obtain ⟨u, hu, hid, hname, salt, hhash⟩ := account.exists_row_first
    obtain ⟨r, hr, hruid, hrcid⟩ := account.exists_grant_second
    refine passwordCallback_eq_none_iff.mpr ⟨u.id, ?_, ?_⟩
    · refine verifyUser_ok (by rw [hcontainer, hshort]) hu (hname.trans huser.symm) ?_
      rw [hhash]
      exact env.bcrypt.compare_generate _ _
    · refine checkContainer_ok hr (hid ▸ hruid) ?_
      rw [hcontainer, hrcid]
      exact like_shortId account.full

def plainAccount : Account markedEnv where
  start := run (step markedEnv) .initial [.started]
  fields := [(ascii "name", ascii "bob"), (ascii "password", ascii "secret")]
  salt := .ok []
  addFault := none
  addNow := 0
  uid := 1
  added := by decide
  mid := []
  form := [(ascii "user_id", ascii "1"), (ascii "container", webId)]
  grantFault := none
  grantNow := 0
  cid := webId
  params := by decide
  full := by decide
  granted := by decide
  upto := []
  between := []
  userKept := by decide
  grantKept := by decide

theorem plainAccount_login :
    (plainAccount.login = none ↔ dot ∉ plainAccount.name) ∧
      ((getUsername (loginName plainAccount.name plainAccount.cid) = plainAccount.name ∧
        getContainerId (loginName plainAccount.name plainAccount.cid) =
          shortId plainAccount.cid) ↔ dot ∉ plainAccount.name) :=
  login_iff_no_dot markedEnv plainAccount

def dottedAccount : Account markedEnv where
  start := run (step markedEnv) .initial [.started]
  fields := [(ascii "name", ascii "a.b"), (ascii "password", ascii "secret")]
  salt := .ok []
  addFault := none
  addNow := 0
  uid := 1
  added := by decide
  mid := []
  form := [(ascii "user_id", ascii "1"), (ascii "container", webId)]
  grantFault := none
  grantNow := 0
  cid := webId
  params := by decide
  full := by decide
  granted := by decide
  upto := []
  between := []
  userKept := by decide
  grantKept := by decide

theorem dottedAccount_refused :
    ¬ ∀ account : Account markedEnv, account.login = none := by
  intro hall
  exact absurd (hall dottedAccount) (by decide)

end DockerBastion.System
