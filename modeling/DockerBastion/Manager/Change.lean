import DockerBastion.Manager.Api
import DockerBastion.Manager.Server

/-!
# What the handlers do to the tables

Every handler changes the tables in at most one way: a user comes or goes with
his grants, grants come or go, an administrator comes or gets a new password.
Each handler is related here to its change, so that results about the tables
follow from six cases instead of from the bodies of the handlers.
-/

namespace DockerBastion

open Foundation

inductive Change where
  | addUser (user : User)
  | dropUser (id : Int)
  | addContainer (container : Container)
  | dropContainers (p : Row Container → Bool)
  | addAdmin (admin : Admin)
  | setPassword (password : Bytes) (id : Int)

/-- An addition whose key is taken changes nothing. -/
def Store.commit (db : Store) : Option Change → Store
  | none => db
  | some (.addUser user) => { db with users := (db.users.insert user).getD db.users }
  | some (.dropUser id) =>
      { db with
        users := db.users.deleteWhere fun r => (r.id : Int) = id
        containers := db.containers.deleteWhere fun r => r.val.userId = .integer id }
  | some (.addContainer container) =>
      { db with containers := (db.containers.insert container).getD db.containers }
  | some (.dropContainers p) => { db with containers := db.containers.deleteWhere p }
  | some (.addAdmin admin) =>
      { db with admins := (db.admins.insert admin).getD db.admins }
  | some (.setPassword password id) =>
      { db with
        admins := db.admins.update (Store.updateAdmin password id)
          (Store.updateAdmin_name password id) }

namespace Manager

/-! ## The change of each handler -/

def addUserChange (env : Env) (body : Option Fields) (salt : Except GoError Bytes)
    (fault : Option GoError) (now : Nat) : Option Change :=
  match newUser env body salt, fault with
  | .ok (name, passwd), none => some (.addUser ⟨name, passwd, now⟩)
  | _, _ => none

def deleteUserChange (id : Bytes) (faults : TxFaults) : Option Change :=
  match atoi id, faults.begin, faults.first, faults.second, faults.commit with
  | .ok uid, none, none, none, none => some (.dropUser uid)
  | _, _, _, _, _ => none

def grantChange (form : Form) (fault : Option GoError) (now : Nat) : Option Change :=
  match grantParams form, fault with
  | .ok (uid, container), none => some (.addContainer ⟨container, .integer uid, now⟩)
  | _, _ => none

def revokeChange (id : Bytes) (fault : Option GoError) : Option Change :=
  match atoi id, fault with
  | .ok privId, none => some (.dropContainers fun r => (r.id : Int) = privId)
  | _, _ => none

def insertCreatedChange (env : Env) (cid userId : Bytes) (fault : Option GoError)
    (now : Nat) : Option Change :=
  match fault with
  | none => some (.addContainer ⟨cid, env.integerAffinity userId, now⟩)
  | some _ => none

def deleteRemovedChange (id : Bytes) (fault : Option GoError) : Option Change :=
  match fault with
  | none => some (.dropContainers fun r => r.val.cid = id)
  | some _ => none

def refreshChange (ids : List Bytes) (fault : Option GoError) : Option Change :=
  match fault with
  | none => some (.dropContainers fun r => r.val.cid ∉ ids)
  | some _ => none

def chPasswdChange (env : Env) (session : Session) (body : Option Fields)
    (salt : Except GoError Bytes) (fault : Option GoError) : Option Change :=
  match newPassword env body salt, session, fault with
  | .ok passwd, some (.int uid), none => some (.setPassword passwd uid)
  | _, _, _ => none

def startChange (faults : StartFaults) (now : Nat) (db : Store) : Option Change :=
  match start faults now db with
  | .error _ => none
  | .ok _ =>
      if db.admins.rows.length = 0 then some (.addAdmin ⟨adminName, defaultHash, now⟩)
      else none

/-! ## The tables after each handler -/

theorem addUser_db (env : Env) (body : Option Fields) (salt : Except GoError Bytes)
    (fault : Option GoError) (now : Nat) (db : Store) :
    (addUser env body salt fault now db).2 =
      db.commit (addUserChange env body salt fault now) := by
  unfold addUser addUserChange
  cases newUser env body salt with
  | error w => rfl
  | ok user =>
      obtain ⟨name, passwd⟩ := user
      cases fault with
      | some err => rfl
      | none =>
          simp only [Store.exec_none, Store.apply, Store.commit]
          cases db.users.insert ⟨name, passwd, now⟩ <;> rfl

theorem deleteUser_db (id : Bytes) (faults : TxFaults) (db : Store) :
    (deleteUser id faults db).2 = db.commit (deleteUserChange id faults) := by
  obtain ⟨begin, first, second, commit⟩ := faults
  unfold deleteUser deleteUserChange
  cases atoi id with
  | error err => rfl
  | ok uid => cases begin <;> cases first <;> cases second <;> cases commit <;> rfl

private theorem insertContainer_db (cid : Bytes) (userId : Cell) (now : Nat) (db : Store)
    (failed : GoError → Response) (done : Nat → Response) :
    (match db.apply (.insertContainer cid userId now) with
      | .error err => (failed err, db)
      | .ok (db', id) => (done id, db')).2 =
      db.commit (some (.addContainer ⟨cid, userId, now⟩)) := by
  simp only [Store.apply, Store.commit]
  cases db.containers.insert ⟨cid, userId, now⟩ <;> rfl

theorem grant_db (form : Form) (fault : Option GoError) (now : Nat) (db : Store) :
    (grant form fault now db).2 = db.commit (grantChange form fault now) := by
  unfold grant grantChange
  cases grantParams form with
  | error w => rfl
  | ok params =>
      cases fault with
      | some err => rfl
      | none => exact insertContainer_db _ _ now db _ _

theorem revoke_db (id : Bytes) (fault : Option GoError) (db : Store) :
    (revoke id fault db).2 = db.commit (revokeChange id fault) := by
  unfold revoke revokeChange
  cases atoi id with
  | error err => rfl
  | ok privId => cases fault <;> rfl

theorem insertCreated_db (env : Env) (cid userId : Bytes) (fault : Option GoError)
    (now : Nat) (db : Store) :
    (insertCreated env cid userId fault now db).2 =
      db.commit (insertCreatedChange env cid userId fault now) := by
  unfold insertCreated insertCreatedChange
  cases fault with
  | some err => rfl
  | none => exact insertContainer_db _ _ now db _ _

theorem deleteRemoved_db (id : Bytes) (fault : Option GoError) (db : Store) :
    (deleteRemoved id fault db).2 = db.commit (deleteRemovedChange id fault) := by
  cases fault <;> rfl

/-- The branch for the empty list deletes what the other statement would delete. -/
theorem refreshContainers_db (ids : List Bytes) (fault : Option GoError) (db : Store) :
    refreshContainers ids fault db = db.commit (refreshChange ids fault) := by
  cases fault with
  | some err => rfl
  | none =>
      cases ids with
      | nil => rfl
      | cons id ids => rfl

/-- Only an administrator's session gets here, so the conversion does not panic. -/
theorem chPasswd_db (env : Env) (session : Session) (body : Option Fields)
    (salt : Except GoError Bytes) (fault : Option GoError) (db : Store) :
    ((chPasswd env session body salt fault db).map Prod.snd).getD db =
      db.commit (chPasswdChange env session body salt fault) := by
  unfold chPasswd chPasswdChange
  cases newPassword env body salt with
  | error w => rfl
  | ok passwd =>
      match session with
      | none => rfl
      | some .other => rfl
      | some (.int uid) => cases fault <;> rfl

/--
With a session that holds an id, `ChPasswd` sets the password and answers 204, or
it changes nothing and answers otherwise.
-/
theorem chPasswd_cases (env : Env) (uid : Int) (body : Option Fields)
    (salt : Except GoError Bytes) (fault : Option GoError) (db : Store) :
    (∃ params salt', body = some params ∧ 5 ≤ (params.get "password").length ∧
      chPasswdChange env (some (.int uid)) body salt fault =
        some (.setPassword (env.bcrypt.generate salt' (params.get "password")) uid) ∧
      (chPasswd env (some (.int uid)) body salt fault db).map (fun r => r.1.code) =
        some 204) ∨
    (chPasswdChange env (some (.int uid)) body salt fault = none ∧
      (chPasswd env (some (.int uid)) body salt fault db).map (fun r => r.1.code) ≠
        some 204) := by
  have hfailed : ∀ err, errorStatus err ≠ 204 := errorStatus_ne (by decide)
  unfold chPasswd chPasswdChange newPassword
  cases body with
  | none => exact .inr ⟨rfl, by simp⟩
  | some params =>
      by_cases hlength : (params.get "password").length < 5
      · simp [hlength]
      cases salt with
      | error err => simp [hlength, hfailed]
      | ok salt =>
          cases fault with
          | some err => simp [hlength, hfailed]
          | none =>
              refine .inl ⟨params, salt, rfl, by omega, ?_⟩
              simp [hlength, Store.apply]

private theorem insert_admin_of_empty {db : Store} (h : db.admins.rows.length = 0)
    (admin : Admin) : ∃ admins, db.admins.insert admin = some admins := by
  cases hinsert : db.admins.insert admin with
  | some admins => exact ⟨admins, rfl⟩
  | none =>
      obtain ⟨r, hr, -⟩ := Table.insert_eq_none_iff.mp hinsert
      rw [← Table.mem_rows, List.length_eq_zero_iff.mp h] at hr
      cases hr

theorem start_db {faults : StartFaults} {now : Nat} {db db' : Store}
    (h : start faults now db = .ok db') :
    db' = db.commit (startChange faults now db) := by
  unfold startChange
  rw [h]
  unfold start at h
  split at h <;> try cases h
  unfold addDefaultUser at h
  split at h
  · cases h
  split at h
  · rename_i hempty
    obtain ⟨admins, hinsert⟩ := insert_admin_of_empty hempty
      ⟨adminName, defaultHash, now⟩
    cases hfault : faults.insert with
    | some err => simp [hfault] at h
    | none =>
        simp only [hfault, Store.exec_none, Store.apply, hinsert, Except.ok.injEq] at h
        simp only [hempty, if_true, Store.commit, hinsert, Option.getD_some]
        exact h.symm
  · rename_i hempty
    cases h
    simp [hempty, Store.commit]

/-! ## Requests that succeeded -/

theorem loginParams_eq_ok {body : Option Fields} {name password : Bytes} :
    loginParams body = .ok (name, password) ↔
      ∃ fields, body = some fields ∧ fields.get "name" = name ∧
        fields.get "password" = password ∧ 3 ≤ name.length ∧ 3 ≤ password.length := by
  unfold loginParams
  cases body with
  | none => simp
  | some fields =>
      simp only [Option.some.injEq, exists_eq_left']
      split
      · rename_i hshort
        simp only [reduceCtorEq, false_iff]
        rintro ⟨rfl, rfl, hname, hpassword⟩
        omega
      · rename_i hlong
        simp only [Except.ok.injEq, Prod.mk.injEq]
        constructor
        · rintro ⟨rfl, rfl⟩
          exact ⟨rfl, rfl, by omega, by omega⟩
        · rintro ⟨rfl, rfl, -, -⟩
          exact ⟨rfl, rfl⟩

theorem login_code_iff {env : Env} {body : Option Fields} {fault : Option GoError}
    {db : Store} :
    (login env body fault db).1.code = 204 ↔
      fault = none ∧ ∃ name password, loginParams body = .ok (name, password) ∧
        ∃ admin ∈ db.admins, admin.val.name = name ∧
          env.bcrypt.compare admin.val.password password = none := by
  have hfailed : ∀ err, errorStatus err ≠ 204 := errorStatus_ne (by decide)
  unfold login
  cases hparams : loginParams body with
  | error w =>
      have hcode : w.code = 400 := by
        unfold loginParams at hparams
        split at hparams
        · cases hparams
          rfl
        · split at hparams <;> cases hparams
          rfl
      simp [hcode]
  | ok params =>
      obtain ⟨name, password⟩ := params
      cases fault with
      | some err => simp [hfailed]
      | none =>
          cases hfind : db.adminByName name with
          | none =>
              have hnone : ¬ ∃ admin ∈ db.admins, admin.val.name = name := by
                rintro ⟨admin, hadmin, hname⟩
                rw [Store.adminByName_eq_some_iff.mpr ⟨hadmin, hname⟩] at hfind
                cases hfind
              simp only [hfind, code_showError, hfailed, false_iff, true_and,
                Except.ok.injEq, Prod.mk.injEq]
              rintro ⟨_, _, ⟨rfl, rfl⟩, admin, hadmin, hname, -⟩
              exact hnone ⟨admin, hadmin, hname⟩
          | some admin =>
              obtain ⟨hadmin, hname⟩ := Store.adminByName_eq_some_iff.mp hfind
              simp only [hfind, true_and, Except.ok.injEq, Prod.mk.injEq]
              constructor
              · intro h
                cases hcompare : env.bcrypt.compare admin.val.password password with
                | none => exact ⟨name, password, ⟨rfl, rfl⟩, admin, hadmin, hname, hcompare⟩
                | some err =>
                    simp only [hcompare, code_showError] at h
                    exact absurd h (hfailed err)
              · rintro ⟨_, _, ⟨rfl, rfl⟩, admin', hadmin', hname', hcompare⟩
                obtain rfl := Table.eq_of_key_eq hadmin' hadmin (hname'.trans hname.symm)
                simp [hcompare]

theorem addUserChange_of_code {env : Env} {body : Option Fields}
    {salt : Except GoError Bytes} {fault : Option GoError} {now : Nat} {db : Store}
    (h : (addUser env body salt fault now db).1.code = 200) :
    ∃ name passwd users, newUser env body salt = .ok (name, passwd) ∧ fault = none ∧
      db.users.insert ⟨name, passwd, now⟩ = some users ∧
      (addUser env body salt fault now db).1 =
        ({} : Response).write (.user name db.users.nextId) := by
  unfold addUser at h ⊢
  cases huser : newUser env body salt with
  | error w =>
      simp only [huser] at h
      unfold newUser at huser
      split at huser
      · cases huser
        cases h
      · split at huser
        · cases huser
          cases h
        · split at huser <;> cases huser
          cases h
  | ok user =>
      obtain ⟨name, passwd⟩ := user
      simp only [huser] at h ⊢
      cases fault with
      | some err =>
          simp only [Store.exec_some, code_showError] at h
          exact absurd h (errorStatus_ne (by decide) err)
      | none =>
          simp only [Store.exec_none, Store.apply] at h ⊢
          cases hinsert : db.users.insert ⟨name, passwd, now⟩ with
          | none =>
              simp only [hinsert, code_showError] at h
              exact absurd h (errorStatus_ne (by decide) _)
          | some users => exact ⟨name, passwd, users, rfl, trivial, hinsert, rfl⟩

theorem revokeChange_of_code {id : Bytes} {fault : Option GoError} {db : Store}
    (h : (revoke id fault db).1.code = 204) :
    ∃ privId, atoi id = .ok privId ∧
      revokeChange id fault = some (.dropContainers fun r => (r.id : Int) = privId) := by
  unfold revoke at h
  cases hid : atoi id with
  | error err =>
      simp only [hid, code_showError] at h
      cases h
  | ok privId =>
      simp only [hid] at h
      cases fault with
      | some err =>
          simp only [Store.exec_some, code_showError] at h
          exact absurd h (errorStatus_ne (by decide) err)
      | none => exact ⟨privId, rfl, by simp [revokeChange, hid]⟩

/-- A failing transaction also calls `WriteHeader(204)`, but too late. -/
theorem deleteUserChange_of_code {id : Bytes} {faults : TxFaults} {db : Store}
    (h : (deleteUser id faults db).1.code = 204) :
    ∃ uid, atoi id = .ok uid ∧ deleteUserChange id faults = some (.dropUser uid) := by
  unfold deleteUser at h
  cases hid : atoi id with
  | error err =>
      simp only [hid, code_showError] at h
      cases h
  | ok uid =>
      refine ⟨uid, rfl, ?_⟩
      have hlate : ∀ err, ((showError err {}).writeHeader 204).code ≠ 204 := by
        intro err
        rw [Response.code_writeHeader_of_written rfl, code_showError]
        exact errorStatus_ne (by decide) err
      obtain ⟨begin, first, second, commit⟩ := faults
      simp only [hid] at h
      cases begin with
      | some err =>
          simp only [code_showError] at h
          exact absurd h (errorStatus_ne (by decide) err)
      | none =>
          cases first with
          | some err => exact absurd h (hlate err)
          | none =>
              cases second with
              | some err => exact absurd h (hlate err)
              | none =>
                  cases commit with
                  | some err => exact absurd h (hlate err)
                  | none => simp [deleteUserChange, hid]

end Manager

end DockerBastion
