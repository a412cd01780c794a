import DockerBastion.System.Change

/-!
# The administrator as a register

Seen from outside, the administrator is a name and a register that holds the
password.  The first start that completes writes the default password to it, and
after that only a successful `ChPasswd` writes.  The table of administrators
refines this register in every run.
-/

namespace DockerBastion.System

open Foundation Manager

/-! ## The register -/

inductive Observed where
  | started
  | passwordSet (password : Bytes)
  | nothing
  deriving DecidableEq, Repr

/-- The password, `none` before the first start. -/
abbrev Register := Option Bytes

def Register.step (register : Register) : Observed → Register
  | .started => some (register.getD defaultPassword)
  | .passwordSet password => register.map fun _ => password
  | .nothing => register

def adminId : Nat := 1

/-- What an event is to the register: a completed start, a successful `ChPasswd`. -/
def observe (env : Env) (s : State) (e : Event) : Observed :=
  match e with
  | .start faults now =>
      if s.up then .nothing
      else
        match Manager.start faults now s.db with
        | .ok _ => .started
        | .error _ => .nothing
  | .act (.chPasswd session authFault (some params) salt fault) =>
      if session = some (.int adminId) ∧
          ((answer env s (.act (.chPasswd session authFault (some params) salt
            fault))).map Response.code = some 204) then
        .passwordSet (params.get "password")
      else .nothing
  | _ => .nothing

def registerAfter (env : Env) (events : List Event) : Register :=
  run Register.step none (trace (step env) (observe env) .initial events)

def adminNames (s : State) : List (Nat × Bytes) :=
  s.db.admins.rows.map fun r => (r.id, r.val.name)

def LoginAccepted (env : Env) (s : State) (body : Option Fields) (fault : Option GoError) :
    Prop :=
  (answer env s (.act (.login body fault))).map Response.code = some 204

/-! ## The table refines the register -/

/-- The initial hash, or one that `GenerateFromPassword` has made. -/
def HashOf (env : Env) (password hash : Bytes) : Prop :=
  (hash = defaultHash ∧ password = defaultPassword) ∨
    ∃ salt, hash = env.bcrypt.generate salt password

def AdminIs (env : Env) (password : Bytes) (db : Store) : Prop :=
  ∃ hash createdAt, db.admins.rows = [⟨adminId, ⟨adminName, hash, createdAt⟩⟩] ∧
    5 ≤ password.length ∧ HashOf env password hash

def Refines (env : Env) (s : State) : Register → Prop
  | none => s.up = false ∧ s.db.admins.rows = []
  | some password => AdminIs env password s.db

variable {env : Env} {s : State}

theorem compare_hashOf (hbcrypt : env.bcrypt.Exact) {password hash : Bytes}
    (h : HashOf env password hash) (attempt : Bytes) :
    env.bcrypt.compare hash attempt = none ↔ attempt = password := by
  rcases h with ⟨rfl, rfl⟩ | ⟨salt, rfl⟩
  · constructor
    · exact hbcrypt.defaultHash attempt
    · rintro rfl
      exact env.bcrypt.compare_defaultHash
  · constructor
    · exact hbcrypt.generate salt password attempt
    · rintro rfl
      exact env.bcrypt.compare_generate salt attempt

def keepsAdmins : Option Change → Bool
  | some (.addAdmin _) | some (.setPassword _ _) => false
  | _ => true

private theorem admins_commit {c : Option Change} (h : keepsAdmins c = true) (db : Store) :
    (db.commit c).admins = db.admins := by
  cases c with
  | none => rfl
  | some c =>
      cases c with
      | addAdmin admin => cases h
      | setPassword password id => cases h
      | _ => rfl

private theorem refines_of_admins {s' : State} {register : Register}
    (hup : s'.up = s.up) (hadmins : s'.db.admins = s.db.admins)
    (h : Refines env s register) : Refines env s' register := by
  cases register with
  | none => exact ⟨hup ▸ h.1, hadmins ▸ h.2⟩
  | some password =>
      obtain ⟨hash, createdAt, hrows, hrest⟩ := h
      exact ⟨hash, createdAt, hadmins ▸ hrows, hrest⟩

private theorem adminIs_default {db : Store} (h : db.admins.rows = []) (now : Nat) :
    AdminIs env defaultPassword
      (db.commit (some (.addAdmin ⟨adminName, defaultHash, now⟩))) := by
  have hinsert : ∀ admin, ∃ admins, db.admins.insert admin = some admins ∧
      admins.rows = [⟨adminId, admin⟩] := by
    intro admin
    have hfree : ∀ r ∈ db.admins.rows, Admin.name r.val ≠ Admin.name admin := by
      simp [h]
    refine ⟨_, dif_pos hfree, ?_⟩
    simp [h, Table.nextId, Table.lastId, adminId]
  obtain ⟨admins, hsome, hrows⟩ := hinsert ⟨adminName, defaultHash, now⟩
  refine ⟨defaultHash, now, ?_, by decide, .inl ⟨rfl, rfl⟩⟩
  simp [Store.commit, hsome, hrows]

private theorem adminIs_set {db : Store} {old : Bytes} (h : AdminIs env old db)
    (salt : Bytes) {password : Bytes} (hlength : 5 ≤ password.length) :
    AdminIs env password
      (db.commit (some (.setPassword (env.bcrypt.generate salt password) adminId))) := by
  obtain ⟨hash, createdAt, hrows, -, -⟩ := h
  refine ⟨env.bcrypt.generate salt password, createdAt, ?_, hlength, .inr ⟨salt, rfl⟩⟩
  simp [Store.commit, Table.update, hrows, Store.updateAdmin]

private theorem session_of_authMidware {session : Session} {authFault : Bool}
    {password : Bytes} (hadmin : AdminIs env password s.db)
    (h : authMidware (ascii "POST") (ascii "/api/passwd") session authFault s.db = none) :
    session = some (.int adminId) := by
  have hsession : sessionAdmin session authFault s.db = true := by
    by_contra hnot
    have hbegins : apiPrefix.isPrefixOf (ascii "/api/passwd") = true := by decide
    have hrequired : authRequired (ascii "POST") (ascii "/api/passwd") = true := by
      decide
    simp [authMidware, hbegins, hrequired, hnot] at h
  obtain ⟨-, uid, rfl, r, hr, rfl⟩ := sessionAdmin_iff.mp hsession
  obtain ⟨hash, createdAt, hrows, -⟩ := hadmin
  rw [← Table.mem_rows, hrows, List.mem_singleton] at hr
  rw [hr]

private theorem refines_start {faults : StartFaults} {now : Nat} {register : Register}
    (h : Refines env s register) :
    Refines env (step env s (.start faults now))
      (register.step (observe env s (.start faults now))) := by
  simp only [step, observe]
  cases hup : s.up with
  | true =>
      cases register with
      | none => exact absurd h.1 (by simp [hup])
      | some password => exact h
  | false =>
      cases hstart : Manager.start faults now s.db with
      | error err => simpa [Register.step, hup] using h
      | ok db =>
          have hdb : db = s.db.commit (startChange faults now s.db) := start_db hstart
          simp only [startChange, hstart] at hdb
          cases register with
          | none =>
              obtain ⟨-, hrows⟩ := h
              simp only [hrows, List.length_nil, if_true] at hdb
              rw [hdb]
              exact adminIs_default hrows now
          | some password =>
              have hadmin := h
              obtain ⟨hash, createdAt, hrows, -⟩ := h
              have hsome : s.db.admins.rows.length ≠ 0 := by simp [hrows]
              simp only [hsome, if_false, Store.commit] at hdb
              rw [hdb]
              exact hadmin

private theorem code_of_authMidware {method path : Bytes} {session : Session}
    {authFault : Bool} {db : Store} {status : Nat}
    (h : authMidware method path session authFault db = some status) : status = 403 := by
  unfold authMidware at h
  split at h
  · cases h
  · split at h
    · cases h
    · split at h
      · cases h
      · exact (Option.some.inj h).symm

private theorem refines_chPasswd {session : Session} {authFault : Bool}
    {body : Option Fields} {salt : Except GoError Bytes} {fault : Option GoError}
    {password : Bytes} (hup : s.up = true) (h : AdminIs env password s.db) :
    Refines env (step env s (.act (.chPasswd session authFault body salt fault)))
      (Register.step (some password)
        (observe env s (.act (.chPasswd session authFault body salt fault)))) := by
  have hdb : (step env s (.act (.chPasswd session authFault body salt fault))).db =
      s.db.commit (change env s (.act (.chPasswd session authFault body salt fault))) :=
    step_db _
  simp only [change, hup, if_true, actionChange] at hdb
  cases hauth : authMidware (ascii "POST") (ascii "/api/passwd") session authFault s.db with
  | some status =>
      have hobserve : observe env s
          (.act (.chPasswd session authFault body salt fault)) = .nothing := by
        cases body with
        | none => rfl
        | some params =>
            simp [observe, answer, hup, respond, hauth, code_of_authMidware hauth]
      simp only [hauth, Store.commit] at hdb
      rw [hobserve]
      simp only [Register.step, Refines, hdb]
      exact h
  | none =>
      obtain rfl := session_of_authMidware h hauth
      simp only [hauth] at hdb
      rcases chPasswd_cases env adminId body salt fault s.db with
        ⟨params, salt', rfl, hlength, hchange, hcode⟩ | ⟨hchange, hcode⟩
      · have hobserve : observe env s
            (.act (.chPasswd (some (.int adminId)) authFault (some params) salt fault)) =
              .passwordSet (params.get "password") := by
          simp only [observe, answer, hup, if_true, respond, hauth, Option.map_map]
          exact if_pos ⟨trivial, hcode⟩
        rw [hchange] at hdb
        rw [hobserve]
        simp only [Register.step, Option.map_some, Refines, hdb]
        exact adminIs_set h salt' hlength
      · have hobserve : observe env s
            (.act (.chPasswd (some (.int adminId)) authFault body salt fault)) =
              .nothing := by
          cases body with
          | none => rfl
          | some params =>
              simp only [observe, answer, hup, if_true, respond, hauth, Option.map_map]
              exact if_neg fun hset => hcode hset.2
        rw [hchange] at hdb
        rw [hobserve]
        simp only [Register.step, Refines, hdb]
        exact h

theorem keepsAdmins_action {a : Action}
    (ha : ∀ session authFault body salt fault,
      a ≠ .chPasswd session authFault body salt fault) :
    keepsAdmins (actionChange env s a) = true ∧ observe env s (.act a) = .nothing := by
  cases a with
  | chPasswd session authFault body salt fault => exact absurd rfl (ha _ _ _ _ _)
  | addUser body salt fault now =>
      simp only [actionChange, addUserChange]
      split <;> exact ⟨rfl, rfl⟩
  | deleteUser id faults =>
      simp only [actionChange, deleteUserChange]
      split <;> exact ⟨rfl, rfl⟩
  | grant form fault now =>
      simp only [actionChange, grantChange]
      split <;> exact ⟨rfl, rfl⟩
  | revoke id fault =>
      simp only [actionChange, revokeChange]
      split <;> exact ⟨rfl, rfl⟩
  | insertCreated i fault now =>
      simp only [actionChange]
      cases s.creating[i]? with
      | none => exact ⟨rfl, rfl⟩
      | some request => cases fault <;> exact ⟨rfl, rfl⟩
  | deleteRemoved i fault =>
      simp only [actionChange]
      cases s.removing[i]? with
      | none => exact ⟨rfl, rfl⟩
      | some id => cases fault <;> exact ⟨rfl, rfl⟩
  | deleteStale fault =>
      simp only [actionChange]
      cases s.listing with
      | none => exact ⟨rfl, rfl⟩
      | some ids => cases fault <;> exact ⟨rfl, rfl⟩
  | _ => exact ⟨rfl, rfl⟩

private theorem step_of_down {a : Action} (hup : s.up = false) :
    step env s (.act a) = s ∧ observe env s (.act a) = .nothing := by
  refine ⟨by simp [step, hup], ?_⟩
  cases a with
  | chPasswd session authFault body salt fault =>
      cases body with
      | none => rfl
      | some params => simp [observe, answer, hup]
  | _ => rfl

private theorem refines_act {a : Action} {register : Register}
    (h : Refines env s register) :
    Refines env (step env s (.act a)) (register.step (observe env s (.act a))) := by
  cases hup : s.up with
  | false =>
      have hsame : step env s (.act a) = s ∧ observe env s (.act a) = .nothing :=
        step_of_down hup
      rw [hsame.1, hsame.2]
      exact h
  | true =>
      cases register with
      | none => exact absurd h.1 (by simp [hup])
      | some password =>
          by_cases ha : ∃ session authFault body salt fault,
              a = .chPasswd session authFault body salt fault
          · obtain ⟨session, authFault, body, salt, fault, rfl⟩ := ha
            exact refines_chPasswd hup h
          · push Not at ha
            obtain ⟨hkeeps, hobserve⟩ : keepsAdmins (actionChange env s a) = true ∧
              observe env s (.act a) = .nothing := keepsAdmins_action ha
            obtain ⟨hash, createdAt, hrows, hrest⟩ := h
            refine hobserve ▸ ⟨hash, createdAt, ?_, hrest⟩
            rw [step_db, change, if_pos hup, admins_commit hkeeps, hrows]

theorem refines_step {register : Register} {e : Event} (h : Refines env s register) :
    Refines env (step env s e) (register.step (observe env s e)) := by
  cases e with
  | act a => exact refines_act h
  | start faults now => exact refines_start h
  | stop =>
      cases register with
      | none => exact ⟨rfl, h.2⟩
      | some password => exact h
  | dockerCreate id name =>
      simp only [step]
      split <;> exact refines_of_admins rfl rfl h
  | dockerRename id name =>
      simp only [step]
      split <;> exact refines_of_admins rfl rfl h
  | dockerRemove id => exact refines_of_admins rfl rfl h

theorem refines_registerAfter (env : Env) (events : List Event) :
    Refines env (run (step env) .initial events) (registerAfter env events) :=
  refines_run (fun _ _ _ => refines_step) ⟨rfl, rfl⟩ events

/-! ## Logging in as an administrator -/

theorem isSome_register_iff {register : Register} {seen : List Observed} :
    (run Register.step register seen).isSome ↔ register.isSome ∨ .started ∈ seen := by
  induction seen generalizing register with
  | nil => simp
  | cons o seen ih =>
      rw [run_cons, ih]
      cases o <;> simp [Register.step]

private theorem loginAccepted_iff (hbcrypt : env.bcrypt.Exact) {body : Option Fields}
    {fault : Option GoError} {password : Bytes} (hadmin : AdminIs env password s.db) :
    LoginAccepted env s body fault ↔
      s.up = true ∧ fault = none ∧ ∃ fields, body = some fields ∧
        fields.get "name" = adminName ∧ password = fields.get "password" := by
  obtain ⟨hash, createdAt, hrows, hlength, hhash⟩ := hadmin
  have hcompare := compare_hashOf hbcrypt hhash
  have hmem : ∀ admin, admin ∈ s.db.admins ↔
      admin = ⟨adminId, ⟨adminName, hash, createdAt⟩⟩ := by
    intro admin
    rw [← Table.mem_rows, hrows, List.mem_singleton]
  unfold LoginAccepted answer
  cases hup : s.up with
  | false => simp
  | true =>
      simp only [if_true, respond, Option.map_some, Option.some.injEq, login_code_iff,
        hmem, exists_eq_left, hcompare, loginParams_eq_ok, true_and]
      constructor
      · rintro ⟨rfl, name, attempt, ⟨fields, rfl, rfl, rfl, -, -⟩, hname, hpassword⟩
        exact ⟨rfl, fields, rfl, hname.symm, hpassword.symm⟩
      · rintro ⟨rfl, fields, rfl, hname, rfl⟩
        refine ⟨rfl, _, _, ⟨fields, rfl, rfl, rfl, ?_, by omega⟩, hname.symm, rfl⟩
        rw [hname]
        decide

/-- `Login` accepts the administrator's name with the password in the register. -/
def LoginReads (env : Env) (events : List Event) : Prop :=
  ∀ fields fault, (run (step env) .initial events).up = true →
    (LoginAccepted env (run (step env) .initial events) (some fields) fault ↔
      fields.get "name" = adminName ∧
        registerAfter env events = some (fields.get "password"))

/--
After a completed start there is one administrator, always the same, and a `Login`
whose query succeeds accepts exactly the password in the register, as far as bcrypt
tells passwords apart.
-/
theorem login_iff_register (env : Env) (events : List Event) :
    (.started ∈ trace (step env) (observe env) .initial events →
      adminNames (run (step env) .initial events) = [(adminId, adminName)]) ∧
    (env.bcrypt.Exact →
      ∀ body fault, LoginAccepted env (run (step env) .initial events) body fault ↔
        (run (step env) .initial events).up = true ∧ fault = none ∧
          ∃ fields, body = some fields ∧ fields.get "name" = adminName ∧
            registerAfter env events = some (fields.get "password")) := by
  have hrefines := refines_registerAfter env events
  constructor
  · intro hstarted
    have hsome : (registerAfter env events).isSome :=
      isSome_register_iff.mpr (.inr hstarted)
    obtain ⟨password, hpassword⟩ := Option.isSome_iff_exists.mp hsome
    rw [hpassword] at hrefines
    obtain ⟨hash, createdAt, hrows, -⟩ := hrefines
    simp [adminNames, hrows]
  · intro hbcrypt body fault
    cases hregister : registerAfter env events with
    | none =>
        rw [hregister] at hrefines
        simp [LoginAccepted, answer, hrefines.1]
    | some password =>
        rw [hregister] at hrefines
        simpa using loginAccepted_iff hbcrypt hrefines

def passwordChanged : Event :=
  .act (.chPasswd (some (.int 1)) false (some [(ascii "password", ascii "changed")])
    (.ok []) none)

theorem login_iff_register_changed :
    markedEnv.bcrypt.Exact ∧
      ¬ LoginAccepted markedEnv
        (run (step markedEnv) .initial [.started, passwordChanged, .stop, .started])
        (some [(ascii "name", adminName), (ascii "password", defaultPassword)]) none :=
  ⟨markedBcrypt_exact, fun h => by
    obtain ⟨-, -, fields, hfields, -, hregister⟩ := ((login_iff_register markedEnv
      [.started, passwordChanged, .stop, .started]).2 markedBcrypt_exact _ _).mp h
    obtain rfl := Option.some.inj hfields
    revert hregister
    decide⟩

theorem login_refused_on_failure : ¬ LoginReads markedEnv [.started] := by
  intro hreads
  have hiff := hreads [(ascii "name", adminName), (ascii "password", defaultPassword)]
    (some (.other (ascii "database is locked"))) (by decide)
  have haccepted := hiff.mpr (by decide)
  revert haccepted
  unfold LoginAccepted
  decide

end DockerBastion.System
