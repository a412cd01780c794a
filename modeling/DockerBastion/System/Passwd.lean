import DockerBastion.Manager.Passwd
import DockerBastion.System.Admins

/-!
# Who changes the administrators

The event `chPasswd` is a request that `ChPasswd` serves.  Over a whole run the row of
an administrator changes only through a request whose session holds the id of that row.
-/

namespace DockerBastion.System

open Foundation Manager

variable {env : Env} {s : State}

/-! ## The event is the request -/

theorem serve_passwd (session : Session) (authFault : Bool) (db : Store) :
    serve (ascii "POST") (ascii "/api/passwd") session authFault db =
      match authMidware (ascii "POST") (ascii "/api/passwd") session authFault db with
      | some _ => none
      | none => some (.chPasswd, []) := by
  have hdispatch : dispatch routes (ascii "POST") (ascii "/api/passwd") =
    some (.chPasswd, []) := by decide
  unfold serve
  cases authMidware (ascii "POST") (ascii "/api/passwd") session authFault db with
  | some status => rfl
  | none => exact hdispatch

theorem changePassword_eq (session : Session) (authFault : Bool) (body : Option Fields)
    (salt : Except GoError Bytes) (fault : Option GoError) :
    changePassword env s session authFault body salt fault =
      match servePasswd env (ascii "POST") (ascii "/api/passwd") session authFault s.db
        body salt fault s.db with
      | .answered _ db => { s with db := db }
      | _ => s := by
  simp only [changePassword, servePasswd, serve_passwd]
  cases authMidware (ascii "POST") (ascii "/api/passwd") session authFault s.db with
  | some status => rfl
  | none => cases chPasswd env session body salt fault s.db <;> rfl

/-! ## The rows along a run -/

private theorem mem_admins_commit {c : Option Change} {r : Row Admin} {db : Store}
    (hr : r ∈ db.admins) (h : r ∉ (db.commit c).admins) :
    ∃ password, c = some (.setPassword password r.id) := by
  cases c with
  | none => exact absurd hr h
  | some c =>
      cases c with
      | addAdmin admin => exact absurd (Table.mem_getD_insert_of_mem hr) h
      | setPassword password id =>
          have hid : (r.id : Int) = id := by
            by_contra hne
            refine h (List.mem_map.mpr ⟨r, hr, ?_⟩)
            simp [Store.updateAdmin, hne]
          exact ⟨password, by rw [hid]⟩
      | _ => exact absurd hr h

private theorem session_of_setPassword {e : Event} {password : Bytes} {id : Int}
    (h : change env s e = some (.setPassword password id)) :
    ∃ authFault body salt fault,
      e = .act (.chPasswd (some (.int id)) authFault body salt fault) := by
  cases e with
  | act a =>
      simp only [change] at h
      split at h
      · by_cases ha : ∃ session authFault body salt fault,
            a = .chPasswd session authFault body salt fault
        · obtain ⟨session, authFault, body, salt, fault, rfl⟩ := ha
          simp only [actionChange, chPasswdChange] at h
          split at h
          · cases h
          · split at h
            · cases h
              exact ⟨authFault, body, salt, none, rfl⟩
            · cases h
        · push Not at ha
          have hkeeps : keepsAdmins (actionChange env s a) = true :=
            (keepsAdmins_action ha).1
          rw [h] at hkeeps
          cases hkeeps
      · cases h
  | start faults now =>
      simp only [change, startChange] at h
      split at h
      · cases h
      · split at h
        · cases h
        · split at h <;> cases h
  | _ => cases h

theorem session_of_admin_changed {e : Event} {r : Row Admin} (hr : r ∈ s.db.admins)
    (h : r ∉ (step env s e).db.admins) :
    ∃ authFault body salt fault,
      e = .act (.chPasswd (some (.int r.id)) authFault body salt fault) := by
  rw [step_db] at h
  obtain ⟨password, hchange⟩ := mem_admins_commit hr h
  exact session_of_setPassword hchange

/-- A change of the tables is answered with 204. -/
theorem code_of_servePasswd {method path : Bytes} {session : Session} {authFault : Bool}
    {body : Option Fields} {salt : Except GoError Bytes} {fault : Option GoError}
    {checked db db' : Store} {w : Response}
    (h : servePasswd env method path session authFault checked body salt fault db =
      .answered w db') : db' = db ∨ w.code = 204 := by
  unfold servePasswd at h
  split at h
  · split at h
    · cases h
    · rename_i hresult
      cases h
      unfold chPasswd at hresult
      split at hresult
      · cases hresult
        exact .inl rfl
      split at hresult
      · split at hresult
        · cases hresult
          exact .inl rfl
        · cases hresult
          exact .inr rfl
      · cases hresult
  · cases h

theorem served_of_admin_changed {r : Row Admin} {session : Session} {authFault : Bool}
    {body : Option Fields} {salt : Except GoError Bytes} {fault : Option GoError}
    (hr : r ∈ s.db.admins)
    (h : r ∉ (step env s (.act (.chPasswd session authFault body salt fault))).db.admins) :
    ∃ w db, servePasswd env (ascii "POST") (ascii "/api/passwd") session authFault s.db body salt
        fault s.db = .answered w db ∧ w.code = 204 ∧ r ∉ db.admins := by
  simp only [step] at h
  split at h
  · simp only [perform, changePassword_eq] at h
    split at h
    · rename_i w db hserve
      refine ⟨w, db, hserve, ?_, h⟩
      rcases code_of_servePasswd hserve with rfl | hcode
      · exact absurd hr h
      · exact hcode
    · exact absurd hr h
  · exact absurd hr h

/--
A row that a run has changed was changed by a request of its own administrator, which
the middleware let through and which was answered with 204.
-/
theorem admin_changed_by_own_session {r : Row Admin} (hr : r ∈ s.db.admins)
    {events : List Event} (h : r ∉ (run (step env) s events).db.admins) :
    ∃ before authFault body salt fault after w db,
      events = before ++
        .act (.chPasswd (some (.int r.id)) authFault body salt fault) :: after ∧
      servePasswd env (ascii "POST") (ascii "/api/passwd") (some (.int r.id)) authFault
        (run (step env) s before).db body salt fault (run (step env) s before).db =
          .answered w db ∧
      w.code = 204 ∧ r ∉ db.admins := by
  obtain ⟨before, e, after, rfl, hbefore, hafter⟩ :=
    exists_last_change (P := fun s : State => r ∉ s.db.admins) (not_not.mpr hr) h
  obtain ⟨authFault, body, salt, fault, rfl⟩ :=
    session_of_admin_changed (not_not.mp hbefore) hafter.first
  obtain ⟨w, db, hserve, hcode, hgone⟩ :=
    served_of_admin_changed (not_not.mp hbefore) hafter.first
  exact ⟨before, authFault, body, salt, fault, after, w, db, rfl, hserve, hcode, hgone⟩

/-- The administrator that the first start adds. -/
def firstAdmin : Row Admin := ⟨1, ⟨adminName, defaultHash, 0⟩⟩

def changedRun : List Event :=
  [.userAdded (ascii "bob") (ascii "secret"), passwordChanged, .stop, .started]

theorem firstAdmin_changed_by_own_session :
    ∃ before authFault body salt fault after w db,
      changedRun = before ++
        .act (.chPasswd (some (.int firstAdmin.id)) authFault body salt fault) :: after ∧
      servePasswd markedEnv (ascii "POST") (ascii "/api/passwd") (some (.int firstAdmin.id))
        authFault (run (step markedEnv) (step markedEnv .initial .started) before).db body salt
        fault (run (step markedEnv) (step markedEnv .initial .started) before).db =
          .answered w db ∧
      w.code = 204 ∧ firstAdmin ∉ db.admins :=
  admin_changed_by_own_session (by decide) (by decide)

end DockerBastion.System
