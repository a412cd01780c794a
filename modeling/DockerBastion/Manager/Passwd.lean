import DockerBastion.Manager.Api
import DockerBastion.Manager.Auth

/-!
# Changing the password of an administrator

`ChPasswd` converts the uid of the session without a check and updates the row of that
id.  It relies on the middleware, which runs earlier in the request and may have read
other tables.  No request makes the conversion panic, and the update reaches no row but
the one of the administrator that the middleware found.
-/

namespace DockerBastion.Manager

open Foundation

/-- What a request does to the tables through `ChPasswd`. -/
inductive PasswdOutcome where
  | elsewhere
  | panicked
  | answered (w : Response) (db : Store)

/-- The middleware reads the tables `checked`, the handler finds the tables `db`. -/
def servePasswd (env : Env) (method path : Bytes) (session : Session) (authFault : Bool)
    (checked : Store) (body : Option Fields) (salt : Except GoError Bytes)
    (fault : Option GoError) (db : Store) : PasswdOutcome :=
  match serve method path session authFault checked with
  | some (.chPasswd, _) =>
      match chPasswd env session body salt fault db with
      | none => .panicked
      | some (w, db') => .answered w db'
  | _ => .elsewhere

/-- Nothing but the row of the administrator `uid` may have changed. -/
structure OnlyAdmin (uid : Int) (db db' : Store) : Prop where
  users : db'.users = db.users
  containers : db'.containers = db.containers
  admins : List.Forall₂ (fun r r' : Row Admin => r'.id = r.id ∧ ((r.id : Int) ≠ uid → r' = r))
    db.admins.rows db'.admins.rows

theorem OnlyAdmin.refl (uid : Int) (db : Store) : OnlyAdmin uid db db :=
  ⟨rfl, rfl, List.forall₂_same.mpr fun _ _ => ⟨rfl, fun _ => rfl⟩⟩

theorem onlyAdmin_setAdminPassword {passwd : Bytes} {uid : Int} {fault : Option GoError}
    {db db' : Store} {id : Nat}
    (h : db.exec fault (.setAdminPassword passwd uid) = .ok (db', id)) :
    OnlyAdmin uid db db' := by
  cases fault with
  | some err => cases h
  | none =>
      cases h
      refine ⟨rfl, rfl, ?_⟩
      simp only [Table.update, List.forall₂_map_right_iff]
      refine List.forall₂_same.mpr fun r _ => ⟨rfl, fun hne => ?_⟩
      simp [Store.updateAdmin, hne]

theorem chPasswd_onlyAdmin (env : Env) (uid : Int) (body : Option Fields)
    (salt : Except GoError Bytes) (fault : Option GoError) (db : Store) :
    ∃ w db', chPasswd env (some (.int uid)) body salt fault db = some (w, db') ∧
      OnlyAdmin uid db db' := by
  unfold chPasswd
  cases newPassword env body salt with
  | error w => exact ⟨w, db, rfl, .refl uid db⟩
  | ok passwd =>
      cases hexec : db.exec fault (.setAdminPassword passwd uid) with
      | error err => exact ⟨showError err {}, db, by simp only [hexec], .refl uid db⟩
      | ok result =>
          obtain ⟨db', id⟩ := result
          exact ⟨({} : Response).writeHeader 204, db', by simp only [hexec],
            onlyAdmin_setAdminPassword hexec⟩

private theorem route_chPasswd :
    ∀ r ∈ routes, r.handler = .chPasswd →
      r.method = ascii "POST" ∧ r.pattern = ascii "/api/passwd" := by
  decide

/-- A request reaches `ChPasswd` only with the session of an administrator. -/
theorem session_of_chPasswd {method path : Bytes} {session : Session} {fault : Bool}
    {checked : Store} {params : Params}
    (h : serve method path session fault checked = some (.chPasswd, params)) :
    ∃ uid, session = some (.int uid) ∧ ∃ r ∈ checked.admins, (r.id : Int) = uid := by
  have hd : dispatch routes method path = some (.chPasswd, params) := by
    unfold serve at h
    split at h
    · cases h
    · exact h
  obtain ⟨r, hr, hhandler, hbegins, hmethod, hpath⟩ := route_of_dispatch hd
  obtain ⟨hpost, hpattern⟩ := route_chPasswd r hr hhandler
  rw [hpost, hpattern] at hpath
  rw [hpost] at hmethod
  have hmethod : method = ascii "POST" := by
    rcases hmethod with rfl | ⟨-, hget⟩
    · rfl
    · exact absurd hget (by decide)
  have hrequired : authRequired method path = true := by
    rw [hmethod]
    rcases hpath (by decide) with rfl | rfl
    · decide
    · decide
  rcases session_of_serve hbegins h with hsession | hopen
  · exact (sessionAdmin_iff.mp hsession).2
  · rw [hrequired] at hopen
    cases hopen

/--
Whatever the request, the conversion does not panic, and what it changes is the row
of the administrator whose id the session holds and whom the middleware found.
-/
theorem servePasswd_safe (env : Env) (method path : Bytes) (session : Session)
    (authFault : Bool) (checked : Store) (body : Option Fields)
    (salt : Except GoError Bytes) (fault : Option GoError) (db : Store) :
    servePasswd env method path session authFault checked body salt fault db ≠ .panicked ∧
      ∀ w db', servePasswd env method path session authFault checked body salt fault db =
          .answered w db' →
        ∃ uid, session = some (.int uid) ∧ (∃ r ∈ checked.admins, (r.id : Int) = uid) ∧
          OnlyAdmin uid db db' := by
  unfold servePasswd
  split
  · rename_i params hserve
    obtain ⟨uid, rfl, hadmin⟩ := session_of_chPasswd hserve
    obtain ⟨w, db', hresult, honly⟩ := chPasswd_onlyAdmin env uid body salt fault db
    simp only [hresult]
    constructor
    · intro hpanicked
      cases hpanicked
    · intro w' db'' hanswered
      cases hanswered
      exact ⟨uid, rfl, hadmin, honly⟩
  · constructor
    · intro hpanicked
      cases hpanicked
    · intro w db' hanswered
      cases hanswered

end DockerBastion.Manager
