import DockerBastion.Foundation.Run
import DockerBastion.Foundation.Transaction
import DockerBastion.Manager.Api
import Mathlib.Logic.Function.Basic

/-!
# Deleting a user

`DeleteUser` deletes the user and his grants in one transaction.  Here any number of
such requests, `ids k` being the parameter of request `k`, take their steps among
those of each other and among requests to `Grant` and `Revoke`.
-/

namespace DockerBastion.Manager

open Foundation

inductive Deletion where
  | waiting
  | begun (uid : Int)
  | usersDeleted (uid : Int)
  | containersDeleted (uid : Int)
  | failed (err : GoError)
  | answered (w : Response)

structure Deletions where
  tables : Transacted Store Nat
  requests : Nat → Deletion

inductive DeletionEvent where
  | begin (k : Nat) (fault : Option GoError)
  | deleteUsers (k : Nat) (fault : Option GoError)
  | deleteContainers (k : Nat) (fault : Option GoError)
  | commit (k : Nat) (fault : Option GoError)
  | rollback (k : Nat)
  | grant (form : Form) (fault : Option GoError) (now : Nat)
  | revoke (id : Bytes) (fault : Option GoError)

def DeletionEvent.request : DeletionEvent → Option Nat
  | .begin k _ | .deleteUsers k _ | .deleteContainers k _ | .commit k _ | .rollback k => some k
  | .grant _ _ _ | .revoke _ _ => none

def locked : GoError := .other (ascii "database is locked")

namespace Deletions

def start (db : Store) : Deletions := ⟨⟨db, none⟩, fun _ => .waiting⟩

def db (s : Deletions) : Store := s.tables.committed

def set (s : Deletions) (k : Nat) (tables : Transacted Store Nat) (r : Deletion) :
    Deletions :=
  ⟨tables, Function.update s.requests k r⟩

@[simp] theorem requests_set (s : Deletions) (k : Nat) (tables : Transacted Store Nat)
    (r : Deletion) : (s.set k tables r).requests k = r := by
  simp [set]

def begin (ids : Nat → Bytes) (s : Deletions) (k : Nat) (fault : Option GoError) :
    Deletions :=
  match s.requests k with
  | .waiting =>
      match atoi (ids k), fault with
      | .error err, _ => s.set k s.tables (.answered (showError (.numError (ids k) err) {}))
      | .ok _, some err => s.set k s.tables (.answered (showError err {}))
      | .ok uid, none => s.set k s.tables (.begun uid)
  | _ => s

/-- `tx.Exec`; `next` is what follows if it succeeds. -/
def execute (s : Deletions) (k : Nat) (fault : Option GoError) (stmt : Stmt)
    (next : Deletion) : Deletions :=
  match s.tables.execute locked k fun db => (db.exec fault stmt).map Prod.fst with
  | .error err => s.set k s.tables (.failed err)
  | .ok tables => s.set k tables next

def deleteUsers (s : Deletions) (k : Nat) (fault : Option GoError) : Deletions :=
  match s.requests k with
  | .begun uid => s.execute k fault (.deleteUser uid) (.usersDeleted uid)
  | _ => s

def deleteContainers (s : Deletions) (k : Nat) (fault : Option GoError) : Deletions :=
  match s.requests k with
  | .usersDeleted uid => s.execute k fault (.deleteContainersOf uid) (.containersDeleted uid)
  | _ => s

/-- A transaction whose commit fails has no effect. -/
def commit (s : Deletions) (k : Nat) (fault : Option GoError) : Deletions :=
  match s.requests k with
  | .containersDeleted _ =>
      match fault with
      | some err =>
          s.set k (s.tables.rollback k) (.answered ((showError err {}).writeHeader 204))
      | none => s.set k (s.tables.commit k) (.answered (({} : Response).writeHeader 204))
  | _ => s

def rollback (s : Deletions) (k : Nat) : Deletions :=
  match s.requests k with
  | .failed err =>
      s.set k (s.tables.rollback k) (.answered ((showError err {}).writeHeader 204))
  | _ => s

def outside (s : Deletions) (request : Option GoError → Store → Response × Store)
    (fault : Option GoError) : Deletions :=
  { s with
    tables := { s.tables with
      committed := (request (s.tables.faultOutside locked fault) s.db).2 } }

def step (ids : Nat → Bytes) (s : Deletions) : DeletionEvent → Deletions
  | .begin k fault => s.begin ids k fault
  | .deleteUsers k fault => s.deleteUsers k fault
  | .deleteContainers k fault => s.deleteContainers k fault
  | .commit k fault => s.commit k fault
  | .rollback k => s.rollback k
  | .grant form fault now => s.outside (fun fault => Manager.grant form fault now) fault
  | .revoke id fault => s.outside (Manager.revoke id) fault

end Deletions

/-! ## What the requests have done so far -/

def withoutUser (uid : Int) (db : Store) : Store :=
  { db with users := db.users.deleteWhere fun r => (r.id : Int) = uid }

def withoutGrants (uid : Int) (db : Store) : Store :=
  { db with containers := db.containers.deleteWhere fun r => r.val.userId = .integer uid }

/-- The user and all his grants are gone, and nothing else is different. -/
structure Removed (uid : Int) (db db' : Store) : Prop where
  users : ∀ r, r ∈ db'.users ↔ r ∈ db.users ∧ (r.id : Int) ≠ uid
  containers : ∀ r, r ∈ db'.containers ↔ r ∈ db.containers ∧ r.val.userId ≠ .integer uid
  admins : db'.admins = db.admins

theorem removed (uid : Int) (db : Store) :
    Removed uid db (withoutGrants uid (withoutUser uid db)) where
  users r := by simp [withoutGrants, withoutUser]
  containers r := by simp [withoutGrants, withoutUser]
  admins := rfl

/-- What the tables hold for a request that is as far as that. -/
def Fits (ids : Nat → Bytes) (t : Transacted Store Nat) (k : Nat) : Deletion → Prop
  | .waiting | .answered _ => t.Idle k
  | .begun uid => atoi (ids k) = .ok uid ∧ t.Idle k
  | .usersDeleted uid =>
      atoi (ids k) = .ok uid ∧ t.writer = some (k, withoutUser uid t.committed)
  | .containersDeleted uid =>
      atoi (ids k) = .ok uid ∧
        t.writer = some (k, withoutGrants uid (withoutUser uid t.committed))
  | .failed _ => True

def AllFit (ids : Nat → Bytes) (s : Deletions) : Prop :=
  ∀ k, Fits ids s.tables k (s.requests k)

variable {ids : Nat → Bytes} {s : Deletions} {k : Nat}

theorem Fits.of_same {t t' : Transacted Store Nat} {r : Deletion} (h : Fits ids t k r)
    (hsame : t.SameFor k t') : Fits ids t' k r := by
  cases r with
  | waiting => exact hsame.idle.mpr h
  | answered w => exact hsame.idle.mpr h
  | begun uid => exact ⟨h.1, hsame.idle.mpr h.2⟩
  | usersDeleted uid =>
      refine ⟨h.1, ?_⟩
      rw [hsame.committed _ h.2]
      exact (hsame.writer _).mpr h.2
  | containersDeleted uid =>
      refine ⟨h.1, ?_⟩
      rw [hsame.committed _ h.2]
      exact (hsame.writer _).mpr h.2
  | failed err => trivial

/-! ## What a step does -/

structure Moves (ids : Nat → Bytes) (k : Nat) (s s' : Deletions) : Prop where
  others : ∀ j ≠ k, s'.requests j = s.requests j ∧ s.tables.SameFor j s'.tables
  own : Fits ids s'.tables k (s'.requests k)

theorem Moves.allFit {s' : Deletions} (hmoves : Moves ids k s s') (h : AllFit ids s) :
    AllFit ids s' := by
  intro j
  by_cases hj : j = k
  · rw [hj]
    exact hmoves.own
  · obtain ⟨hrequest, hsame⟩ := hmoves.others j hj
    rw [hrequest]
    exact (h j).of_same hsame

theorem Moves.refl (h : AllFit ids s) : Moves ids k s s where
  others _ _ := ⟨rfl, fun _ => Iff.rfl, fun _ _ => rfl⟩
  own := h k

theorem moves_set {tables : Transacted Store Nat} {r : Deletion}
    (hsame : ∀ j ≠ k, s.tables.SameFor j tables) (hfits : Fits ids tables k r) :
    Moves ids k s (s.set k tables r) where
  others j hj := ⟨by simp [Deletions.set, hj], hsame j hj⟩
  own := by
    rw [Deletions.requests_set]
    exact hfits

theorem moves_phase {r : Deletion} (hfits : Fits ids s.tables k r) :
    Moves ids k s (s.set k s.tables r) :=
  moves_set (fun _ _ => ⟨fun _ => Iff.rfl, fun _ _ => rfl⟩) hfits

theorem moves_begin (h : AllFit ids s) (fault : Option GoError) :
    Moves ids k s (s.begin ids k fault) := by
  unfold Deletions.begin
  split
  · rename_i hwaiting
    have hidle : s.tables.Idle k := by
      have hfits := h k
      rwa [hwaiting] at hfits
    split
    · exact moves_phase hidle
    · exact moves_phase hidle
    · rename_i hatoi
      exact moves_phase ⟨hatoi, hidle⟩
  · exact .refl h

theorem moves_execute {fault : Option GoError} {stmt : Stmt} {next : Deletion}
    (hnext : ∀ d copy id, s.tables.view k = some d → d.exec fault stmt = .ok (copy, id) →
      Fits ids { s.tables with writer := some (k, copy) } k next) :
    Moves ids k s (s.execute k fault stmt next) := by
  unfold Deletions.execute
  split
  · exact moves_phase trivial
  · rename_i tables hexecute
    obtain ⟨d, copy, hview, hstmt, rfl⟩ := Transacted.execute_eq_ok hexecute
    refine moves_set (fun j hj => Transacted.sameFor_write hview hj) ?_
    cases hexec : d.exec fault stmt with
    | error err =>
        rw [hexec] at hstmt
        cases hstmt
    | ok result =>
        obtain ⟨copy', id⟩ := result
        rw [hexec] at hstmt
        cases hstmt
        exact hnext d copy' id hview hexec

theorem exec_deleteUser {fault : Option GoError} {d copy : Store} {uid : Int} {id : Nat}
    (h : d.exec fault (.deleteUser uid) = .ok (copy, id)) : copy = withoutUser uid d := by
  cases fault with
  | some err => cases h
  | none =>
      cases h
      rfl

theorem exec_deleteContainersOf {fault : Option GoError} {d copy : Store} {uid : Int}
    {id : Nat} (h : d.exec fault (.deleteContainersOf uid) = .ok (copy, id)) :
    copy = withoutGrants uid d := by
  cases fault with
  | some err => cases h
  | none =>
      cases h
      rfl

theorem moves_deleteUsers (h : AllFit ids s) (fault : Option GoError) :
    Moves ids k s (s.deleteUsers k fault) := by
  unfold Deletions.deleteUsers
  split
  · rename_i uid hbegun
    have hfits := h k
    rw [hbegun] at hfits
    refine moves_execute fun d copy id hview hexec => ⟨hfits.1, ?_⟩
    obtain ⟨-, rfl⟩ := Transacted.view_of_idle hfits.2 hview
    rw [exec_deleteUser hexec]
  · exact .refl h

theorem moves_deleteContainers (h : AllFit ids s) (fault : Option GoError) :
    Moves ids k s (s.deleteContainers k fault) := by
  unfold Deletions.deleteContainers
  split
  · rename_i uid hdeleted
    have hfits := h k
    rw [hdeleted] at hfits
    refine moves_execute fun d copy id hview hexec => ⟨hfits.1, ?_⟩
    rw [Transacted.view_of_writer hfits.2] at hview
    cases hview
    rw [exec_deleteContainersOf hexec]
  · exact .refl h

theorem moves_commit (h : AllFit ids s) (fault : Option GoError) :
    Moves ids k s (s.commit k fault) := by
  unfold Deletions.commit
  split
  · rename_i uid hdeleted
    have hfits := h k
    rw [hdeleted] at hfits
    split
    · exact moves_set (fun j hj => Transacted.sameFor_rollback hj)
        (Transacted.idle_rollback _ _)
    · refine moves_set (fun j hj => Transacted.sameFor_commit hfits.2 hj) ?_
      rw [Transacted.commit_of_writer hfits.2]
      exact fun _ => nofun
  · exact .refl h

theorem moves_rollback (h : AllFit ids s) : Moves ids k s (s.rollback k) := by
  unfold Deletions.rollback
  split
  · exact moves_set (fun j hj => Transacted.sameFor_rollback hj)
      (Transacted.idle_rollback _ _)
  · exact .refl h

theorem allFit_outside (h : AllFit ids s)
    {request : Option GoError → Store → Response × Store}
    (hfails : ∀ err db, (request (some err) db).2 = db) (fault : Option GoError) :
    AllFit ids (s.outside request fault) := by
  intro j
  refine (h j).of_same (.of_outside fun hwriter => ?_)
  rw [Transacted.faultOutside, if_pos (Option.isSome_iff_ne_none.mpr hwriter), hfails]
  rfl

theorem grant_of_fault (form : Form) (err : GoError) (now : Nat) (db : Store) :
    (grant form (some err) now db).2 = db := by
  unfold grant
  split <;> rfl

theorem revoke_of_fault (id : Bytes) (err : GoError) (db : Store) :
    (revoke id (some err) db).2 = db := by
  unfold revoke
  split <;> rfl

theorem moves_step {e : DeletionEvent} (h : AllFit ids s) (he : e.request = some k) :
    Moves ids k s (s.step ids e) := by
  cases e with
  | begin j fault =>
      cases he
      exact moves_begin h fault
  | deleteUsers j fault =>
      cases he
      exact moves_deleteUsers h fault
  | deleteContainers j fault =>
      cases he
      exact moves_deleteContainers h fault
  | commit j fault =>
      cases he
      exact moves_commit h fault
  | rollback j =>
      cases he
      exact moves_rollback h
  | grant form fault now => cases he
  | revoke id fault => cases he

theorem allFit_step (h : AllFit ids s) (e : DeletionEvent) :
    AllFit ids (s.step ids e) := by
  cases hrequest : e.request with
  | some k => exact (moves_step h hrequest).allFit h
  | none =>
      cases e with
      | grant form fault now =>
          exact allFit_outside h (fun err db => grant_of_fault form err now db) fault
      | revoke id fault =>
          exact allFit_outside h (fun err db => revoke_of_fault id err db) fault
      | _ => cases hrequest

theorem allFit_start (ids : Nat → Bytes) (db : Store) : AllFit ids (.start db) :=
  fun _ _ => nofun

theorem allFit_run (h : AllFit ids s) (events : List DeletionEvent) :
    AllFit ids (run (Deletions.step ids) s events) :=
  run_invariant (I := AllFit ids) (fun _ e hs => allFit_step hs e) h events

/-! ## Atomicity -/

/-- Request `k` commits: the user with its id goes, and with him all his grants. -/
def Commits (ids : Nat → Bytes) (k : Nat) (s : Deletions) (e : DeletionEvent) : Prop :=
  e = .commit k none ∧ ∃ uid, s.requests k = .containersDeleted uid ∧
    atoi (ids k) = .ok uid ∧ Removed uid s.db (s.step ids e).db

theorem commits_of_containersDeleted (h : AllFit ids s) {uid : Int}
    (hdeleted : s.requests k = .containersDeleted uid) : Commits ids k s (.commit k none) := by
  have hfits := h k
  rw [hdeleted] at hfits
  refine ⟨rfl, uid, hdeleted, hfits.1, ?_⟩
  simp only [Deletions.step, Deletions.commit, hdeleted, Deletions.set, Deletions.db,
    Transacted.commit_of_writer hfits.2]
  exact removed uid s.tables.committed

theorem db_execute (s : Deletions) (k : Nat) (fault : Option GoError) (stmt : Stmt)
    (next : Deletion) : (s.execute k fault stmt next).db = s.db := by
  unfold Deletions.execute
  split
  · rfl
  · rename_i tables hexecute
    obtain ⟨d, copy, -, -, rfl⟩ := Transacted.execute_eq_ok hexecute
    rfl

theorem db_step {e : DeletionEvent} (h : AllFit ids s) (he : e.request = some k) :
    Commits ids k s e ∨ (s.step ids e).db = s.db := by
  cases e with
  | begin j fault =>
      simp only [Deletions.step, Deletions.begin]
      split
      · split <;> exact .inr rfl
      · exact .inr rfl
  | deleteUsers j fault =>
      simp only [Deletions.step, Deletions.deleteUsers]
      split
      · exact .inr (db_execute s j fault _ _)
      · exact .inr rfl
  | deleteContainers j fault =>
      simp only [Deletions.step, Deletions.deleteContainers]
      split
      · exact .inr (db_execute s j fault _ _)
      · exact .inr rfl
  | commit j fault =>
      cases he
      cases hphase : s.requests k with
      | containersDeleted uid =>
          cases fault with
          | none => exact .inl (commits_of_containersDeleted h hphase)
          | some err =>
              simp only [Deletions.step, Deletions.commit, hphase]
              exact .inr (Transacted.rollback_committed _ _)
      | _ =>
          simp only [Deletions.step, Deletions.commit, hphase]
          exact .inr trivial
  | rollback j =>
      simp only [Deletions.step, Deletions.rollback]
      split
      · exact .inr (Transacted.rollback_committed _ _)
      · exact .inr rfl
  | grant form fault now => cases he
  | revoke id fault => cases he

theorem code_failed (err : GoError) :
    ((showError err {}).writeHeader 204).code ≠ 204 := by
  rw [Response.code_writeHeader_of_written (by rfl)]
  exact errorStatus_ne (by decide) err

theorem answered_step {w : Response} (h : AllFit ids s) (hw : s.requests k = .answered w)
    (e : DeletionEvent) : (s.step ids e).requests k = .answered w := by
  cases hrequest : e.request with
  | none => cases e <;> first | exact hw | cases hrequest
  | some j =>
      by_cases hj : j = k
      · subst hj
        cases e <;> cases hrequest <;>
          simp only [Deletions.step, Deletions.begin, Deletions.deleteUsers,
            Deletions.deleteContainers, Deletions.commit, Deletions.rollback, hw]
      · rw [((moves_step h hrequest).others k (Ne.symm hj)).1, hw]

theorem answered_run {w : Response} (h : AllFit ids s) (hw : s.requests k = .answered w)
    (events : List DeletionEvent) :
    (run (Deletions.step ids) s events).requests k = .answered w :=
  (run_invariant (I := fun s => AllFit ids s ∧ s.requests k = .answered w)
    (fun _ e hs => ⟨allFit_step hs.1 e, answered_step hs.1 hs.2 e⟩) ⟨h, hw⟩ events).2

theorem answer_commit {uid : Int} (hdeleted : s.requests k = .containersDeleted uid) :
    (s.step ids (.commit k none)).requests k =
      .answered (({} : Response).writeHeader 204) := by
  simp [Deletions.step, Deletions.commit, hdeleted]

private theorem not_answered_execute {fault : Option GoError} {stmt : Stmt}
    {next : Deletion} {w : Response} (hnext : next ≠ .answered w) :
    (s.execute k fault stmt next).requests k ≠ .answered w := by
  unfold Deletions.execute
  split
  · simp
  · simpa using hnext

theorem answer_own {e : DeletionEvent} {w : Response} (h : AllFit ids s)
    (hrequest : e.request = some k) (hbefore : ∀ w, s.requests k ≠ .answered w)
    (hafter : (s.step ids e).requests k = .answered w) :
    w.code = 204 ↔ Commits ids k s e := by
  cases e with
  | begin j fault =>
      cases hrequest
      simp only [Deletions.step, Deletions.begin] at hafter
      refine iff_of_false ?_ fun hcommits => by cases hcommits.1
      split at hafter
      · split at hafter
        · rw [Deletions.requests_set] at hafter
          cases hafter
          rw [code_showError]
          exact errorStatus_ne (by decide) _
        · rw [Deletions.requests_set] at hafter
          cases hafter
          rw [code_showError]
          exact errorStatus_ne (by decide) _
        · rw [Deletions.requests_set] at hafter
          cases hafter
      · exact absurd hafter (hbefore w)
  | deleteUsers j fault =>
      cases hrequest
      simp only [Deletions.step, Deletions.deleteUsers] at hafter
      split at hafter
      · exact absurd hafter (not_answered_execute nofun)
      · exact absurd hafter (hbefore w)
  | deleteContainers j fault =>
      cases hrequest
      simp only [Deletions.step, Deletions.deleteContainers] at hafter
      split at hafter
      · exact absurd hafter (not_answered_execute nofun)
      · exact absurd hafter (hbefore w)
  | commit j fault =>
      cases hrequest
      simp only [Deletions.step, Deletions.commit] at hafter
      split at hafter
      · rename_i uid hdeleted
        split at hafter
        · rw [Deletions.requests_set] at hafter
          cases hafter
          exact iff_of_false (code_failed _) fun hcommits => by cases hcommits.1
        · rw [Deletions.requests_set] at hafter
          cases hafter
          exact iff_of_true rfl (commits_of_containersDeleted h hdeleted)
      · exact absurd hafter (hbefore w)
  | rollback j =>
      cases hrequest
      simp only [Deletions.step, Deletions.rollback] at hafter
      split at hafter
      · rw [Deletions.requests_set] at hafter
        cases hafter
        exact iff_of_false (code_failed _) fun hcommits => by cases hcommits.1
      · exact absurd hafter (hbefore w)
  | grant form fault now => cases hrequest
  | revoke id fault => cases hrequest

theorem answer_step {e : DeletionEvent} {w : Response} (h : AllFit ids s)
    (hbefore : ∀ w, s.requests k ≠ .answered w)
    (hafter : (s.step ids e).requests k = .answered w) :
    w.code = 204 ↔ Commits ids k s e := by
  cases hrequest : e.request with
  | none =>
      have hsame : (s.step ids e).requests = s.requests := by
        cases e <;> first | rfl | cases hrequest
      exact absurd (hsame ▸ hafter) (hbefore w)
  | some j =>
      by_cases hj : j = k
      · exact answer_own h (hj ▸ hrequest) hbefore hafter
      · have hsame := ((moves_step h hrequest).others k (Ne.symm hj)).1
        exact absurd (hsame.symm.trans hafter) (hbefore w)

theorem answered_iff_commits {db : Store} {events : List DeletionEvent} {w : Response}
    (h : (run (Deletions.step ids) (.start db) events).requests k = .answered w) :
    w.code = 204 ↔
      ∃ before after, events = before ++ .commit k none :: after ∧
        Commits ids k (run (Deletions.step ids) (.start db) before) (.commit k none) := by
  have hstart := allFit_start ids db
  obtain ⟨before, e, after, hevents, hnot, hsince⟩ :=
    exists_last_change (P := fun s : Deletions => s.requests k = .answered w)
      (by intro hw; cases hw) h
  have hfits := allFit_run hstart before
  have hbefore : ∀ w', (run (Deletions.step ids) (.start db) before).requests k ≠
      .answered w' := by
    intro w' hw'
    have hstill := answered_step hfits hw' e
    rw [hsince.first] at hstill
    cases hstill
    exact hnot hw'
  have hanswer := answer_step hfits hbefore hsince.first
  constructor
  · intro hcode
    have hcommits := hanswer.mp hcode
    obtain rfl := hcommits.1
    exact ⟨before, after, hevents, hcommits⟩
  · rintro ⟨before', after', rfl, -, uid, hdeleted, -, -⟩
    rw [run_append, run_cons] at h
    have hfinal := answered_run (allFit_step (allFit_run hstart before') _)
      (answer_commit hdeleted) after'
    rw [h] at hfinal
    cases hfinal
    rfl

theorem idle_of_answered {w : Response} (h : AllFit ids s) (hw : s.requests k = .answered w) :
    s.tables.Idle k := by
  have hfits := h k
  rwa [hw] at hfits

/--
Whatever the interleaving and whatever fails, a request that is answered has let go of
the tables, and it is answered 204 exactly if it has committed; its commit removes the
user and his grants as they are at that moment, and none of its other steps changes the
tables.  By `run_alone` these are the steps of `deleteUser`.
-/
theorem deleteUser_atomic (ids : Nat → Bytes) (db : Store) (events : List DeletionEvent)
    (k : Nat) :
    (∀ w, (run (Deletions.step ids) (.start db) events).requests k = .answered w →
      (run (Deletions.step ids) (.start db) events).tables.Idle k ∧
      (w.code = 204 ↔
        ∃ before after, events = before ++ .commit k none :: after ∧
          Commits ids k (run (Deletions.step ids) (.start db) before) (.commit k none))) ∧
    EachStep (Deletions.step ids)
      (fun s e => e.request = some k → ¬ Commits ids k s e → (s.step ids e).db = s.db)
      (.start db) events := by
  have hstart := allFit_start ids db
  constructor
  · intro w hw
    exact ⟨idle_of_answered (allFit_run hstart events) hw, answered_iff_commits hw⟩
  · have halways : Always (Deletions.step ids) (AllFit ids) (.start db) events :=
      always_iff.mpr fun before after _ => allFit_run hstart before
    refine eachStep_of_always (fun s e hfits _ hrequest hnot => ?_) halways
    exact (db_step hfits hrequest).resolve_left hnot

def bobAndEve : Store where
  users := ⟨[⟨1, ⟨ascii "bob", [], 0⟩⟩, ⟨2, ⟨ascii "eve", [], 0⟩⟩], by decide, by decide⟩
  containers := ⟨[⟨1, ⟨ascii "web", .integer 1, 0⟩⟩, ⟨2, ⟨ascii "web", .integer 2, 0⟩⟩],
    by decide, by decide⟩
  admins := .empty

def interleavedRun : List DeletionEvent :=
  [.begin 0 none,
   .grant [(ascii "user_id", ascii "1"), (ascii "container", ascii "db")] none 0,
   .deleteUsers 0 none, .revoke (ascii "2") none,
   .grant [(ascii "user_id", ascii "1"), (ascii "container", ascii "dev1")] none 0,
   .deleteContainers 0 none, .commit 0 none]

theorem interleavedRun_commits :
    ∃ before after, interleavedRun = before ++ .commit 0 none :: after ∧
      Commits (fun _ => ascii "1") 0
        (run (Deletions.step fun _ => ascii "1") (.start bobAndEve) before) (.commit 0 none) :=
  ((deleteUser_atomic (fun _ => ascii "1") bobAndEve interleavedRun 0).1
    (({} : Response).writeHeader 204) rfl).2.mp rfl

/-! ## A request that is not interrupted -/

def alone (k : Nat) (faults : TxFaults) : List DeletionEvent :=
  [.begin k faults.begin, .deleteUsers k faults.first, .deleteContainers k faults.second,
   .commit k faults.commit, .rollback k]

/-- Without other requests in between, the steps add up to `deleteUser`. -/
theorem run_alone (hwriter : s.tables.writer = none) (hwaiting : s.requests k = .waiting)
    (faults : TxFaults) :
    (run (Deletions.step ids) s (alone k faults)).tables =
        ⟨(deleteUser (ids k) faults s.db).2, none⟩ ∧
      (run (Deletions.step ids) s (alone k faults)).requests k =
        .answered (deleteUser (ids k) faults s.db).1 := by
  obtain ⟨⟨committed, writer⟩, requests⟩ := s
  obtain ⟨begin, first, second, commit⟩ := faults
  simp only at hwriter hwaiting
  subst hwriter
  cases hatoi : atoi (ids k) with
  | error err =>
      simp [alone, Deletions.step, Deletions.begin, hwaiting, hatoi, deleteUser,
        Deletions.deleteUsers, Deletions.deleteContainers, Deletions.commit,
        Deletions.rollback, Deletions.set, Deletions.db]
  | ok uid =>
      cases begin <;> cases first <;> cases second <;> cases commit <;>
        simp [alone, Deletions.step, Deletions.begin, hwaiting, hatoi, deleteUser,
          deleteUserTx, Deletions.deleteUsers, Deletions.deleteContainers, Deletions.commit,
          Deletions.rollback, Deletions.execute, Deletions.set, Deletions.db,
          Transacted.execute, Transacted.view, Transacted.rollback, Transacted.commit,
          Store.apply, Except.map]

end DockerBastion.Manager
