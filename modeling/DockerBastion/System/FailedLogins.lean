import DockerBastion.Manager.Change
import DockerBastion.Manager.Message
import DockerBastion.Sshd.Login

/-!
# What a failed login tells

Two runs of one login attempt over two stores, neither of which accepts it.  Over SSH
they answer alike: `passwordCallback` has one error for a name it does not know and for
a password that is wrong.  `Login` hands both errors to `showError`, and the main result
says for which stores its answers still agree.
-/

namespace DockerBastion.System

open Foundation Manager Sshd

/-- The status, and the body as far as `showError` has written it. -/
def observed (printing : Printing) (w : Response) : Nat × List (Option Bytes) :=
  (w.code, w.body.map fun
    | .message err => some (errorBody printing err)
    | _ => none)

@[simp] theorem observed_showError (printing : Printing) (err : GoError) :
    observed printing (showError err {}) = (errorStatus err, [some (errorBody printing err)]) :=
  rfl

section Rejected

variable (env : Env) (db : Store)

/-- No account of that name has that password. -/
def RejectedUser (user pass : Bytes) : Prop :=
  ∀ u ∈ db.users, u.val.name = getUsername user →
    env.bcrypt.compare u.val.password pass ≠ none

def RejectedAdmin (body : Option Fields) : Prop :=
  ∀ name password, loginParams body = .ok (name, password) →
    ∀ a ∈ db.admins, a.val.name = name → env.bcrypt.compare a.val.password password ≠ none

end Rejected

/-- Both ways in answer as if the two stores were one. -/
structure Alike (env : Env) (printing : Printing) (user pass : Bytes) (body : Option Fields)
    (db₁ db₂ : Store) : Prop where
  ssh : ∀ later₁ later₂, passwordCallback env {} db₁ later₁ user pass =
    passwordCallback env {} db₂ later₂ user pass
  web : observed printing (login env body none db₁).1 =
    observed printing (login env body none db₂).1

/-- What bcrypt says of the password, `none` if there is no administrator of that name. -/
def verdict (env : Env) (db : Store) (name password : Bytes) : Option (Option GoError) :=
  (db.adminByName name).map fun a => env.bcrypt.compare a.val.password password

/--
The name is an administrator's in both stores or in neither, and where it is, bcrypt
fails with the same error on both hashes.
-/
def SameFailure (env : Env) (body : Option Fields) (db₁ db₂ : Store) : Prop :=
  ∀ name password, loginParams body = .ok (name, password) →
    verdict env db₁ name password = verdict env db₂ name password

/-- bcrypt has errors of its own and of strconv. -/
def OwnErrors (bcrypt : Bcrypt) : Prop :=
  ∀ hash password,
    bcrypt.compare hash password ≠ some .errNoRows ∧
      bcrypt.compare hash password ≠ some .errNotFound

variable {env : Env} {printing : Printing} {db db₁ db₂ : Store} {user pass : Bytes}
  {body : Option Fields}

/-! ## Over SSH -/

theorem passwordCallback_of_rejected (h : RejectedUser env db user pass) (later : Store) :
    passwordCallback env {} db later user pass =
      some (if (getContainerId user).length ≠ 12 then errInvalidContainerName
        else errInvalidPassword) := by
  unfold passwordCallback verifyUser
  by_cases hlength : (getContainerId user).length ≠ 12
  · simp only [if_pos hlength]
  simp only [if_neg hlength]
  cases hfind : db.userByName (getUsername user) with
  | none => rfl
  | some u =>
      obtain ⟨hu, hname⟩ := Store.userByName_eq_some_iff.mp hfind
      obtain ⟨err, herr⟩ := Option.ne_none_iff_exists'.mp (h u hu hname)
      simp only [herr]

/-! ## Over the web -/

/-- The error that `Login` hands to `showError`. -/
def failure : Option (Option GoError) → Option GoError
  | none => some .errNoRows
  | some err => err

theorem login_of_rejected {name password : Bytes}
    (hparams : loginParams body = .ok (name, password)) (h : RejectedAdmin env db body) :
    ∃ err, failure (verdict env db name password) = some err ∧
      (login env body none db).1 = showError err {} := by
  cases hfind : db.adminByName name with
  | none =>
      refine ⟨.errNoRows, ?_, ?_⟩
      · simp [verdict, hfind, failure]
      · simp only [login, hparams, hfind]
  | some a =>
      obtain ⟨ha, hname⟩ := Store.adminByName_eq_some_iff.mp hfind
      obtain ⟨err, herr⟩ := Option.ne_none_iff_exists'.mp (h name password hparams a ha hname)
      refine ⟨err, ?_, ?_⟩
      · simp [verdict, hfind, failure, herr]
      · simp only [login, hparams, hfind, herr]

section Errors

variable (hbcrypt : OwnErrors env.bcrypt) {name password : Bytes} {err : GoError}

include hbcrypt

theorem ne_errNotFound_of_failure
    (h : failure (verdict env db name password) = some err) : err ≠ .errNotFound := by
  rintro rfl
  cases hfind : db.adminByName name with
  | none => simp [verdict, hfind, failure] at h
  | some a =>
      simp only [verdict, hfind, Option.map_some, failure] at h
      exact (hbcrypt _ _).2 h

/-- The error says whether the name is known. -/
theorem verdict_of_failure (h : failure (verdict env db name password) = some err) :
    verdict env db name password = if err = .errNoRows then none else some (some err) := by
  cases hfind : db.adminByName name with
  | none =>
      simp only [verdict, hfind, Option.map_none, failure, Option.some.injEq] at h ⊢
      rw [← h]
      rfl
  | some a =>
      simp only [verdict, hfind, Option.map_some, failure] at h ⊢
      have hne : err ≠ .errNoRows := by
        rintro rfl
        exact (hbcrypt _ _).1 h
      rw [h, if_neg hne]

end Errors

theorem observed_login_iff (hbcrypt : OwnErrors env.bcrypt)
    (h₁ : RejectedAdmin env db₁ body) (h₂ : RejectedAdmin env db₂ body) :
    observed printing (login env body none db₁).1 =
        observed printing (login env body none db₂).1 ↔
      SameFailure env body db₁ db₂ := by
  cases hparams : loginParams body with
  | error w =>
      refine iff_of_true ?_ ?_
      · simp only [login, hparams]
      · intro name password hok
        rw [hparams] at hok
        cases hok
  | ok credentials =>
      obtain ⟨name, password⟩ := credentials
      obtain ⟨err₁, hfailure₁, hlogin₁⟩ := login_of_rejected hparams h₁
      obtain ⟨err₂, hfailure₂, hlogin₂⟩ := login_of_rejected hparams h₂
      rw [hlogin₁, hlogin₂, observed_showError, observed_showError]
      constructor
      · intro hanswer name' password' hok
        rw [hparams] at hok
        cases hok
        obtain ⟨hstatus, hbody⟩ := Prod.mk.inj hanswer
        have hbytes : errorBody printing err₁ = errorBody printing err₂ := by
          simpa using hbody
        have hsame : err₁ = err₂ := eq_of_answer_eq (ne_errNotFound_of_failure hbcrypt hfailure₁)
          (ne_errNotFound_of_failure hbcrypt hfailure₂) hstatus hbytes
        rw [verdict_of_failure hbcrypt hfailure₁, verdict_of_failure hbcrypt hfailure₂, hsame]
      · intro hsame
        rw [hsame name password hparams, hfailure₂] at hfailure₁
        cases hfailure₁
        rfl

/-! ## Both -/

/--
Two stores that reject an attempt answer it alike exactly if they agree on whether the
name is an administrator's and, where it is, on the error of bcrypt.
-/
theorem alike_iff (env : Env) (printing : Printing) (hbcrypt : OwnErrors env.bcrypt)
    (user pass : Bytes) (body : Option Fields) (db₁ db₂ : Store)
    (hssh₁ : RejectedUser env db₁ user pass) (hssh₂ : RejectedUser env db₂ user pass)
    (hweb₁ : RejectedAdmin env db₁ body) (hweb₂ : RejectedAdmin env db₂ body) :
    Alike env printing user pass body db₁ db₂ ↔ SameFailure env body db₁ db₂ := by
  constructor
  · intro h
    exact (observed_login_iff hbcrypt hweb₁ hweb₂).mp h.web
  · intro h
    constructor
    · intro later₁ later₂
      rw [passwordCallback_of_rejected hssh₁, passwordCallback_of_rejected hssh₂]
    · exact (observed_login_iff hbcrypt hweb₁ hweb₂).mpr h

/-! ## A name that is known and one that is not -/

/-- The tables after the first start. -/
def firstStore : Store :=
  match addDefaultUser none none 0 .empty with
  | .ok db => db
  | .error _ => .empty

def attempt (name : Bytes) : Option Fields :=
  some [(ascii "name", name), (ascii "password", ascii "secret")]

def attemptUser : Bytes := ascii "bob.0123456789ab"

theorem loginParams_attempt {name name' password : Bytes}
    (h : loginParams (attempt name) = .ok (name', password)) :
    name' = name ∧ password = ascii "secret" := by
  obtain ⟨fields, hfields, rfl, rfl, -, -⟩ := loginParams_eq_ok.mp h
  cases hfields
  exact ⟨rfl, rfl⟩

theorem rejectedUser_of_empty (h : db.users.rows = []) : RejectedUser env db user pass := by
  intro u hu
  rw [← Table.mem_rows, h] at hu
  cases hu

theorem rejectedAdmin_empty : RejectedAdmin env .empty body :=
  fun _ _ _ a ha => absurd ha (Table.not_mem_empty a)

theorem rejectedAdmin_first (name : Bytes) :
    RejectedAdmin markedEnv firstStore (attempt name) := by
  intro name' password hparams a ha _
  obtain ⟨-, rfl⟩ := loginParams_attempt hparams
  have hrows : firstStore.admins.rows = [⟨1, ⟨adminName, defaultHash, 0⟩⟩] := by decide
  rw [← Table.mem_rows, hrows, List.mem_singleton] at ha
  intro haccepted
  rw [ha] at haccepted
  exact absurd (markedBcrypt_exact.defaultHash _ haccepted) (by decide)

theorem ownErrors_marked : OwnErrors markedEnv.bcrypt := by
  intro hash password
  simp only [markedEnv, markedBcrypt, markedCompare]
  constructor <;> split <;> split <;> simp

theorem unknown_name_alike :
    Alike markedEnv asciiPrinting attemptUser (ascii "secret") (attempt (ascii "root"))
      .empty firstStore := by
  refine (alike_iff markedEnv asciiPrinting ownErrors_marked _ _ _ .empty firstStore
    (rejectedUser_of_empty rfl) (rejectedUser_of_empty (by decide)) rejectedAdmin_empty
    (rejectedAdmin_first _)).mpr ?_
  intro name password hparams
  obtain ⟨rfl, rfl⟩ := loginParams_attempt hparams
  decide

theorem known_name_told_apart :
    RejectedUser markedEnv .empty attemptUser (ascii "secret") ∧
      RejectedUser markedEnv firstStore attemptUser (ascii "secret") ∧
      RejectedAdmin markedEnv .empty (attempt adminName) ∧
      RejectedAdmin markedEnv firstStore (attempt adminName) ∧
      ¬ Alike markedEnv asciiPrinting attemptUser (ascii "secret") (attempt adminName)
        .empty firstStore := by
  refine ⟨rejectedUser_of_empty rfl, rejectedUser_of_empty (by decide), rejectedAdmin_empty,
    rejectedAdmin_first adminName, fun h => ?_⟩
  have hstatus := congrArg Prod.fst h.web
  revert hstatus
  decide

end DockerBastion.System
