import DockerBastion.Env

/-!
# Requests and responses of the management API

Request bodies are given as decoded: `none` where decoding fails, otherwise the
string map of a JSON object.  A response keeps the first status written to it.
-/

namespace DockerBastion.Manager

open Foundation

abbrev Fields := List (Bytes × Bytes)

def Fields.get (fields : Fields) (key : String) : Bytes :=
  (fields.lookup (ascii key)).getD []

abbrev Form := List (Bytes × Bytes)

def Form.values (form : Form) (key : String) : List Bytes :=
  (form.filter fun field => field.1 = ascii key).map Prod.snd

inductive SessionValue where
  | int (n : Int)
  | other
  deriving DecidableEq, Repr

/-- The value of the key `uid` in a session, `none` standing for nil. -/
abbrev Session := Option SessionValue

inductive Payload where
  | message (err : GoError)
  | text (field value : Bytes)
  | user (name : Bytes) (id : Nat)
  | priv (id : Nat)
  | plain (value : Bytes)
  deriving DecidableEq, Repr

structure Response where
  status : Option Nat := none
  body : List Payload := []
  deriving DecidableEq, Repr

namespace Response

/-- Only the first call decides the status. -/
def writeHeader (w : Response) (status : Nat) : Response :=
  match w.status with
  | some _ => w
  | none => { w with status := some status }

def write (w : Response) (payload : Payload) : Response :=
  { w.writeHeader 200 with body := w.body ++ [payload] }

def code (w : Response) : Nat := w.status.getD 200

@[simp] theorem code_writeHeader_empty (status : Nat) :
    (({} : Response).writeHeader status).code = status := rfl

theorem code_writeHeader_of_written {w : Response} (h : w.status.isSome) (status : Nat) :
    (w.writeHeader status).code = w.code := by
  obtain ⟨s, hs⟩ := Option.isSome_iff_exists.mp h
  simp [writeHeader, hs]

end Response

def errorStatus : GoError → Nat
  | .numError _ _ => 400
  | .errNoRows => 404
  | .errMismatchedHashAndPassword => 400
  | _ => 500

def showError (err : GoError) (w : Response) : Response :=
  (w.writeHeader (errorStatus err)).write (.message err)

@[simp] theorem code_showError (err : GoError) :
    (showError err {}).code = errorStatus err := rfl

theorem le_errorStatus (err : GoError) : 400 ≤ errorStatus err := by
  cases err <;> simp [errorStatus]

theorem errorStatus_ne {status : Nat} (h : status < 400) (err : GoError) :
    errorStatus err ≠ status := by
  cases err <;> simp only [errorStatus] <;> omega

end DockerBastion.Manager
