import DockerBastion.Foundation.Bytes

/-!
# What the program takes from its environment

Errors are kept apart as far as the program tells them apart.  bcrypt and the
column affinity of SQLite are parameters: every result holds for all of them
that obey the stated laws.
-/

namespace DockerBastion

open Foundation

inductive GoError where
  | numError (num : Bytes) (err : NumErr)
  | errNoRows
  | errMismatchedHashAndPassword
  | errNotFound
  | other (message : Bytes)
  deriving DecidableEq, Repr

/-- A value stored in a column that was declared `integer`. -/
inductive Cell where
  | integer (n : Int)
  | real (literal : Bytes)
  | text (value : Bytes)
  deriving DecidableEq, Repr

def defaultPassword : Bytes := ascii "password"

def defaultHash : Bytes :=
  ascii "$2a$11$6BDpJ3NbRgDruOqY15Nsy.7vx3a32p.JdQjy1NxOWoshKDaRflUti"

/--
`generate salt password` is the hash that `GenerateFromPassword` makes with the
random `salt`; `compare hash password` is the error of
`CompareHashAndPassword`, `none` standing for nil.
-/
structure Bcrypt where
  generate : Bytes → Bytes → Bytes
  compare : Bytes → Bytes → Option GoError
  compare_generate : ∀ salt password, compare (generate salt password) password = none
  compare_defaultHash : compare defaultHash defaultPassword = none

/--
No hash is that of a second password.  bcrypt itself reads the first 72 bytes only, so
this is assumed where a result is about the passwords that are refused.
-/
structure Bcrypt.Exact (bcrypt : Bcrypt) : Prop where
  generate : ∀ salt password attempt,
    bcrypt.compare (bcrypt.generate salt password) attempt = none → attempt = password
  defaultHash : ∀ attempt,
    bcrypt.compare defaultHash attempt = none → attempt = defaultPassword

structure Env where
  bcrypt : Bcrypt
  /-- What SQLite stores when a text is inserted into an integer column. -/
  integerAffinity : Bytes → Cell

/-! ## A concrete environment -/

/-- Hashes are marked copies of the password; the default hash is special. -/
def markedCompare (hash attempt : Bytes) : Option GoError :=
  if hash = defaultHash then
    if attempt = defaultPassword then none else some .errMismatchedHashAndPassword
  else if hash = 0 :: attempt then none
  else some .errMismatchedHashAndPassword

theorem markedCompare_defaultHash (attempt : Bytes) :
    markedCompare defaultHash attempt = none ↔ attempt = defaultPassword := by
  simp [markedCompare]

theorem markedCompare_cons (password attempt : Bytes) :
    markedCompare (0 :: password) attempt = none ↔ attempt = password := by
  have hhead : some (0 : UInt8) ≠ defaultHash.head? := by decide
  have hne : (0 :: password : Bytes) ≠ defaultHash := fun h =>
    hhead (congrArg List.head? h)
  simp [markedCompare, hne, eq_comm]

def markedBcrypt : Bcrypt where
  generate _ password := 0 :: password
  compare := markedCompare
  compare_generate _ password := (markedCompare_cons password password).mpr rfl
  compare_defaultHash := (markedCompare_defaultHash _).mpr rfl

theorem markedBcrypt_exact : markedBcrypt.Exact where
  generate _ password attempt := (markedCompare_cons password attempt).mp
  defaultHash attempt := (markedCompare_defaultHash attempt).mp

def decimalAffinity (s : Bytes) : Cell :=
  match atoi s with
  | .ok n => .integer n
  | .error _ => .text s

def markedEnv : Env := ⟨markedBcrypt, decimalAffinity⟩

end DockerBastion
