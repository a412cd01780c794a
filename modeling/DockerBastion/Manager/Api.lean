import DockerBastion.Manager.Response
import DockerBastion.Store

/-!
# The handlers of the management API

Each handler is given what it reads from its request, the failures of the
statements it executes, and the tables; it returns the response and the tables
it leaves.  What a handler checks before its first statement is a function of its
own.  `CreateContainer` and `DeleteContainer` call docker between reading the
request and touching the database, and are cut there.
-/

namespace DockerBastion.Manager

open Foundation

/-! ## Administrators -/

def loginParams (body : Option Fields) : Except Response (Bytes × Bytes) :=
  match body with
  | none => .error (({} : Response).writeHeader 400)
  | some req =>
      if (req.get "name").length < 3 ∨ (req.get "password").length < 3 then
        .error (({} : Response).writeHeader 400)
      else .ok (req.get "name", req.get "password")

/-- The response of `Login` and the id it stores in the session. -/
def login (env : Env) (body : Option Fields) (fault : Option GoError) (db : Store) :
    Response × Option Nat :=
  match loginParams body with
  | .error w => (w, none)
  | .ok (name, password) =>
      match fault with
      | some err => (showError err {}, none)
      | none =>
          match db.adminByName name with
          | none => (showError .errNoRows {}, none)
          | some admin =>
              match env.bcrypt.compare admin.val.password password with
              | some err => (showError err {}, none)
              | none => (({} : Response).writeHeader 204, some admin.id)

def newPassword (env : Env) (body : Option Fields) (salt : Except GoError Bytes) :
    Except Response Bytes :=
  match body with
  | none => .error (({} : Response).writeHeader 400)
  | some params =>
      if (params.get "password").length < 5 then
        .error (({} : Response).writeHeader 400)
      else
        match salt with
        | .error err => .error (showError err {})
        | .ok salt => .ok (env.bcrypt.generate salt (params.get "password"))

/-- `none` where the unchecked conversion of the session's uid panics. -/
def chPasswd (env : Env) (session : Session) (body : Option Fields)
    (salt : Except GoError Bytes) (fault : Option GoError) (db : Store) :
    Option (Response × Store) :=
  match newPassword env body salt with
  | .error w => some (w, db)
  | .ok passwd =>
      match session with
      | some (.int uid) =>
          match db.exec fault (.setAdminPassword passwd uid) with
          | .error err => some (showError err {}, db)
          | .ok (db', _) => some (({} : Response).writeHeader 204, db')
      | _ => none

/-! ## Users -/

def newUser (env : Env) (body : Option Fields) (salt : Except GoError Bytes) :
    Except Response (Bytes × Bytes) :=
  match body with
  | none => .error (({} : Response).writeHeader 400)
  | some req =>
      if (req.get "name").length < 3 ∨ (req.get "password").length < 3 then
        .error (({} : Response).writeHeader 400)
      else
        match salt with
        | .error _ => .error (({} : Response).writeHeader 500)
        | .ok salt =>
            .ok (req.get "name", env.bcrypt.generate salt (req.get "password"))

def addUser (env : Env) (body : Option Fields) (salt : Except GoError Bytes)
    (fault : Option GoError) (now : Nat) (db : Store) : Response × Store :=
  match newUser env body salt with
  | .error w => (w, db)
  | .ok (name, passwd) =>
      match db.exec fault (.insertUser name passwd now) with
      | .error err => (showError err {}, db)
      | .ok (db', id) => (({} : Response).write (.user name id), db')

structure TxFaults where
  begin : Option GoError := none
  first : Option GoError := none
  second : Option GoError := none
  commit : Option GoError := none

/-- What `DeleteUser` does between Begin and Commit. -/
def deleteUserTx (id : Int) (faults : TxFaults) (db : Store) : Except GoError Store :=
  match db.exec faults.first (.deleteUser id) with
  | .error err => .error err
  | .ok (db', _) =>
      match db'.exec faults.second (.deleteContainersOf id) with
      | .error err => .error err
      | .ok (db'', _) =>
          match faults.commit with
          | some err => .error err
          | none => .ok db''

def deleteUser (id : Bytes) (faults : TxFaults) (db : Store) : Response × Store :=
  match atoi id with
  | .error err => (showError (.numError id err) {}, db)
  | .ok uid =>
      match faults.begin with
      | some err => (showError err {}, db)
      | none =>
          match deleteUserTx uid faults db with
          | .error err => ((showError err {}).writeHeader 204, db)
          | .ok db' => (({} : Response).writeHeader 204, db')

/-! ## Grants -/

def grantParams (form : Form) : Except Response (Int × Bytes) :=
  match form.values "user_id", form.values "container" with
  | [userId], [container] =>
      match atoi userId with
      | .error err => .error (showError (.numError userId err) {})
      | .ok uid => .ok (uid, container)
  | _, _ =>
      .error ((({} : Response).writeHeader 400).write
        (.text (ascii "message") (ascii "user_id and container are required")))

def grant (form : Form) (fault : Option GoError) (now : Nat) (db : Store) :
    Response × Store :=
  match grantParams form with
  | .error w => (w, db)
  | .ok (uid, container) =>
      match db.exec fault (.insertContainer container (.integer uid) now) with
      | .error err => (showError err {}, db)
      | .ok (db', id) => (({} : Response).write (.priv id), db')

def revoke (id : Bytes) (fault : Option GoError) (db : Store) : Response × Store :=
  match atoi id with
  | .error err => (showError (.numError id err) {}, db)
  | .ok privId =>
      match db.exec fault (.deleteContainer privId) with
      | .error err => (showError err {}, db)
      | .ok (db', _) => (({} : Response).writeHeader 204, db')

/-! ## Containers -/

/-- The answers of docker to `CreateContainer`: create, pull, create again. -/
structure CreateOutcome where
  first : Except GoError Bytes
  pull : Option GoError := none
  second : Except GoError Bytes := .error .errNotFound

def createParams (body : Option Fields) : Except Response (Bytes × Bytes) :=
  match body with
  | none => .error (({} : Response).writeHeader 400)
  | some params =>
      if (params.get "name").length < 3 ∨ (params.get "image").length < 3 then
        .error (({} : Response).writeHeader 400)
      else .ok (params.get "name", params.get "user_id")

def dockerCreate (outcome : CreateOutcome) : Except GoError Bytes :=
  match outcome.first with
  | .error .errNotFound =>
      match outcome.pull with
      | none => outcome.second
      | some err => .error err
  | result => result

/-- What `CreateContainer` does once docker has created the container `cid`. -/
def insertCreated (env : Env) (cid userId : Bytes) (fault : Option GoError) (now : Nat)
    (db : Store) : Response × Store :=
  match db.exec fault (.insertContainer cid (env.integerAffinity userId) now) with
  | .error err => (showError err {}, db)
  | .ok (db', _) => (({} : Response).write (.text (ascii "cid") cid), db')

/-- What `DeleteContainer` does once docker has removed the container. -/
def deleteRemoved (id : Bytes) (fault : Option GoError) (db : Store) : Response × Store :=
  match db.exec fault (.deleteContainersByCid id) with
  | .error _ => (({} : Response).writeHeader 204, db)
  | .ok (db', _) => (({} : Response).writeHeader 204, db')

end DockerBastion.Manager
