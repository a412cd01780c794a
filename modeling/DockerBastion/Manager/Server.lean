import DockerBastion.Store

/-!
# Starting the program and refreshing the containers
-/

namespace DockerBastion.Manager

open Foundation

def adminName : Bytes := ascii "admin"

def addDefaultUser (countFault insertFault : Option GoError) (now : Nat) (db : Store) :
    Except GoError Store :=
  match countFault with
  | some err => .error err
  | none =>
      if db.admins.rows.length = 0 then
        match db.exec insertFault (.insertAdmin adminName defaultHash now) with
        | .error err => .error err
        | .ok (db', _) => .ok db'
      else .ok db

/-- The failures of the steps of `run` in `main.go`, in their order. -/
structure StartFaults where
  initDB : Option GoError := none
  sshd : Option GoError := none
  sessionKey : Option GoError := none
  dockerClient : Option GoError := none
  count : Option GoError := none
  insert : Option GoError := none

def start (faults : StartFaults) (now : Nat) (db : Store) : Except GoError Store :=
  match faults.initDB, faults.sshd, faults.sessionKey, faults.dockerClient with
  | none, none, none, none => addDefaultUser faults.count faults.insert now db
  | some err, _, _, _ => .error err
  | none, some err, _, _ => .error err
  | none, none, some err, _ => .error err
  | none, none, none, some err => .error err

def refreshStmt (ids : List Bytes) : Stmt :=
  if ids.length = 0 then .deleteContainers else .deleteContainersNotIn ids

/-- The error of the statement is discarded. -/
def refreshContainers (ids : List Bytes) (fault : Option GoError) (db : Store) : Store :=
  match db.exec fault (refreshStmt ids) with
  | .error _ => db
  | .ok (db', _) => db'

end DockerBastion.Manager
