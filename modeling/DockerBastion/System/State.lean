import DockerBastion.Docker
import DockerBastion.Manager.Api
import DockerBastion.Manager.Auth
import DockerBastion.Manager.Server
import DockerBastion.Sshd.Login
import Mathlib.Logic.Function.Basic

/-!
# The running system

One process serves the management API and SSH over the same tables, next to a
docker daemon that others use as well.  An event is one atomic step: a statement
or a transaction, a change in docker, or a message on a connection.  Requests
that do more than one such step are cut, and what they remember in between is
part of the state.  An event that the state does not admit changes nothing.

The requests to the API are those that the middleware has let through; only the
one that reads the session, `ChPasswd`, comes with it and passes the middleware
here.
-/

namespace DockerBastion.System

open Foundation Manager Sshd

/-- An SSH connection; `uid` is the id that its `passwordCallback` found. -/
inductive Conn where
  | authenticating
  | checking (user : Bytes) (uid : Nat)
  | established (user : Bytes) (uid : Nat)
  deriving DecidableEq, Repr

structure State where
  up : Bool
  db : Store
  docker : Docker
  /-- Requests to `CreateContainer` between docker and the table: cid and user_id. -/
  creating : List (Bytes × Bytes)
  /-- Requests to `DeleteContainer` between docker and the table. -/
  removing : List Bytes
  /-- The list that the current pass of `refreshContainers` has taken. -/
  listing : Option (List Bytes)
  conns : Nat → Conn

def State.initial : State :=
  ⟨false, .empty, .empty, [], [], none, fun _ => .authenticating⟩

inductive Action where
  | login (body : Option Fields) (fault : Option GoError)
  | chPasswd (session : Session) (authFault : Bool) (body : Option Fields)
      (salt : Except GoError Bytes) (fault : Option GoError)
  | addUser (body : Option Fields) (salt : Except GoError Bytes)
      (fault : Option GoError) (now : Nat)
  | deleteUser (id : Bytes) (faults : TxFaults)
  | grant (form : Form) (fault : Option GoError) (now : Nat)
  | revoke (id : Bytes) (fault : Option GoError)
  | createContainer (body : Option Fields) (outcome : CreateOutcome)
  | insertCreated (i : Nat) (fault : Option GoError) (now : Nat)
  | deleteContainer (id : Bytes) (fault : Option GoError)
  | deleteRemoved (i : Nat) (fault : Option GoError)
  | listContainers (fault : Option GoError)
  | deleteStale (fault : Option GoError)
  | lookupUser (k : Nat) (user pass : Bytes) (faults : LoginFaults)
  | checkContainer (k : Nat) (faults : LoginFaults)
  | openChannel (k : Nat) (type : Bytes) (acceptFails : Bool)
  | disconnect (k : Nat)

inductive Event where
  | stop
  | start (faults : StartFaults) (now : Nat)
  | dockerCreate (id name : Bytes)
  | dockerRename (id name : Bytes)
  | dockerRemove (id : Bytes)
  | act (a : Action)

namespace State

/-- The process ends; the tables and docker stay. -/
def stop (s : State) : State :=
  { State.initial with db := s.db, docker := s.docker }

def setConn (s : State) (k : Nat) (c : Conn) : State :=
  { s with conns := Function.update s.conns k c }

end State

section Requests

variable (env : Env) (s : State)

/--
Docker's part of `CreateContainer`.  A creation of which the client gets no answer is an
event `dockerCreate` and an error here.
-/
def createContainer (body : Option Fields) (outcome : CreateOutcome) : State :=
  match createParams body, dockerCreate outcome with
  | .ok (name, userId), .ok cid =>
      match s.docker.create cid name with
      | none => s
      | some docker =>
          { s with docker := docker, creating := s.creating ++ [(cid, userId)] }
  | _, _ => s

/-- The table's part of `CreateContainer`; docker is told to start afterwards. -/
def insertCreatedAt (i : Nat) (fault : Option GoError) (now : Nat) : State :=
  match s.creating[i]? with
  | none => s
  | some (cid, userId) =>
      let creating := s.creating.eraseIdx i
      match s.db.exec fault (.insertContainer cid (env.integerAffinity userId) now) with
      | .error _ => { s with creating := creating }
      | .ok _ =>
          { s with
            creating := creating
            db := (insertCreated env cid userId fault now s.db).2
            docker := s.docker.start cid }

/-- Docker's part of `DeleteContainer`, `id` being any reference. -/
def deleteContainer (id : Bytes) (fault : Option GoError) : State :=
  match fault, s.docker.resolve id with
  | none, some cid =>
      { s with docker := s.docker.remove cid, removing := s.removing ++ [id] }
  | _, _ => s

def deleteRemovedAt (i : Nat) (fault : Option GoError) : State :=
  match s.removing[i]? with
  | none => s
  | some id =>
      { s with
        removing := s.removing.eraseIdx i
        db := (deleteRemoved id fault s.db).2 }

/-- The first half of a pass of `refreshContainers`; an error ends the pass. -/
def listContainers (fault : Option GoError) : State :=
  match s.listing, fault with
  | none, none => { s with listing := some s.docker.ids }
  | _, _ => s

def deleteStale (fault : Option GoError) : State :=
  match s.listing with
  | none => s
  | some ids => { s with listing := none, db := refreshContainers ids fault s.db }

def changePassword (session : Session) (authFault : Bool) (body : Option Fields)
    (salt : Except GoError Bytes) (fault : Option GoError) : State :=
  match authMidware (ascii "POST") (ascii "/api/passwd") session authFault s.db with
  | some _ => s
  | none =>
      match chPasswd env session body salt fault s.db with
      | none => s
      | some (_, db) => { s with db := db }

/-- `passwordCallback` up to the comparison; a client may try any number of names. -/
def lookupUser (k : Nat) (user pass : Bytes) (faults : LoginFaults) : State :=
  match s.conns k with
  | .authenticating =>
      match verifyUser env faults s.db user pass with
      | .error _ => s
      | .ok uid => s.setConn k (.checking user uid)
  | _ => s

/-- The rest of `passwordCallback`; the first success establishes the connection. -/
def checkConn (k : Nat) (faults : LoginFaults) : State :=
  match s.conns k with
  | .checking user uid =>
      match checkContainer faults s.db uid user with
      | .error _ => s.setConn k .authenticating
      | .ok () => s.setConn k (.established user uid)
  | _ => s

def perform : Action → State
  | .login _ _ => s
  | .chPasswd session authFault body salt fault =>
      changePassword env s session authFault body salt fault
  | .addUser body salt fault now =>
      { s with db := (Manager.addUser env body salt fault now s.db).2 }
  | .deleteUser id faults => { s with db := (Manager.deleteUser id faults s.db).2 }
  | .grant form fault now => { s with db := (Manager.grant form fault now s.db).2 }
  | .revoke id fault => { s with db := (Manager.revoke id fault s.db).2 }
  | .createContainer body outcome => createContainer s body outcome
  | .insertCreated i fault now => insertCreatedAt env s i fault now
  | .deleteContainer id fault => deleteContainer s id fault
  | .deleteRemoved i fault => deleteRemovedAt s i fault
  | .listContainers fault => listContainers s fault
  | .deleteStale fault => deleteStale s fault
  | .lookupUser k user pass faults => lookupUser env s k user pass faults
  | .checkContainer k faults => checkConn s k faults
  | .openChannel _ _ _ => s
  | .disconnect k => s.setConn k .authenticating

def step : Event → State
  | .stop => s.stop
  | .start faults now =>
      if s.up then s
      else
        match Manager.start faults now s.db with
        | .error _ => s
        | .ok db => { s with up := true, db := db }
  | .dockerCreate id name =>
      match s.docker.create id name with
      | none => s
      | some docker => { s with docker := docker }
  | .dockerRename id name =>
      match s.docker.rename id name with
      | none => s
      | some docker => { s with docker := docker }
  | .dockerRemove id => { s with docker := s.docker.remove id }
  | .act a => if s.up then perform env s a else s

/-! ## What the outside sees -/

def respond : Action → Option Response
  | .login body fault => some (Manager.login env body fault s.db).1
  | .chPasswd session authFault body salt fault =>
      match authMidware (ascii "POST") (ascii "/api/passwd") session authFault s.db with
      | some status => some (({} : Response).writeHeader status)
      | none => (chPasswd env session body salt fault s.db).map Prod.fst
  | .addUser body salt fault now =>
      some (Manager.addUser env body salt fault now s.db).1
  | .deleteUser id faults => some (Manager.deleteUser id faults s.db).1
  | .grant form fault now => some (Manager.grant form fault now s.db).1
  | .revoke id fault => some (Manager.revoke id fault s.db).1
  | .createContainer body outcome =>
      match createParams body, dockerCreate outcome with
      | .error w, _ => some w
      | .ok _, .error err => some (showError err {})
      | .ok _, .ok _ => none
  | .insertCreated i fault now =>
      s.creating[i]?.map fun (cid, userId) =>
        (insertCreated env cid userId fault now s.db).1
  | .deleteContainer id fault =>
      match fault, s.docker.resolve id with
      | none, some _ => none
      | none, none =>
          some ((({} : Response).writeHeader 500).write (.message .errNotFound))
      | some err, _ => some ((({} : Response).writeHeader 500).write (.message err))
  | .deleteRemoved i fault =>
      s.removing[i]?.map fun id => (deleteRemoved id fault s.db).1
  | _ => none

def answer : Event → Option Response
  | .act a => if s.up then respond env s a else none
  | _ => none

/-- The connection and the container for which `handleChannel` starts `docker exec`. -/
def execStart : Event → Option (Nat × Bytes)
  | .act (.openChannel k type acceptFails) =>
      match s.up, s.conns k with
      | true, .established user _ =>
          if type = ascii "session" ∧ acceptFails = false then
            some (k, getContainerId user)
          else none
      | _, _ => none
  | _ => none

end Requests

/-! ## Events that no failure disturbs -/

def webId : Bytes :=
  ascii "0123456789abcdef0123456789abcdef0123456789abcdef0123456789abcdef"

def dbId : Bytes :=
  ascii "fedcba9876543210fedcba9876543210fedcba9876543210fedcba9876543210"

namespace Event

def started : Event := .start {} 0

def userAdded (name pass : Bytes) : Event :=
  .act (.addUser (some [(ascii "name", name), (ascii "password", pass)]) (.ok []) none 0)

def userDeleted (id : Bytes) : Event := .act (.deleteUser id {})

def granted (userId container : Bytes) : Event :=
  .act (.grant [(ascii "user_id", userId), (ascii "container", container)] none 0)

def revoked (id : Bytes) : Event := .act (.revoke id none)

def looked (k : Nat) (user pass : Bytes) : Event := .act (.lookupUser k user pass {})

def checked (k : Nat) : Event := .act (.checkContainer k {})

def sessionOpened (k : Nat) : Event := .act (.openChannel k (ascii "session") false)

end Event

end DockerBastion.System
