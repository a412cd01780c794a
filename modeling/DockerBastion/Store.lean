import DockerBastion.Env
import DockerBastion.Foundation.Like
import DockerBastion.Foundation.Table

/-!
# The database

The three tables that `initDB` creates and the statements that the program
executes on them.  The unique indexes are the ones declared there: the name of a
user, the pair of cid and user_id of a grant, the name of an administrator.
-/

namespace DockerBastion

open Foundation

structure User where
  name : Bytes
  password : Bytes
  createdAt : Nat
  deriving DecidableEq, Repr

structure Container where
  cid : Bytes
  userId : Cell
  createdAt : Nat
  deriving DecidableEq, Repr

structure Admin where
  name : Bytes
  password : Bytes
  createdAt : Nat
  deriving DecidableEq, Repr

def Container.key (c : Container) : Bytes × Cell := (c.cid, c.userId)

structure Store where
  users : Table User User.name
  containers : Table Container Container.key
  admins : Table Admin Admin.name

def Store.empty : Store := ⟨.empty, .empty, .empty⟩

inductive Stmt where
  | insertUser (name password : Bytes) (createdAt : Nat)
  | deleteUser (id : Int)
  | deleteContainersOf (userId : Int)
  | insertContainer (cid : Bytes) (userId : Cell) (createdAt : Nat)
  | deleteContainer (id : Int)
  | deleteContainersByCid (cid : Bytes)
  | deleteContainers
  | deleteContainersNotIn (ids : List Bytes)
  | insertAdmin (name password : Bytes) (createdAt : Nat)
  | setAdminPassword (password : Bytes) (id : Int)

def uniqueFailed (columns : String) : GoError :=
  .other (ascii ("UNIQUE constraint failed: " ++ columns))

namespace Store

/-- `update admins set password = ? where id = ?`. -/
def updateAdmin (password : Bytes) (id : Int) (r : Row Admin) : Admin :=
  if (r.id : Int) = id then { r.val with password := password } else r.val

theorem updateAdmin_name (password : Bytes) (id : Int) (r : Row Admin) :
    (updateAdmin password id r).name = r.val.name := by
  unfold updateAdmin
  split <;> rfl

/-- The effect of a statement and the last inserted id (zero if it inserts none). -/
def apply (db : Store) : Stmt → Except GoError (Store × Nat)
  | .insertUser name password createdAt =>
      match db.users.insert ⟨name, password, createdAt⟩ with
      | some users => .ok ({ db with users := users }, db.users.nextId)
      | none => .error (uniqueFailed "users.name")
  | .deleteUser id =>
      .ok ({ db with users := db.users.deleteWhere fun r => (r.id : Int) = id }, 0)
  | .deleteContainersOf userId =>
      .ok ({ db with
        containers := db.containers.deleteWhere
          fun r => r.val.userId = .integer userId }, 0)
  | .insertContainer cid userId createdAt =>
      match db.containers.insert ⟨cid, userId, createdAt⟩ with
      | some containers =>
          .ok ({ db with containers := containers }, db.containers.nextId)
      | none => .error (uniqueFailed "containers.cid, containers.user_id")
  | .deleteContainer id =>
      .ok ({ db with
        containers := db.containers.deleteWhere fun r => (r.id : Int) = id }, 0)
  | .deleteContainersByCid cid =>
      .ok ({ db with
        containers := db.containers.deleteWhere fun r => r.val.cid = cid }, 0)
  | .deleteContainers =>
      .ok ({ db with containers := db.containers.deleteWhere fun _ => true }, 0)
  | .deleteContainersNotIn ids =>
      .ok ({ db with
        containers := db.containers.deleteWhere fun r => r.val.cid ∉ ids }, 0)
  | .insertAdmin name password createdAt =>
      match db.admins.insert ⟨name, password, createdAt⟩ with
      | some admins => .ok ({ db with admins := admins }, db.admins.nextId)
      | none => .error (uniqueFailed "admins.name")
  | .setAdminPassword password id =>
      .ok ({ db with
        admins := db.admins.update (updateAdmin password id)
          (updateAdmin_name password id) }, 0)

def exec (db : Store) (fault : Option GoError) (stmt : Stmt) :
    Except GoError (Store × Nat) :=
  match fault with
  | some err => .error err
  | none => db.apply stmt

@[simp] theorem exec_none (db : Store) (stmt : Stmt) :
    db.exec none stmt = db.apply stmt := rfl

@[simp] theorem exec_some (db : Store) (err : GoError) (stmt : Stmt) :
    db.exec (some err) stmt = .error err := rfl

/-! ## Queries -/

/-- `select id, password from users where name = ?`. -/
def userByName (db : Store) (name : Bytes) : Option (Row User) :=
  db.users.rows.find? fun r => r.val.name = name

/-- `select id, password from admins where name = ?`. -/
def adminByName (db : Store) (name : Bytes) : Option (Row Admin) :=
  db.admins.rows.find? fun r => r.val.name = name

/-- `select 1 from containers where user_id = ? and cid like ?`. -/
def hasContainer (db : Store) (userId : Int) (pattern : Bytes) : Bool :=
  db.containers.rows.any fun r =>
    r.val.userId = .integer userId && like pattern r.val.cid

/-- `select 1 from admins where id == ?`. -/
def hasAdmin (db : Store) (id : Int) : Bool :=
  db.admins.rows.any fun r => (r.id : Int) = id

theorem userByName_eq_some_iff {db : Store} {name : Bytes} {u : Row User} :
    db.userByName name = some u ↔ u ∈ db.users ∧ u.val.name = name :=
  Table.find?_key_eq_some_iff

theorem adminByName_eq_some_iff {db : Store} {name : Bytes} {a : Row Admin} :
    db.adminByName name = some a ↔ a ∈ db.admins ∧ a.val.name = name :=
  Table.find?_key_eq_some_iff

theorem hasContainer_iff {db : Store} {userId : Int} {pattern : Bytes} :
    db.hasContainer userId pattern = true ↔
      ∃ r ∈ db.containers, r.val.userId = .integer userId ∧
        like pattern r.val.cid = true := by
  simp [hasContainer, ← Table.mem_rows]

theorem hasAdmin_iff {db : Store} {id : Int} :
    db.hasAdmin id = true ↔ ∃ r ∈ db.admins, (r.id : Int) = id := by
  simp [hasAdmin, ← Table.mem_rows]

end Store

end DockerBastion
