import DockerBastion.Foundation.Object
import DockerBastion.Manager.Users

/-!
# The users in the dashboard

`normalize_user_list` groups the entries of `Users` by name.  It keeps them in a plain
object, where a name that `Object.prototype` has as well seems to be present before it
has been added.  The id and the creation time of a name are those of its first entry.
-/

namespace DockerBastion.Dashboard

open Foundation Manager

def objectPrototype : List Bytes :=
  ["constructor", "hasOwnProperty", "isPrototypeOf", "propertyIsEnumerable",
    "toLocaleString", "toString", "valueOf", "__defineGetter__", "__defineSetter__",
    "__lookupGetter__", "__lookupSetter__", "__proto__"].map ascii

structure UserContainer where
  cid : Bytes
  privId : Nat
  deriving DecidableEq, Repr

structure ListedUser where
  id : Nat
  name : Bytes
  createdAt : Option Nat
  containers : List UserContainer
  deriving DecidableEq, Repr

abbrev UserList := Object Bytes ListedUser

inductive Thrown where
  | typeError
  deriving DecidableEq, Repr

def userContainer (user : UserPriv) : UserContainer := ⟨user.cid, user.privId⟩

/-- An inherited property is an object without `containers`, on which `push` throws. -/
def addEntry (users : UserList) (user : UserPriv) : Except Thrown UserList :=
  match users.read objectPrototype user.name with
  | .own listed =>
      .ok (users.set user.name
        { listed with containers := listed.containers ++ [userContainer user] })
  | .inherited => .error .typeError
  | .missing =>
      .ok (users.set user.name
        ⟨user.userId, user.name, user.createdAt, [userContainer user]⟩)

def normalizeUserList (data : List UserPriv) : Except Thrown UserList :=
  data.foldlM addEntry .empty

/-! ## Grouping by name -/

/-- The id and the creation time of the first entry of a name, and all its containers. -/
def listed (data : List UserPriv) (name : Bytes) : Option ListedUser :=
  match data.filter fun user => user.name = name with
  | [] => none
  | user :: users =>
      some ⟨user.userId, name, user.createdAt, (user :: users).map userContainer⟩

/-- What the list has for a name stands for every entry of the name. -/
def StandsFor (data : List UserPriv) (name : Bytes) : Option ListedUser → Prop
  | none => ∀ user ∈ data, user.name ≠ name
  | some entry =>
      entry.name = name ∧ (∃ user ∈ data, user.name = name) ∧
        (∀ user ∈ data, user.name = name →
          user.userId = entry.id ∧ user.createdAt = entry.createdAt) ∧
        entry.containers = (data.filter fun user => user.name = name).map userContainer

/-- The list has an own property for each name, and for no others. -/
def Grouped (data : List UserPriv) : Except Thrown UserList → Prop
  | .ok users => ∀ name, StandsFor data name (users.own name)
  | .error _ => False

/-- The entries of a name agree on whose they are. -/
def OneUserPerName (data : List UserPriv) : Prop :=
  ∀ user ∈ data, ∀ other ∈ data, user.name = other.name →
    user.userId = other.userId ∧ user.createdAt = other.createdAt

def change : Option ListedUser → UserPriv → ListedUser
  | some listed, user =>
      { listed with containers := listed.containers ++ [userContainer user] }
  | none, user => ⟨user.userId, user.name, user.createdAt, [userContainer user]⟩

def putEntry (users : UserList) (user : UserPriv) : UserList :=
  users.set user.name (change (users.own user.name) user)

theorem local_putEntry : Object.Local UserPriv.name change putEntry := by
  intro users user name
  rw [putEntry, Object.own_set]
  split
  · rename_i heq
    rw [heq]
  · rfl

theorem addEntry_eq_putEntry {users : UserList} {user : UserPriv}
    (h : user.name ∉ objectPrototype) : addEntry users user = .ok (putEntry users user) := by
  unfold addEntry putEntry Object.read
  cases users.own user.name with
  | some listed => rfl
  | none => simp only [if_neg h, change]

theorem addEntry_inherited {users : UserList} {user : UserPriv}
    (h : user.name ∈ objectPrototype) (hown : users.own user.name = none) :
    addEntry users user = .error .typeError := by
  simp only [addEntry, Object.read, hown, if_pos h]

theorem foldlM_eq_foldl {data : List UserPriv}
    (h : ∀ user ∈ data, user.name ∉ objectPrototype) (users : UserList) :
    data.foldlM addEntry users = .ok (data.foldl putEntry users) := by
  induction data generalizing users with
  | nil => rfl
  | cons user data ih =>
      rw [List.forall_mem_cons] at h
      rw [List.foldlM_cons, addEntry_eq_putEntry h.1]
      exact ih h.2 _

theorem foldlM_eq_error {data : List UserPriv} {user : UserPriv} (huser : user ∈ data)
    (hname : user.name ∈ objectPrototype) {users : UserList}
    (hown : ∀ name ∈ objectPrototype, users.own name = none) :
    data.foldlM addEntry users = .error .typeError := by
  induction data generalizing users with
  | nil => cases huser
  | cons first data ih =>
      rw [List.foldlM_cons]
      by_cases hfirst : first.name ∈ objectPrototype
      · rw [addEntry_inherited hfirst (hown _ hfirst)]
        rfl
      · rw [addEntry_eq_putEntry hfirst]
        refine ih ?_ fun name hinherited => ?_
        · rcases List.mem_cons.mp huser with rfl | hrest
          · exact absurd hname hfirst
          · exact hrest
        · have hne : name ≠ first.name := fun heq => hfirst (heq ▸ hinherited)
          rw [putEntry, Object.own_set, if_neg hne]
          exact hown name hinherited

theorem foldl_change (data : List UserPriv) (u : ListedUser) :
    data.foldl (fun v user => some (change v user)) (some u) =
      some { u with containers := u.containers ++ data.map userContainer } := by
  induction data generalizing u with
  | nil => simp
  | cons user data ih =>
      rw [List.foldl_cons, change, ih]
      simp

private theorem of_filter_eq_cons {data users : List UserPriv} {user : UserPriv}
    {name : Bytes} (h : (data.filter fun user => user.name = name) = user :: users) :
    user ∈ data ∧ user.name = name := by
  have hmem : user ∈ data.filter fun user => user.name = name := by
    rw [h]
    exact List.mem_cons_self
  simpa using List.mem_filter.mp hmem

theorem own_foldl_putEntry (data : List UserPriv) (name : Bytes) :
    (data.foldl putEntry .empty).own name = listed data name := by
  rw [Object.own_foldl local_putEntry, Object.own_empty, listed]
  split
  · rename_i hnone
    rw [hnone]
    rfl
  · rename_i user users hsome
    have huser : user.name = name := (of_filter_eq_cons hsome).2
    rw [hsome, List.foldl_cons, change, foldl_change]
    simp [huser]

theorem standsFor_listed_iff (data : List UserPriv) :
    (∀ name, StandsFor data name (listed data name)) ↔ OneUserPerName data := by
  constructor
  · intro h user huser other hother hname
    have hstands := h other.name
    have hmem : other ∈ data.filter fun user => user.name = other.name :=
      List.mem_filter.mpr ⟨hother, by simp⟩
    unfold listed at hstands
    split at hstands
    · rename_i hnone
      rw [hnone] at hmem
      cases hmem
    · obtain ⟨-, -, hall, -⟩ := hstands
      obtain ⟨hid, hcreated⟩ := hall user huser hname
      obtain ⟨hid', hcreated'⟩ := hall other hother rfl
      exact ⟨hid.trans hid'.symm, hcreated.trans hcreated'.symm⟩
  · intro h name
    unfold listed
    split
    · rename_i hnone
      intro user huser hname
      have hmem : user ∈ data.filter fun user => user.name = name :=
        List.mem_filter.mpr ⟨huser, by simpa using hname⟩
      rw [hnone] at hmem
      cases hmem
    · rename_i first rest hsome
      obtain ⟨hfirst, hname⟩ := of_filter_eq_cons hsome
      refine ⟨rfl, ⟨first, hfirst, hname⟩, ?_, by rw [hsome]⟩
      intro user huser heq
      exact h user huser first hfirst (heq.trans hname.symm)

/--
The users are grouped right exactly if no name is one of `Object.prototype` and all
entries of a name are of one user.
-/
theorem grouped_iff (data : List UserPriv) :
    Grouped data (normalizeUserList data) ↔
      (∀ user ∈ data, user.name ∉ objectPrototype) ∧ OneUserPerName data := by
  by_cases hnames : ∀ user ∈ data, user.name ∉ objectPrototype
  · have hok : normalizeUserList data = .ok (data.foldl putEntry .empty) :=
      foldlM_eq_foldl hnames .empty
    rw [hok, ← standsFor_listed_iff, and_iff_right hnames]
    simp only [Grouped, own_foldl_putEntry]
  · refine iff_of_false ?_ fun h => hnames h.1
    push Not at hnames
    obtain ⟨user, huser, hname⟩ := hnames
    have herror : normalizeUserList data = .error .typeError :=
      foldlM_eq_error huser hname fun _ _ => rfl
    rw [herror]
    exact id

/--
In a listing that no failure has disturbed, a name stands for one user, as long as the
names of the users are UTF-8 without a zero byte.
-/
theorem oneUserPerName_of_users {db : Store} {data : List UserPriv}
    (h : users none none (fun _ => none) db = .ok data)
    (hplain : ∀ user ∈ db.users, Plain user.val.name) : OneUserPerName data := by
  intro user huser other hother hname
  obtain ⟨row, hrow, hrowName, hid, hcreated⟩ := user_of_users h huser
  obtain ⟨row', hrow', hrowName', hid', hcreated'⟩ := user_of_users h hother
  rw [replaceInvalid_goString_eq_iff.mpr (hplain row hrow)] at hrowName
  rw [replaceInvalid_goString_eq_iff.mpr (hplain row' hrow')] at hrowName'
  obtain rfl : row = row' :=
    Table.eq_of_key_eq hrow hrow' (hrowName.trans (hname.trans hrowName'.symm))
  exact ⟨hid.symm.trans hid', hcreated.symm.trans hcreated'⟩

def constructorEntry : UserPriv where
  userId := 1
  name := ascii "constructor"

/-- Two users whose names differ behind a zero byte. -/
def zeroNames : Store where
  users := ⟨[⟨1, ⟨ascii "abc" ++ 0 :: ascii "x", [], 0⟩⟩,
    ⟨2, ⟨ascii "abc" ++ 0 :: ascii "y", [], 0⟩⟩], by decide, by decide⟩
  containers := .empty
  admins := .empty

def zeroEntries : List UserPriv :=
  [{ userId := 1, name := ascii "abc", createdAt := some 0 },
   { userId := 2, name := ascii "abc", createdAt := some 0 }]

theorem not_grouped :
    ¬ Grouped [constructorEntry] (normalizeUserList [constructorEntry]) ∧
      users none none (fun _ => none) zeroNames = .ok zeroEntries ∧
        ¬ Grouped zeroEntries (normalizeUserList zeroEntries) := by
  refine ⟨?_, by decide, ?_⟩
  · have herror : normalizeUserList [constructorEntry] = .error .typeError := by
      rfl
    rw [herror]
    exact id
  · have hok : normalizeUserList zeroEntries = .ok (zeroEntries.foldl putEntry .empty) := by
      rfl
    rw [hok]
    intro h
    have hstands := h (ascii "abc")
    rw [own_foldl_putEntry] at hstands
    obtain ⟨-, -, hall, -⟩ := hstands
    obtain ⟨hid, -⟩ := hall ⟨2, ascii "abc", some 0, 0, [], none⟩ (by decide) rfl
    exact absurd hid (by decide)

end DockerBastion.Dashboard
