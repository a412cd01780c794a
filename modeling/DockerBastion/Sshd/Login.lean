import DockerBastion.Docker
import DockerBastion.Store

/-!
# Logging in over SSH

`passwordCallback` runs two queries with a password comparison in between.  It is
cut there, so that other requests can come between the queries: `verifyUser` is
the part up to the comparison and `checkContainer` the rest.
-/

namespace DockerBastion.Sshd

open Foundation

def errInvalidContainerName : GoError :=
  .other (ascii ("login name must has the format of USERNAME.CONTAINER_NAME, " ++
    "where CONTAINER_NAME is the container that you want to login"))

def errInvalidPassword : GoError := .other (ascii "username or password is incorrect")

def errAccessDenied : GoError :=
  .other (ascii "you don't have the privileges to access the container")

def dot : UInt8 := 46

def getUsername (user : Bytes) : Bytes := (splitTwo dot user).headD []

def getContainerId (user : Bytes) : Bytes :=
  match splitTwo dot user with
  | [_, container] => container
  | _ => []

structure LoginFaults where
  prepareUser : Option GoError := none
  scanUser : Option GoError := none
  prepareContainer : Option GoError := none
  scanContainer : Option GoError := none

/-- The id of the user whose password is correct. -/
def verifyUser (env : Env) (faults : LoginFaults) (db : Store) (user pass : Bytes) :
    Except GoError Nat :=
  if (getContainerId user).length ≠ 12 then .error errInvalidContainerName
  else
    match faults.prepareUser, faults.scanUser with
    | some err, _ => .error err
    | none, some _ => .error errInvalidPassword
    | none, none =>
        match db.userByName (getUsername user) with
        | none => .error errInvalidPassword
        | some saved =>
            match env.bcrypt.compare saved.val.password pass with
            | some _ => .error errInvalidPassword
            | none => .ok saved.id

/-- The error of the second scan is discarded and leaves the flag at zero. -/
def checkContainer (faults : LoginFaults) (db : Store) (uid : Nat) (user : Bytes) :
    Except GoError Unit :=
  match faults.prepareContainer, faults.scanContainer with
  | some err, _ => .error err
  | none, some _ => .error errAccessDenied
  | none, none =>
      if db.hasContainer uid (getContainerId user ++ [percent]) then .ok ()
      else .error errAccessDenied

/--
The two queries read the tables `first` and `second`; `none` stands for the nil
error that lets the client in.
-/
def passwordCallback (env : Env) (faults : LoginFaults) (first second : Store)
    (user pass : Bytes) : Option GoError :=
  match verifyUser env faults first user pass with
  | .error err => some err
  | .ok uid =>
      match checkContainer faults second uid user with
      | .error err => some err
      | .ok () => none

/-! ## The two halves -/

theorem verifyUser_eq_ok {env : Env} {faults : LoginFaults} {db : Store}
    {user pass : Bytes} {uid : Nat} (h : verifyUser env faults db user pass = .ok uid) :
    (getContainerId user).length = 12 ∧
      ∃ u ∈ db.users, u.id = uid ∧ u.val.name = getUsername user ∧
        env.bcrypt.compare u.val.password pass = none := by
  unfold verifyUser at h
  split at h
  · cases h
  rename_i hlength
  refine ⟨not_not.mp hlength, ?_⟩
  split at h
  · cases h
  · cases h
  split at h
  · cases h
  rename_i u hfind
  obtain ⟨hu, hname⟩ := Store.userByName_eq_some_iff.mp hfind
  split at h
  · cases h
  rename_i hcompare
  cases h
  exact ⟨u, hu, rfl, hname, hcompare⟩

theorem verifyUser_ok {env : Env} {db : Store} {user pass : Bytes} {u : Row User}
    (hlength : (getContainerId user).length = 12) (hu : u ∈ db.users)
    (hname : u.val.name = getUsername user)
    (hpass : env.bcrypt.compare u.val.password pass = none) :
    verifyUser env {} db user pass = .ok u.id := by
  have hfind : db.userByName (getUsername user) = some u :=
    Store.userByName_eq_some_iff.mpr ⟨hu, hname⟩
  simp [verifyUser, hlength, hfind, hpass]

theorem checkContainer_eq_ok {faults : LoginFaults} {db : Store} {uid : Nat}
    {user : Bytes} (h : checkContainer faults db uid user = .ok ()) :
    ∃ r ∈ db.containers, r.val.userId = .integer uid ∧
      like (getContainerId user ++ [percent]) r.val.cid = true := by
  unfold checkContainer at h
  split at h
  · cases h
  · cases h
  split at h
  · exact Store.hasContainer_iff.mp ‹_›
  · cases h

theorem checkContainer_ok {db : Store} {uid : Nat} {user : Bytes} {r : Row Container}
    (hr : r ∈ db.containers) (huid : r.val.userId = .integer uid)
    (hlike : like (getContainerId user ++ [percent]) r.val.cid = true) :
    checkContainer {} db uid user = .ok () := by
  have hhas : db.hasContainer uid (getContainerId user ++ [percent]) = true :=
    Store.hasContainer_iff.mpr ⟨r, hr, huid, hlike⟩
  simp [checkContainer, hhas]

theorem passwordCallback_eq_none_iff {env : Env} {faults : LoginFaults}
    {first second : Store} {user pass : Bytes} :
    passwordCallback env faults first second user pass = none ↔
      ∃ uid, verifyUser env faults first user pass = .ok uid ∧
        checkContainer faults second uid user = .ok () := by
  unfold passwordCallback
  constructor
  · intro h
    split at h
    · cases h
    · rename_i uid hverify
      split at h
      · cases h
      · exact ⟨uid, hverify, ‹_›⟩
  · rintro ⟨uid, hverify, hcheck⟩
    simp only [hverify, hcheck]

/-! ## Login names -/

/-- The login name of the usage text: account, dot, short container id. -/
def loginName (name cid : Bytes) : Bytes := name ++ dot :: shortId cid

theorem getUsername_append {name : Bytes} (h : dot ∉ name) (container : Bytes) :
    getUsername (name ++ dot :: container) = name := by
  rw [getUsername, splitTwo_append h]
  rfl

theorem getContainerId_append {name : Bytes} (h : dot ∉ name) (container : Bytes) :
    getContainerId (name ++ dot :: container) = container := by
  rw [getContainerId, splitTwo_append h]

/-- A dot in the account name moves a part of it into the container field. -/
theorem getContainerId_length_gt {name : Bytes} (h : dot ∈ name) (container : Bytes) :
    container.length < (getContainerId (name ++ dot :: container)).length := by
  obtain ⟨head, tail, rfl, hhead⟩ := exists_first_sep h
  rw [List.append_assoc, List.cons_append, getContainerId_append hhead]
  simp
  omega

theorem split_loginName_iff (name container : Bytes) :
    (getUsername (name ++ dot :: container) = name ∧
      getContainerId (name ++ dot :: container) = container) ↔ dot ∉ name := by
  constructor
  · rintro ⟨-, hcontainer⟩ hdot
    have hlength := getContainerId_length_gt hdot container
    rw [hcontainer] at hlength
    exact lt_irrefl _ hlength
  · intro hdot
    exact ⟨getUsername_append hdot container, getContainerId_append hdot container⟩

theorem isLiteral_of_isHexDigit {b : UInt8} (h : isHexDigit b = true) :
    isLiteral b = true := by
  have hbounds := isHexDigit_bounds h
  have hpercent : b ≠ percent := by
    rintro rfl
    revert hbounds
    decide
  have hunderscore : b ≠ underscore := by
    rintro rfl
    revert hbounds
    decide
  have hpos : 0 < b.toNat := by omega
  have hlt : b.toNat < 0x80 := by omega
  simp [isLiteral, hpos, hlt, hpercent, hunderscore]

theorem isLiteral_of_shortId {id : Bytes} (h : isFullId id = true) :
    ∀ b ∈ shortId id, isLiteral b = true := fun _ hb =>
  isLiteral_of_isHexDigit (isHexDigit_of_isFullId h (List.mem_of_mem_take hb))

theorem like_shortId {id : Bytes} (h : isFullId id = true) :
    like (shortId id ++ [percent]) id = true := by
  have hself := like_literal_percent_self (isLiteral_of_shortId h) (id.drop 12)
  rwa [shortId, List.take_append_drop] at hself

/-! ## Container fields of twelve hexadecimal digits -/

/-- Twelve hexadecimal digits, in upper or lower case, stand at the front. -/
def startsAsId (text : Bytes) : Bool :=
  12 ≤ text.length && (folded (text.take 12)).all fun c => isHexDigit (UInt8.ofNat c)

theorem folded_of_isHexDigit {s : Bytes} (h : ∀ b ∈ s, isHexDigit b = true) :
    folded s = s.map UInt8.toNat := by
  refine List.map_congr_left fun b hb => ?_
  have hbounds := isHexDigit_bounds (h b hb)
  unfold lowerAscii
  split <;> omega

section LikeId

variable {field : Bytes} (hhex : ∀ b ∈ field, isHexDigit b = true)
  (hlength : field.length = 12)

include hhex hlength

private theorem folded_take_of_like {text : Bytes}
    (h : like (field ++ [percent]) text = true) :
    folded (text.take 12) = field.map UInt8.toNat := by
  have hfolded := (like_literal_percent
    (fun b hb => isLiteral_of_isHexDigit (hhex b hb)) text).mp h
  rwa [hlength, folded_of_isHexDigit hhex] at hfolded

theorem startsAsId_of_like {text : Bytes}
    (h : like (field ++ [percent]) text = true) : startsAsId text = true := by
  have hfolded := folded_take_of_like hhex hlength h
  have hlen : (text.take 12).length = 12 := by
    have := congrArg List.length hfolded
    simpa [folded, hlength] using this
  rw [List.length_take] at hlen
  simp only [startsAsId, hfolded, Bool.and_eq_true, decide_eq_true_eq, List.all_map,
    List.all_eq_true, Function.comp_apply, UInt8.ofNat_toNat]
  exact ⟨by omega, hhex⟩

theorem shortId_eq_of_like {id : Bytes} (hid : isFullId id = true)
    (h : like (field ++ [percent]) id = true) : shortId id = field := by
  have hfolded := folded_take_of_like hhex hlength h
  have hshort : ∀ b ∈ id.take 12, isHexDigit b = true := fun _ hb =>
    isHexDigit_of_isFullId hid (List.mem_of_mem_take hb)
  rw [folded_of_isHexDigit hshort] at hfolded
  exact List.map_injective_iff.mpr (fun _ _ => UInt8.toNat_inj.mp) hfolded

end LikeId

example : getContainerId (ascii "a.b.0123456789ab") = ascii "b.0123456789ab" := by
  decide

end DockerBastion.Sshd
