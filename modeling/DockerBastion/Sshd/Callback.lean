import DockerBastion.Foundation.LikePrefix
import DockerBastion.Sshd.Login

/-!
# What `passwordCallback` decides

A login name is meant to be an account name, a dot, and the first 12 characters of
the id of a granted container.  `passwordCallback` puts the part behind the dot into
a LIKE pattern.  Here its decision is compared with the meaning, for all contents of
the tables.
-/

namespace DockerBastion.Sshd

open Foundation

/-- The login as it is meant. -/
def MayEnter (env : Env) (db : Store) (user pass : Bytes) : Prop :=
  ∃ name container, user = name ++ dot :: container ∧ dot ∉ name ∧
    container.length = 12 ∧
    ∃ u ∈ db.users, u.val.name = name ∧ env.bcrypt.compare u.val.password pass = none ∧
      ∃ r ∈ db.containers, r.val.userId = .integer u.id ∧ r.val.cid.take 12 = container

def LoginFaults.Fails (faults : LoginFaults) : Prop :=
  faults.prepareUser ≠ none ∨ faults.scanUser ≠ none ∨ faults.prepareContainer ≠ none ∨
    faults.scanContainer ≠ none

/-- Some grant of the user matches the pattern exactly if some grant starts with it. -/
def GrantsAgree (db : Store) (uid : Nat) (container : Bytes) : Prop :=
  (∃ r ∈ db.containers, r.val.userId = .integer uid ∧
    like (container ++ [percent]) r.val.cid = true) ↔
  ∃ r ∈ db.containers, r.val.userId = .integer uid ∧ r.val.cid.take 12 = container

variable {env : Env} {user pass : Bytes}

private theorem faults_of_verifyUser {faults : LoginFaults} {db : Store} {uid : Nat}
    (h : verifyUser env faults db user pass = .ok uid) :
    faults.prepareUser = none ∧ faults.scanUser = none := by
  unfold verifyUser at h
  split at h
  · cases h
  split at h
  · cases h
  · cases h
  · exact ⟨‹_›, ‹_›⟩

private theorem faults_of_checkContainer {faults : LoginFaults} {db : Store} {uid : Nat}
    (h : checkContainer faults db uid user = .ok ()) :
    faults.prepareContainer = none ∧ faults.scanContainer = none := by
  unfold checkContainer at h
  split at h
  · cases h
  · cases h
  · exact ⟨‹_›, ‹_›⟩

theorem passwordCallback_of_fails {faults : LoginFaults} (h : faults.Fails)
    (first second : Store) :
    passwordCallback env faults first second user pass ≠ none := by
  intro haccept
  obtain ⟨uid, hverify, hcheck⟩ := passwordCallback_eq_none_iff.mp haccept
  obtain ⟨hprepareUser, hscanUser⟩ := faults_of_verifyUser hverify
  obtain ⟨hprepareContainer, hscanContainer⟩ := faults_of_checkContainer hcheck
  simp [LoginFaults.Fails, hprepareUser, hscanUser, hprepareContainer,
    hscanContainer] at h

/-! ## The decision and its meaning, side by side -/

theorem passwordCallback_accepts_iff {db : Store} :
    passwordCallback env {} db db user pass = none ↔
      (getContainerId user).length = 12 ∧
        ∃ u ∈ db.users, u.val.name = getUsername user ∧
          env.bcrypt.compare u.val.password pass = none ∧
          ∃ r ∈ db.containers, r.val.userId = .integer u.id ∧
            like (getContainerId user ++ [percent]) r.val.cid = true := by
  rw [passwordCallback_eq_none_iff]
  constructor
  · rintro ⟨uid, hverify, hcheck⟩
    obtain ⟨hlength, u, hu, rfl, hname, hpass⟩ := verifyUser_eq_ok hverify
    exact ⟨hlength, u, hu, hname, hpass, checkContainer_eq_ok hcheck⟩
  · rintro ⟨hlength, u, hu, hname, hpass, r, hr, huid, hlike⟩
    exact ⟨u.id, verifyUser_ok hlength hu hname hpass, checkContainer_ok hr huid hlike⟩

private theorem dot_mem_of_length (h : (getContainerId user).length = 12) : dot ∈ user := by
  by_contra hdot
  have hdrop : user.dropWhile (· != dot) = [] := by
    rw [List.dropWhile_eq_nil_iff]
    intro b hb
    simp only [bne_iff_ne, ne_eq]
    rintro rfl
    exact hdot hb
  simp [getContainerId, splitTwo, hdrop] at h

theorem mayEnter_iff {db : Store} :
    MayEnter env db user pass ↔
      (getContainerId user).length = 12 ∧
        ∃ u ∈ db.users, u.val.name = getUsername user ∧
          env.bcrypt.compare u.val.password pass = none ∧
          ∃ r ∈ db.containers, r.val.userId = .integer u.id ∧
            r.val.cid.take 12 = getContainerId user := by
  constructor
  · rintro ⟨name, container, rfl, hdot, hlength, hrest⟩
    rw [getUsername_append hdot, getContainerId_append hdot]
    exact ⟨hlength, hrest⟩
  · rintro ⟨hlength, hrest⟩
    obtain ⟨name, container, rfl, hdot⟩ := exists_first_sep (dot_mem_of_length hlength)
    rw [getUsername_append hdot, getContainerId_append hdot] at hrest
    rw [getContainerId_append hdot] at hlength
    exact ⟨name, container, rfl, hdot, hlength, hrest⟩

theorem accepts_iff_mayEnter_iff {db : Store} :
    (passwordCallback env {} db db user pass = none ↔ MayEnter env db user pass) ↔
      ∀ u ∈ db.users, u.val.name = getUsername user →
        env.bcrypt.compare u.val.password pass = none →
          (getContainerId user).length = 12 →
            GrantsAgree db u.id (getContainerId user) := by
  rw [passwordCallback_accepts_iff, mayEnter_iff]
  constructor
  · intro hiff u hu hname hpass hlength
    -- the name is unique, so both sides are about this user
    have honly : ∀ v ∈ db.users, v.val.name = getUsername user → v = u :=
      fun v hv hvname => Table.eq_of_key_eq hv hu (hvname.trans hname.symm)
    constructor
    · intro hlike
      obtain ⟨-, v, hv, hvname, -, hstarts⟩ := hiff.mp ⟨hlength, u, hu, hname, hpass, hlike⟩
      exact honly v hv hvname ▸ hstarts
    · intro hstarts
      obtain ⟨-, v, hv, hvname, -, hlike⟩ :=
        hiff.mpr ⟨hlength, u, hu, hname, hpass, hstarts⟩
      exact honly v hv hvname ▸ hlike
  · intro hagree
    constructor
    · rintro ⟨hlength, u, hu, hname, hpass, hlike⟩
      exact ⟨hlength, u, hu, hname, hpass, (hagree u hu hname hpass hlength).mp hlike⟩
    · rintro ⟨hlength, u, hu, hname, hpass, hstarts⟩
      exact ⟨hlength, u, hu, hname, hpass, (hagree u hu hname hpass hlength).mpr hstarts⟩

/-! ## Login names that are always decided as meant -/

def oneGrant (name hash cid : Bytes) : Store where
  users := ⟨[⟨1, ⟨name, hash, 0⟩⟩], List.pairwise_singleton _ _, List.pairwise_singleton _ _⟩
  containers :=
    ⟨[⟨1, ⟨cid, .integer 1, 0⟩⟩], List.pairwise_singleton _ _, List.pairwise_singleton _ _⟩
  admins := .empty

private theorem take_eq_iff_prefix {container cid : Bytes} (h : container.length = 12) :
    cid.take 12 = container ↔ container <+: cid := by
  rw [List.prefix_iff_eq_take, h, eq_comm]

private theorem grantsAgree_oneGrant {name hash cid container : Bytes}
    (h : container.length = 12) :
    GrantsAgree (oneGrant name hash cid) 1 container ↔
      (like (container ++ [percent]) cid = true ↔ container <+: cid) := by
  simp [GrantsAgree, oneGrant, ← Table.mem_rows, take_eq_iff_prefix h]

theorem isExact_of_accepts_iff
    (h : ∀ db pass, passwordCallback env {} db db user pass = none ↔
      MayEnter env db user pass)
    (hlength : (getContainerId user).length = 12) :
    ∀ b ∈ getContainerId user, isExact b = true := by
  refine (like_percent_exact_iff _).mp fun cid => ?_
  have hagree := accepts_iff_mayEnter_iff.mp
    (h (oneGrant (getUsername user) (env.bcrypt.generate [] []) cid) [])
    ⟨1, ⟨getUsername user, env.bcrypt.generate [] [], 0⟩⟩ (List.mem_singleton_self _) rfl
    (env.bcrypt.compare_generate _ _) hlength
  exact (grantsAgree_oneGrant hlength).mp hagree

theorem grantsAgree_of_isExact {container : Bytes} (hlength : container.length = 12)
    (h : ∀ b ∈ container, isExact b = true) (db : Store) (uid : Nat) :
    GrantsAgree db uid container := by
  simp only [GrantsAgree, (like_percent_exact_iff container).mpr h,
    take_eq_iff_prefix hlength]

/--
A failing database call never lets anyone in.  Otherwise a login is decided as it is
meant exactly if the pattern and the 12 bytes agree on the grants of the user; they
agree on all tables exactly if the bytes are ASCII without NUL, letters, `%` and `_`.
-/
theorem accepts_iff_mayEnter (env : Env) (user : Bytes) :
    (∀ faults db pass, faults.Fails →
      passwordCallback env faults db db user pass ≠ none) ∧
    (∀ db pass,
      (passwordCallback env {} db db user pass = none ↔ MayEnter env db user pass) ↔
        ∀ u ∈ db.users, u.val.name = getUsername user →
          env.bcrypt.compare u.val.password pass = none →
            (getContainerId user).length = 12 →
              GrantsAgree db u.id (getContainerId user)) ∧
    ((∀ db pass,
      passwordCallback env {} db db user pass = none ↔ MayEnter env db user pass) ↔
        ((getContainerId user).length = 12 →
          ∀ b ∈ getContainerId user, isExact b = true)) := by
  refine ⟨fun faults db pass h => passwordCallback_of_fails h db db,
    fun db pass => accepts_iff_mayEnter_iff, isExact_of_accepts_iff, ?_⟩
  intro hexact db pass
  rw [accepts_iff_mayEnter_iff]
  intro u _ _ _ hlength
  exact grantsAgree_of_isExact hlength (hexact hlength) db u.id

theorem underscores_accepted :
    ¬ (passwordCallback markedEnv {}
        (oneGrant (ascii "bob") (0 :: ascii "secret") (ascii "0123456789abcdef"))
        (oneGrant (ascii "bob") (0 :: ascii "secret") (ascii "0123456789abcdef"))
        (ascii "bob.____________") (ascii "secret") = none ↔
      MayEnter markedEnv
        (oneGrant (ascii "bob") (0 :: ascii "secret") (ascii "0123456789abcdef"))
        (ascii "bob.____________") (ascii "secret")) := by
  rw [mayEnter_iff]
  decide

end DockerBastion.Sshd
