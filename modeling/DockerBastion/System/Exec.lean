import DockerBastion.System.Change
import DockerBastion.System.Docker
import DockerBastion.System.Login

/-!
# Who gets into which container

What `passwordCallback` checks is a LIKE pattern made of the login name; what
`docker exec` gets is a docker reference made of the same bytes.  The two agree
when grants, container names and ids keep to the form that the login name was
meant to have, the first 12 digits of a container id.  In a run that keeps to it,
every `docker exec` enters a container that had been granted when the connection
was let in, and a grant that was taken away lets no one in any more.
-/

namespace DockerBastion.System

open Foundation Manager Sshd

/-- The container of a `Grant` that reaches the table. -/
def grantedText : Event → Option Bytes
  | .act (.grant form _ _) => (grantParams form).toOption.map Prod.snd
  | _ => none

/-- An event that keeps to container ids where the program counts on them. -/
structure Exact (s : State) (e : Event) : Prop where
  /-- What is granted under the digits of an id is the full id of a container. -/
  granted : ∀ text ∈ grantedText e, startsAsId text = true → text ∈ s.docker.issued
  /-- A new container differs from all others in the first 12 digits. -/
  created : ∀ id ∈ newId e, ∀ other ∈ s.docker.issued,
    shortId other = shortId id → other = id
  /-- No other container is named as the id that a session asks for. -/
  named : ∀ start ∈ execStart s e, ∀ c ∈ s.docker.containers,
    c.name = start.2 → start.2 <+: c.id

instance (s : State) (e : Event) : Decidable (Exact s e) :=
  decidable_of_iff
    ((∀ text ∈ grantedText e, startsAsId text = true → text ∈ s.docker.issued) ∧
      (∀ id ∈ newId e, ∀ other ∈ s.docker.issued,
        shortId other = shortId id → other = id) ∧
      ∀ start ∈ execStart s e, ∀ c ∈ s.docker.containers,
        c.name = start.2 → start.2 <+: c.id)
    ⟨fun h => ⟨h.1, h.2.1, h.2.2⟩, fun h => ⟨h.granted, h.created, h.named⟩⟩

structure IdsExact (s : State) : Prop where
  creating : ∀ request ∈ s.creating, request.1 ∈ s.docker.issued
  rows : ∀ r ∈ s.db.containers,
    startsAsId r.val.cid = true → r.val.cid ∈ s.docker.issued
  distinct : ∀ a ∈ s.docker.issued, ∀ b ∈ s.docker.issued,
    shortId a = shortId b → a = b

variable {env : Env}

theorem idsExact_initial : IdsExact .initial where
  creating := by simp [State.initial]
  rows := by simp [State.initial, Store.empty]
  distinct := by simp [State.initial, Docker.empty]

theorem idsExact_step {s : State} {e : Event} (h : IdsExact s) (he : Exact s e) :
    IdsExact (step env s e) where
  creating := by
    intro request hrequest
    rcases (step_docker e).creating request hrequest with hold | hnew
    · exact (step_docker e).follows.issued _ (h.creating request hold)
    · exact hnew
  rows := by
    intro r hr hid
    refine (step_docker e).follows.issued _ ?_
    rcases mem_containers_step hr with hold | ⟨container, hchange, rfl⟩
    · exact h.rows r hold hid
    · rcases addContainer_cases hchange with ⟨form, fault, now, uid, rfl, hparams, -⟩ |
        ⟨i, fault, now, userId, rfl, hcreating, -⟩
      · exact he.granted container.cid (by simp [grantedText, hparams, Except.toOption])
          hid
      · exact h.creating _ (List.mem_of_getElem? hcreating)
  distinct := by
    intro a ha b hb hshort
    rcases (step_docker e).issued a ha with ha | ha <;>
      rcases (step_docker e).issued b hb with hb | hb
    · exact h.distinct a ha b hb hshort
    · exact he.created b hb a ha hshort
    · exact (he.created a ha b hb hshort.symm).symm
    · exact Option.some.inj (ha.symm.trans hb)

theorem idsExact_run {events : List Event}
    (h : EachStep (step env) Exact .initial events) :
    IdsExact (run (step env) .initial events) :=
  (always_of_step (fun _ _ => idsExact_step) idsExact_initial h).last

/-! ## From `docker exec` back to the grant -/

/--
The password was that of a user with the name of the login, and container `cid`
was granted to that user.
-/
def Login.Granted {events : List Event} {k : Nat} (login : Login env events k)
    (cid : Bytes) : Prop :=
  (∃ u ∈ login.lookupState.db.users, u.id = login.uid ∧
    u.val.name = getUsername login.user ∧
    env.bcrypt.compare u.val.password login.pass = none) ∧
  ∃ r ∈ login.checkState.db.containers, r.val.userId = .integer login.uid ∧
    r.val.cid = cid

theorem execStart_eq_some {s : State} {e : Event} {k : Nat} {container : Bytes}
    (h : execStart s e = some (k, container)) :
    ∃ user uid, s.conns k = .established user uid ∧ container = getContainerId user := by
  unfold execStart at h
  split at h
  · split at h
    · split at h
      · rename_i hconn _
        cases h
        exact ⟨_, _, hconn, rfl⟩
      · cases h
    · cases h
  · cases h

/-- In an exact event, docker takes the twelve bytes for the digits of an id. -/
private theorem shortId_of_resolve {s : State} {e : Event} {k : Nat}
    {field cid : Bytes} (he : Exact s e) (hstart : execStart s e = some (k, field))
    (hresolve : s.docker.resolve field = some cid) (hlength : field.length = 12) :
    cid ∈ s.docker.issued ∧ shortId cid = field ∧
      ∀ b ∈ field, isHexDigit b = true := by
  obtain ⟨c, hc, rfl, href⟩ := Docker.resolve_eq_some hresolve
  have hissued := Docker.ids_issued _ c hc
  have hfull := Docker.issued_full _ c.id hissued
  have hfront : field <+: c.id := by
    rcases href with hid | hname | hfront
    · have hlong := length_of_isFullId hfull
      rw [hid, hlength] at hlong
      cases hlong
    · exact he.named _ hstart c hc hname
    · exact hfront
  refine ⟨hissued, ?_, fun b hb => isHexDigit_of_isFullId hfull (hfront.subset hb)⟩
  rw [shortId, ← hlength, ← List.prefix_iff_eq_take.mp hfront]

theorem granted_of_exec {events : List Event} {e : Event} {k : Nat}
    {container cid : Bytes} (hrun : EachStep (step env) Exact .initial events)
    (he : Exact (run (step env) .initial events) e)
    (hstart : execStart (run (step env) .initial events) e = some (k, container))
    (hresolve : (run (step env) .initial events).docker.resolve container = some cid)
    (login : Login env events k)
    (hlogin : ∃ user uid,
      (run (step env) .initial events).conns k = .established user uid ∧
        login.user = user ∧ login.uid = uid) :
    login.Granted cid := by
  obtain ⟨user, uid, hconn, huser, rfl⟩ := hlogin
  obtain ⟨user', uid', hconn', rfl⟩ := execStart_eq_some hstart
  obtain ⟨rfl, rfl⟩ : user = user' ∧ login.uid = uid' := by
    simpa [hconn] using hconn'
  subst huser
  obtain ⟨hlength, u, hu, hid, hname, hpass⟩ := verifyUser_eq_ok login.verified
  obtain ⟨r, hr, huid, hlike⟩ := checkContainer_eq_ok login.checked
  obtain ⟨hissued, hshort, hhex⟩ := shortId_of_resolve he hstart hresolve hlength
  -- the row that the check found is a full id, and starts with the same digits
  obtain ⟨rest, hrest⟩ := login.untilCheck_prefix
  have hcheck : EachStep (step env) Exact .initial login.untilCheck := by
    rw [← hrest] at hrun
    exact (eachStep_append.mp hrun).1
  have hrow := (idsExact_run hcheck).rows r hr (startsAsId_of_like hhex hlength hlike)
  have hrowShort := shortId_eq_of_like hhex hlength
    (Docker.issued_full _ _ hrow) hlike
  -- ids stay issued, so at the entry both ids count as different containers
  have hrowIssued : r.val.cid ∈ (run (step env) .initial events).docker.issued := by
    rw [← hrest, run_append]
    exact issued_run hrow rest
  have hcid := (idsExact_run hrun).distinct _ hrowIssued _ hissued
    (hrowShort.trans hshort.symm)
  exact ⟨⟨u, hu, hid, hname, hpass⟩, r, hr, huid, hcid⟩

/-- Whoever gets a `docker exec` had been granted the container when he logged in. -/
def ExecSafe (env : Env) (events : List Event) : Prop :=
  ∀ before e after k container cid, events = before ++ e :: after →
    execStart (run (step env) .initial before) e = some (k, container) →
    (run (step env) .initial before).docker.resolve container = some cid →
    ∃ login : Login env before k, login.Granted cid

theorem execSafe_of_exact (env : Env) (events : List Event)
    (h : EachStep (step env) Exact .initial events) : ExecSafe env events := by
  rintro before e after k container cid rfl hstart hresolve
  obtain ⟨hrun, he, -⟩ := eachStep_append.mp h
  obtain ⟨user, uid, hconn, -⟩ := execStart_eq_some hstart
  obtain ⟨login, huser, huid⟩ := exists_login hconn
  exact ⟨login, granted_of_exec hrun he hstart hresolve login
    ⟨user, uid, hconn, huser, huid⟩⟩

/-! ## Two runs -/

def exactRun : List Event :=
  [.started,
   .userAdded (ascii "bob") (ascii "secret"),
   .dockerCreate webId (ascii "web"),
   .granted (ascii "1") webId,
   .looked 0 (ascii "bob.0123456789ab") (ascii "secret"),
   .checked 0,
   .sessionOpened 0]

theorem execSafe_exactRun : ExecSafe markedEnv exactRun :=
  execSafe_of_exact markedEnv exactRun (by decide)

/--
Another container has a name that is a LIKE pattern for the granted one: the
check finds the granted container and docker takes the other one.
-/
def patternRun : List Event :=
  [.started,
   .userAdded (ascii "bob") (ascii "secret"),
   .dockerCreate webId (ascii "web"),
   .dockerCreate dbId (ascii "0___________"),
   .granted (ascii "1") webId,
   .looked 0 (ascii "bob.0___________") (ascii "secret"),
   .checked 0]

theorem patternRun_not_execSafe :
    ¬ ExecSafe markedEnv (patternRun ++ [.sessionOpened 0]) := by
  intro hsafe
  obtain ⟨login, -, r, hr, -, hcid⟩ := hsafe patternRun (.sessionOpened 0) [] 0
    (ascii "0___________") dbId rfl (by decide) (by decide)
  have hnever : Always (step markedEnv)
      (fun s => ∀ r ∈ s.db.containers, r.val.cid ≠ dbId) .initial patternRun := by
    decide
  obtain ⟨rest, hrest⟩ := login.untilCheck_prefix
  exact always_iff.mp hnever login.untilCheck rest hrest.symm r hr hcid

end DockerBastion.System
