import DockerBastion.System.Frame

/-!
# How a connection came to be established

A connection is established only by the second half of a `passwordCallback`
whose first half ran on the same connection before, for the same user name.  In
every run an established connection can therefore be traced back to the two
queries that let it in.
-/

namespace DockerBastion.System

open Foundation Manager Sshd

variable {env : Env} {s : State}

private theorem setConn_conns {k j : Nat} {c c' : Conn}
    (h : (s.setConn j c).conns k = c') : (k = j ∧ c = c') ∨ s.conns k = c' := by
  by_cases hk : k = j
  · subst hk
    exact .inl ⟨rfl, by simpa [State.setConn] using h⟩
  · exact .inr (by simpa [State.setConn, hk] using h)

private theorem conns_perform {a : Action} {k : Nat} {c : Conn}
    (hc : c ≠ .authenticating) (h : (perform env s a).conns k = c) :
    s.conns k = c ∨
      (∃ user pass faults uid, a = .lookupUser k user pass faults ∧
        verifyUser env faults s.db user pass = .ok uid ∧ c = .checking user uid) ∨
      (∃ faults user uid, a = .checkContainer k faults ∧
        s.conns k = .checking user uid ∧
        checkContainer faults s.db uid user = .ok () ∧ c = .established user uid) := by
  cases htouches : a.touchesConns with
  | false =>
      have hconns : (perform env s a).conns = s.conns :=
        (frame_perform a).conns htouches
      exact .inl (hconns ▸ h)
  | true =>
      cases a with
      | lookupUser j user pass faults =>
          simp only [perform, lookupUser] at h
          split at h
          · split at h
            · exact .inl h
            · rename_i uid hverify
              rcases setConn_conns h with ⟨rfl, hc'⟩ | hold
              · exact .inr (.inl ⟨user, pass, faults, uid, rfl, hverify, hc'.symm⟩)
              · exact .inl hold
          · exact .inl h
      | checkContainer j faults =>
          simp only [perform, checkConn] at h
          split at h
          · rename_i user uid hconn
            split at h
            · rcases setConn_conns h with ⟨rfl, hc'⟩ | hold
              · exact absurd hc'.symm hc
              · exact .inl hold
            · rename_i hcheck
              rcases setConn_conns h with ⟨rfl, hc'⟩ | hold
              · exact .inr (.inr ⟨faults, user, uid, rfl, hconn, hcheck, hc'.symm⟩)
              · exact .inl hold
          · exact .inl h
      | disconnect j =>
          rcases setConn_conns h with ⟨rfl, hc'⟩ | hold
          · exact absurd hc'.symm hc
          · exact .inl hold
      | _ => cases htouches

private theorem conns_step {e : Event} {k : Nat} {c : Conn} (hc : c ≠ .authenticating)
    (h : (step env s e).conns k = c) :
    s.conns k = c ∨
      (∃ user pass faults uid, e = .act (.lookupUser k user pass faults) ∧
        verifyUser env faults s.db user pass = .ok uid ∧ c = .checking user uid) ∨
      (∃ faults user uid, e = .act (.checkContainer k faults) ∧
        s.conns k = .checking user uid ∧
        checkContainer faults s.db uid user = .ok () ∧ c = .established user uid) := by
  cases e with
  | act a =>
      simp only [step] at h
      split at h
      · rcases conns_perform hc h with hold | ⟨user, pass, faults, uid, rfl, hrest⟩ |
          ⟨faults, user, uid, rfl, hrest⟩
        · exact .inl hold
        · exact .inr (.inl ⟨user, pass, faults, uid, rfl, hrest⟩)
        · exact .inr (.inr ⟨faults, user, uid, rfl, hrest⟩)
      · exact .inl h
  | stop => exact absurd h.symm hc
  | start faults now =>
      simp only [step] at h
      split at h
      · exact .inl h
      · split at h <;> exact .inl h
  | dockerCreate id name =>
      simp only [step] at h
      split at h <;> exact .inl h
  | dockerRename id name =>
      simp only [step] at h
      split at h <;> exact .inl h
  | dockerRemove id => exact .inl h

theorem checking_step {e : Event} {k uid : Nat} {user : Bytes}
    (h : (step env s e).conns k = .checking user uid) :
    s.conns k = .checking user uid ∨
      ∃ pass faults, e = .act (.lookupUser k user pass faults) ∧
        verifyUser env faults s.db user pass = .ok uid := by
  rcases conns_step (by simp) h with hold | ⟨_, pass, faults, _, rfl, hverify, heq⟩ |
    ⟨_, _, _, _, _, _, heq⟩
  · exact .inl hold
  · cases heq
    exact .inr ⟨pass, faults, rfl, hverify⟩
  · cases heq

theorem established_step {e : Event} {k uid : Nat} {user : Bytes}
    (h : (step env s e).conns k = .established user uid) :
    s.conns k = .established user uid ∨
      ∃ faults, e = .act (.checkContainer k faults) ∧
        s.conns k = .checking user uid ∧
        checkContainer faults s.db uid user = .ok () := by
  rcases conns_step (by simp) h with hold | ⟨_, _, _, _, _, _, heq⟩ |
    ⟨faults, _, _, rfl, hconn, hcheck, heq⟩
  · exact .inl hold
  · cases heq
  · cases heq
    exact .inr ⟨faults, rfl, hconn, hcheck⟩

/-! ## The login behind a connection -/

/--
The `passwordCallback` that let connection `k` in, found in the run of `events`:
`before` leads up to its first query and `between` from there to its second.
-/
structure Login (env : Env) (events : List Event) (k : Nat) where
  user : Bytes
  pass : Bytes
  uid : Nat
  before : List Event
  between : List Event
  after : List Event
  first : LoginFaults
  second : LoginFaults
  split : events =
    before ++ .act (.lookupUser k user pass first) ::
      (between ++ .act (.checkContainer k second) :: after)
  verified :
    verifyUser env first (run (step env) .initial before).db user pass = .ok uid
  pending : Always (step env) (fun s => s.conns k = .checking user uid)
    (run (step env) .initial (before ++ [.act (.lookupUser k user pass first)])) between
  checked :
    checkContainer second
      (run (step env) .initial
        (before ++ .act (.lookupUser k user pass first) :: between)).db uid user = .ok ()
  kept : Always (step env) (fun s => s.conns k = .established user uid)
    (run (step env) .initial
      (before ++ .act (.lookupUser k user pass first) ::
        (between ++ [.act (.checkContainer k second)]))) after

namespace Login

variable {events : List Event} {k : Nat}

/-- The events before the second query. -/
def untilCheck (login : Login env events k) : List Event :=
  login.before ++
    .act (.lookupUser k login.user login.pass login.first) :: login.between

def lookupState (login : Login env events k) : State :=
  run (step env) .initial login.before

def checkState (login : Login env events k) : State :=
  run (step env) .initial login.untilCheck

def faults (login : Login env events k) : LoginFaults :=
  { login.first with
    prepareContainer := login.second.prepareContainer
    scanContainer := login.second.scanContainer }

theorem untilCheck_prefix (login : Login env events k) : login.untilCheck <+: events := by
  refine ⟨.act (.checkContainer k login.second) :: login.after, ?_⟩
  conv => rhs; rw [login.split]
  simp [untilCheck]

end Login

theorem exists_login {events : List Event} {k uid : Nat} {user : Bytes}
    (h : (run (step env) .initial events).conns k = .established user uid) :
    ∃ login : Login env events k, login.user = user ∧ login.uid = uid := by
  -- back to the second query, and from there to the first
  obtain ⟨upto, check, after, rfl, hnot, hkept⟩ :=
    exists_last_change (P := fun s : State => s.conns k = .established user uid)
      (by simp [State.initial]) h
  rcases established_step hkept.first with hold | ⟨second, rfl, hchecking, hcheck⟩
  · exact absurd hold hnot
  obtain ⟨before, lookup, between, rfl, hnot, hpending⟩ :=
    exists_last_change (P := fun s : State => s.conns k = .checking user uid)
      (by simp [State.initial]) hchecking
  rcases checking_step hpending.first with hold | ⟨pass, first, rfl, hverify⟩
  · exact absurd hold hnot
  exact ⟨
    { user := user
      pass := pass
      uid := uid
      before := before
      between := between
      after := after
      first := first
      second := second
      split := by simp
      verified := hverify
      pending := by simpa using hpending
      checked := hcheck
      kept := by simpa using hkept }, rfl, rfl⟩

end DockerBastion.System
