import DockerBastion.Ssh.Userauth
import DockerBastion.System.Login

/-!
# Logging in, packet by packet

Here the connections of the running system are what `serverHandshake` makes of the
packets of a client.  The first query of `passwordCallback` comes some time after
the packet that asks for it, and the second one after the comparison.  A packet on
which the process panics stops the process for everybody.

The system of packets simulates the system whose connections are only
authenticating, checking or established, so what holds there of every run holds of
every sequence of packets.
-/

namespace DockerBastion.System

open Foundation Manager Sshd Ssh

/-- `uid` is what the first query of the current call of `passwordCallback` found. -/
structure Auth where
  handshake : Handshake
  uid : Option Nat

namespace Auth

def start : Auth := ⟨.start, none⟩

def conn (a : Auth) : Conn :=
  match a.handshake.stage, a.uid with
  | .calling user _, some uid => .checking user uid
  | .accepted user, some uid => .established user uid
  | _, _ => .authenticating

/-- Nothing has been found yet when a handshake goes on. -/
def unlessPanicked (h : Handshake) : Except Panic Auth :=
  match h.stage with
  | .closed (.panic panic) => .error panic
  | _ => .ok ⟨h, none⟩

def receive (a : Auth) (p : Packet) (write : Option SshError) : Except Panic Auth :=
  match a.handshake.stage with
  | .service | .userauth =>
      unlessPanicked (a.handshake.step bastionConfig (.packet p write))
  | _ => .ok a

/-- The callback returns; what it has found is kept with a connection that it lets in. -/
def returned (a : Auth) (verdict : Except GoError Nat) (write : Option SshError) : Auth :=
  match verdict with
  | .error err => ⟨a.handshake.step bastionConfig (.returned (some err) write), none⟩
  | .ok uid => ⟨a.handshake.step bastionConfig (.returned none write), some uid⟩

end Auth

/-- The `conns` of `base` are not used. -/
structure Server where
  base : State
  auths : Nat → Auth

def Server.initial : Server := ⟨.initial, fun _ => .start⟩

inductive ServerEvent where
  | packet (k : Nat) (p : Packet) (write : Option SshError)
  | lookup (k : Nat) (faults : LoginFaults) (write : Option SshError)
  | check (k : Nat) (faults : LoginFaults) (write : Option SshError)
  | readFails (k : Nat) (err : SshError)
  /-- The connection is over, and its number is free for another one. -/
  | ended (k : Nat)
  | system (e : Event)

def Event.touchesConns : Event → Bool
  | .act a => a.touchesConns
  | _ => false

namespace Server

def setAuth (s : Server) (k : Nat) (a : Auth) : Server :=
  { s with auths := Function.update s.auths k a }

def stop (s : Server) : Server := ⟨s.base.stop, fun _ => .start⟩

def packet (s : Server) (k : Nat) (p : Packet) (write : Option SshError) : Server :=
  match (s.auths k).receive p write with
  | .error _ => s.stop
  | .ok a => s.setAuth k a

section Queries

variable (env : Env) (s : Server) (k : Nat) (faults : LoginFaults) (write : Option SshError)

def lookup : Server :=
  match (s.auths k).handshake.stage, (s.auths k).uid with
  | .calling user pass, none =>
      match verifyUser env faults s.base.db user pass with
      | .error err => s.setAuth k ((s.auths k).returned (.error err) write)
      | .ok uid => s.setAuth k { s.auths k with uid := some uid }
  | _, _ => s

def check : Server :=
  match (s.auths k).handshake.stage, (s.auths k).uid with
  | .calling user _, some uid =>
      match checkContainer faults s.base.db uid user with
      | .error err => s.setAuth k ((s.auths k).returned (.error err) write)
      | .ok () => s.setAuth k ((s.auths k).returned (.ok uid) write)
  | _, _ => s

end Queries

def readFails (s : Server) (k : Nat) (err : SshError) : Server :=
  s.setAuth k
    { s.auths k with
      handshake := (s.auths k).handshake.step bastionConfig (.readFails err) }

def ended (s : Server) (k : Nat) : Server :=
  match (s.auths k).handshake.stage with
  | .accepted _ | .closed _ => s.setAuth k .start
  | _ => s

def system (env : Env) (s : Server) (e : Event) : Server :=
  match e with
  | .stop => s.stop
  | e => if e.touchesConns then s else { s with base := System.step env s.base e }

def connStep (env : Env) (s : Server) : ServerEvent → Server
  | .packet k p write => s.packet k p write
  | .lookup k faults write => s.lookup env k faults write
  | .check k faults write => s.check k faults write
  | .readFails k err => s.readFails k err
  | .ended k => s.ended k
  | .system _ => s

def step (env : Env) (s : Server) : ServerEvent → Server
  | .system e => s.system env e
  | e => if s.base.up then s.connStep env e else s

/-- The connection and the container for which `handleChannel` starts `docker exec`. -/
def execStart (s : Server) : ServerEvent → Option (Nat × Bytes)
  | .system (.act (.openChannel k type acceptFails)) =>
      match s.base.up, (s.auths k).handshake.stage with
      | true, .accepted user =>
          if type = ascii "session" ∧ acceptFails = false then
            some (k, getContainerId user)
          else none
      | _, _ => none
  | _ => none

def abs (s : Server) : State := { s.base with conns := fun k => (s.auths k).conn }

end Server

/-! ## The simulation -/

def connTranslate (s : Server) : ServerEvent → List Event
  | .packet k p write =>
      match (s.auths k).receive p write with
      | .error _ => [.stop]
      | .ok _ => []
  | .lookup k faults _ =>
      match (s.auths k).handshake.stage, (s.auths k).uid with
      | .calling user pass, none => [.act (.lookupUser k user pass faults)]
      | _, _ => []
  | .check k faults write =>
      match (s.auths k).handshake.stage, (s.auths k).uid with
      | .calling _ _, some _ =>
          .act (.checkContainer k faults) ::
            (if write.isSome then [.act (.disconnect k)] else [])
      | _, _ => []
  | .ended k =>
      match (s.auths k).handshake.stage with
      | .accepted _ | .closed _ => [.act (.disconnect k)]
      | _ => []
  | .readFails _ _ | .system _ => []

/-- The steps of the system without packets that an event stands for. -/
def translate (s : Server) : ServerEvent → List Event
  | .system e => if e.touchesConns then [] else [e]
  | e => if s.base.up then connTranslate s e else []

section Auth

variable {a a' : Auth} {p : Packet} {write : Option SshError}

@[simp] theorem conn_start : Auth.start.conn = .authenticating := rfl

theorem conn_of_none (h : Handshake) : (Auth.mk h none).conn = .authenticating := by
  unfold Auth.conn
  split
  · rename_i h
    cases h
  · rename_i h
    cases h
  · rfl

theorem conn_of_calling {user pass : Bytes} {uid : Nat}
    (hstage : a.handshake.stage = .calling user pass) (huid : a.uid = some uid) :
    a.conn = .checking user uid := by
  simp [Auth.conn, hstage, huid]

theorem conn_of_waiting (h : a.handshake.stage = .service ∨ a.handshake.stage = .userauth) :
    a.conn = .authenticating := by
  rcases h with h | h <;> simp [Auth.conn, h]

theorem conn_unlessPanicked {h : Handshake} (hok : Auth.unlessPanicked h = .ok a) :
    a.conn = .authenticating := by
  unfold Auth.unlessPanicked at hok
  split at hok
  · cases hok
  · cases hok
    exact conn_of_none h

theorem conn_receive (h : a.receive p write = .ok a') : a'.conn = a.conn := by
  unfold Auth.receive at h
  split at h
  · rename_i hstage
    rw [conn_of_waiting (.inl hstage), conn_unlessPanicked h]
  · rename_i hstage
    rw [conn_of_waiting (.inr hstage), conn_unlessPanicked h]
  · cases h
    rfl

theorem conn_readFails (err : SshError) :
    (Auth.mk (a.handshake.step bastionConfig (.readFails err)) a.uid).conn = a.conn := by
  simp only [Handshake.step]
  split
  · rename_i hstage
    rw [conn_of_waiting (.inl hstage)]
    rfl
  · rename_i hstage
    rw [conn_of_waiting (.inr hstage)]
    rfl
  · rfl

theorem conn_returned_error (err : GoError) :
    (a.returned (.error err) write).conn = .authenticating :=
  conn_of_none _

theorem conn_returned_ok {user pass : Bytes} {uid : Nat}
    (hstage : a.handshake.stage = .calling user pass) :
    (a.returned (.ok uid) write).conn =
      if write.isSome then .authenticating else .established user uid := by
  cases write <;>
    simp [Auth.returned, Handshake.step, hstage, Handshake.succeed, Handshake.reply,
      Handshake.close, Auth.conn]

end Auth

section Simulates

variable {env : Env} {s : Server} {k : Nat}

theorem abs_setAuth (a : Auth) : (s.setAuth k a).abs = s.abs.setConn k a.conn := by
  simp only [Server.abs, Server.setAuth, State.setConn]
  congr 1
  funext j
  by_cases hj : j = k
  · subst hj
    simp
  · simp [hj]

theorem setConn_of_eq {s : State} {c : Conn} (h : s.conns k = c) : s.setConn k c = s := by
  rw [State.setConn, ← h, Function.update_eq_self]

theorem abs_setAuth_of_conn {a : Auth} (h : a.conn = (s.auths k).conn) :
    (s.setAuth k a).abs = s.abs := by
  rw [abs_setAuth]
  exact setConn_of_eq h.symm

theorem abs_stop : s.stop.abs = s.abs.stop := rfl

/-- An action that does not touch the connections does not read them either. -/
theorem perform_conns {s : State} {a : Action} (h : a.touchesConns = false)
    (conns : Nat → Conn) :
    perform env { s with conns := conns } a = { perform env s a with conns := conns } := by
  cases a with
  | lookupUser k user pass faults => cases h
  | checkContainer k faults => cases h
  | disconnect k => cases h
  | chPasswd session authFault body salt fault =>
      simp only [perform, changePassword]
      split
      · rfl
      · split <;> rfl
  | createContainer body outcome =>
      simp only [perform, createContainer]
      split
      · split <;> rfl
      · rfl
  | insertCreated i fault now =>
      simp only [perform, insertCreatedAt]
      split
      · rfl
      · split <;> rfl
  | deleteContainer id fault =>
      simp only [perform, deleteContainer]
      split <;> rfl
  | deleteRemoved i fault =>
      simp only [perform, deleteRemovedAt]
      split <;> rfl
  | listContainers fault =>
      simp only [perform, listContainers]
      split <;> rfl
  | deleteStale fault =>
      simp only [perform, deleteStale]
      split <;> rfl
  | _ => rfl

theorem step_conns {s : State} {e : Event} (h : e.touchesConns = false) (hstop : e ≠ .stop)
    (conns : Nat → Conn) :
    step env { s with conns := conns } e = { step env s e with conns := conns } := by
  cases e with
  | stop => exact absurd rfl hstop
  | act a =>
      simp only [step]
      split
      · exact perform_conns h conns
      · rfl
  | start faults now =>
      simp only [step]
      split
      · rfl
      · split <;> rfl
  | dockerCreate id name =>
      simp only [step]
      split <;> rfl
  | dockerRename id name =>
      simp only [step]
      split <;> rfl
  | dockerRemove id => rfl

theorem abs_packet (p : Packet) (write : Option SshError) :
    (s.packet k p write).abs =
      run (step env) s.abs (connTranslate s (.packet k p write)) := by
  simp only [Server.packet, connTranslate]
  cases hreceive : (s.auths k).receive p write with
  | error panic => exact abs_stop
  | ok a => exact abs_setAuth_of_conn (conn_receive hreceive)

theorem abs_lookup (hup : s.base.up = true) (faults : LoginFaults) (write : Option SshError) :
    (s.lookup env k faults write).abs =
      run (step env) s.abs (connTranslate s (.lookup k faults write)) := by
  have hupAbs : s.abs.up = true := hup
  simp only [Server.lookup, connTranslate]
  split
  · rename_i user pass hstage huid
    have hconn : s.abs.conns k = .authenticating := by
      simp [Server.abs, Auth.conn, hstage, huid]
    have hdb : s.abs.db = s.base.db := rfl
    simp only [run_cons, run_nil, step, hupAbs, if_true, perform, lookupUser, hconn, hdb]
    cases verifyUser env faults s.base.db user pass with
    | error err =>
        refine abs_setAuth_of_conn ?_
        rw [conn_returned_error]
        exact hconn.symm
    | ok uid =>
        have hchecking : (Auth.mk (s.auths k).handshake (some uid)).conn =
            .checking user uid := conn_of_calling hstage rfl
        simp only [abs_setAuth, hchecking]
  · rfl

theorem abs_check (hup : s.base.up = true) (faults : LoginFaults) (write : Option SshError) :
    (s.check k faults write).abs =
      run (step env) s.abs (connTranslate s (.check k faults write)) := by
  have hupAbs : s.abs.up = true := hup
  simp only [Server.check, connTranslate]
  split
  · rename_i user pass uid hstage huid
    have hconn : s.abs.conns k = .checking user uid := conn_of_calling hstage huid
    have hdb : s.abs.db = s.base.db := rfl
    have hfirst : step env s.abs (.act (.checkContainer k faults)) =
        checkConn s.abs k faults := by
      simp only [step, hupAbs, if_true, perform]
    have hsecond : ∀ c, step env (s.abs.setConn k c) (.act (.disconnect k)) =
        s.abs.setConn k .authenticating := by
      intro c
      simp only [step, State.setConn, hupAbs, if_true, perform, Function.update_idem]
    simp only [run_cons, hfirst, checkConn, hconn, hdb]
    cases checkContainer faults s.base.db uid user with
    | error err =>
        simp only [abs_setAuth, conn_returned_error]
        cases write with
        | none => rfl
        | some err => exact (hsecond _).symm
    | ok _ =>
        simp only [abs_setAuth, conn_returned_ok hstage]
        cases write with
        | none => rfl
        | some err => exact (hsecond _).symm
  · rfl

theorem abs_ended (hup : s.base.up = true) :
    (s.ended k).abs = run (step env) s.abs (connTranslate s (.ended k)) := by
  have hupAbs : s.abs.up = true := hup
  simp only [Server.ended, connTranslate]
  split
  · simp [abs_setAuth, step, hupAbs, perform]
  · simp [abs_setAuth, step, hupAbs, perform]
  · rfl

theorem abs_system (e : Event) :
    (s.system env e).abs = run (step env) s.abs (translate s (.system e)) := by
  cases htouches : e.touchesConns with
  | true =>
      have hsystem : s.system env e = s := by
        cases e with
        | act a => simp [Server.system, htouches]
        | _ => cases htouches
      simp [hsystem, translate, htouches]
  | false =>
      by_cases hstop : e = .stop
      · subst hstop
        rfl
      · have hsystem : s.system env e = { s with base := step env s.base e } := by
          cases e <;> first | exact absurd rfl hstop | simp [Server.system, htouches]
        have htranslate : translate s (.system e) = [e] := by
          simp [translate, htouches]
        rw [hsystem, htranslate]
        exact (step_conns htouches hstop _).symm

theorem abs_connStep (hup : s.base.up = true) (e : ServerEvent) :
    (s.connStep env e).abs = run (step env) s.abs (connTranslate s e) := by
  cases e with
  | packet k p write => exact abs_packet p write
  | lookup k faults write => exact abs_lookup hup faults write
  | check k faults write => exact abs_check hup faults write
  | readFails k err => exact abs_setAuth_of_conn (conn_readFails err)
  | ended k => exact abs_ended hup
  | system e => rfl

theorem abs_step (s : Server) (e : ServerEvent) :
    (s.step env e).abs = run (step env) s.abs (translate s e) := by
  by_cases hsystem : ∃ event, e = .system event
  · obtain ⟨event, rfl⟩ := hsystem
    exact abs_system event
  · push Not at hsystem
    have hstep : s.step env e = if s.base.up then s.connStep env e else s := by
      cases e <;> first | rfl | exact absurd rfl (hsystem _)
    have htranslate : translate s e = if s.base.up then connTranslate s e else [] := by
      cases e <;> first | rfl | exact absurd rfl (hsystem _)
    rw [hstep, htranslate]
    split
    · exact abs_connStep ‹_› e
    · rfl

end Simulates

/-! ## What a step can do to one connection -/

section Steps

variable {env : Env} {s : Server} {e : ServerEvent} {k : Nat}

/-- The process is stopped, or panics on a packet. -/
def Stops (s : Server) : ServerEvent → Prop
  | .system e => e = .stop
  | .packet j p write => ∃ panic, (s.auths j).receive p write = .error panic
  | _ => False

/-- The next stage of connection `k`, if the event is about it. -/
inductive Advances (env : Env) (s : Server) (k : Nat) : ServerEvent → Auth → Prop
  | stopped {event} : Stops s event → Advances env s k event .start
  | ended : (∀ user pass, (s.auths k).handshake.stage ≠ .calling user pass) →
      Advances env s k (.ended k) .start
  | received {p write a} :
      (s.auths k).receive p write = .ok a → Advances env s k (.packet k p write) a
  | rejected {faults write user pass err} :
      (s.auths k).handshake.stage = .calling user pass → (s.auths k).uid = none →
      verifyUser env faults s.base.db user pass = .error err →
      Advances env s k (.lookup k faults write) ((s.auths k).returned (.error err) write)
  | found {faults write user pass uid} :
      (s.auths k).handshake.stage = .calling user pass → (s.auths k).uid = none →
      verifyUser env faults s.base.db user pass = .ok uid →
      Advances env s k (.lookup k faults write) { s.auths k with uid := some uid }
  | denied {faults write user pass uid err} :
      (s.auths k).handshake.stage = .calling user pass → (s.auths k).uid = some uid →
      checkContainer faults s.base.db uid user = .error err →
      Advances env s k (.check k faults write) ((s.auths k).returned (.error err) write)
  | passed {faults write user pass uid} :
      (s.auths k).handshake.stage = .calling user pass → (s.auths k).uid = some uid →
      checkContainer faults s.base.db uid user = .ok () →
      Advances env s k (.check k faults write) ((s.auths k).returned (.ok uid) write)
  | failed {err} :
      Advances env s k (.readFails k err)
        { s.auths k with
          handshake := (s.auths k).handshake.step bastionConfig (.readFails err) }

theorem auths_setAuth {j : Nat} {a : Auth} :
    (s.setAuth j a).auths k = if k = j then a else s.auths k := by
  simp only [Server.setAuth, Function.update_apply]

theorem auths_connStep :
    (s.connStep env e).auths k = s.auths k ∨
      Advances env s k e ((s.connStep env e).auths k) := by
  cases e with
  | packet j p write =>
      simp only [Server.connStep, Server.packet]
      split
      · rename_i panic hreceive
        exact .inr (.stopped ⟨panic, hreceive⟩)
      · rename_i a hreceive
        rw [auths_setAuth]
        split
        · rename_i hj
          subst hj
          exact .inr (.received hreceive)
        · exact .inl rfl
  | lookup j faults write =>
      simp only [Server.connStep, Server.lookup]
      split
      · rename_i user pass hstage huid
        split
        · rename_i err hverify
          rw [auths_setAuth]
          split
          · rename_i hj
            subst hj
            exact .inr (.rejected hstage huid hverify)
          · exact .inl rfl
        · rename_i uid hverify
          rw [auths_setAuth]
          split
          · rename_i hj
            subst hj
            exact .inr (.found hstage huid hverify)
          · exact .inl rfl
      · exact .inl rfl
  | check j faults write =>
      simp only [Server.connStep, Server.check]
      split
      · rename_i user pass uid hstage huid
        split
        · rename_i err hcheck
          rw [auths_setAuth]
          split
          · rename_i hj
            subst hj
            exact .inr (.denied hstage huid hcheck)
          · exact .inl rfl
        · rename_i hcheck
          rw [auths_setAuth]
          split
          · rename_i hj
            subst hj
            exact .inr (.passed hstage huid hcheck)
          · exact .inl rfl
      · exact .inl rfl
  | readFails j err =>
      simp only [Server.connStep, Server.readFails]
      rw [auths_setAuth]
      split
      · rename_i hj
        subst hj
        exact .inr .failed
      · exact .inl rfl
  | ended j =>
      simp only [Server.connStep, Server.ended]
      split
      · rename_i user hstage
        rw [auths_setAuth]
        split
        · rename_i hj
          subst hj
          exact .inr (.ended (by simp [hstage]))
        · exact .inl rfl
      · rename_i fault hstage
        rw [auths_setAuth]
        split
        · rename_i hj
          subst hj
          exact .inr (.ended (by simp [hstage]))
        · exact .inl rfl
      · exact .inl rfl
  | system e => exact .inl rfl

theorem auths_step :
    (s.step env e).auths k = s.auths k ∨ Advances env s k e ((s.step env e).auths k) := by
  by_cases hsystem : ∃ event, e = .system event
  · obtain ⟨event, rfl⟩ := hsystem
    simp only [Server.step]
    unfold Server.system
    split
    · exact .inr (.stopped rfl)
    · split <;> exact .inl rfl
  · push Not at hsystem
    have hstep : s.step env e = if s.base.up then s.connStep env e else s := by
      cases e <;> first | rfl | exact absurd rfl (hsystem _)
    rw [hstep]
    split
    · exact auths_connStep
    · exact .inl rfl

end Steps

section Inversion

variable {env : Env} {s : Server} {e : ServerEvent} {k uid : Nat} {user pass : Bytes}

theorem unlessPanicked_eq_ok {h : Handshake} {a : Auth}
    (hok : Auth.unlessPanicked h = .ok a) : a = ⟨h, none⟩ := by
  unfold Auth.unlessPanicked at hok
  split at hok
  · cases hok
  · cases hok
    rfl

theorem receive_eq_ok {a a' : Auth} {p : Packet} {write : Option SshError}
    (h : a.receive p write = .ok a') :
    a' = a ∨ a' = ⟨a.handshake.step bastionConfig (.packet p write), none⟩ := by
  unfold Auth.receive at h
  split at h
  · exact .inr (unlessPanicked_eq_ok h)
  · exact .inr (unlessPanicked_eq_ok h)
  · cases h
    exact .inl rfl

theorem not_calling_returned {h : Handshake} {verdict : Option GoError}
    {write : Option SshError} {user' pass' : Bytes} (hstage : h.stage = .calling user pass) :
    (h.step bastionConfig (.returned verdict write)).stage ≠ .calling user' pass' := by
  intro hnext
  by_cases hsame : h.stage = .calling user' pass'
  · cases returns_of_calling hsame hnext
  · obtain ⟨hwaiting, -⟩ := calling_step hnext hsame
    cases hstage.symm.trans hwaiting

def WaitsFor (user pass : Bytes) (uid : Option Nat) (a : Auth) : Prop :=
  a.handshake.stage = .calling user pass ∧ a.uid = uid

theorem called_by_packet
    (h : WaitsFor user pass none ((s.step env e).auths k))
    (hbefore : ¬ WaitsFor user pass none (s.auths k)) :
    (s.auths k).handshake.stage = .userauth ∧
      ∃ p write, e = .packet k p write ∧ p.bytes = passwordRequest user pass := by
  rcases auths_step with hsame | hadvances
  · exact absurd (hsame ▸ h) hbefore
  generalize (s.step env e).auths k = a at h hadvances
  cases hadvances with
  | stopped => cases h.1
  | ended => cases h.1
  | @received p write _ hreceive =>
      by_cases hsame : (s.auths k).handshake.stage = .calling user pass
      · have hstays : (s.auths k).receive p write = .ok (s.auths k) := by
          simp [Auth.receive, hsame]
        cases hstays.symm.trans hreceive
        exact absurd h hbefore
      · rcases receive_eq_ok hreceive with rfl | rfl
        · exact absurd h.1 hsame
        · obtain ⟨hstage, p', write', he, hbytes⟩ := calling_step h.1 hsame
          cases he
          exact ⟨hstage, p, write, rfl, hbytes⟩
  | rejected hstage => exact absurd h.1 (not_calling_returned hstage)
  | found => cases h.2
  | denied hstage => exact absurd h.1 (not_calling_returned hstage)
  | passed hstage => exact absurd h.1 (not_calling_returned hstage)
  | failed =>
      by_cases hsame : (s.auths k).handshake.stage = .calling user pass
      · exact absurd ⟨hsame, h.2⟩ hbefore
      · obtain ⟨-, p, write, he, -⟩ := calling_step h.1 hsame
        cases he

theorem found_by_lookup
    (h : WaitsFor user pass (some uid) ((s.step env e).auths k))
    (hbefore : ¬ WaitsFor user pass (some uid) (s.auths k)) :
    WaitsFor user pass none (s.auths k) ∧
      ∃ faults write, e = .lookup k faults write ∧
        verifyUser env faults s.base.db user pass = .ok uid := by
  rcases auths_step with hsame | hadvances
  · exact absurd (hsame ▸ h) hbefore
  generalize (s.step env e).auths k = a at h hadvances
  cases hadvances with
  | stopped => cases h.1
  | ended => cases h.1
  | received hreceive =>
      rcases receive_eq_ok hreceive with rfl | rfl
      · exact absurd h hbefore
      · cases h.2
  | rejected hstage => exact absurd h.1 (not_calling_returned hstage)
  | @found faults write _ _ _ hstage huid hverify =>
      cases hstage.symm.trans h.1
      cases h.2
      exact ⟨⟨hstage, huid⟩, faults, write, rfl, hverify⟩
  | denied hstage => exact absurd h.1 (not_calling_returned hstage)
  | passed hstage => exact absurd h.1 (not_calling_returned hstage)
  | failed =>
      by_cases hsame : (s.auths k).handshake.stage = .calling user pass
      · exact absurd ⟨hsame, h.2⟩ hbefore
      · obtain ⟨-, p, write, he, -⟩ := calling_step h.1 hsame
        cases he

theorem accepted_by_check
    (h : ((s.step env e).auths k).handshake.stage = .accepted user)
    (hbefore : (s.auths k).handshake.stage ≠ .accepted user) :
    ∃ pass uid faults, e = .check k faults none ∧
      WaitsFor user pass (some uid) (s.auths k) ∧
      checkContainer faults s.base.db uid user = .ok () ∧
      ((s.step env e).auths k).uid = some uid := by
  rcases auths_step with hsame | hadvances
  · exact absurd (hsame ▸ h) hbefore
  generalize (s.step env e).auths k = a at h hadvances
  cases hadvances with
  | stopped => cases h
  | ended => cases h
  | received hreceive =>
      rcases receive_eq_ok hreceive with rfl | rfl
      · exact absurd h hbefore
      · cases (accepted_step h hbefore).2
  | rejected => cases (accepted_step h hbefore).2
  | found => exact absurd h hbefore
  | denied => cases (accepted_step h hbefore).2
  | @passed faults write _ pass uid hstage huid hcheck =>
      obtain ⟨⟨pass', hcalling⟩, he⟩ := accepted_step h hbefore
      cases he
      cases hstage.symm.trans hcalling
      exact ⟨pass, uid, faults, rfl, ⟨hstage, huid⟩, hcheck, rfl⟩
  | failed => cases (accepted_step h hbefore).2

/-- A connection that is let in keeps the id that was found for it. -/
theorem accepted_uid (hs : ∀ user, (s.auths k).handshake.stage = .accepted user →
      (s.auths k).uid.isSome)
    (h : ((s.step env e).auths k).handshake.stage = .accepted user) :
    ((s.step env e).auths k).uid.isSome := by
  by_cases hbefore : (s.auths k).handshake.stage = .accepted user
  · have huid := hs user hbefore
    rcases auths_step (s := s) (e := e) (k := k) with hsame | hadvances
    · rwa [hsame]
    generalize (s.step env e).auths k = a at h hadvances
    cases hadvances with
    | stopped => cases h
    | ended => cases h
    | @received p write _ hreceive =>
        have hstays : (s.auths k).receive p write = .ok (s.auths k) := by
          simp [Auth.receive, hbefore]
        cases hstays.symm.trans hreceive
        exact huid
    | rejected hstage => cases hstage.symm.trans hbefore
    | found hstage => cases hstage.symm.trans hbefore
    | denied hstage => cases hstage.symm.trans hbefore
    | passed hstage => cases hstage.symm.trans hbefore
    | failed => exact huid
  · obtain ⟨pass, uid, faults, -, -, -, huid⟩ := accepted_by_check h hbefore
    simp [huid]

end Inversion

/-! ## Runs -/

theorem accepted_uid_run (env : Env) (events : List ServerEvent) (k : Nat) (user : Bytes)
    (h : ((run (Server.step env) .initial events).auths k).handshake.stage = .accepted user) :
    ((run (Server.step env) .initial events).auths k).uid.isSome := by
  have hinvariant : ∀ user,
      ((run (Server.step env) .initial events).auths k).handshake.stage = .accepted user →
        ((run (Server.step env) .initial events).auths k).uid.isSome :=
    run_invariant
      (I := fun s : Server => ∀ user, (s.auths k).handshake.stage = .accepted user →
        (s.auths k).uid.isSome)
      (fun _ _ hs _ h => accepted_uid hs h)
      (fun _ h => by cases h) events
  exact hinvariant user h

theorem execStart_abs {s : Server}
    (hs : ∀ k user, (s.auths k).handshake.stage = .accepted user → (s.auths k).uid.isSome)
    (e : Event) : s.execStart (.system e) = execStart s.abs e := by
  cases e with
  | act a =>
      cases a with
      | openChannel k type acceptFails =>
          simp only [Server.execStart, execStart, Server.abs, Auth.conn]
          cases hstage : (s.auths k).handshake.stage with
          | accepted user =>
              obtain ⟨uid, huid⟩ := Option.isSome_iff_exists.mp (hs k user hstage)
              cases s.base.up <;> simp [huid]
          | calling user pass =>
              cases s.base.up <;> cases (s.auths k).uid <;> simp
          | _ => cases s.base.up <;> simp
      | _ => rfl
  | _ => rfl

/--
Whatever packets arrive, the process does what the system without packets does on the
steps that they stand for, and starts `docker exec` for the same connections.
-/
theorem server_simulates (env : Env) (events : List ServerEvent) (e : Event) :
    (run (Server.step env) .initial events).abs =
        run (step env) .initial (translated (Server.step env) translate .initial events) ∧
      (run (Server.step env) .initial events).execStart (.system e) =
        execStart
          (run (step env) .initial
            (translated (Server.step env) translate .initial events)) e := by
  have habs : (run (Server.step env) .initial events).abs =
      run (step env) .initial (translated (Server.step env) translate .initial events) :=
    run_translated abs_step .initial events
  refine ⟨habs, ?_⟩
  rw [← habs]
  exact execStart_abs (accepted_uid_run env events) e

/-! ## What leaves a connection as it is -/

/-- A process that does not run has no connections. -/
def Fresh (s : Server) : Prop := s.base.up = false → ∀ k, s.auths k = .start

section Keeps

variable {env : Env} {s : Server} {e : ServerEvent} {k : Nat} {user pass : Bytes}

theorem up_of_step {s : State} (hup : s.up = true) {e : Event} (hstop : e ≠ .stop) :
    (System.step env s e).up = true := by
  cases e with
  | stop => exact absurd rfl hstop
  | start faults now => simp [System.step, hup]
  | dockerCreate id name =>
      simp only [System.step]
      split <;> exact hup
  | dockerRename id name =>
      simp only [System.step]
      split <;> exact hup
  | dockerRemove id => exact hup
  | act a =>
      simp only [System.step, hup, if_true]
      exact (frame_perform a).up.trans hup

theorem base_connStep (h : ¬ Stops s e) : (s.connStep env e).base = s.base := by
  cases e with
  | packet j p write =>
      simp only [Server.connStep, Server.packet]
      split
      · rename_i panic hreceive
        exact absurd ⟨panic, hreceive⟩ h
      · rfl
  | lookup j faults write =>
      simp only [Server.connStep, Server.lookup]
      split
      · split <;> rfl
      · rfl
  | check j faults write =>
      simp only [Server.connStep, Server.check]
      split
      · split <;> rfl
      · rfl
  | readFails j err => rfl
  | ended j =>
      simp only [Server.connStep, Server.ended]
      split <;> rfl
  | system e => rfl

theorem step_of_conn (h : ∀ event, e ≠ .system event) :
    s.step env e = if s.base.up then s.connStep env e else s := by
  cases e <;> first | rfl | exact absurd rfl (h _)

theorem auths_of_stops (hup : s.base.up = true) (h : Stops s e) :
    s.step env e = s.stop := by
  cases e with
  | system event =>
      obtain rfl : event = .stop := h
      rfl
  | packet j p write =>
      obtain ⟨panic, hreceive⟩ := h
      simp [Server.step, hup, Server.connStep, Server.packet, hreceive]
  | lookup j faults write => exact absurd h id
  | check j faults write => exact absurd h id
  | readFails j err => exact absurd h id
  | ended j => exact absurd h id

theorem fresh_step (hf : Fresh s) (e : ServerEvent) : Fresh (s.step env e) := by
  by_cases hsystem : ∃ event, e = .system event
  · obtain ⟨event, rfl⟩ := hsystem
    simp only [Server.step]
    unfold Server.system
    split
    · exact fun _ _ => rfl
    · rename_i hstop
      split
      · exact hf
      · intro hdown k
        refine hf ?_ k
        by_contra hup
        rw [up_of_step (by simpa using hup) (by simpa using hstop)] at hdown
        cases hdown
  · push Not at hsystem
    rw [step_of_conn hsystem]
    split
    · rename_i hup
      by_cases hstops : Stops s e
      · have hstep : s.step env e = s.stop := auths_of_stops hup hstops
        rw [step_of_conn hsystem, if_pos hup] at hstep
        rw [hstep]
        exact fun _ _ => rfl
      · intro hdown
        rw [base_connStep hstops, hup] at hdown
        cases hdown
    · exact hf

theorem Fresh.up (hf : Fresh s) (h : (s.auths k).handshake.stage ≠ .service) :
    s.base.up = true := by
  by_contra hdown
  rw [hf (by simpa using hdown) k] at h
  exact h rfl

/-- A call of `passwordCallback` goes on unless its next query is made. -/
theorem waitsFor_step {uid : Option Nat} (h : WaitsFor user pass uid (s.auths k))
    (hstops : ¬ Stops s e) (hlookup : uid = none → ∀ faults write, e ≠ .lookup k faults write)
    (hcheck : uid ≠ none → ∀ faults write, e ≠ .check k faults write) :
    WaitsFor user pass uid ((s.step env e).auths k) := by
  obtain ⟨hcalling, huid⟩ := h
  rcases auths_step (s := s) (e := e) (k := k) with hsame | hadvances
  · rw [hsame]
    exact ⟨hcalling, huid⟩
  generalize (s.step env e).auths k = a at hadvances ⊢
  cases hadvances with
  | stopped h => exact absurd h hstops
  | ended h => exact absurd hcalling (h user pass)
  | @received p write _ hreceive =>
      have hstays : (s.auths k).receive p write = .ok (s.auths k) := by
        simp [Auth.receive, hcalling]
      cases hstays.symm.trans hreceive
      exact ⟨hcalling, huid⟩
  | rejected _ hnone => exact absurd rfl (hlookup (huid.symm.trans hnone) _ _)
  | found _ hnone => exact absurd rfl (hlookup (huid.symm.trans hnone) _ _)
  | denied _ hsome => exact absurd rfl (hcheck (by simp [← huid, hsome]) _ _)
  | passed _ hsome => exact absurd rfl (hcheck (by simp [← huid, hsome]) _ _)
  | @failed err =>
      have hstays : (s.auths k).handshake.step bastionConfig (.readFails err) =
          (s.auths k).handshake := by
        simp [Handshake.step, hcalling]
      rw [hstays]
      exact ⟨hcalling, huid⟩

theorem not_waitsFor_stop {uid : Option Nat} : ¬ WaitsFor user pass uid (s.stop.auths k) :=
  fun h => by cases h.1

/-- Until its first query nothing but that query or the end of the process changes a call. -/
theorem waitsFor_none_iff (hf : Fresh s) (h : WaitsFor user pass none (s.auths k)) :
    WaitsFor user pass none ((s.step env e).auths k) ↔
      ¬ Stops s e ∧ ∀ faults write, e ≠ .lookup k faults write := by
  have hup : s.base.up = true := hf.up (k := k) (by simp [h.1])
  constructor
  · intro hafter
    refine ⟨fun hstops => ?_, ?_⟩
    · rw [auths_of_stops hup hstops] at hafter
      exact not_waitsFor_stop hafter
    · rintro faults write rfl
      simp only [Server.step, hup, if_true, Server.connStep, Server.lookup, h.1, h.2] at hafter
      split at hafter
      · rw [auths_setAuth, if_pos rfl] at hafter
        exact not_calling_returned h.1 hafter.1
      · rw [auths_setAuth, if_pos rfl] at hafter
        cases hafter.2
  · rintro ⟨hstops, hlookup⟩
    exact waitsFor_step h hstops (fun _ => hlookup) (fun hsome => absurd rfl hsome)

theorem waitsFor_some_iff {uid : Nat} (hf : Fresh s)
    (h : WaitsFor user pass (some uid) (s.auths k)) :
    WaitsFor user pass (some uid) ((s.step env e).auths k) ↔
      ¬ Stops s e ∧ ∀ faults write, e ≠ .check k faults write := by
  have hup : s.base.up = true := hf.up (k := k) (by simp [h.1])
  constructor
  · intro hafter
    refine ⟨fun hstops => ?_, ?_⟩
    · rw [auths_of_stops hup hstops] at hafter
      exact not_waitsFor_stop hafter
    · rintro faults write rfl
      simp only [Server.step, hup, if_true, Server.connStep, Server.check, h.1, h.2] at hafter
      split at hafter
      · rw [auths_setAuth, if_pos rfl] at hafter
        exact not_calling_returned h.1 hafter.1
      · rw [auths_setAuth, if_pos rfl] at hafter
        exact not_calling_returned h.1 hafter.1
  · rintro ⟨hstops, hcheck⟩
    exact waitsFor_step h hstops nofun (fun _ => hcheck)

/-- A connection that is let in stays so until it ends or the process does. -/
theorem accepted_iff_quiet (hf : Fresh s)
    (h : (s.auths k).handshake.stage = .accepted user) :
    ((s.step env e).auths k).handshake.stage = .accepted user ↔
      ¬ Stops s e ∧ e ≠ .ended k := by
  have hup : s.base.up = true := hf.up (k := k) (by simp [h])
  constructor
  · intro hafter
    refine ⟨fun hstops => ?_, ?_⟩
    · rw [auths_of_stops hup hstops] at hafter
      cases hafter
    · rintro rfl
      simp only [Server.step, hup, if_true, Server.connStep, Server.ended, h] at hafter
      rw [auths_setAuth, if_pos rfl] at hafter
      cases hafter
  · rintro ⟨hstops, hended⟩
    rcases @auths_step env s e k with hsame | hadvances
    · rw [hsame]
      exact h
    generalize (s.step env e).auths k = a at hadvances ⊢
    cases hadvances with
    | stopped h => exact absurd h hstops
    | ended => exact absurd rfl hended
    | @received p write _ hreceive =>
        have hstays : (s.auths k).receive p write = .ok (s.auths k) := by
          simp [Auth.receive, h]
        cases hstays.symm.trans hreceive
        exact h
    | rejected hstage => cases hstage.symm.trans h
    | found hstage => cases hstage.symm.trans h
    | denied hstage => cases hstage.symm.trans h
    | passed hstage => cases hstage.symm.trans h
    | failed => simp [Handshake.step, h]

end Keeps

/-! ## What moves a login on -/

section Moves

variable {env : Env} {s : Server} {k uid : Nat} {user pass : Bytes} {write : Option SshError}

theorem waitsFor_of_packet (hf : Fresh s) (hstage : (s.auths k).handshake.stage = .userauth)
    {p : Packet} (hp : p.bytes = passwordRequest user pass) :
    WaitsFor user pass none ((s.step env (.packet k p write)).auths k) := by
  have hup : s.base.up = true := hf.up (k := k) (by simp [hstage])
  have hcall : userAuthRequest bastionConfig p.bytes = .ok (.call user pass) :=
    (userAuthRequest_eq_call_iff p.length_lt).mpr hp
  have hreceive : (s.auths k).receive p write =
      .ok ⟨{ (s.auths k).handshake with stage := .calling user pass }, none⟩ := by
    simp [Auth.receive, hstage, Handshake.step, Handshake.authRequest, hcall,
      Auth.unlessPanicked]
  simp only [Server.step, hup, if_true, Server.connStep, Server.packet, hreceive]
  rw [auths_setAuth, if_pos rfl]
  exact ⟨rfl, rfl⟩

theorem waitsFor_of_lookup (hf : Fresh s) (h : WaitsFor user pass none (s.auths k))
    {faults : LoginFaults} (hverify : verifyUser env faults s.base.db user pass = .ok uid) :
    WaitsFor user pass (some uid) ((s.step env (.lookup k faults write)).auths k) := by
  have hup : s.base.up = true := hf.up (k := k) (by simp [h.1])
  simp only [Server.step, hup, if_true, Server.connStep, Server.lookup, h.1, h.2, hverify]
  rw [auths_setAuth, if_pos rfl]
  exact ⟨h.1, rfl⟩

theorem accepted_of_check (hf : Fresh s) (h : WaitsFor user pass (some uid) (s.auths k))
    {faults : LoginFaults} (hcheck : checkContainer faults s.base.db uid user = .ok ()) :
    ((s.step env (.check k faults none)).auths k).handshake.stage = .accepted user := by
  have hup : s.base.up = true := hf.up (k := k) (by simp [h.1])
  simp only [Server.step, hup, if_true, Server.connStep, Server.check, h.1, h.2, hcheck]
  rw [auths_setAuth, if_pos rfl]
  simp [Auth.returned, Handshake.step, h.1, Handshake.succeed, Handshake.reply]

end Moves

/-! ## The packet behind a session -/

section Phases

variable {env : Env} {s : Server} {k uid : Nat} {user pass : Bytes}

theorem always_waitsFor_none_iff (hf : Fresh s) (events : List ServerEvent) :
    Always (Server.step env) (fun s => WaitsFor user pass none (s.auths k)) s events ↔
      WaitsFor user pass none (s.auths k) ∧
        EachStep (Server.step env)
          (fun s e => ¬ Stops s e ∧ ∀ faults write, e ≠ .lookup k faults write) s events :=
  always_iff_eachStep (I := fun s : Server => WaitsFor user pass none (s.auths k)) (J := Fresh)
    (fun _ e hf => fresh_step hf e) (fun _ _ hf h => waitsFor_none_iff hf h) hf events

theorem always_waitsFor_some_iff (hf : Fresh s) (events : List ServerEvent) :
    Always (Server.step env) (fun s => WaitsFor user pass (some uid) (s.auths k)) s events ↔
      WaitsFor user pass (some uid) (s.auths k) ∧
        EachStep (Server.step env)
          (fun s e => ¬ Stops s e ∧ ∀ faults write, e ≠ .check k faults write) s events :=
  always_iff_eachStep (I := fun s : Server => WaitsFor user pass (some uid) (s.auths k))
    (J := Fresh) (fun _ e hf => fresh_step hf e) (fun _ _ hf h => waitsFor_some_iff hf h) hf
    events

theorem always_accepted_iff (hf : Fresh s) (events : List ServerEvent) :
    Always (Server.step env) (fun s => (s.auths k).handshake.stage = .accepted user) s events ↔
      (s.auths k).handshake.stage = .accepted user ∧
        EachStep (Server.step env) (fun s e => ¬ Stops s e ∧ e ≠ .ended k) s events :=
  always_iff_eachStep (I := fun s : Server => (s.auths k).handshake.stage = .accepted user)
    (J := Fresh) (fun _ e hf => fresh_step hf e) (fun _ _ hf h => accepted_iff_quiet hf h) hf
    events

end Phases

theorem fresh_initial : Fresh .initial := fun _ _ => rfl

theorem fresh_run (env : Env) (events : List ServerEvent) :
    Fresh (run (Server.step env) .initial events) :=
  run_invariant (I := Fresh) (fun _ e h => fresh_step h e) fresh_initial events

/--
The login of connection `k`: a request that was read when requests for authentication
are, the two queries of the call of the callback that it made, the second one answered
with success, and nothing since then that ended the connection.
-/
structure PacketLogin (env : Env) (events : List ServerEvent) (k : Nat) where
  user : Bytes
  pass : Bytes
  uid : Nat
  request : Packet
  request_eq : request.bytes = passwordRequest user pass
  write : Option SshError
  lookupWrite : Option SshError
  first : LoginFaults
  second : LoginFaults
  before : List ServerEvent
  waiting : List ServerEvent
  between : List ServerEvent
  after : List ServerEvent
  split : events =
    before ++ .packet k request write ::
      (waiting ++ .lookup k first lookupWrite :: (between ++ .check k second none :: after))
  stage : ((run (Server.step env) .initial before).auths k).handshake.stage = .userauth
  called : EachStep (Server.step env)
    (fun s e => ¬ Stops s e ∧ ∀ faults write, e ≠ .lookup k faults write)
    (run (Server.step env) .initial (before ++ [.packet k request write])) waiting
  verified :
    verifyUser env first
      (run (Server.step env) .initial (before ++ .packet k request write :: waiting)).base.db
      user pass = .ok uid
  found : EachStep (Server.step env)
    (fun s e => ¬ Stops s e ∧ ∀ faults write, e ≠ .check k faults write)
    (run (Server.step env) .initial
      (before ++ .packet k request write :: (waiting ++ [.lookup k first lookupWrite]))) between
  checked :
    checkContainer second
      (run (Server.step env) .initial
        (before ++ .packet k request write ::
          (waiting ++ .lookup k first lookupWrite :: between))).base.db uid user = .ok ()
  quiet : EachStep (Server.step env) (fun s e => ¬ Stops s e ∧ e ≠ .ended k)
    (run (Server.step env) .initial
      (before ++ .packet k request write ::
        (waiting ++ .lookup k first lookupWrite :: (between ++ [.check k second none])))) after

theorem exists_packetLogin {env : Env} {events : List ServerEvent} {k : Nat} {user : Bytes}
    (h : ((run (Server.step env) .initial events).auths k).handshake.stage = .accepted user) :
    ∃ login : PacketLogin env events k, login.user = user := by
  -- back to the second query, from there to the first, and from there to the packet
  obtain ⟨early, e, after, rfl, hnot, hkept⟩ :=
    exists_last_change
      (P := fun s : Server => (s.auths k).handshake.stage = .accepted user)
      (by simp [Server.initial, Auth.start, Handshake.start]) h
  obtain ⟨pass, uid, second, rfl, hfound, hcheck, -⟩ := accepted_by_check hkept.first hnot
  obtain ⟨early, e, between, rfl, hnot, hbetween⟩ :=
    exists_last_change (P := fun s : Server => WaitsFor user pass (some uid) (s.auths k))
      (by simp [Server.initial, Auth.start, WaitsFor]) hfound
  obtain ⟨hcalled, first, lookupWrite, rfl, hverify⟩ := found_by_lookup hbetween.first hnot
  obtain ⟨before, e, waiting, rfl, hnot, hwaiting⟩ :=
    exists_last_change (P := fun s : Server => WaitsFor user pass none (s.auths k))
      (by simp [Server.initial, Auth.start, Handshake.start, WaitsFor]) hcalled
  obtain ⟨hstage, request, write, rfl, hrequest⟩ := called_by_packet hwaiting.first hnot
  have hfresh := fresh_run env
  refine ⟨
    { user := user
      pass := pass
      uid := uid
      request := request
      request_eq := hrequest
      write := write
      lookupWrite := lookupWrite
      first := first
      second := second
      before := before
      waiting := waiting
      between := between
      after := after
      split := by simp
      stage := hstage
      called := ?_
      verified := hverify
      found := ?_
      checked := by simpa using hcheck
      quiet := ?_ }, rfl⟩
  · have hquiet := ((always_waitsFor_none_iff (fresh_step (hfresh before) _) _).mp hwaiting).2
    simpa using hquiet
  · have hquiet := ((always_waitsFor_some_iff (fresh_step (hfresh _) _) _).mp hbetween).2
    simpa using hquiet
  · have hquiet := ((always_accepted_iff (fresh_step (hfresh _) _) _).mp hkept).2
    simpa using hquiet

/-- From the packet to the second query, and from there to now. -/
theorem PacketLogin.accepted {env : Env} {events : List ServerEvent} {k : Nat}
    (login : PacketLogin env events k) :
    ((run (Server.step env) .initial events).auths k).handshake.stage =
      .accepted login.user := by
  have hfresh := fresh_run env
  have hpacket := @waitsFor_of_packet env _ k _ _ login.write (hfresh login.before) login.stage _
    login.request_eq
  have hcalled := ((always_waitsFor_none_iff (hfresh _) _).mpr
    ⟨by simpa using hpacket, login.called⟩).last
  have hlookup := @waitsFor_of_lookup env _ k _ _ _ login.lookupWrite (hfresh _)
    (by simpa using hcalled) _ login.verified
  have hfound := ((always_waitsFor_some_iff (hfresh _) _).mpr
    ⟨by simpa using hlookup, login.found⟩).last
  have hcheck := @accepted_of_check env _ k _ _ _ (hfresh _) (by simpa using hfound) _
    login.checked
  have haccepted := (always_accepted_iff (hfresh _) _).mpr
    ⟨by simpa using hcheck, login.quiet⟩
  have hlast := haccepted.last
  rw [← run_append] at hlast
  have hrun : run (Server.step env) .initial events =
      run (Server.step env) .initial
        (login.before ++ .packet k login.request login.write ::
          (login.waiting ++ .lookup k login.first login.lookupWrite ::
            (login.between ++ [.check k login.second none])) ++ login.after) :=
    congrArg _ (by simpa using login.split)
  rw [hrun]
  exact hlast

/--
A `docker exec` is started on a connection exactly if the connection has a login: the
client's request was read where requests are, the password was right at the first query
of the call that it made, the second query found a grant for the container that the user
name asks for, and neither the connection nor the process has ended since.
-/
theorem exec_iff_packetLogin (env : Env) (events : List ServerEvent) (k j : Nat)
    (type container : Bytes) (acceptFails : Bool) :
    (run (Server.step env) .initial events).execStart
        (.system (.act (.openChannel k type acceptFails))) = some (j, container) ↔
      type = ascii "session" ∧ acceptFails = false ∧ j = k ∧
        ∃ login : PacketLogin env events k, container = getContainerId login.user := by
  simp only [Server.execStart]
  constructor
  · intro h
    split at h
    · rename_i user hup hstage
      split at h
      · rename_i hsession
        cases h
        obtain ⟨login, rfl⟩ := exists_packetLogin hstage
        exact ⟨hsession.1, hsession.2, rfl, login, rfl⟩
      · cases h
    · cases h
  · rintro ⟨htype, haccept, rfl, login, rfl⟩
    have haccepted := login.accepted
    have hup : (run (Server.step env) .initial events).base.up = true :=
      (fresh_run env events).up (k := j) (by simp [haccepted])
    simp [hup, haccepted, htype, haccept]

end DockerBastion.System
