import DockerBastion.Env
import DockerBastion.Foundation.Run
import DockerBastion.Ssh.Codec

/-!
# User authentication

After the key exchange a client asks for the service `ssh-userauth` and then tries to
log in, as often as it wants.  `serverAuthenticate` answers each attempt before it reads
the next one; the password callback runs in between and takes its time.  The main
results say which packets let a client in, what a client that is not let in is sent,
and on which packets `serverHandshake` panics.
-/

namespace DockerBastion.Ssh

open Foundation Sshd

def maxPacket : Nat := 256 * 1024

/-- What the transport hands over: it refuses empty and large packets. -/
structure Packet where
  bytes : Bytes
  ne_nil : bytes ≠ []
  length_le : bytes.length ≤ maxPacket

theorem Packet.length_lt (p : Packet) : p.bytes.length < 2 ^ 32 :=
  lt_of_le_of_lt p.length_le (by decide)

def serviceUserAuth : Bytes := ascii "ssh-userauth"

def serviceSSH : Bytes := ascii "ssh-connection"

def msgUserAuthRequest : UInt8 := 50

def msgUserAuthSuccess : UInt8 := 52

/-- Which callbacks a server has set; those for keys and questions are nil. -/
structure ServerConfig where
  noClientAuth : Bool
  passwordCallback : Bool

/-- The configuration of `initServerConfig`. -/
def bastionConfig : ServerConfig := { noClientAuth := false, passwordCallback := true }

/-- How far a request for authentication is decided by the packet alone. -/
inductive Request where
  | accepted (user : Bytes)
  | refused
  | call (user pass : Bytes)
  deriving DecidableEq, Repr

def passwordPayload (user payload : Bytes) : Outcome Request :=
  match payload with
  | [] => .error (.error (.parseError msgUserAuthRequest))
  | x :: payload =>
      if x ≠ 0 then .error (.error (.parseError msgUserAuthRequest))
      else do
        match ← orPanic (parseString payload) with
        | none => .error (.error (.parseError msgUserAuthRequest))
        | some (password, rest) =>
            if rest.length > 0 then .error (.error (.parseError msgUserAuthRequest))
            else return .call user password

def userAuthRequest (config : ServerConfig) (packet : Bytes) : Outcome Request := do
  let (user, service, method, payload, ()) ← unmarshal userAuthRequestMsg packet
  if service ≠ serviceSSH then
    .error (.error (.other
      (ascii "ssh: client attempted to negotiate for unknown service: " ++ service)))
  else if method = ascii "none" then
    if config.noClientAuth then return .accepted [] else return .refused
  else if method = ascii "password" then
    if config.passwordCallback then passwordPayload user payload else return .refused
  else return .refused

inductive Stage where
  | service
  | userauth
  /-- In the password callback. -/
  | calling (user pass : Bytes)
  | accepted (user : Bytes)
  | closed (fault : Fault)
  deriving DecidableEq, Repr

structure Handshake where
  stage : Stage
  sent : List Bytes
  deriving DecidableEq, Repr

def Handshake.start : Handshake := ⟨.service, []⟩

/-- `write` is the error of the packet that the event leads to, if it fails. -/
inductive HandshakeEvent where
  | packet (p : Packet) (write : Option SshError)
  | readFails (err : SshError)
  | returned (verdict : Option GoError) (write : Option SshError)

def serviceAccept : Bytes := marshal serviceAcceptMsg (serviceUserAuth, ())

def methods (config : ServerConfig) : List Bytes :=
  if config.passwordCallback then [ascii "password"] else []

def failureMsg (config : ServerConfig) : Bytes :=
  marshal userAuthFailureMsg (methods config, false, ())

namespace Handshake

def close (s : Handshake) (fault : Fault) : Handshake := { s with stage := .closed fault }

def reply (s : Handshake) (packet : Bytes) (write : Option SshError) (next : Stage) :
    Handshake :=
  match write with
  | some err => s.close (.error err)
  | none => ⟨next, s.sent ++ [packet]⟩

def serviceRequest (s : Handshake) (packet : Bytes) (write : Option SshError) : Handshake :=
  match unmarshal serviceRequestMsg packet with
  | .error fault => s.close fault
  | .ok (service, ()) =>
      if service ≠ serviceUserAuth then
        s.close (.error (.other
          (ascii "ssh: requested service '" ++ service ++ ascii "' before authenticating")))
      else s.reply serviceAccept write .userauth

section Config

variable (config : ServerConfig) (s : Handshake)

def fail (write : Option SshError) : Handshake :=
  if methods config = [] then
    s.close (.error (.other
      (ascii "ssh: no authentication methods configured but NoClientAuth is also false")))
  else s.reply (failureMsg config) write .userauth

def succeed (user : Bytes) (write : Option SshError) : Handshake :=
  s.reply [msgUserAuthSuccess] write (.accepted user)

def authRequest (packet : Bytes) (write : Option SshError) : Handshake :=
  match userAuthRequest config packet with
  | .error fault => s.close fault
  | .ok (.accepted user) => s.succeed user write
  | .ok .refused => s.fail config write
  | .ok (.call user pass) => { s with stage := .calling user pass }

/-- An event that the stage does not wait for changes nothing. -/
def step : HandshakeEvent → Handshake
  | .packet p write =>
      match s.stage with
      | .service => s.serviceRequest p.bytes write
      | .userauth => s.authRequest config p.bytes write
      | _ => s
  | .readFails err =>
      match s.stage with
      | .service | .userauth => s.close (.error err)
      | _ => s
  | .returned verdict write =>
      match s.stage, verdict with
      | .calling user _, none => s.succeed user write
      | .calling _ _, some _ => s.fail config write
      | _, _ => s

end Config

end Handshake

/-! ## Requests that call the password callback -/

def passwordRequest (user pass : Bytes) : Bytes :=
  marshal userAuthRequestMsg
    (user, serviceSSH, ascii "password", 0 :: appendString pass, ())

theorem passwordPayload_eq_call_iff {user payload user' pass : Bytes}
    (h : payload.length < 2 ^ 32) :
    passwordPayload user payload = .ok (.call user' pass) ↔
      user' = user ∧ EncodesString pass (payload.drop 1) ∧ payload.head? = some 0 := by
  cases payload with
  | nil => simp [passwordPayload]
  | cons x payload =>
      have hlength : payload.length < 2 ^ 32 := by
        rw [List.length_cons] at h
        omega
      simp only [passwordPayload, List.drop_succ_cons, List.drop_zero, List.head?_cons,
        Option.some.injEq]
      by_cases hx : x = 0
      · subst hx
        simp only [ne_eq, not_true_eq_false, if_false, and_true]
        constructor
        · intro hcall
          obtain ⟨parsed, hparsed, hcall⟩ := bind_eq_ok.mp hcall
          rw [orPanic_eq_ok_iff] at hparsed
          match parsed, hparsed, hcall with
          | some (password, []), hparsed, hcall =>
              cases hcall
              obtain ⟨first, hfirst, hsplit⟩ := (parseString_eq_some_iff hlength).mp hparsed
              rw [hsplit, List.append_nil]
              exact ⟨rfl, hfirst⟩
        · rintro ⟨rfl, hpass⟩
          have hparsed : parseString payload = .ok (some (pass, [])) :=
            (parseString_eq_some_iff hlength).mpr ⟨payload, hpass, by simp⟩
          exact bind_eq_ok.mpr ⟨_, orPanic_eq_ok_iff.mpr hparsed, rfl⟩
      · refine iff_of_false ?_ (fun hpass => hx hpass.2.2)
        simp [hx]

/-- The accepted requests are those that `Marshal` writes. -/
theorem eq_marshal_of_unmarshal {packet user service method payload : Bytes} {r : Record []}
    (h : packet.length < 2 ^ 32)
    (hmsg : unmarshal userAuthRequestMsg packet = .ok (user, service, method, payload, r)) :
    packet = marshal userAuthRequestMsg (user, service, method, payload, ()) := by
  obtain ⟨data, rfl, first, others, rfl, huser, second, others', rfl, hsecond, third,
    others'', rfl, hthird, last, rest, rfl, hlast, hrest⟩ :=
    (unmarshal_eq_ok_iff userAuthRequestMsg h).mp hmsg
  rw [huser.2, hsecond.2, hthird.2, hlast, hrest]
  rfl

theorem length_payload_lt {user service method payload : Bytes}
    (h : (marshal userAuthRequestMsg (user, service, method, payload, ())).length < 2 ^ 32) :
    payload.length < 2 ^ 32 := by
  simp only [marshal, writeFields, writeField, userAuthRequestMsg, List.length_cons,
    List.length_append] at h
  omega

/-- Only a well-formed request for a password login calls the callback. -/
theorem userAuthRequest_eq_call_iff {packet user pass : Bytes} (h : packet.length < 2 ^ 32) :
    userAuthRequest bastionConfig packet = .ok (.call user pass) ↔
      packet = passwordRequest user pass := by
  constructor
  · intro hcall
    obtain ⟨⟨user', service, method, payload, _⟩, hmsg, hrequest⟩ := bind_eq_ok.mp hcall
    dsimp only at hrequest
    split at hrequest
    · cases hrequest
    split at hrequest
    · cases hrequest
    split at hrequest
    · rename_i hservice _ hmethod
      obtain rfl := eq_marshal_of_unmarshal h hmsg
      obtain ⟨rfl, hpass, hhead⟩ :=
        (passwordPayload_eq_call_iff (length_payload_lt h)).mp hrequest
      cases payload with
      | nil => cases hhead
      | cons x payload =>
          cases hhead
          have hpass : payload = appendString pass := hpass.2
          rw [not_not.mp hservice, hmethod, hpass]
          rfl
    · cases hrequest
  · rintro rfl
    have hlength := length_payload_lt h
    have hmsg := unmarshal_marshal userAuthRequestMsg
      (user, serviceSSH, ascii "password", 0 :: appendString pass, ())
      ⟨trivial, trivial, trivial, trivial, trivial⟩ h
    have hstring : (appendString pass).length < 2 ^ 32 := by
      rw [List.length_cons] at hlength
      omega
    have hcall : passwordPayload user (0 :: appendString pass) = .ok (.call user pass) :=
      (passwordPayload_eq_call_iff hlength).mpr
        ⟨rfl, encodesString_appendString hstring, rfl⟩
    refine bind_eq_ok.mpr ⟨_, hmsg, ?_⟩
    have hnone : ascii "password" ≠ ascii "none" := by decide
    simp only [ne_eq, not_true_eq_false, if_false, if_neg hnone, if_true]
    exact hcall

theorem userAuthRequest_ne_accepted {packet user : Bytes} :
    userAuthRequest bastionConfig packet ≠ .ok (.accepted user) := by
  intro haccepted
  obtain ⟨⟨user', service, method, payload, _⟩, -, hrequest⟩ := bind_eq_ok.mp haccepted
  dsimp only at hrequest
  split at hrequest
  · cases hrequest
  split at hrequest
  · cases hrequest
  split at hrequest
  · have hpayload : passwordPayload user' payload = .ok (.accepted user) := hrequest
    unfold passwordPayload at hpayload
    split at hpayload
    · cases hpayload
    split at hpayload
    · cases hpayload
    · obtain ⟨parsed, -, hparsed⟩ := bind_eq_ok.mp hpayload
      match parsed, hparsed with
      | some (password, []), hparsed => cases hparsed
  · cases hrequest

/-! ## Who is let in -/

def HandshakeEvent.returns : HandshakeEvent → Bool
  | .returned _ _ => true
  | _ => false

section Run

variable {s : Handshake} {e : HandshakeEvent} {user pass : Bytes}

theorem stage_reply {packet : Bytes} {write : Option SshError} {next stage : Stage}
    (h : (s.reply packet write next).stage = stage) (hopen : ∀ fault, stage ≠ .closed fault) :
    write = none ∧ stage = next := by
  cases write with
  | none => exact ⟨rfl, h.symm⟩
  | some err => exact absurd h.symm (hopen (.error err))

theorem stage_fail {write : Option SshError} {stage : Stage}
    (h : (s.fail bastionConfig write).stage = stage) (hopen : ∀ fault, stage ≠ .closed fault) :
    stage = .userauth :=
  (stage_reply h hopen).2

theorem stage_serviceRequest {packet : Bytes} {write : Option SshError} {stage : Stage}
    (h : (s.serviceRequest packet write).stage = stage)
    (hopen : ∀ fault, stage ≠ .closed fault) : stage = .userauth := by
  unfold Handshake.serviceRequest at h
  split at h
  · exact absurd h.symm (hopen _)
  split at h
  · exact absurd h.symm (hopen _)
  · exact (stage_reply h hopen).2

/-- The callback is called for a well-formed request that was waited for. -/
theorem calling_step (h : (s.step bastionConfig e).stage = .calling user pass)
    (hbefore : s.stage ≠ .calling user pass) :
    s.stage = .userauth ∧
      ∃ p write, e = .packet p write ∧ p.bytes = passwordRequest user pass := by
  have hopen : ∀ fault, Stage.calling user pass ≠ .closed fault := by simp
  cases e with
  | packet p write =>
      simp only [Handshake.step] at h
      split at h
      · cases stage_serviceRequest h hopen
      · rename_i hstage
        refine ⟨hstage, p, write, rfl, ?_⟩
        unfold Handshake.authRequest at h
        split at h
        · cases h
        · cases (stage_reply h hopen).2
        · cases stage_fail h hopen
        · rename_i hcall
          cases h
          exact (userAuthRequest_eq_call_iff p.length_lt).mp hcall
      · exact absurd h hbefore
  | readFails err =>
      simp only [Handshake.step] at h
      split at h
      · cases h
      · cases h
      · exact absurd h hbefore
  | returned verdict write =>
      simp only [Handshake.step] at h
      split at h
      · cases (stage_reply h hopen).2
      · cases stage_fail h hopen
      · exact absurd h hbefore

/-- A client is let in when the callback has returned nil. -/
theorem accepted_step (h : (s.step bastionConfig e).stage = .accepted user)
    (hbefore : s.stage ≠ .accepted user) :
    (∃ pass, s.stage = .calling user pass) ∧ e = .returned none none := by
  have hopen : ∀ fault, Stage.accepted user ≠ .closed fault := by simp
  cases e with
  | packet p write =>
      simp only [Handshake.step] at h
      split at h
      · cases stage_serviceRequest h hopen
      · unfold Handshake.authRequest at h
        split at h
        · cases h
        · rename_i haccepted
          exact absurd haccepted userAuthRequest_ne_accepted
        · cases stage_fail h hopen
        · cases h
      · exact absurd h hbefore
  | readFails err =>
      simp only [Handshake.step] at h
      split at h
      · cases h
      · cases h
      · exact absurd h hbefore
  | returned verdict write =>
      simp only [Handshake.step] at h
      split at h
      · rename_i user' pass hcalling
        obtain ⟨rfl, hnext⟩ := stage_reply h hopen
        cases hnext
        exact ⟨⟨pass, hcalling⟩, rfl⟩
      · cases stage_fail h hopen
      · exact absurd h hbefore

theorem step_of_accepted (h : s.stage = .accepted user) (e : HandshakeEvent) :
    s.step bastionConfig e = s := by
  cases e <;> simp [Handshake.step, h]

theorem step_of_calling (h : s.stage = .calling user pass) (hreturns : e.returns = false) :
    s.step bastionConfig e = s := by
  cases e with
  | packet p write => simp [Handshake.step, h]
  | readFails err => simp [Handshake.step, h]
  | returned verdict write => cases hreturns

theorem returns_of_calling (h : s.stage = .calling user pass)
    (hnext : (s.step bastionConfig e).stage = .calling user pass) : e.returns = false := by
  have hopen : ∀ fault, Stage.calling user pass ≠ .closed fault := by simp
  cases e with
  | packet p write => rfl
  | readFails err => rfl
  | returned verdict write =>
      cases verdict with
      | none =>
          simp only [Handshake.step, h] at hnext
          cases (stage_reply hnext hopen).2
      | some err =>
          simp only [Handshake.step, h] at hnext
          cases stage_fail hnext hopen

end Run

/--
A client is in under the name `user` exactly if a request for that name was read where
one was waited for and the callback that it called was the next to return, with nil.
-/
theorem accepted_iff (events : List HandshakeEvent) (user : Bytes) :
    (run (Handshake.step bastionConfig) .start events).stage = .accepted user ↔
      ∃ before p write between after pass,
        events = before ++ .packet p write :: (between ++ .returned none none :: after) ∧
          (run (Handshake.step bastionConfig) .start before).stage = .userauth ∧
          p.bytes = passwordRequest user pass ∧ ∀ e ∈ between, e.returns = false := by
  constructor
  · intro haccepted
    obtain ⟨early, e, after, rfl, hnot, hafter⟩ := exists_last_change
      (P := fun s : Handshake => s.stage = .accepted user) (by simp [Handshake.start]) haccepted
    obtain ⟨⟨pass, hcalling⟩, rfl⟩ := accepted_step hafter.first hnot
    obtain ⟨before, e, between, rfl, hnot, hbetween⟩ := exists_last_change
      (P := fun s : Handshake => s.stage = .calling user pass) (by simp [Handshake.start])
      hcalling
    obtain ⟨huserauth, p, write, rfl, hp⟩ := calling_step hbetween.first hnot
    have hreturns := eachStep_event_iff.mp
      (eachStep_of_always (fun s e => returns_of_calling (s := s) (e := e)) hbetween)
    exact ⟨before, p, write, between, after, pass, by simp, huserauth, hp, hreturns⟩
  · rintro ⟨before, p, write, between, after, pass, rfl, huserauth, hp, hreturns⟩
    have hcall := (userAuthRequest_eq_call_iff p.length_lt).mpr hp
    rw [run_append, run_cons, run_append, run_cons]
    generalize run (Handshake.step bastionConfig) .start before = s at huserauth ⊢
    have hcalling : (s.step bastionConfig (.packet p write)).stage = .calling user pass := by
      simp only [Handshake.step, huserauth, Handshake.authRequest, hcall]
    generalize s.step bastionConfig (.packet p write) = s at hcalling ⊢
    have hsame : run (Handshake.step bastionConfig) s between = s := by
      induction between with
      | nil => rfl
      | cons e between ih =>
          rw [run_cons, step_of_calling hcalling (hreturns e List.mem_cons_self)]
          exact ih fun e he => hreturns e (List.mem_cons_of_mem _ he)
    rw [hsame]
    have haccepted : (s.step bastionConfig (.returned none none)).stage = .accepted user := by
      simp only [Handshake.step, hcalling]
      rfl
    generalize s.step bastionConfig (.returned none none) = s at haccepted ⊢
    refine run_invariant (I := fun s : Handshake => s.stage = .accepted user)
      (fun s e hs => ?_) haccepted after
    rw [step_of_accepted hs]
    exact hs

/-! ## Packets on which the handshake panics -/

def Schema.Overflows (s : Schema) (packet : Bytes) : Prop :=
  ∃ data, packet = s.tag :: data ∧ OverflowsFields s.kinds data

/-- A request for a password login that is well formed up to the password. -/
def PasswordOverflows (packet : Bytes) : Prop :=
  ∃ user rest, packet = marshal userAuthRequestMsg
    (user, serviceSSH, ascii "password", 0 :: rest, ()) ∧ Overflows rest

/-- The packet is read where `Unmarshal` or `parseString` panics on it. -/
def Crashes (s : Handshake) : HandshakeEvent → Prop
  | .packet p _ =>
      match s.stage with
      | .service => serviceRequestMsg.Overflows p.bytes
      | .userauth => userAuthRequestMsg.Overflows p.bytes ∨ PasswordOverflows p.bytes
      | _ => False
  | _ => False

def Handshake.Panicked (s : Handshake) : Prop := ∃ p, s.stage = .closed (.panic p)

theorem exists_panic_iff (s : Schema) {packet : Bytes} (h : packet.length < 2 ^ 32) :
    (∃ p, unmarshal s packet = .error (.panic p)) ↔ s.Overflows packet := by
  simp only [unmarshal_panics_iff s h, exists_eq_left]
  exact Iff.rfl

theorem passwordPayload_panics_iff {user payload : Bytes} (h : payload.length < 2 ^ 32) :
    (∃ p, passwordPayload user payload = .error (.panic p)) ↔
      ∃ rest, payload = 0 :: rest ∧ Overflows rest := by
  cases payload with
  | nil => simp [passwordPayload]
  | cons x payload =>
      have hlength : payload.length < 2 ^ 32 := by
        rw [List.length_cons] at h
        omega
      simp only [passwordPayload]
      by_cases hx : x = 0
      · subst hx
        simp only [ne_eq, not_true_eq_false, if_false]
        constructor
        · rintro ⟨p, hpanic⟩
          rcases bind_eq_error.mp hpanic with hparse | ⟨parsed, -, hparsed⟩
          · obtain ⟨p', hp, hparse⟩ := orPanic_eq_error_iff.mp hparse
            exact ⟨payload, rfl, ((parseString_eq_error_iff hlength).mp hparse).2⟩
          · match parsed, hparsed with
            | none, hparsed => cases hparsed
            | some (password, []), hparsed => cases hparsed
            | some (password, y :: rest), hparsed => cases hparsed
        · rintro ⟨rest, heq, hover⟩
          cases heq
          have hparse := (parseString_eq_error_iff hlength).mpr ⟨rfl, hover⟩
          exact ⟨_, bind_eq_error.mpr (.inl (orPanic_eq_error_iff.mpr ⟨_, rfl, hparse⟩))⟩
      · refine iff_of_false ?_ ?_
        · simp [hx]
        · rintro ⟨rest, heq, -⟩
          cases heq
          exact hx rfl

theorem userAuthRequest_panics_iff {packet : Bytes} (h : packet.length < 2 ^ 32) :
    (∃ p, userAuthRequest bastionConfig packet = .error (.panic p)) ↔
      userAuthRequestMsg.Overflows packet ∨ PasswordOverflows packet := by
  have hnone : ascii "password" ≠ ascii "none" := by decide
  constructor
  · rintro ⟨p, hpanic⟩
    rcases bind_eq_error.mp hpanic with
      hmsg | ⟨⟨user, service, method, payload, _⟩, hmsg, hrequest⟩
    · exact .inl ((exists_panic_iff userAuthRequestMsg h).mp ⟨p, hmsg⟩)
    · dsimp only at hrequest
      split at hrequest
      · cases hrequest
      split at hrequest
      · cases hrequest
      split at hrequest
      · rename_i hservice _ hmethod
        rw [not_not.mp hservice, hmethod] at hmsg
        obtain rfl := eq_marshal_of_unmarshal h hmsg
        obtain ⟨rest, rfl, hover⟩ :=
          (passwordPayload_panics_iff (length_payload_lt h)).mp ⟨p, hrequest⟩
        exact .inr ⟨user, rest, rfl, hover⟩
      · cases hrequest
  · rintro (hover | ⟨user, rest, rfl, hover⟩)
    · obtain ⟨p, hmsg⟩ := (exists_panic_iff userAuthRequestMsg h).mpr hover
      exact ⟨p, bind_eq_error.mpr (.inl hmsg)⟩
    · have hmsg := unmarshal_marshal userAuthRequestMsg
        (user, serviceSSH, ascii "password", 0 :: rest, ())
        ⟨trivial, trivial, trivial, trivial, trivial⟩ h
      obtain ⟨p, hpanic⟩ : ∃ p, passwordPayload user (0 :: rest) = .error (.panic p) :=
        (passwordPayload_panics_iff (length_payload_lt h)).mpr ⟨rest, rfl, hover⟩
      refine ⟨p, bind_eq_error.mpr (.inr ⟨_, hmsg, ?_⟩)⟩
      simp only [ne_eq, not_true_eq_false, if_false, if_neg hnone, if_true]
      exact hpanic

theorem not_panicked_reply {s : Handshake} {packet : Bytes} {write : Option SshError}
    {next : Stage} (h : ∀ fault, next ≠ .closed fault) :
    ¬ (s.reply packet write next).Panicked := by
  rintro ⟨p, hp⟩
  cases write with
  | none => exact h _ hp
  | some err => cases hp

theorem not_panicked_fail {s : Handshake} {write : Option SshError} :
    ¬ (s.fail bastionConfig write).Panicked :=
  not_panicked_reply (by simp)

theorem panicked_step_iff {s : Handshake} {e : HandshakeEvent} (hs : ¬ s.Panicked) :
    (s.step bastionConfig e).Panicked ↔ Crashes s e := by
  cases e with
  | packet p write =>
      cases hstage : s.stage with
      | service =>
          simp only [Handshake.step, Crashes, hstage, Handshake.serviceRequest]
          rw [← exists_panic_iff _ p.length_lt]
          split
          · rename_i fault hmsg
            simp [Handshake.Panicked, Handshake.close, hmsg]
          · rename_i service hmsg
            refine iff_of_false ?_ (by simp [hmsg])
            split
            · rintro ⟨p, hp⟩
              cases hp
            · exact not_panicked_reply (by simp)
      | userauth =>
          simp only [Handshake.step, Crashes, hstage, Handshake.authRequest]
          rw [← userAuthRequest_panics_iff p.length_lt]
          split
          · rename_i fault hrequest
            simp [Handshake.Panicked, Handshake.close, hrequest]
          · rename_i user hrequest
            exact absurd hrequest userAuthRequest_ne_accepted
          · rename_i hrequest
            exact iff_of_false not_panicked_fail (by simp [hrequest])
          · rename_i user pass hrequest
            refine iff_of_false ?_ (by simp [hrequest])
            rintro ⟨p, hp⟩
            cases hp
      | calling user pass => simpa [Handshake.step, Crashes, hstage] using hs
      | accepted user => simpa [Handshake.step, Crashes, hstage] using hs
      | closed fault => simpa [Handshake.step, Crashes, hstage] using hs
  | readFails err =>
      refine iff_of_false ?_ id
      simp only [Handshake.step]
      split
      · rintro ⟨p, hp⟩
        cases hp
      · rintro ⟨p, hp⟩
        cases hp
      · exact hs
  | returned verdict write =>
      refine iff_of_false ?_ id
      simp only [Handshake.step]
      split
      · exact not_panicked_reply (by simp)
      · exact not_panicked_fail
      · exact hs

end DockerBastion.Ssh
