import DockerBastion.Ssh.Cipher

/-!
# The transport of a connection

Each direction numbers its packets and changes to the prepared cipher behind a packet
that says so.  What is read are exactly the bytes that carry packets under the ciphers
of the moment, and what one end writes the other end reads, across all changes of the
keys, whenever it prepares them.
-/

namespace DockerBastion.Ssh

open Foundation Sshd

/-- One side of a connection; `pendingKeyChange` is a channel for one cipher. -/
structure ConnectionState where
  packetCipher : PacketCipher
  seqNum : UInt32
  pendingKeyChange : Option PacketCipher

inductive WriteFault where
  | fault (f : Fault)
  /-- There is no key material for the new keys. -/
  | noKeyMaterial

namespace ConnectionState

def start : ConnectionState := ⟨.initial, 0, none⟩

/-- What `prepareKeyChange` does to one side; it waits where a cipher is pending. -/
def prepare (s : ConnectionState) (c : PacketCipher) : Option ConnectionState :=
  match s.pendingKeyChange with
  | none => some { s with pendingKeyChange := some c }
  | some _ => none

def readPacket (s : ConnectionState) (input : Bytes) : ReadResult ConnectionState :=
  match s.packetCipher.readPacket s.seqNum input with
  | .short => .short
  | .failed fault => .failed fault
  | .packet packet rest c =>
      let s := { s with packetCipher := c, seqNum := s.seqNum + 1 }
      match packet with
      | [] => .failed (cipherError "ssh: zero length packet")
      | tag :: _ =>
          if tag = msgNewKeys then
            match s.pendingKeyChange with
            | some c =>
                .packet packet rest { s with packetCipher := c, pendingKeyChange := none }
            | none => .failed (cipherError "ssh: got bogus newkeys message.")
          else .packet packet rest s

/-- The writer of the connection keeps an error, so that nothing is written behind one. -/
def writePacket (s : ConnectionState) (rand : Nat → UInt8) (packet : Bytes)
    (flush : Option SshError) : Except WriteFault (Bytes × ConnectionState) :=
  match s.packetCipher.writePacket s.seqNum rand packet with
  | .error fault => .error (.fault fault)
  | .ok (out, c) =>
      match flush with
      | some err => .error (.fault (.error err))
      | none =>
          let s := { s with packetCipher := c, seqNum := s.seqNum + 1 }
          if packet.head? = some msgNewKeys then
            match s.pendingKeyChange with
            | some c => .ok (out, { s with packetCipher := c, pendingKeyChange := none })
            | none => .error .noKeyMaterial
          else .ok (out, s)

/-- What the packet `p` makes of the state, if the cipher behind it is `c`. -/
def Follows (s : ConnectionState) (p : Bytes) (c : PacketCipher) (s' : ConnectionState) : Prop :=
  (p.head? ≠ some msgNewKeys ∧ s' = { s with packetCipher := c, seqNum := s.seqNum + 1 }) ∨
    ∃ fresh, p.head? = some msgNewKeys ∧ s.pendingKeyChange = some fresh ∧
      s' = ⟨fresh, s.seqNum + 1, none⟩

end ConnectionState

section Packet

variable {s s' : ConnectionState} {p rest out input : Bytes} {rand : Nat → UInt8}

theorem prepare_eq_some_iff {c : PacketCipher} :
    s.prepare c = some s' ↔
      s.pendingKeyChange = none ∧ s' = { s with pendingKeyChange := some c } := by
  unfold ConnectionState.prepare
  split
  · rename_i hnone
    simp [hnone, eq_comm]
  · rename_i hsome
    simp [hsome]

theorem follows_unique {c : PacketCipher} {s'' : ConnectionState} (h : s.Follows p c s')
    (h' : s.Follows p c s'') : s' = s'' := by
  rcases h with ⟨htag, rfl⟩ | ⟨fresh, htag, hpending, rfl⟩
  · rcases h' with ⟨-, rfl⟩ | ⟨_, htag', -⟩
    · rfl
    · exact absurd htag' htag
  · rcases h' with ⟨htag', -⟩ | ⟨_, -, hpending', rfl⟩
    · exact absurd htag htag'
    · rw [hpending] at hpending'
      cases hpending'
      rfl

/-- A packet is read if the cipher reads it and there are new keys where it says so. -/
theorem connection_readPacket_eq_packet_iff :
    s.readPacket input = .packet p rest s' ↔
      ∃ c, s.packetCipher.readPacket s.seqNum input = .packet p rest c ∧ s.Follows p c s' := by
  unfold ConnectionState.readPacket
  cases hcipher : s.packetCipher.readPacket s.seqNum input with
  | short => simp
  | failed fault => simp
  | packet q others c =>
      obtain ⟨padding, -, hpos, -⟩ := PacketCipher.readPacket_eq_packet_iff.mp hcipher
      obtain ⟨tag, body, rfl⟩ := List.exists_cons_of_length_pos hpos
      dsimp only
      by_cases htag : tag = msgNewKeys
      · rw [if_pos htag]
        cases hpending : s.pendingKeyChange with
        | some fresh =>
            constructor
            · intro h
              cases h
              exact ⟨c, rfl, .inr ⟨fresh, by simp [htag], hpending, rfl⟩⟩
            · rintro ⟨c', hsame, hfollows⟩
              cases hsame
              rcases hfollows with ⟨hother, -⟩ | ⟨fresh', -, hfresh, rfl⟩
              · simp [htag] at hother
              · rw [hpending] at hfresh
                cases hfresh
                rfl
        | none =>
            refine iff_of_false (by simp) ?_
            rintro ⟨c', hsame, hfollows⟩
            cases hsame
            rcases hfollows with ⟨hother, -⟩ | ⟨fresh, -, hfresh, -⟩
            · simp [htag] at hother
            · rw [hpending] at hfresh
              cases hfresh
      · rw [if_neg htag]
        constructor
        · intro h
          cases h
          exact ⟨c, rfl, .inl ⟨by simpa using htag, rfl⟩⟩
        · rintro ⟨c', hsame, hfollows⟩
          cases hsame
          rcases hfollows with ⟨-, rfl⟩ | ⟨fresh, hsame, -⟩
          · rfl
          · simp [htag] at hsame

theorem writePacket_eq_ok (h : s.writePacket rand p none = .ok (out, s')) :
    ∃ c, s.packetCipher.writePacket s.seqNum rand p = .ok (out, c) ∧ s.Follows p c s' := by
  unfold ConnectionState.writePacket at h
  split at h
  · cases h
  rename_i out' c hwrite
  dsimp only at h
  split at h
  · rename_i htag
    split at h
    · rename_i fresh hpending
      cases h
      exact ⟨c, hwrite, .inr ⟨fresh, htag, hpending, rfl⟩⟩
    · cases h
  · rename_i htag
    cases h
    exact ⟨c, hwrite, .inl ⟨htag, rfl⟩⟩

/-- An error of the cipher is passed on, and there are two errors of the connection. -/
theorem readPacket_panics_iff {e : Panic} :
    s.readPacket input = .failed (.panic e) ↔
      s.packetCipher.readPacket s.seqNum input = .failed (.panic e) := by
  unfold ConnectionState.readPacket
  cases s.packetCipher.readPacket s.seqNum input with
  | short => simp
  | failed fault => simp
  | packet q others c =>
      refine iff_of_false ?_ (by simp)
      dsimp only
      split
      · simp [cipherError]
      · split
        · split <;> simp [cipherError]
        · simp

end Packet

/-! ## Reading -/

/-- What the reading end does: it prepares its keys, or it reads a packet. -/
inductive ReadStep where
  | prepare (c : PacketCipher)
  | packet

inductive Stop where
  /-- A cipher is already pending. -/
  | waits
  | short
  | failed (fault : Fault)

/-- The packets that are read, what is left of the input, and the state then. -/
def readAll : ConnectionState → List ReadStep → Bytes →
    Except Stop (List Bytes × Bytes × ConnectionState)
  | s, [], input => .ok ([], input, s)
  | s, .prepare c :: steps, input =>
      match s.prepare c with
      | none => .error .waits
      | some s => readAll s steps input
  | s, .packet :: steps, input =>
      match s.readPacket input with
      | .short => .error .short
      | .failed fault => .error (.failed fault)
      | .packet p rest s =>
          match readAll s steps rest with
          | .error stop => .error stop
          | .ok (others, rest, s) => .ok (p :: others, rest, s)

/-- The bytes that carry packets, each under the cipher and the number of its turn. -/
inductive Carries :
    ConnectionState → List ReadStep → List Bytes → Bytes → ConnectionState → Prop where
  | done (s : ConnectionState) : Carries s [] [] [] s
  | prepare {s s₁ s' : ConnectionState} {c : PacketCipher} {steps : List ReadStep}
      {ps : List Bytes} {b : Bytes} :
      s.prepare c = some s₁ → Carries s₁ steps ps b s' → Carries s (.prepare c :: steps) ps b s'
  | packet {s s₁ s' : ConnectionState} {p padding : Bytes} {steps : List ReadStep}
      {ps : List Bytes} {b : Bytes} :
      s.packetCipher.legalPadding padding.length → 0 < p.length →
      p.length + padding.length + 1 ≤ maxPacket →
      s.Follows p (s.packetCipher.after p padding) s₁ →
      Carries s₁ steps ps b s' →
      Carries s (.packet :: steps) (p :: ps) (s.packetCipher.encrypted s.seqNum p padding ++ b) s'

section Reading

variable {s s' : ConnectionState} {steps : List ReadStep} {ps : List Bytes} {rest input : Bytes}

theorem carries_of_readAll (h : readAll s steps input = .ok (ps, rest, s')) :
    ∃ b, Carries s steps ps b s' ∧ input = b ++ rest := by
  induction steps generalizing s ps input with
  | nil =>
      cases h
      exact ⟨[], .done _, rfl⟩
  | cons step steps ih =>
      cases step with
      | prepare c =>
          unfold readAll at h
          cases hprepare : s.prepare c with
          | none =>
              rw [hprepare] at h
              cases h
          | some s₁ =>
              rw [hprepare] at h
              obtain ⟨b, hcarries, hinput⟩ := ih h
              exact ⟨b, .prepare hprepare hcarries, hinput⟩
      | packet =>
          unfold readAll at h
          split at h
          · cases h
          · cases h
          rename_i p others s₁ hread
          split at h
          · cases h
          rename_i ps' rest' s₂ hothers
          cases h
          obtain ⟨c, hcipher, hfollows⟩ := connection_readPacket_eq_packet_iff.mp hread
          obtain ⟨padding, hlegal, hpos, hmax, hinput, hafter⟩ :=
            PacketCipher.readPacket_eq_packet_iff.mp hcipher
          obtain ⟨b, hcarries, hothers⟩ := ih hothers
          rw [hafter] at hfollows
          refine ⟨_, .packet hlegal hpos hmax hfollows hcarries, ?_⟩
          rw [hinput, hothers, List.append_assoc]

theorem readAll_of_carries {b : Bytes} (h : Carries s steps ps b s') (rest : Bytes) :
    readAll s steps (b ++ rest) = .ok (ps, rest, s') := by
  induction h with
  | done s => rfl
  | prepare hprepare _ ih =>
      rw [readAll, hprepare]
      exact ih
  | packet hlegal hpos hmax hfollows _ ih =>
      rw [readAll, List.append_assoc,
        connection_readPacket_eq_packet_iff.mpr ⟨_, PacketCipher.readPacket_eq_packet_iff.mpr
          ⟨_, hlegal, hpos, hmax, rfl, rfl⟩, hfollows⟩]
      dsimp only
      rw [ih]

/--
What is read, in any number of packets and changes of the keys: packets are read from
exactly those bytes that carry them, each one under the cipher, the number and the
place in the key stream or the nonce of its turn.
-/
theorem reads_exactly :
    readAll s steps input = .ok (ps, rest, s') ↔
      ∃ b, Carries s steps ps b s' ∧ input = b ++ rest := by
  constructor
  · exact carries_of_readAll
  · rintro ⟨b, hcarries, rfl⟩
    exact readAll_of_carries hcarries rest

theorem readAll_append {before others : List ReadStep} {b : Bytes} {stop : Stop}
    (h : Carries s before ps b s') (hstop : readAll s' others rest = .error stop) :
    readAll s (before ++ others) (b ++ rest) = .error stop := by
  induction h with
  | done s => exact hstop
  | prepare hprepare _ ih =>
      rw [List.cons_append, readAll, hprepare]
      exact ih hstop
  | packet hlegal hpos hmax hfollows _ ih =>
      rw [List.cons_append, readAll, List.append_assoc,
        connection_readPacket_eq_packet_iff.mpr ⟨_, PacketCipher.readPacket_eq_packet_iff.mpr
          ⟨_, hlegal, hpos, hmax, rfl, rfl⟩, hfollows⟩]
      dsimp only
      rw [ih hstop]

theorem readAll_failed {fault : Fault} (h : readAll s steps input = .error (.failed fault)) :
    ∃ before others ps b s₁ rest, steps = before ++ .packet :: others ∧
      Carries s before ps b s₁ ∧ input = b ++ rest ∧ s₁.readPacket rest = .failed fault := by
  induction steps generalizing s input with
  | nil => cases h
  | cons step steps ih =>
      cases step with
      | prepare c =>
          unfold readAll at h
          cases hprepare : s.prepare c with
          | none =>
              rw [hprepare] at h
              cases h
          | some s₁ =>
              rw [hprepare] at h
              obtain ⟨before, others, ps, b, s₂, rest, rfl, hcarries, hinput, hfailed⟩ := ih h
              exact ⟨.prepare c :: before, others, ps, b, s₂, rest, rfl,
                .prepare hprepare hcarries, hinput, hfailed⟩
      | packet =>
          unfold readAll at h
          split at h
          · cases h
          · rename_i fault' hread
            cases h
            exact ⟨[], steps, [], [], s, input, rfl, .done s, rfl, hread⟩
          rename_i p between s₁ hread
          split at h
          · rename_i stop hothers
            cases h
            obtain ⟨c, hcipher, hfollows⟩ := connection_readPacket_eq_packet_iff.mp hread
            obtain ⟨padding, hlegal, hpos, hmax, hinput, hafter⟩ :=
              PacketCipher.readPacket_eq_packet_iff.mp hcipher
            rw [hafter] at hfollows
            obtain ⟨before, others, ps, b, s₂, rest, rfl, hcarries, hbetween, hfailed⟩ := ih hothers
            refine ⟨.packet :: before, others, p :: ps, _, s₂, rest, rfl,
              .packet hlegal hpos hmax hfollows hcarries, ?_, hfailed⟩
            rw [hinput, hbetween, List.append_assoc]
          · cases h

/--
The reader panics on one kind of input only: behind packets that are read, and once
AES-GCM is in use, an authentic packet without a byte of padding length.
-/
theorem read_panics_iff {e : Panic} :
    readAll s steps input = .error (.failed (.panic e)) ↔
      e = .indexOutOfRange ∧ ∃ before others ps b s₁ aead iv rest,
        steps = before ++ .packet :: others ∧ Carries s before ps b s₁ ∧
        s₁.packetCipher = .gcm aead iv ∧
        input = b ++ (appendU32 0 ++ (aead.sealWith iv [] (appendU32 0) ++ rest)) := by
  constructor
  · intro h
    obtain ⟨before, others, ps, b, s₁, rest, hsteps, hcarries, hinput, hfailed⟩ :=
      readAll_failed h
    rw [readPacket_panics_iff, PacketCipher.readPacket_panics_iff] at hfailed
    obtain ⟨he, aead, iv, rest, hcipher, rfl⟩ := hfailed
    exact ⟨he, before, others, ps, b, s₁, aead, iv, rest, hsteps, hcarries, hcipher, hinput⟩
  · rintro ⟨he, before, others, ps, b, s₁, aead, iv, rest, rfl, hcarries, hcipher, rfl⟩
    have hfailed : s₁.readPacket (appendU32 0 ++ (aead.sealWith iv [] (appendU32 0) ++ rest)) =
        .failed (.panic e) := by
      rw [readPacket_panics_iff, PacketCipher.readPacket_panics_iff]
      exact ⟨he, aead, iv, rest, hcipher, rfl⟩
    refine readAll_append hcarries ?_
    rw [readAll, hfailed]

end Reading

/-! ## Both ends of one direction -/

inductive WriteStep where
  | prepare (c : PacketCipher)
  | packet (p : Bytes) (rand : Nat → UInt8)

/-- What is written, if every step succeeds. -/
def writeAll : ConnectionState → List WriteStep → Option (Bytes × ConnectionState)
  | s, [] => some ([], s)
  | s, .prepare c :: steps =>
      match s.prepare c with
      | none => none
      | some s => writeAll s steps
  | s, .packet p rand :: steps =>
      match s.writePacket rand p none with
      | .error _ => none
      | .ok (out, s) =>
          match writeAll s steps with
          | none => none
          | some (others, s) => some (out ++ others, s)

def packetsOf : List WriteStep → List Bytes
  | [] => []
  | .prepare _ :: steps => packetsOf steps
  | .packet p _ :: steps => p :: packetsOf steps

def writerKeys : List WriteStep → List PacketCipher
  | [] => []
  | .prepare c :: steps => c :: writerKeys steps
  | .packet _ _ :: steps => writerKeys steps

def readerKeys : List ReadStep → List PacketCipher
  | [] => []
  | .prepare c :: steps => c :: readerKeys steps
  | .packet :: steps => readerKeys steps

/-- No packet is empty or longer than what the cipher of the moment can carry. -/
def Carried : ConnectionState → List WriteStep → Prop
  | _, [] => True
  | s, .prepare c :: steps =>
      match s.prepare c with
      | none => True
      | some s => Carried s steps
  | s, .packet p rand :: steps =>
      (0 < p.length ∧ p.length ≤ s.packetCipher.longest) ∧
        match s.writePacket rand p none with
        | .error _ => True
        | .ok (_, s) => Carried s steps

/--
The reading end reads each of the packets, and has its next keys, and no more than
those, when it comes to a packet that changes to them.
-/
def Ready : Bool → List ReadStep → List Bytes → Prop
  | _, [], ps => ps = []
  | pending, .prepare _ :: steps, ps => pending = false ∧ Ready true steps ps
  | _, .packet :: _, [] => False
  | pending, .packet :: steps, p :: ps =>
      if p.head? = some msgNewKeys then pending = true ∧ Ready false steps ps
      else Ready pending steps ps

/-- Both ends are at the same packet, and have agreed on the same keys. -/
structure InStep (s : ConnectionState) (steps : List WriteStep) (r : ConnectionState)
    (steps' : List ReadStep) : Prop where
  packetCipher : s.packetCipher = r.packetCipher
  seqNum : s.seqNum = r.seqNum
  keys : s.pendingKeyChange.toList ++ writerKeys steps =
    r.pendingKeyChange.toList ++ readerKeys steps'

section RoundTrip

variable {s s₁ s' r r₁ : ConnectionState} {c : PacketCipher} {p rest out : Bytes}
  {rand : Nat → UInt8} {steps : List WriteStep} {steps' : List ReadStep}

theorem InStep.writer_prepares (h : InStep s (.prepare c :: steps) r steps')
    (hprepare : s.prepare c = some s₁) : InStep s₁ steps r steps' := by
  obtain ⟨hnone, rfl⟩ := prepare_eq_some_iff.mp hprepare
  refine ⟨h.packetCipher, h.seqNum, ?_⟩
  have hkeys := h.keys
  rw [hnone] at hkeys
  exact hkeys

theorem InStep.reader_prepares (h : InStep s steps r (.prepare c :: steps'))
    (hprepare : r.prepare c = some r₁) : InStep s steps r₁ steps' := by
  obtain ⟨hnone, rfl⟩ := prepare_eq_some_iff.mp hprepare
  refine ⟨h.packetCipher, h.seqNum, ?_⟩
  have hkeys := h.keys
  rw [hnone] at hkeys
  exact hkeys

/-- The reader follows the writer, with the same new keys if it has any. -/
theorem InStep.reader_follows (h : InStep s (.packet p rand :: steps) r (.packet :: steps'))
    (hfollows : s.Follows p c s₁)
    (hready : p.head? = some msgNewKeys → r.pendingKeyChange.isSome) :
    ∃ r₁, r.Follows p c r₁ ∧ InStep s₁ steps r₁ steps' := by
  have hkeys := h.keys
  rcases hfollows with ⟨htag, rfl⟩ | ⟨fresh, htag, hpending, rfl⟩
  · exact ⟨_, .inl ⟨htag, rfl⟩, rfl, congrArg (· + 1) h.seqNum, hkeys⟩
  · obtain ⟨fresh', hpending'⟩ := Option.isSome_iff_exists.mp (hready htag)
    rw [hpending, hpending'] at hkeys
    simp only [writerKeys, readerKeys, Option.toList_some, List.singleton_append,
      List.cons.injEq] at hkeys
    obtain ⟨rfl, hkeys⟩ := hkeys
    exact ⟨_, .inr ⟨fresh, htag, hpending', rfl⟩, rfl, congrArg (· + 1) h.seqNum, hkeys⟩

theorem pending_of_follows (h : r.Follows p c r₁) (htag : p.head? = some msgNewKeys) :
    r.pendingKeyChange.isSome := by
  rcases h with ⟨hother, -⟩ | ⟨fresh, -, hpending, -⟩
  · exact absurd htag hother
  · rw [hpending]
    rfl

theorem ready_prepare_iff {ps : List Bytes} (hprepare : r.prepare c = some r₁) :
    Ready r.pendingKeyChange.isSome (.prepare c :: steps') ps ↔
      Ready r₁.pendingKeyChange.isSome steps' ps := by
  obtain ⟨hnone, rfl⟩ := prepare_eq_some_iff.mp hprepare
  simp [Ready, hnone]

theorem not_ready_of_prepare {ps : List Bytes} (hprepare : r.prepare c = none) :
    ¬ Ready r.pendingKeyChange.isSome (.prepare c :: steps') ps := by
  intro hready
  have hnone : r.pendingKeyChange = none := by simpa using hready.1
  rw [prepare_eq_some_iff.mpr ⟨hnone, rfl⟩] at hprepare
  cases hprepare

theorem ready_packet_iff {ps : List Bytes} (hfollows : r.Follows p c r₁) :
    Ready r.pendingKeyChange.isSome (.packet :: steps') (p :: ps) ↔
      Ready r₁.pendingKeyChange.isSome steps' ps := by
  rcases hfollows with ⟨htag, rfl⟩ | ⟨fresh, htag, hpending, rfl⟩
  · rw [Ready, if_neg htag]
  · rw [Ready, if_pos htag, hpending]
    simp

theorem isSome_of_ready {ps : List Bytes} {pending : Bool}
    (hready : Ready pending (.packet :: steps') (p :: ps)) (htag : p.head? = some msgNewKeys) :
    pending = true := by
  rw [Ready, if_pos htag] at hready
  exact hready.1

/-- Behind the last packet of the writer, the reader can only prepare its keys. -/
theorem readAll_nil_iff (h : InStep s [] r steps') :
    readAll r steps' rest = .ok ([], rest, s) ↔ Ready r.pendingKeyChange.isSome steps' [] := by
  induction steps' generalizing r with
  | nil =>
      have hpending : s.pendingKeyChange = r.pendingKeyChange := by
        have hkeys : s.pendingKeyChange.toList = r.pendingKeyChange.toList := by
          simpa only [writerKeys, readerKeys, List.append_nil] using h.keys
        cases hpending : r.pendingKeyChange with
        | none =>
            rw [hpending] at hkeys
            exact Option.toList_eq_nil_iff.mp hkeys
        | some c =>
            rw [hpending] at hkeys
            exact Option.toList_eq_singleton_iff.mp hkeys
      have hsame : r = s := by
        cases r
        cases s
        simp only [ConnectionState.mk.injEq]
        exact ⟨h.packetCipher.symm, h.seqNum.symm, hpending.symm⟩
      simp [readAll, Ready, hsame]
  | cons step steps' ih =>
      cases step with
      | prepare c =>
          rw [readAll]
          cases hprepare : r.prepare c with
          | none => exact iff_of_false (by simp) (not_ready_of_prepare hprepare)
          | some r₁ =>
              rw [ready_prepare_iff hprepare]
              exact ih (h.reader_prepares hprepare)
      | packet =>
          refine iff_of_false ?_ id
          rw [readAll]
          split
          · simp
          · simp
          · split <;> simp

theorem readAll_packet {ps : List Bytes} {input : Bytes}
    (h : readAll r (.packet :: steps') input = .ok (p :: ps, rest, s')) :
    ∃ c between r₁, r.packetCipher.readPacket r.seqNum input = .packet p between c ∧
      r.Follows p c r₁ ∧ readAll r₁ steps' between = .ok (ps, rest, s') := by
  unfold readAll at h
  split at h
  · cases h
  · cases h
  rename_i q between r₁ hread
  split at h
  · cases h
  rename_i ps' rest' r₂ hothers
  cases h
  obtain ⟨c, hcipher, hfollows⟩ := connection_readPacket_eq_packet_iff.mp hread
  exact ⟨c, between, r₁, hcipher, hfollows, hothers⟩

/-- The first packet is read if it fits and the reader is ready for it. -/
theorem reads_packet {more : Bytes} {ps : List Bytes} {fits : Prop}
    (h : InStep s (.packet p rand :: steps) r steps')
    (hwrite : s.writePacket rand p none = .ok (out, s₁))
    (hothers : ∀ r₁ steps'', InStep s₁ steps r₁ steps'' →
      (readAll r₁ steps'' more = .ok (ps, rest, s') ↔
        fits ∧ Ready r₁.pendingKeyChange.isSome steps'' ps)) :
    readAll r steps' (out ++ more) = .ok (p :: ps, rest, s') ↔
      ((0 < p.length ∧ p.length ≤ s.packetCipher.longest) ∧ fits) ∧
        Ready r.pendingKeyChange.isSome steps' (p :: ps) := by
  obtain ⟨c, hcipher, hfollows⟩ := writePacket_eq_ok hwrite
  induction steps' generalizing r with
  | nil => simp [readAll, Ready]
  | cons step steps' ih =>
      cases step with
      | prepare c' =>
          rw [readAll]
          cases hprepare : r.prepare c' with
          | none =>
              exact iff_of_false (by simp) fun hall => not_ready_of_prepare hprepare hall.2
          | some r₁ =>
              rw [ready_prepare_iff hprepare]
              exact ih (h.reader_prepares hprepare)
      | packet =>
          rw [h.packetCipher, h.seqNum] at hcipher
          constructor
          · intro hread
            obtain ⟨c', between, r₁, hread, hreader, hall⟩ := readAll_packet hread
            obtain ⟨hpos, hfits⟩ := PacketCipher.fits_of_read hcipher hread
            rw [PacketCipher.read_written hcipher hpos hfits] at hread
            cases hread
            have hready : p.head? = some msgNewKeys → r.pendingKeyChange.isSome :=
              pending_of_follows hreader
            obtain ⟨r₂, hreader', hin⟩ := h.reader_follows hfollows hready
            rw [follows_unique hreader hreader'] at hall
            obtain ⟨hcarried, hothers⟩ := (hothers r₂ steps' hin).mp hall
            rw [h.packetCipher, ready_packet_iff hreader']
            exact ⟨⟨⟨hpos, hfits⟩, hcarried⟩, hothers⟩
          · rintro ⟨⟨⟨hpos, hfits⟩, hcarried⟩, hready⟩
            obtain ⟨r₁, hreader, hin⟩ := h.reader_follows hfollows (isSome_of_ready hready)
            rw [ready_packet_iff hreader] at hready
            rw [h.packetCipher] at hfits
            rw [readAll, connection_readPacket_eq_packet_iff.mpr
              ⟨c, PacketCipher.read_written hcipher hpos hfits, hreader⟩]
            dsimp only
            rw [(hothers r₁ steps' hin).mpr ⟨hcarried, hready⟩]

/--
Whatever is written in any number of packets and changes of the keys, the other end
reads exactly these packets and comes to the same state, wherever it prepares its keys:
if and only if no packet is empty or longer than the cipher of the moment can carry,
and the reader has its keys in time, one cipher at a time.
-/
theorem transport_round_trip (h : writeAll s steps = some (out, s'))
    (hstart : InStep s steps r steps') :
    readAll r steps' (out ++ rest) = .ok (packetsOf steps, rest, s') ↔
      Carried s steps ∧ Ready r.pendingKeyChange.isSome steps' (packetsOf steps) := by
  induction steps generalizing s out r steps' with
  | nil =>
      cases h
      rw [packetsOf, List.nil_append, readAll_nil_iff hstart]
      simp [Carried]
  | cons step steps ih =>
      cases step with
      | prepare c =>
          unfold writeAll at h
          cases hprepare : s.prepare c with
          | none =>
              rw [hprepare] at h
              cases h
          | some s₁ =>
              rw [hprepare] at h
              rw [packetsOf, Carried, hprepare]
              exact ih h (hstart.writer_prepares hprepare)
      | packet p rand =>
          unfold writeAll at h
          split at h
          · cases h
          rename_i first s₁ hwrite
          split at h
          · cases h
          rename_i others s₂ hothers
          cases h
          have hlater : ∀ r₁ steps'', InStep s₁ steps r₁ steps'' →
              (readAll r₁ steps'' (others ++ rest) = .ok (packetsOf steps, rest, s') ↔
                Carried s₁ steps ∧
                  Ready r₁.pendingKeyChange.isSome steps'' (packetsOf steps)) :=
            fun _ _ hin => ih hothers hin
          rw [packetsOf, Carried, hwrite, List.append_assoc]
          exact reads_packet hstart hwrite hlater

/-- What is sealed is only tagged, with zeros. -/
def zeroTagged : Aead where
  sealWith _ plain _ := plain ++ List.replicate gcmTagSize 0
  openWith _ box _ :=
    if List.replicate gcmTagSize 0 <:+ box then some (box.take (box.length - gcmTagSize)) else none
  length_sealWith _ plain _ := by simp
  openWith_eq_some_iff _ box _ plain := by
    constructor
    · intro h
      split at h
      · rename_i htag
        obtain ⟨front, rfl⟩ := htag
        cases h
        simp
      · cases h
    · rintro rfl
      simp

/-- The keys change to AES-GCM behind the second packet. -/
def rekeyed : List WriteStep :=
  [.packet [20] fun _ => 0, .prepare (.gcm zeroTagged (List.replicate 12 0)),
    .packet [21] fun _ => 0, .packet [5, 1] fun _ => 0]

/-- The reader may prepare its keys before the first packet. -/
theorem rekeyed_round_trip :
    ∃ out s', writeAll .start rekeyed = some (out, s') ∧
      readAll .start
          [.prepare (.gcm zeroTagged (List.replicate 12 0)), .packet, .packet, .packet]
          (out ++ [7]) = .ok ([[20], [21], [5, 1]], [7], s') := by
  have hsome : (writeAll .start rekeyed).isSome = true := by decide
  obtain ⟨⟨out, s'⟩, hwrite⟩ := Option.isSome_iff_exists.mp hsome
  refine ⟨out, s', hwrite, (transport_round_trip hwrite ⟨rfl, rfl, rfl⟩).mpr ⟨?_, ?_⟩⟩
  · exact ⟨⟨by decide, by decide⟩, ⟨by decide, by decide⟩, ⟨by decide, by decide⟩, trivial⟩
  · exact ⟨rfl, rfl, rfl⟩

end RoundTrip

end DockerBastion.Ssh
