import DockerBastion.Ssh.RekeyInvariant
import DockerBastion.Ssh.Transport

/-!
# Safety of rekeying

In every interleaving one goroutine at a time writes to the connection, though the mutex
is not held during a key exchange.  What is written keeps the order of a key exchange, so
that there are keys to change to whenever it says so, and new keys are announced to the
server only where both directions have changed to some.
-/

namespace DockerBastion.Ssh

open Foundation Sshd

namespace Rekey

/-- It is in `writePacket` of the connection. -/
def ReadLoop.Writes : ReadLoop → Prop
  | .requestWriting => True
  | .enterWriting _ => True
  | .replying _ _ => True
  | .changing => True
  | _ => False

section Runs

variable {E : Exchange}

theorem Sound.alone {s : Rekey} {i : Nat} (h : s.Sound) (hwriter : (s.writers i).Holds) :
    (∀ j, (s.writers j).Holds → j = i) ∧ ¬ ReadLoop.Writes s.reader := by
  have hlock := (h.lock_writer i).mp hwriter
  constructor
  · intro j hj
    have hsame := hlock.symm.trans ((h.lock_writer j).mp hj)
    exact (Lock.writer.inj hsame).symm
  · intro hwrites
    have hinit := h.holder_init (by simp [hlock])
    cases hreader : s.reader with
    | requestWriting =>
        have hown := h.lock_reader.mp (by simp [hreader, ReadLoop.Holds])
        simp [hlock] at hown
    | enterWriting otherInit =>
        have hown := h.lock_reader.mp (by simp [hreader, ReadLoop.Holds])
        simp [hlock] at hown
    -- in a key exchange the mutex does not keep the writers away, but the `kexInit` does
    | replying kex reply =>
        have hsent := h.exchanging (by simp [hreader, ReadLoop.Exchanging])
        simp [hinit] at hsent
    | changing =>
        have hsent := h.exchanging (by simp [hreader, ReadLoop.Exchanging])
        simp [hinit] at hsent
    | _ => simp [hreader, ReadLoop.Writes] at hwrites

/--
No two goroutines are ever in `writePacket` of the connection, which is not safe for
that, in any interleaving of any number of writers with the reader.
-/
theorem connection_used_alone (events : List RekeyEvent) (i : Nat)
    (hwriter : ((run (Rekey.step E) .start events).writers i).Holds) :
    (∀ j, ((run (Rekey.step E) .start events).writers j).Holds → j = i) ∧
      ¬ ReadLoop.Writes (run (Rekey.step E) .start events).reader :=
  (Sound.start.run events).alone hwriter

/-- A writer and the reader wait for the mutex while another writer writes its packet. -/
def contended : List RekeyEvent :=
  [.readerTurn, .call 0 (some [94]), .turn 0, .call 1 (some [93]), .turn 1,
    .received (.ok (marshal kexInitMsg mixedClient.record)), .readerTurn]

/-- Then the reader writes its reply, without the mutex. -/
def replied : List RekeyEvent :=
  contended ++ [.wrote 0 none, .readerTurn, .turn 1, .readerWrote none, .turn 1,
    .received (.ok [30])]

theorem contended_alone :
    ((run (Rekey.step mixedExchange) .start contended).writers 0 = .writing [94] ∧
      (run (Rekey.step mixedExchange) .start contended).writers 1 = .calling (some [93]) ∧
      (run (Rekey.step mixedExchange) .start contended).reader =
        .entering (marshal kexInitMsg mixedClient.record) ∧
      (∀ j, ((run (Rekey.step mixedExchange) .start contended).writers j).Holds → j = 0) ∧
      ¬ ReadLoop.Writes (run (Rekey.step mixedExchange) .start contended).reader) ∧
    ((run (Rekey.step mixedExchange) .start replied).lock = .free ∧
      (run (Rekey.step mixedExchange) .start replied).writers 1 = .waiting [93] ∧
      (run (Rekey.step mixedExchange) .start replied).reader =
        .replying (ascii "ecdh-sha2-nistp256") [msgKexDHReply] ∧
      ∀ j, ¬ ((run (Rekey.step mixedExchange) .start replied).writers j).Holds) := by
  have hbefore := connection_used_alone (E := mixedExchange) contended 0
  have hafter := connection_used_alone (E := mixedExchange) replied
  have hcontended : (run (Rekey.step mixedExchange) .start contended).writers 0 = .writing [94] ∧
      (run (Rekey.step mixedExchange) .start contended).writers 1 = .calling (some [93]) ∧
      (run (Rekey.step mixedExchange) .start contended).reader =
        .entering (marshal kexInitMsg mixedClient.record) := by
    decide +kernel
  have hreplied : (run (Rekey.step mixedExchange) .start replied).lock = .free ∧
      (run (Rekey.step mixedExchange) .start replied).writers 1 = .waiting [93] ∧
      (run (Rekey.step mixedExchange) .start replied).reader =
        .replying (ascii "ecdh-sha2-nistp256") [msgKexDHReply] := by
    decide +kernel
  generalize run (Rekey.step mixedExchange) .start contended = s at *
  generalize run (Rekey.step mixedExchange) .start replied = t at *
  obtain ⟨hwriting, hcalling, hentering⟩ := hcontended
  obtain ⟨hfree, hwaiting, hreplying⟩ := hreplied
  refine ⟨⟨hwriting, hcalling, hentering, hbefore (hwriting ▸ trivial)⟩, hfree, hwaiting,
    hreplying, fun j hj => (hafter j hj).2 (hreplying ▸ trivial)⟩

/-! ## New keys -/

/-- Both directions of the connection have changed to keys of a key exchange. -/
def Exchanged (s : Rekey) : Prop := 0 < s.keysRead ∧ .packet [msgNewKeys] ∈ s.log

/-- Where new keys are announced to the server, there are some. -/
structure Announced (s : Rekey) : Prop where
  awaiting : s.reader = .awaiting → .packet [msgNewKeys] ∈ s.log
  leaving : s.reader = .leaving none → s.Exchanged
  delivering : ∀ p, s.reader = .delivering p → p.head? = some msgNewKeys → s.Exchanged
  incoming : ∀ p ∈ s.incoming, p.head? = some msgNewKeys → s.Exchanged

/-- What a writer leaves as it is. -/
structure Spares (s s' : Rekey) : Prop where
  reader : s'.reader = s.reader
  incoming : s'.incoming = s.incoming
  keysRead : s'.keysRead = s.keysRead
  log : s.log ⊆ s'.log

theorem Exchanged.mono {s s' : Rekey} (h : s.Exchanged) (hkeys : s'.keysRead = s.keysRead)
    (hlog : s.log ⊆ s'.log) : s'.Exchanged :=
  ⟨hkeys ▸ h.1, hlog h.2⟩

theorem Announced.spared {s s' : Rekey} (h : s.Announced) (hs : Spares s s') : s'.Announced where
  awaiting hr := hs.log (h.awaiting (hs.reader ▸ hr))
  leaving hr := (h.leaving (hs.reader ▸ hr)).mono hs.keysRead hs.log
  delivering p hr hp := (h.delivering p (hs.reader ▸ hr) hp).mono hs.keysRead hs.log
  incoming p hmem hp := (h.incoming p (hs.incoming ▸ hmem) hp).mono hs.keysRead hs.log

theorem Spares.same {s s' : Rekey} (hreader : s'.reader = s.reader)
    (hincoming : s'.incoming = s.incoming) (hkeys : s'.keysRead = s.keysRead)
    (hlog : s'.log = s.log) : Spares s s' :=
  ⟨hreader, hincoming, hkeys, hlog ▸ List.Subset.refl _⟩

theorem spares_call (s : Rekey) (i : Nat) (p : Option Bytes) : Spares s (s.call i p) := by
  unfold Rekey.call
  split
  · split <;> exact .same rfl rfl rfl rfl
  · exact .same rfl rfl rfl rfl

theorem spares_proceed (s : Rekey) (i : Nat) (p : Option Bytes) : Spares s (s.proceed i p) := by
  unfold Rekey.proceed
  split
  · exact .same rfl rfl rfl rfl
  · split
    · exact .same rfl rfl rfl rfl
    · split
      · exact .same rfl rfl rfl rfl
      · dsimp only
        split <;> exact .same rfl rfl rfl rfl

theorem spares_turn (s : Rekey) (i : Nat) : Spares s (s.turn E i) := by
  unfold Rekey.turn
  split
  · exact .same rfl rfl rfl rfl
  split
  · split
    · exact spares_proceed s i none
    · exact .same rfl rfl rfl rfl
  · split
    · exact .same rfl rfl rfl rfl
    · exact spares_proceed s i _
  · exact spares_proceed s i _
  · exact .same rfl rfl rfl rfl

theorem spares_wrote (s : Rekey) (i : Nat) (err : Option SshError) :
    Spares s (s.wrote E i err) := by
  unfold Rekey.wrote
  split
  · split
    · exact .same rfl rfl rfl rfl
    · rw [proceed_initSent]
      exact ⟨rfl, rfl, rfl, List.subset_append_left _ _⟩
  · exact spares_proceed s i _
  · split
    · exact .same rfl rfl rfl rfl
    · exact ⟨rfl, rfl, rfl, List.subset_append_left _ _⟩
  · exact .same rfl rfl rfl rfl
  · exact .same rfl rfl rfl rfl

/-- The reader goes to where nothing has been announced. -/
theorem Announced.quiet {s s' : Rekey} (h : s.Announced)
    (hreader : s'.reader ≠ .awaiting ∧ s'.reader ≠ .leaving none ∧
      ∀ p, s'.reader = .delivering p → p.head? ≠ some msgNewKeys)
    (hincoming : s'.incoming = s.incoming) (hkeys : s'.keysRead = s.keysRead)
    (hlog : s.log ⊆ s'.log) : s'.Announced where
  awaiting hr := absurd hr hreader.1
  leaving hr := absurd hr hreader.2.1
  delivering p hr hp := absurd hp (hreader.2.2 p hr)
  incoming p hmem hp := (h.incoming p (hincoming ▸ hmem) hp).mono hkeys hlog

theorem Announced.continueWith {s : Rekey} {o : Outcome ReadLoop} (h : s.Announced)
    (ho : ∀ r, o = .ok r → r ≠ .awaiting ∧ r ≠ .leaving none ∧
      ∀ p, r = .delivering p → p.head? ≠ some msgNewKeys) : (s.continueWith o).Announced := by
  cases o with
  | ok r => exact h.quiet (ho r rfl) rfl rfl (List.Subset.refl _)
  | error fault =>
      cases fault with
      | panic e => exact h.spared (.same rfl rfl rfl rfl)
      | error err => exact h.quiet (by simp [Rekey.continueWith]) rfl rfl (List.Subset.refl _)

theorem Announced.agrees {s : Rekey} (h : s.Announced) (otherInit : Bytes) :
    (s.continueWith (agree E otherInit)).Announced := by
  refine h.continueWith fun r hr => ?_
  rcases agree_cases E otherInit with ⟨r', kex, hagree, hkind⟩ | ⟨fault, hagree⟩
  · rw [hagree] at hr
    cases hr
    rcases hkind with rfl | rfl <;> simp
  · rw [hagree] at hr
    cases hr

theorem Announced.readerTurn {s : Rekey} (h : s.Announced) : (s.readerTurn E).Announced := by
  have hsame := List.Subset.refl s.log
  unfold Rekey.readerTurn
  split
  · split <;> exact h.quiet (by simp) rfl rfl hsame
  · split
    · exact h
    split <;> exact h.quiet (by simp) rfl rfl hsame
  · split
    · exact h
    split
    · exact h.agrees _
    · exact h.quiet (by simp) rfl rfl hsame
  · split
    · exact h
    · exact h.quiet (by simp) rfl rfl (List.subset_append_left _ _)
  · rename_i err hreader
    split
    · exact h
    · cases err with
      | some err => exact h.quiet (by simp [Rekey.leave]) rfl rfl hsame
      | none =>
          have hexchanged : s.Exchanged := h.leaving hreader
          refine ⟨by simp [Rekey.leave], by simp [Rekey.leave], fun _ _ _ => ?_,
            fun p hmem hp => ?_⟩
          · exact hexchanged
          · exact h.incoming p hmem hp
  · rename_i p hreader
    split
    · refine ⟨by simp, by simp, by simp, fun q hmem hq => ?_⟩
      rcases List.mem_append.mp hmem with hmem | hmem
      · exact h.incoming q hmem hq
      · rw [List.mem_singleton.mp hmem] at hq
        exact h.delivering p hreader hq
    · exact h
  · exact h

theorem Announced.readerWrote {s : Rekey} (h : s.Announced) (err : Option SshError) :
    (s.readerWrote E err).Announced := by
  have hsame := List.Subset.refl s.log
  have hmore : ∀ w, s.log ⊆ s.log ++ [w] := fun w => List.subset_append_left _ _
  unfold Rekey.readerWrote
  split
  · split
    · exact h
    · exact h.quiet (by simp) rfl rfl (hmore _)
  · exact h.quiet (by simp) rfl rfl hsame
  · split
    · exact h
    · rename_i otherInit _ _
      have hentering : Rekey.Announced
          { s.initSent E with lock := .free, reader := .entering otherInit } :=
        h.quiet (by simp) rfl rfl (hmore _)
      exact hentering.agrees _
  · exact h.quiet (by simp) rfl rfl hsame
  · split
    · exact h
    · exact h.quiet (by simp) rfl rfl (hmore _)
  · split <;> exact h.quiet (by simp) rfl rfl hsame
  · split
    · exact h
    split
    · refine ⟨fun _ => by simp [Rekey.logged], by simp, by simp, fun p hmem hp => ?_⟩
      exact (h.incoming p hmem hp).mono rfl (hmore _)
    · exact h.spared (.same rfl rfl rfl rfl)
  · exact h.quiet (by simp) rfl rfl hsame
  · exact h

theorem Announced.received {s : Rekey} (h : s.Announced) (hs : s.Sound) (result : Outcome Bytes) :
    (s.received E result).Announced := by
  have hsame := List.Subset.refl s.log
  have hkeys := hs.keys
  have herror : ∀ fault, (s.continueWith (.error fault)).Announced := by
    intro fault
    refine h.continueWith fun r hr => ?_
    cases hr
  unfold Rekey.received
  split
  · rename_i hreader
    rw [hreader] at hkeys
    rcases connRead_of_not_pending hkeys.1 result with ⟨fault, hread⟩ | ⟨p, hread, htag⟩
    · rw [hread]
      cases fault with
      | panic e => exact h.spared (.same rfl rfl rfl rfl)
      | error err => exact h.quiet (by simp) rfl rfl hsame
    · rw [hread]
      dsimp only
      split
      · exact h.quiet (by simp) rfl rfl hsame
      split
      · exact h.quiet (by simp) rfl rfl hsame
      · refine h.quiet ⟨by simp, by simp, ?_⟩ rfl rfl hsame
        rintro q ⟨⟩
        exact htag
  · rename_i kex hreader
    rw [hreader] at hkeys
    rcases connRead_of_not_pending hkeys.1 result with ⟨fault, hread⟩ | ⟨p, hread, -⟩
    · rw [hread]
      exact herror fault
    · rw [hread]
      refine h.continueWith fun r hr => ?_
      rcases serve_cases kex with hserve | ⟨err, hserve⟩
      · rw [hserve] at hr
        cases hr
        simp
      · rw [hserve] at hr
        cases hr
  · rename_i kex hreader
    rw [hreader] at hkeys
    rcases connRead_of_not_pending hkeys.1 result with ⟨fault, hread⟩ | ⟨p, hread, -⟩
    · rw [hread]
      exact herror fault
    · rw [hread]
      refine h.continueWith fun r hr => ?_
      cases hserver : E.server kex p with
      | error fault =>
          rw [hserver] at hr
          cases hr
      | ok reply =>
          rw [hserver] at hr
          cases hr
          simp
  · rename_i hreader
    rcases connRead_cases s result with ⟨fault, hread⟩ | ⟨p, hread, htag⟩ | ⟨p, -, htag, hread⟩
    · rw [hread]
      exact herror fault
    · rw [hread]
      dsimp only
      rw [if_neg htag]
      exact h.quiet (by simp) rfl rfl hsame
    · rw [hread]
      dsimp only
      rw [if_pos htag]
      have hwritten := h.awaiting hreader
      refine ⟨by simp, fun _ => ⟨Nat.succ_pos _, hwritten⟩, by simp, fun q hmem hq => ?_⟩
      exact ⟨Nat.succ_pos _, (h.incoming q hmem hq).2⟩
  · exact h

theorem Announced.step {s : Rekey} (h : s.Announced) (hs : s.Sound) (e : RekeyEvent) :
    (s.step E e).Announced := by
  unfold Rekey.step
  split
  · exact h
  cases e with
  | call i p => exact h.spared (spares_call s i p)
  | turn i => exact h.spared (spares_turn s i)
  | wrote i err => exact h.spared (spares_wrote s i err)
  | readerTurn => exact h.readerTurn
  | readerWrote err => exact h.readerWrote err
  | received result => exact h.received hs result
  | consume =>
      exact ⟨h.awaiting, h.leaving, h.delivering,
        fun p hmem hp => h.incoming p (List.mem_of_mem_tail hmem) hp⟩
  | close => exact h.spared (.same rfl rfl rfl rfl)

/--
A client cannot announce new keys that there are not: the packet for which the server
waits before it authenticates a client comes to it only after both directions have
changed their keys, whatever the client has sent before.
-/
theorem announced_keys_in_use (events : List RekeyEvent) (p : Bytes)
    (hmem : p ∈ (run (Rekey.step E) .start events).incoming)
    (hp : p.head? = some msgNewKeys) :
    0 < (run (Rekey.step E) .start events).keysRead ∧
      .packet [msgNewKeys] ∈ (run (Rekey.step E) .start events).log := by
  have hboth : (run (Rekey.step E) .start events).Sound ∧
      (run (Rekey.step E) .start events).Announced := by
    refine run_invariant (I := fun s : Rekey => s.Sound ∧ s.Announced) (fun s e hs => ?_)
      ⟨Sound.start, by simp [Rekey.start], by simp [Rekey.start], by simp [Rekey.start],
        by simp [Rekey.start]⟩ events
    exact ⟨hs.1.step e, hs.2.step hs.1 e⟩
  exact hboth.2.incoming p hmem hp

/-- A key exchange that the client begins. -/
def exchanged : List RekeyEvent :=
  [.readerTurn, .received (.ok (marshal kexInitMsg mixedClient.record)), .readerTurn,
    .readerWrote none, .received (.ok [30]), .readerWrote none, .readerTurn, .readerWrote none,
    .received (.ok [msgNewKeys]), .readerTurn, .readerTurn]

theorem exchanged_keys_in_use :
    0 < (run (Rekey.step mixedExchange) .start exchanged).keysRead ∧
      .packet [msgNewKeys] ∈ (run (Rekey.step mixedExchange) .start exchanged).log :=
  announced_keys_in_use exchanged [msgNewKeys] (by decide +kernel) rfl

end Runs

end Rekey

/-! ## Keys for the writer of the connection -/

def WriteStep.written : WriteStep → Written
  | .prepare _ => .prepared
  | .packet p _ => .packet p

section Keys

theorem PacketCipher.writePacket_isOk (c : PacketCipher) (seqNum : UInt32) (rand : Nat → UInt8)
    {p : Bytes} (h : p.length ≤ maxPacket) :
    ∃ out c', c.writePacket seqNum rand p = .ok (out, c') := by
  cases c with
  | stream keystream pos mac => exact ⟨_, _, writeStream_eq_ok_iff.mpr ⟨h, rfl, rfl⟩⟩
  | gcm aead iv =>
      refine ⟨_, _, writeGcm_eq_ok_iff.mpr ⟨?_, rfl, rfl⟩⟩
      have hbounds := paddingLength_bounds (1 + p.length)
      rw [length_paddingFor]
      simp only [maxPacket] at h
      omega

theorem Phase.next_prepared {ph ph' : Phase} (h : ph.next .prepared = some ph') :
    (ph = .exchange ∨ ph = .replied) ∧ ph' = .prepared := by
  cases ph <;> simp_all [Phase.next]

/-- New keys are announced where they are prepared, and nothing else is written there. -/
theorem Phase.next_packet {ph ph' : Phase} {p : Bytes} (h : ph.next (.packet p) = some ph') :
    (p.head? = some msgNewKeys ↔ ph = .prepared) ∧ ph' ≠ .prepared := by
  cases ph with
  | between =>
      simp only [Phase.next] at h
      split at h
      · cases h
      · rename_i htag
        split at h <;> cases h <;> exact ⟨iff_of_false htag (by simp), by simp⟩
  | exchange =>
      simp only [Phase.next] at h
      split at h
      · rename_i htag
        cases h
        exact ⟨iff_of_false (by simp [htag, msgKexDHReply, msgNewKeys]) (by simp), by simp⟩
      · cases h
  | replied => cases h
  | prepared =>
      simp only [Phase.next] at h
      split at h
      · rename_i htag
        cases h
        exact ⟨iff_of_true htag rfl, by simp⟩
      · cases h

/-- A log in order can be written by the connection, which has its keys in time. -/
theorem writeAll_isSome {s : ConnectionState} {steps : List WriteStep} {ph ph' : Phase}
    (horder : (steps.map WriteStep.written).foldlM Phase.next ph = some ph')
    (hpending : s.pendingKeyChange.isSome ↔ ph = .prepared)
    (hsmall : ∀ p ∈ packetsOf steps, p.length ≤ maxPacket) : (writeAll s steps).isSome := by
  induction steps generalizing s ph with
  | nil => rfl
  | cons step steps ih =>
      rw [List.map_cons, List.foldlM_cons] at horder
      simp only [Option.bind_eq_bind, Option.bind_eq_some_iff] at horder
      obtain ⟨next, hnext, horder⟩ := horder
      cases step with
      | prepare c =>
          obtain ⟨hbefore, rfl⟩ := Phase.next_prepared hnext
          have hnone : s.pendingKeyChange = none := by
            rcases hbefore with rfl | rfl <;> simpa using hpending
          rw [writeAll, prepare_eq_some_iff.mpr ⟨hnone, rfl⟩]
          exact ih horder (by simp) hsmall
      | packet p rand =>
          obtain ⟨htag, hlater⟩ := Phase.next_packet hnext
          have hp : p.length ≤ maxPacket := hsmall p List.mem_cons_self
          obtain ⟨out, c, hwrite⟩ :=
            s.packetCipher.writePacket_isOk s.seqNum rand hp
          have hothers : ∀ q ∈ packetsOf steps, q.length ≤ maxPacket :=
            fun q hq => hsmall q (List.mem_cons_of_mem p hq)
          rw [writeAll, ConnectionState.writePacket, hwrite]
          dsimp only
          by_cases hkeys : p.head? = some msgNewKeys
          · obtain ⟨fresh, hfresh⟩ :=
              Option.isSome_iff_exists.mp (hpending.mpr (htag.mp hkeys))
            rw [if_pos hkeys, hfresh]
            obtain ⟨⟨others, s'⟩, hwritten⟩ := Option.isSome_iff_exists.mp
              (ih (s := ⟨fresh, s.seqNum + 1, none⟩) horder (by simp [hlater]) hothers)
            dsimp only
            rw [hwritten]
            rfl
          · have hnone : s.pendingKeyChange = none := by
              cases hs : s.pendingKeyChange with
              | none => rfl
              | some fresh => exact absurd (htag.mpr (hpending.mp (by rw [hs]; rfl))) hkeys
            rw [if_neg hkeys]
            obtain ⟨⟨others, s'⟩, hwritten⟩ := Option.isSome_iff_exists.mp
              (ih (s := { s with packetCipher := c, seqNum := s.seqNum + 1 }) horder
                (by simp [hnone, hlater]) hothers)
            dsimp only
            rw [hwritten]
            rfl

/--
The steps of a key exchange find the keys as they need them: there is room for those that
are prepared, and there are some where a packet says that they are in use.
-/
structure Rekey.KeysInTime (E : Exchange) (s : Rekey) : Prop where
  prepares : s.reader = .preparing → (s.readerTurn E).reader = .changing
  writes : s.reader = .changing → ∀ err, (s.readerWrote E err).crashed = s.crashed
  reads : s.reader = .awaiting → ∀ body,
    (s.received E (.ok (msgNewKeys :: body))).reader = .leaving none

theorem Rekey.Sound.keysInTime {E : Exchange} {s : Rekey} (h : s.Sound) : s.KeysInTime E where
  prepares hreader := by
    have hkeys := h.keys
    rw [hreader] at hkeys
    simp [Rekey.readerTurn, hreader, hkeys.1, hkeys.2]
  writes hreader err := by
    have hkeys := h.keys
    rw [hreader] at hkeys
    cases err with
    | some err => simp [Rekey.readerWrote, hreader]
    | none =>
        simp only [Rekey.readerWrote, hreader, hkeys.2, if_true]
        split <;> rfl
  reads hreader body := by
    have hkeys := h.keys
    rw [hreader] at hkeys
    simp [Rekey.received, Rekey.connRead, hreader, hkeys.1]

/--
Whatever the interleaving, the exchange of keys is never short of keys and never waits for
older ones to be taken.  What has been written keeps the order of a key exchange, so that
the connection, with any ciphers and any padding, can write all of it, unless a packet is
larger than it takes.
-/
theorem log_can_be_written {E : Exchange} (events : List RekeyEvent) {steps : List WriteStep}
    (hlog : steps.map WriteStep.written = (run (Rekey.step E) .start events).log)
    (hsmall : ∀ p ∈ packetsOf steps, p.length ≤ maxPacket) :
    (run (Rekey.step E) .start events).KeysInTime E ∧
      (phaseOf (run (Rekey.step E) .start events).log).isSome ∧
      (writeAll .start steps).isSome := by
  have hsound := Rekey.Sound.start.run (E := E) events
  obtain ⟨ph, hphase, -⟩ := hsound.phase
  refine ⟨hsound.keysInTime, by rw [hphase]; rfl, ?_⟩
  rw [← hlog] at hphase
  exact writeAll_isSome hphase (by simp [ConnectionState.start]) hsmall

def groupClient : KexInit :=
  { mixedClient with kexAlgos := [ascii "diffie-hellman-group14-sha1"] }

/-- The reply cannot be written, and the exchange goes on without it. -/
def unreplied : List RekeyEvent :=
  [.readerTurn, .received (.ok (marshal kexInitMsg groupClient.record)), .readerTurn,
    .readerWrote none, .received (.ok [30]), .readerWrote (some .shortRead), .readerTurn,
    .readerWrote none]

def unrepliedSteps : List WriteStep :=
  [.packet mixedExchange.initPacket fun _ => 0, .prepare .initial,
    .packet [msgNewKeys] fun _ => 0]

theorem unreplied_can_be_written :
    (run (Rekey.step mixedExchange) .start unreplied).reader = .awaiting ∧
      (run (Rekey.step mixedExchange) .start (unreplied ++ [.received (.ok [msgNewKeys])])).reader =
        .leaving none ∧
      (writeAll .start unrepliedSteps).isSome := by
  have hlog : unrepliedSteps.map WriteStep.written =
      (run (Rekey.step mixedExchange) .start unreplied).log := by
    decide +kernel
  obtain ⟨hkeys, -, hwritten⟩ := log_can_be_written unreplied hlog (by decide +kernel)
  have hawaiting : (run (Rekey.step mixedExchange) .start unreplied).reader = .awaiting ∧
      (run (Rekey.step mixedExchange) .start unreplied).crashed = false := by
    decide +kernel
  refine ⟨hawaiting.1, ?_, hwritten⟩
  rw [run_append]
  generalize run (Rekey.step mixedExchange) .start unreplied = s at *
  have hstep : s.step mixedExchange (.received (.ok [msgNewKeys])) =
      s.received mixedExchange (.ok [msgNewKeys]) := by
    rw [Rekey.step, hawaiting.2]
    rfl
  change (s.step mixedExchange (.received (.ok [msgNewKeys]))).reader = _
  rw [hstep]
  exact hkeys.reads hawaiting.1 []

end Keys

end DockerBastion.Ssh
