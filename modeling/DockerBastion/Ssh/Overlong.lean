import DockerBastion.Ssh.Numbering
import Mathlib.Data.List.Nodup

/-!
# Packets with a string that is too long

The length of a string is added to the four bytes before it in 32 bits.  A string that
declares a length of at least `2 ^ 32 - 4` makes the main loop panic where the packet is
decoded, and nothing else that it reads does.
-/

namespace DockerBastion.Ssh

open Foundation Sshd

/-- A string of a message that `decode` knows declares a length of at least `2 ^ 32 - 4`. -/
def Overlong (packet : Bytes) : Prop :=
  ∃ s ∈ messages, ∃ data, packet = s.tag :: data ∧ OverflowsFields s.kinds data

section Overlong

variable {s : Schema} {packet data : Bytes}

theorem message_of_tag {t : Schema} (hs : s ∈ messages) (ht : t ∈ messages)
    (htag : s.tag = t.tag) : s = t :=
  List.inj_on_of_nodup_map (by decide : (messages.map Schema.tag).Nodup) hs ht htag

theorem overlong_iff (hs : s ∈ messages) :
    Overlong (s.tag :: data) ↔ OverflowsFields s.kinds data := by
  constructor
  · rintro ⟨t, ht, data', heq, hover⟩
    obtain ⟨htag, rfl⟩ := List.cons.inj heq
    rw [message_of_tag hs ht htag]
    exact hover
  · intro hover
    exact ⟨s, hs, data, rfl, hover⟩

theorem not_overlong_of_tag {tag : UInt8} (htag : ∀ s ∈ messages, s.tag ≠ tag) :
    ¬ Overlong (tag :: data) := by
  rintro ⟨t, ht, data', heq, -⟩
  exact htag t ht (List.cons.inj heq).1.symm

theorem not_overflowsFields {ks : List Kind} {b : Bytes} (h : ∀ k ∈ ks, k.isFramed = false) :
    ¬ OverflowsFields ks b := by
  induction ks generalizing b with
  | nil => exact id
  | cons k ks ih =>
      rintro (⟨hframed, -⟩ | ⟨v, first, others, -, -, hover⟩)
      · rw [h k List.mem_cons_self] at hframed
        cases hframed
      · exact ih (fun k' hk' => h k' (List.mem_cons_of_mem _ hk')) hover

theorem overlong_iff_unmarshal (hs : s ∈ messages) (hlength : (s.tag :: data).length < 2 ^ 32) :
    Overlong (s.tag :: data) ↔ ∃ p, unmarshal s (s.tag :: data) = .error (.panic p) := by
  rw [overlong_iff hs]
  constructor
  · intro hover
    exact ⟨_, (unmarshal_panics_iff s hlength).mpr ⟨rfl, data, rfl, hover⟩⟩
  · rintro ⟨p, hp⟩
    obtain ⟨-, data', heq, hover⟩ := (unmarshal_panics_iff s hlength).mp hp
    rwa [(List.cons.inj heq).2]

theorem overlong_iff_decode (hlength : packet.length < 2 ^ 32) :
    Overlong packet ↔ ∃ p, decode packet = .error (.panic p) := by
  unfold decode
  cases hfind : messages.find? fun s => packet.head? == some s.tag with
  | none =>
      refine iff_of_false ?_ (by simp)
      rintro ⟨t, ht, data, rfl, -⟩
      have hnot := List.find?_eq_none.mp hfind t ht
      simp at hnot
  | some s =>
      have hs : s ∈ messages := List.mem_of_find?_eq_some hfind
      have hhead : packet.head? = some s.tag := by
        simpa using List.find?_some hfind
      cases packet with
      | nil => cases hhead
      | cons tag data =>
          cases hhead
          rw [overlong_iff_unmarshal hs hlength]
          cases hmsg : unmarshal s (s.tag :: data) <;> simp [Except.map, hmsg]

end Overlong

section Panics

variable {s : Mux} {c : Channel} {packet : Bytes} {write : Option SshError}

theorem handlePacket_panics_iff (hne : packet ≠ []) (hlength : packet.length < 2 ^ 32) :
    (∃ p, c.handlePacket packet write = .failed (.panic p)) ↔ Overlong packet := by
  cases packet with
  | nil => exact absurd rfl hne
  | cons tag body =>
      simp only [Channel.handlePacket]
      split
      · rename_i htag
        refine iff_of_false ?_ (not_overlong_of_tag ?_)
        · split <;> simp
        · rcases htag with rfl | rfl <;> decide
      split
      · rename_i htag
        subst htag
        have hover : Overlong (channelCloseMsg.tag :: body) ↔
            OverflowsFields channelCloseMsg.kinds body := overlong_iff (by simp [messages])
        refine iff_of_false ?_ (fun h => not_overflowsFields (by decide) (hover.mp h))
        split <;> simp
      split
      · rename_i htag
        subst htag
        have hover : Overlong (channelEOFMsg.tag :: body) ↔
            OverflowsFields channelEOFMsg.kinds body := overlong_iff (by simp [messages])
        exact iff_of_false (by simp) fun h => not_overflowsFields (by decide) (hover.mp h)
      split
      · rw [overlong_iff_decode hlength]
        unfold Channel.handleResponse
        split
        · rename_i fault hdecode
          simp [hdecode]
        · rename_i hdecode
          simp [hdecode]
      split
      · rename_i htag
        subst htag
        rw [overlong_iff_unmarshal (by simp [messages]) hlength]
        unfold Channel.handleAdjust
        split
        · rename_i fault hmsg
          simp [hmsg]
        · rename_i hmsg
          split <;> simp [hmsg]
      split
      · rename_i htag
        subst htag
        rw [overlong_iff_unmarshal (by simp [messages]) hlength]
        unfold Channel.handleRequest
        split
        · rename_i fault hmsg
          simp [hmsg]
        · rename_i hmsg
          repeat' split
          all_goals simp [hmsg]
      · rw [overlong_iff_decode hlength]
        unfold Channel.handleOther
        split
        · rename_i fault hdecode
          simp [hdecode]
        · rename_i hdecode
          repeat' split
          all_goals simp [hdecode]

theorem handlePacket_ne_crashes (hopen : c.queuesClosed = false) :
    c.handlePacket packet write ≠ .crashes := by
  cases packet with
  | nil => simp [Channel.handlePacket]
  | cons tag body =>
      simp only [Channel.handlePacket, Channel.handleResponse, Channel.handleAdjust,
        Channel.handleRequest, Channel.handleOther, hopen]
      repeat' split
      all_goals simp_all

theorem running_finish (hs : Numbered s) (err : SshError) : (s.finish err).running = true := by
  obtain ⟨channels, hclose, -⟩ := hs.closeAll
  rw [Mux.finish, hclose]
  rfl

theorem running_fail (hs : Numbered s) (fault : Fault) :
    (s.fail fault).running = false ↔ ∃ p, fault = .panic p := by
  cases fault with
  | panic p => simp [Mux.fail, Mux.running]
  | error err => simp [Mux.fail, running_finish hs]

theorem running_send (hs : Numbered s) (packet : Bytes) (write : Option SshError) :
    (s.send packet write).running = true := by
  cases write with
  | none => rfl
  | some err => exact running_finish hs err

theorem running_offer (s : Mux) (k : Nat) : (s.offer k).running = true := by
  unfold Mux.offer
  split <;> rfl

theorem running_handleDisconnect (hs : Numbered s) (p : Packet) :
    (s.handleDisconnect p).running = false ↔
      ∃ e, unmarshal disconnectMsg p.bytes = .error (.panic e) := by
  unfold Mux.handleDisconnect
  split
  · rename_i fault hmsg
    simp [running_fail hs, hmsg]
  · rename_i hmsg
    simp [running_finish hs, hmsg]

theorem running_handleChannelOpen (hs : Numbered s) (p : Packet) :
    (s.handleChannelOpen p write).running = false ↔
      ∃ e, unmarshal channelOpenMsg p.bytes = .error (.panic e) := by
  unfold Mux.handleChannelOpen
  split
  · rename_i fault hmsg
    simp [running_fail hs, hmsg]
  · rename_i hmsg
    unfold Mux.openChannel
    split
    · simp [running_send hs, hmsg]
    · simp [running_offer, hmsg]

theorem running_handleGlobalRequest (hs : Numbered s) (p : Packet) :
    (s.handleGlobalRequest p write).running = false ↔
      ∃ e, unmarshal globalRequestMsg p.bytes = .error (.panic e) := by
  unfold Mux.handleGlobalRequest
  split
  · rename_i fault hmsg
    simp [running_fail hs, hmsg]
  · rename_i hmsg
    split <;> simp [Mux.running, hmsg]

theorem running_handleResponse (hs : Numbered s) {tag : UInt8} (p : Packet)
    (htag : tag = globalRequestSuccessMsg.tag ∨ tag = globalRequestFailureMsg.tag) :
    (s.handleGlobalPacket tag p write).running = false ↔ Overlong p.bytes := by
  have hrequest : tag ≠ globalRequestMsg.tag := by
    rcases htag with rfl | rfl <;> decide
  rw [overlong_iff_decode p.length_lt, Mux.handleGlobalPacket, if_neg hrequest]
  split
  · rename_i fault hdecode
    simp [running_fail hs, hdecode]
  · rename_i hdecode
    rw [if_pos htag]
    split <;> simp [Mux.running, hdecode]

theorem running_handTo {k : Nat} {c : Endpoint} (hs : Numbered s) (p : Packet)
    (hopen : c.chan.queuesClosed = false) :
    (s.handTo k c p write).running = false ↔ Overlong p.bytes := by
  have hpanics : (∃ e, c.chan.handlePacket p.bytes write = .failed (.panic e)) ↔
      Overlong p.bytes := handlePacket_panics_iff p.ne_nil p.length_lt
  rw [← hpanics]
  unfold Mux.handTo
  split
  · rename_i hhandled
    simp [Mux.running, hhandled]
  · rename_i hhandled
    simp [Mux.running, hhandled]
  · rename_i fault hhandled
    simp [running_fail hs, hhandled]
  · rename_i hhandled
    simp [Mux.running, hhandled]
  · rename_i hhandled
    exact absurd hhandled (handlePacket_ne_crashes hopen)

theorem running_handleChannelPacket (hs : Numbered s) (tag : UInt8) (p : Packet) :
    (s.handleChannelPacket tag p write).running = false ↔
      Overlong p.bytes ∧ ∃ k, NumberOf s.chans k p.bytes := by
  unfold Mux.handleChannelPacket
  split
  · rename_i hshort
    refine iff_of_false (by simp [running_finish hs]) ?_
    rintro ⟨-, k, hlength, -⟩
    omega
  rename_i hlength
  dsimp only
  split
  · rename_i hget
    refine iff_of_false (by simp [running_finish hs]) ?_
    rintro ⟨-, k, -, hnumber⟩
    rw [hget] at hnumber
    cases hnumber
  rename_i k hget
  obtain ⟨-, hlisted⟩ := ChanList.getChan_eq_some hget
  obtain ⟨c, hc, -, hopen⟩ := hs.listed _ k hlisted
  have hqueues : c.chan.queuesClosed = false := by
    rw [(hs.sessions k c hc).queuesClosed, hopen]
  simp only [hc]
  rw [running_handTo hs p hqueues]
  exact ⟨fun h => ⟨h, k, by omega, hget⟩, And.left⟩

end Panics

/-- The main loop reads the message, or there is a channel that does. -/
def Addressed (s : Mux) (packet : Bytes) : Prop :=
  (∃ t ∈ [disconnectMsg, channelOpenMsg, globalRequestMsg], packet.head? = some t.tag) ∨
    ∃ k, NumberOf s.chans k packet

theorem running_onePacket {s : Mux} (hs : Numbered s) (p : Packet)
    (write : Option SshError) :
    (s.onePacket p write).running = false ↔ Overlong p.bytes ∧ Addressed s p.bytes := by
  obtain ⟨tag, body, hp⟩ := List.exists_cons_of_ne_nil p.ne_nil
  have hlength : (tag :: body).length < 2 ^ 32 := hp ▸ p.length_lt
  have haddressed : ∀ t ∈ [disconnectMsg, channelOpenMsg, globalRequestMsg], tag = t.tag →
      Addressed s p.bytes := by
    intro t ht htag
    exact .inl ⟨t, ht, by rw [hp, htag]; rfl⟩
  unfold Mux.onePacket
  simp only [hp, List.headD_cons]
  split
  · rename_i htag
    refine iff_of_false (by simp [Mux.running]) fun h => not_overlong_of_tag ?_ h.1
    rw [htag]
    decide
  split
  · rename_i htag
    subst htag
    have haddr := haddressed disconnectMsg (by simp) rfl
    rw [hp] at haddr
    rw [running_handleDisconnect hs, hp, overlong_iff_unmarshal (by simp [messages]) hlength]
    simp [haddr]
  split
  · rename_i htag
    subst htag
    have haddr := haddressed channelOpenMsg (by simp) rfl
    rw [hp] at haddr
    rw [running_handleChannelOpen hs, hp, overlong_iff_unmarshal (by simp [messages]) hlength]
    simp [haddr]
  split
  · rename_i htag
    rcases htag with htag | hresponse
    · subst htag
      have haddr := haddressed globalRequestMsg (by simp) rfl
      rw [hp] at haddr
      rw [Mux.handleGlobalPacket, if_pos rfl, running_handleGlobalRequest hs, hp,
        overlong_iff_unmarshal (by simp [messages]) hlength]
      simp [haddr]
    · have hnot : ¬ Overlong (tag :: body) := by
        rcases hresponse with rfl | rfl
        · exact fun h => not_overflowsFields (by decide)
            ((overlong_iff (s := globalRequestSuccessMsg) (by simp [messages])).mp h)
        · exact fun h => not_overflowsFields (by decide)
            ((overlong_iff (s := globalRequestFailureMsg) (by simp [messages])).mp h)
      rw [running_handleResponse hs p hresponse, hp]
      exact iff_of_false hnot fun h => hnot h.1
  · rename_i hdisconnect hopen hglobal
    rw [running_handleChannelPacket hs, hp]
    refine and_congr_right fun _ => ⟨.inr, fun h => ?_⟩
    rcases h with ⟨t, ht, hhead⟩ | hnumber
    · have hhead : tag = t.tag := by simpa using hhead
      simp only [List.mem_cons, List.not_mem_nil, or_false] at ht
      rcases ht with rfl | rfl | rfl
      · exact absurd hhead hdisconnect
      · exact absurd hhead hopen
      · exact absurd (.inl hhead) hglobal
    · exact hnumber

end DockerBastion.Ssh
