import DockerBastion.Ssh.Channel

/-!
# Flow control

What the packets of a channel carry is read off the wire format, without the code.
Then every byte and every unit of window is accounted for in all states of a channel,
whatever the client sends and however the goroutines take turns.
-/

namespace DockerBastion.Ssh

open Foundation Sshd

/-! ## What a packet carries -/

/-- The code and the data of a data packet; code 0 is the data stream itself. -/
def carried : Bytes → Option (UInt32 × Bytes)
  | [] => none
  | tag :: body =>
      if tag = msgChannelData ∧ 8 ≤ body.length then
        some (0, (body.drop 8).take (declared (body.drop 4)))
      else if tag = msgChannelExtendedData ∧ 12 ≤ body.length then
        some (UInt32.ofNat (declared (body.drop 4)),
          (body.drop 12).take (declared (body.drop 8)))
      else none

def dataOf (packet : Bytes) : Bytes :=
  match carried packet with
  | some (code, data) => if code = 0 then data else []
  | none => []

def extendedDataOf (packet : Bytes) : Bytes :=
  match carried packet with
  | some (code, data) => if code = 0 then [] else data
  | none => []

/-- By how much the packet opens a window. -/
def adjustment (packet : Bytes) : Nat :=
  match unmarshal windowAdjustMsg packet with
  | .ok (_, additionalBytes, ()) => additionalBytes.toNat
  | .error _ => 0

namespace Writer

def held : Writer → Bytes
  | .holding todo _ => todo
  | _ => []

/-- What the current call of `Write` has not sent yet. -/
def unsent : Writer → Bytes
  | .writing data => data
  | .holding todo data => todo ++ data
  | _ => []

def isStopped : Writer → Bool
  | .stopped _ => true
  | _ => false

end Writer

namespace Reader

def owed : Reader → Nat
  | .owing n => n
  | _ => 0

/-- What has been read and not been announced yet. -/
def unannounced : Reader → Nat
  | .owing n | .unsent n => n
  | _ => 0

end Reader

namespace Endpoint

def dataSent (s : Endpoint) : Bytes := s.chan.sent.flatMap dataOf

def announced (s : Endpoint) : Nat := (s.chan.sent.map adjustment).sum

def granted (s : Endpoint) : Nat := (s.handled.map adjustment).sum

def received (s : Endpoint) : Bytes := s.handled.flatMap dataOf

def receivedExtended (s : Endpoint) : Bytes := s.handled.flatMap extendedDataOf

end Endpoint

/-! ## The packets that the channel makes -/

theorem carried_of_tag {tag : UInt8} {body : Bytes} (hdata : tag ≠ msgChannelData)
    (hextended : tag ≠ msgChannelExtendedData) : carried (tag :: body) = none := by
  simp [carried, hdata, hextended]

theorem adjustment_of_tag {tag : UInt8} {body : Bytes} (h : tag ≠ windowAdjustMsg.tag) :
    adjustment (tag :: body) = 0 := by
  simp [adjustment, unmarshal, h]

theorem dataOf_of_carried {packet : Bytes} (h : carried packet = none) :
    dataOf packet = [] := by
  simp [dataOf, h]

theorem extendedDataOf_of_carried {packet : Bytes} (h : carried packet = none) :
    extendedDataOf packet = [] := by
  simp [extendedDataOf, h]

theorem adjustment_nil : adjustment [] = 0 := rfl

/-- A packet that is about neither data nor a window. -/
def Plain (packet : Bytes) : Prop := carried packet = none ∧ adjustment packet = 0

theorem plain_of_tag {tag : UInt8} {body : Bytes}
    (h : tag ≠ msgChannelData ∧ tag ≠ msgChannelExtendedData ∧ tag ≠ windowAdjustMsg.tag) :
    Plain (tag :: body) :=
  ⟨carried_of_tag h.1 h.2.1, adjustment_of_tag h.2.2⟩

theorem sendMessage_eq (c : Channel) {s : Schema} {r : Record s.kinds} {id : UInt32}
    {rest : Bytes} (h : marshal s r = s.tag :: (appendU32 id ++ rest))
    (write : Option SshError) :
    c.sendMessage s r write = c.writePacket (s.tag :: (appendU32 c.remoteId ++ rest)) write := by
  have hdrop : (appendU32 id ++ rest).drop 4 = rest := List.drop_left' (length_appendU32 id)
  simp only [Channel.sendMessage, h, List.take_succ_cons, List.take_zero, List.drop_succ_cons,
    hdrop, List.cons_append, List.nil_append]

theorem dataOf_dataPacket (c : Channel) {todo : Bytes} (h : todo.length < 2 ^ 32) :
    dataOf (c.dataPacket 0 todo) = todo := by
  have hbody : (appendU32 c.remoteId ++ appendU32 (UInt32.ofNat todo.length) ++ todo).drop 4 =
      appendU32 (UInt32.ofNat todo.length) ++ todo := by
    rw [List.append_assoc, List.drop_left' (length_appendU32 _)]
  have hdata : (appendU32 c.remoteId ++ appendU32 (UInt32.ofNat todo.length) ++ todo).drop 8 =
      todo := List.drop_left' (by simp)
  have hlength : 8 ≤
      (appendU32 c.remoteId ++ appendU32 (UInt32.ofNat todo.length) ++ todo).length := by
    simp only [List.length_append, length_appendU32]
    omega
  have hdeclared : declared (appendU32 (UInt32.ofNat todo.length) ++ todo) = todo.length := by
    rw [declared_appendU32, UInt32.toNat_ofNat', Nat.mod_eq_of_lt h]
  have hpacket : c.dataPacket 0 todo = msgChannelData ::
      (appendU32 c.remoteId ++ appendU32 (UInt32.ofNat todo.length) ++ todo) := rfl
  have hcarried : carried (c.dataPacket 0 todo) = some (0, todo) := by
    rw [hpacket, carried, if_pos ⟨rfl, hlength⟩, hdata, hbody, hdeclared, List.take_length]
  simp [dataOf, hcarried]

theorem adjustment_dataPacket (c : Channel) (todo : Bytes) :
    adjustment (c.dataPacket 0 todo) = 0 :=
  adjustment_of_tag (by decide)

theorem adjustment_adjustPacket (id n : UInt32) :
    adjustment (windowAdjustMsg.tag :: (appendU32 id ++ (appendU32 n ++ []))) = n.toNat := by
  have hmarshal : windowAdjustMsg.tag :: (appendU32 id ++ (appendU32 n ++ [])) =
      marshal windowAdjustMsg (id, n, ()) := rfl
  have hlength : (marshal windowAdjustMsg (id, n, ())).length < 2 ^ 32 := by
    rw [← hmarshal]
    simp
  rw [hmarshal, adjustment,
    unmarshal_marshal windowAdjustMsg _ ⟨trivial, trivial, trivial⟩ hlength]

/-! ## What a step does to the channel -/

/-- The channel behind a packet that the main loop has got through. -/
def Handled.channel : Handled → Option Channel
  | .kept c | .removed c => some c
  | .failed _ | .waits | .crashes => none

inductive Wrote (c : Channel) (packet : Bytes) : Channel × Option SshError → Prop
  | refused : c.sentClose = true → Wrote c packet (c, some .eof)
  | failed (err : SshError) : c.sentClose = false →
      Wrote c packet ({ c with sentClose := packet.head? == some msgChannelClose }, some err)
  | sent : c.sentClose = false →
      Wrote c packet
        ({ c with
            sentClose := packet.head? == some msgChannelClose
            sent := c.sent ++ [packet] }, none)

theorem wrote (c : Channel) (packet : Bytes) (write : Option SshError) :
    Wrote c packet (c.writePacket packet write) := by
  unfold Channel.writePacket
  split
  · exact .refused ‹_›
  · rename_i hopen
    cases write with
    | none => exact .sent (by simpa using hopen)
    | some err => exact .failed err (by simpa using hopen)

/-- The channel takes `packet` in; what it sends meanwhile is plain. -/
structure Takes (c : Channel) (packet : Bytes) (c' : Channel) : Prop where
  window : c'.myWindow.toNat + (dataOf packet).length + (extendedDataOf packet).length =
    c.myWindow.toNat
  pending : c'.pending.contents = c.pending.contents ++ dataOf packet
  remoteWin : c'.remoteWin.win.toNat = c.remoteWin.win.toNat + adjustment packet
  maxRemotePayload : c'.maxRemotePayload = c.maxRemotePayload
  sent : ∃ more, c'.sent = c.sent ++ more ∧ ∀ q ∈ more, Plain q

/-- The header of a data packet: its code, the declared length and the bytes behind it. -/
def dataHeader : Bytes → Option (UInt32 × UInt32 × Bytes)
  | [] => none
  | tag :: body =>
      if tag = msgChannelData ∧ 8 ≤ body.length then
        some (0, UInt32.ofNat (declared (body.drop 4)), body.drop 8)
      else if tag = msgChannelExtendedData ∧ 12 ≤ body.length then
        some (UInt32.ofNat (declared (body.drop 4)),
          UInt32.ofNat (declared (body.drop 8)), body.drop 12)
      else none

/-- How the main loop gets through a packet. -/
inductive Received (c : Channel) : Bytes → Handled → Prop
  | nothing {packet code length data} :
      dataHeader packet = some (code, length, data) → length.toNat = 0 →
      Received c packet (.kept c)
  | data {packet code length data} :
      dataHeader packet = some (code, length, data) → length.toNat = data.length →
      data.length ≤ c.myWindow.toNat → Received c packet (.kept (c.store code data))
  | close {body write} : c.queuesClosed = false →
      Received c (msgChannelClose :: body)
        (.removed (c.sendMessage channelCloseMsg (c.remoteId, ()) write).1.close)
  | eof {body} : Received c (msgChannelEOF :: body) (.kept c.handleEOF)
  | adjust {body id additionalBytes remoteWin} :
      unmarshal windowAdjustMsg (windowAdjustMsg.tag :: body) = .ok (id, additionalBytes, ()) →
      c.remoteWin.add additionalBytes = some remoteWin →
      Received c (windowAdjustMsg.tag :: body) (.kept { c with remoteWin := remoteWin })
  | request {packet} (r : ChannelRequest) : Plain packet →
      Received c packet (.kept { c with incomingRequests := c.incomingRequests ++ [r] })
  | other {packet} (m : Bytes) : Plain packet →
      Received c packet (.kept { c with msg := c.msg ++ [m] })

section Takes

variable {c c' : Channel} {packet : Bytes} {write : Option SshError}

theorem takes_of_same (hplain : Plain packet) (hwindow : c'.myWindow = c.myWindow)
    (hpending : c'.pending.contents = c.pending.contents)
    (hremote : c'.remoteWin.win = c.remoteWin.win)
    (hpayload : c'.maxRemotePayload = c.maxRemotePayload) (hsent : c'.sent = c.sent) :
    Takes c packet c' where
  window := by
    rw [dataOf_of_carried hplain.1, extendedDataOf_of_carried hplain.1, hwindow]
    rfl
  pending := by rw [dataOf_of_carried hplain.1, hpending, List.append_nil]
  remoteWin := by rw [hplain.2, hremote, Nat.add_zero]
  maxRemotePayload := hpayload
  sent := ⟨[], by simpa using hsent, by simp⟩

/-- Only the fields that flow control uses count. -/
theorem Takes.of_same {c₁ : Channel} (h : Takes c₁ packet c')
    (hwindow : c₁.myWindow = c.myWindow) (hpending : c₁.pending = c.pending)
    (hremote : c₁.remoteWin = c.remoteWin)
    (hpayload : c₁.maxRemotePayload = c.maxRemotePayload) (hsent : c₁.sent = c.sent) :
    Takes c packet c' :=
  ⟨hwindow ▸ h.window, hpending ▸ h.pending, hremote ▸ h.remoteWin,
    hpayload ▸ h.maxRemotePayload, hsent ▸ h.sent⟩

theorem takes_of_wrote {q : Bytes} {r : Channel × Option SshError} (h : Wrote c q r)
    (hq : Plain q) (hplain : Plain packet) : Takes c packet r.1 := by
  have hsame : ∀ c' : Channel, c'.myWindow = c.myWindow →
      c'.pending = c.pending → c'.remoteWin = c.remoteWin →
      c'.maxRemotePayload = c.maxRemotePayload →
      (∃ more, c'.sent = c.sent ++ more ∧ ∀ q ∈ more, Plain q) → Takes c packet c' := by
    intro c' hwindow hpending hremote hpayload hsent
    have htakes : Takes c packet { c' with sent := c.sent } :=
      takes_of_same hplain hwindow (by rw [hpending]) (by rw [hremote]) hpayload rfl
    exact ⟨htakes.window, htakes.pending, htakes.remoteWin, hpayload, hsent⟩
  cases h with
  | refused => exact hsame _ rfl rfl rfl rfl ⟨[], by simp, by simp⟩
  | failed => exact hsame _ rfl rfl rfl rfl ⟨[], by simp, by simp⟩
  | sent => exact hsame _ rfl rfl rfl rfl ⟨[q], rfl, by simpa using hq⟩

theorem takes_sendMessage {s : Schema} {r : Record s.kinds} {id : UInt32} {rest : Bytes}
    (h : marshal s r = s.tag :: (appendU32 id ++ rest))
    (htag : s.tag ≠ msgChannelData ∧ s.tag ≠ msgChannelExtendedData ∧
      s.tag ≠ windowAdjustMsg.tag) (hplain : Plain packet) :
    Takes c packet (c.sendMessage s r write).1 := by
  rw [sendMessage_eq c h]
  exact takes_of_wrote (wrote _ _ _) (plain_of_tag htag) hplain

theorem Takes.close (h : Takes c packet c') : Takes c packet c'.close :=
  ⟨h.window, h.pending, h.remoteWin, h.maxRemotePayload, h.sent⟩

theorem toNat_store (extended : UInt32) {data : Bytes} (hlength : data.length < 2 ^ 32)
    (hwindow : data.length ≤ c.myWindow.toNat) :
    (c.store extended data).myWindow.toNat + data.length = c.myWindow.toNat := by
  have hdata : (UInt32.ofNat data.length).toNat = data.length := by
    rw [UInt32.toNat_ofNat', Nat.mod_eq_of_lt hlength]
  have hle : UInt32.ofNat data.length ≤ c.myWindow := by
    rw [UInt32.le_iff_toNat_le, hdata]
    exact hwindow
  have hmine : (c.store extended data).myWindow = c.myWindow - UInt32.ofNat data.length := by
    unfold Channel.store
    split
    · rfl
    · split <;> rfl
  rw [hmine, UInt32.toNat_sub_of_le _ _ hle, hdata]
  omega

theorem contents_store (extended : UInt32) (data : Bytes) :
    (c.store extended data).pending.contents =
      c.pending.contents ++ if extended = 0 then data else [] := by
  unfold Channel.store
  split
  · rename_i hone
    simp [hone]
  · split
    · rename_i hpos
      have hne : extended ≠ 0 := by
        rintro rfl
        exact absurd hpos (by decide)
      simp [hne]
    · rename_i hzero
      have heq : extended = 0 := by
        rw [gt_iff_lt, UInt32.lt_iff_toNat_lt, not_lt] at hzero
        exact UInt32.toNat_inj.mp (Nat.le_zero.mp hzero)
      simp [heq]

theorem store_same (extended : UInt32) (data : Bytes) :
    (c.store extended data).remoteWin = c.remoteWin ∧
      (c.store extended data).maxRemotePayload = c.maxRemotePayload ∧
      (c.store extended data).sent = c.sent ∧
      (c.store extended data).sentClose = c.sentClose := by
  unfold Channel.store
  split
  · exact ⟨rfl, rfl, rfl, rfl⟩
  · split <;> exact ⟨rfl, rfl, rfl, rfl⟩

/-- What is kept of a data packet; one that declares no data may hold some. -/
theorem receiveData_eq_ok_iff {extended length : UInt32} {data : Bytes}
    (hlength : data.length < 2 ^ 32) :
    c.receiveData extended length data = .ok c' ↔
      (length.toNat = 0 ∧ c' = c) ∨
        (length.toNat = data.length ∧ 0 < data.length ∧
          data.length ≤ c.maxIncomingPayload.toNat ∧ data.length ≤ c.myWindow.toNat ∧
          c' = c.store extended data) := by
  have hdata : (UInt32.ofNat data.length).toNat = data.length := by
    rw [UInt32.toNat_ofNat', Nat.mod_eq_of_lt hlength]
  unfold Channel.receiveData
  split
  · rename_i hzero
    subst hzero
    constructor
    · intro h
      cases h
      exact .inl ⟨rfl, rfl⟩
    · rintro (⟨-, rfl⟩ | ⟨hsame, hpos, -⟩)
      · rfl
      · rw [UInt32.toNat_zero] at hsame
        omega
  rename_i hpos
  have hpos : length.toNat ≠ 0 := fun hzero => hpos (UInt32.toNat_inj.mp hzero)
  split
  · rename_i hlarge
    rw [gt_iff_lt, UInt32.lt_iff_toNat_lt] at hlarge
    refine iff_of_false (by simp) ?_
    rintro (⟨hzero, -⟩ | ⟨hsame, -, hmax, -⟩)
    · exact hpos hzero
    · omega
  rename_i hmax
  rw [gt_iff_lt, UInt32.lt_iff_toNat_lt, not_lt] at hmax
  split
  · rename_i hwrong
    refine iff_of_false (by simp) ?_
    rintro (⟨hzero, -⟩ | ⟨hsame, -⟩)
    · exact hpos hzero
    · exact hwrong (UInt32.toNat_inj.mp (hsame.trans hdata.symm))
  rename_i hright
  have hright : length.toNat = data.length := by rw [not_not.mp hright, hdata]
  split
  · rename_i hmuch
    rw [UInt32.lt_iff_toNat_lt] at hmuch
    refine iff_of_false (by simp) ?_
    rintro (⟨hzero, -⟩ | ⟨-, -, -, hwindow, -⟩)
    · exact hpos hzero
    · omega
  · rename_i hwindow
    rw [UInt32.lt_iff_toNat_lt, not_lt] at hwindow
    constructor
    · intro h
      cases h
      exact .inr ⟨hright, by omega, by omega, by omega, rfl⟩
    · rintro (⟨hzero, -⟩ | ⟨-, -, -, -, rfl⟩)
      · exact absurd hzero hpos
      · rfl

theorem carried_eq (packet : Bytes) :
    carried packet = (dataHeader packet).map fun (code, length, data) =>
      (code, data.take length.toNat) := by
  have hdeclared : ∀ b : Bytes, (UInt32.ofNat (declared b)).toNat = declared b := by
    intro b
    rw [UInt32.toNat_ofNat', Nat.mod_eq_of_lt (declared_lt b)]
  cases packet with
  | nil => rfl
  | cons tag body =>
      simp only [carried, dataHeader]
      split
      · simp [hdeclared]
      · split
        · simp [hdeclared]
        · rfl

theorem handleData_eq {tag : UInt8} {body : Bytes}
    (htag : tag = msgChannelData ∨ tag = msgChannelExtendedData) :
    c.handleData (tag :: body) =
      match dataHeader (tag :: body) with
      | none => .error (.parseError tag)
      | some (code, length, data) => c.receiveData code length data := by
  rcases htag with rfl | rfl
  · rcases Nat.lt_or_ge body.length 8 with hshort | hlong
    · have hnot : ¬ 8 ≤ body.length := by omega
      have hlt : body.length + 1 < 9 := by omega
      simp [Channel.handleData, dataHeader, msgChannelData, msgChannelExtendedData, hnot, hlt]
    · have hnot : ¬ body.length + 1 < 9 := by omega
      simp [Channel.handleData, dataHeader, msgChannelData, msgChannelExtendedData, hlong, hnot,
        uint32At]
  · rcases Nat.lt_or_ge body.length 12 with hshort | hlong
    · have hnot : ¬ 12 ≤ body.length := by omega
      have hlt : body.length + 1 < 13 := by omega
      simp [Channel.handleData, dataHeader, msgChannelData, msgChannelExtendedData, hnot, hlt]
    · have hnot : ¬ body.length + 1 < 13 := by omega
      simp [Channel.handleData, dataHeader, msgChannelData, msgChannelExtendedData, hlong, hnot,
        uint32At]

theorem length_of_dataHeader {code length : UInt32} {data : Bytes}
    (h : dataHeader packet = some (code, length, data)) : data.length ≤ packet.length := by
  cases packet with
  | nil => cases h
  | cons tag body =>
      simp only [dataHeader] at h
      split at h
      · cases h
        simp only [List.length_drop, List.length_cons]
        omega
      · split at h
        · cases h
          simp only [List.length_drop, List.length_cons]
          omega
        · cases h

/-! ## What the main loop makes of a packet -/

theorem received_of_handlePacket (hlength : packet.length < 2 ^ 32)
    (h : (c.handlePacket packet write).channel = some c') :
    Received c packet (c.handlePacket packet write) := by
  generalize hhandled : c.handlePacket packet write = handled at h ⊢
  unfold Channel.handlePacket at hhandled
  split at hhandled
  · subst hhandled
    cases h
  rename_i tag body
  by_cases htag : tag = msgChannelData ∨ tag = msgChannelExtendedData
  · rw [if_pos htag, handleData_eq htag] at hhandled
    cases hheader : dataHeader (tag :: body) with
    | none =>
        rw [hheader] at hhandled
        subst hhandled
        cases h
    | some header =>
        obtain ⟨code, length, data⟩ := header
        have hdata : data.length < 2 ^ 32 :=
          lt_of_le_of_lt (length_of_dataHeader hheader) hlength
        rw [hheader] at hhandled
        cases hreceive : c.receiveData code length data with
        | error err =>
            simp only [hreceive] at hhandled
            subst hhandled
            cases h
        | ok c₁ =>
            simp only [hreceive] at hhandled
            subst hhandled
            rcases (receiveData_eq_ok_iff hdata).mp hreceive with
              ⟨hzero, rfl⟩ | ⟨hsame, -, -, hwindow, rfl⟩
            · exact .nothing hheader hzero
            · exact .data hheader hsame hwindow
  rw [if_neg htag] at hhandled
  push Not at htag
  by_cases hclose : tag = msgChannelClose
  · rw [if_pos hclose] at hhandled
    subst hclose
    split at hhandled
    · subst hhandled
      cases h
    · rename_i hopen
      subst hhandled
      exact .close (by simpa using hopen)
  rw [if_neg hclose] at hhandled
  by_cases heof : tag = msgChannelEOF
  · rw [if_pos heof] at hhandled
    subst heof hhandled
    exact .eof
  rw [if_neg heof] at hhandled
  by_cases hresponse : tag = channelOpenFailureMsg.tag ∨ tag = channelOpenConfirmMsg.tag
  · rw [if_pos hresponse] at hhandled
    subst hhandled
    unfold Channel.handleResponse at h
    split at h <;> cases h
  rw [if_neg hresponse] at hhandled
  by_cases hadjust : tag = windowAdjustMsg.tag
  · rw [if_pos hadjust] at hhandled
    subst hadjust
    unfold Channel.handleAdjust at hhandled
    split at hhandled
    · subst hhandled
      cases h
    rename_i hmsg
    split at hhandled
    · subst hhandled
      cases h
    · rename_i hadd
      subst hhandled
      exact .adjust hmsg hadd
  rw [if_neg hadjust] at hhandled
  have hplain : Plain (tag :: body) := plain_of_tag ⟨htag.1, htag.2, hadjust⟩
  by_cases hrequest : tag = channelRequestMsg.tag
  · rw [if_pos hrequest] at hhandled
    unfold Channel.handleRequest at hhandled
    split at hhandled
    · subst hhandled
      cases h
    split at hhandled
    · subst hhandled
      cases h
    split at hhandled
    · subst hhandled
      exact .request _ hplain
    · subst hhandled
      cases h
  · rw [if_neg hrequest] at hhandled
    unfold Channel.handleOther at hhandled
    split at hhandled
    · subst hhandled
      cases h
    split at hhandled
    · subst hhandled
      cases h
    split at hhandled
    · subst hhandled
      exact .other _ hplain
    · subst hhandled
      cases h

theorem adjustment_of_dataHeader {header : UInt32 × UInt32 × Bytes}
    (h : dataHeader packet = some header) : adjustment packet = 0 := by
  cases packet with
  | nil => cases h
  | cons tag body =>
      refine adjustment_of_tag ?_
      rintro rfl
      simp [dataHeader, windowAdjustMsg, msgChannelData, msgChannelExtendedData] at h

theorem takes_of_data {code length : UInt32} {data : Bytes} (hlength : packet.length < 2 ^ 32)
    (hheader : dataHeader packet = some (code, length, data))
    (hsame : length.toNat = data.length) (hwindow : data.length ≤ c.myWindow.toNat) :
    Takes c packet (c.store code data) := by
  have hdata : data.length < 2 ^ 32 :=
    lt_of_le_of_lt (length_of_dataHeader hheader) hlength
  have htake : data.take length.toNat = data := by rw [hsame, List.take_length]
  have hsplit : dataOf packet = (if code = 0 then data else []) ∧
      extendedDataOf packet = if code = 0 then [] else data := by
    simp [dataOf, extendedDataOf, carried_eq, hheader, htake]
  have hstore := toNat_store (c := c) code hdata hwindow
  obtain ⟨hremote, hpayload, hsent, -⟩ := store_same (c := c) code data
  exact
    { window := by
        rw [hsplit.1, hsplit.2]
        split
        · simpa using hstore
        · simpa using hstore
      pending := by rw [contents_store, hsplit.1]
      remoteWin := by rw [hremote, adjustment_of_dataHeader hheader, Nat.add_zero]
      maxRemotePayload := hpayload
      sent := ⟨[], by simpa using hsent, by simp⟩ }

theorem takes_of_received {handled : Handled} (hlength : packet.length < 2 ^ 32)
    (h : Received c packet handled) (hchannel : handled.channel = some c') :
    Takes c packet c' := by
  cases h with
  | nothing hheader hzero =>
      cases hchannel
      have hnone : dataOf packet = [] ∧ extendedDataOf packet = [] := by
        simp [dataOf, extendedDataOf, carried_eq, hheader, hzero]
      exact
        { window := by simp [hnone]
          pending := by simp [hnone]
          remoteWin := by simp [adjustment_of_dataHeader hheader]
          maxRemotePayload := rfl
          sent := ⟨[], by simp, by simp⟩ }
  | data hheader hsame hwindow =>
      cases hchannel
      exact takes_of_data hlength hheader hsame hwindow
  | close =>
      cases hchannel
      exact (takes_sendMessage rfl (by decide) (plain_of_tag (by decide))).close
  | eof =>
      cases hchannel
      exact takes_of_same (plain_of_tag (by decide)) rfl rfl rfl rfl rfl
  | @adjust body id additionalBytes remoteWin hmsg hadd =>
      cases hchannel
      have hadjustment : adjustment (windowAdjustMsg.tag :: body) = additionalBytes.toNat := by
        rw [adjustment, hmsg]
      have hcarried : carried (windowAdjustMsg.tag :: body) = none :=
        carried_of_tag (by decide) (by decide)
      exact
        { window := by simp [dataOf_of_carried hcarried, extendedDataOf_of_carried hcarried]
          pending := by simp [dataOf_of_carried hcarried]
          remoteWin := by
            rw [hadjustment]
            exact (Window.add_eq_some_iff.mp hadd).2.1
          maxRemotePayload := rfl
          sent := ⟨[], by simp, by simp⟩ }
  | request r hplain =>
      cases hchannel
      exact takes_of_same hplain rfl rfl rfl rfl rfl
  | other m hplain =>
      cases hchannel
      exact takes_of_same hplain rfl rfl rfl rfl rfl

end Takes

end DockerBastion.Ssh
