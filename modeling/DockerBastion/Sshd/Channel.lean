import DockerBastion.Foundation.Bytes
import DockerBastion.Foundation.Run

/-!
# Session channels

`handleChannels` starts `docker exec` for every session channel and answers the
requests that arrive on it.  Indexing, slicing and waiting for a process are
partial in Go; here they return the panic.  No goroutine of the SSH side recovers
from one, so a panic ends the whole process.
-/

namespace DockerBastion.Sshd

open Foundation

inductive Panic where
  | indexOutOfRange
  | sliceOutOfRange
  | nilProcess
  deriving DecidableEq, Repr

def index (b : Bytes) (i : Nat) : Except Panic UInt8 :=
  match b[i]? with
  | some x => .ok x
  | none => .error .indexOutOfRange

def sliceFrom (b : Bytes) (i : Nat) : Except Panic Bytes :=
  if i ≤ b.length then .ok (b.drop i) else .error .sliceOutOfRange

/-- `binary.BigEndian.Uint32`, which reads the bytes 3, 2, 1, 0. -/
def bigEndianUint32 (b : Bytes) : Except Panic UInt32 := do
  let b3 ← index b 3
  let b2 ← index b 2
  let b1 ← index b 1
  let b0 ← index b 0
  return b3.toUInt32 ||| b2.toUInt32 <<< 8 ||| b1.toUInt32 <<< 16 |||
    b0.toUInt32 <<< 24

def parseDims (b : Bytes) : Except Panic (UInt32 × UInt32) := do
  let w ← bigEndianUint32 b
  let rest ← sliceFrom b 4
  let h ← bigEndianUint32 rest
  return (w, h)

structure Winsize where
  height : UInt16
  width : UInt16
  x : UInt16 := 0
  y : UInt16 := 0
  deriving DecidableEq, Repr

def winsize (w h : UInt32) : Winsize := { width := w.toUInt16, height := h.toUInt16 }

structure Request where
  type : Bytes
  wantReply : Bool
  payload : Bytes
  deriving DecidableEq, Repr

inductive Effect where
  | setWinsize (ws : Winsize)
  | reply (ok : Bool)
  deriving DecidableEq, Repr

/-- `Reply` sends nothing unless the request wants a reply. -/
def Request.reply (req : Request) (ok : Bool) : List Effect :=
  if req.wantReply then [.reply ok] else []

/-- The body of the request loop of `handleChannel`. -/
def handleRequest (req : Request) : Except Panic (List Effect) :=
  if req.type = ascii "shell" then
    if req.payload.length = 0 then .ok (req.reply true) else .ok []
  else if req.type = ascii "pty-req" then do
    let termLen ← index req.payload 3
    -- the offset is computed in the type of `termLen`, a byte
    let dims ← sliceFrom req.payload (termLen + 4).toNat
    let (w, h) ← parseDims dims
    return .setWinsize (winsize w h) :: req.reply true
  else if req.type = ascii "window-change" then do
    let (w, h) ← parseDims req.payload
    return [.setWinsize (winsize w h)]
  else .ok []

structure Channel where
  /-- `cmd.Process` is not nil. -/
  process : Bool
  /-- `closeChannel` has run. -/
  closed : Bool
  deriving DecidableEq, Repr

def closeChannel (c : Channel) : Except Panic Channel :=
  if c.process then .ok { c with closed := true } else .error .nilProcess

/-- `once.Do(closeChannel)` at the end of a copy loop. -/
def copyDone (c : Channel) : Except Panic Channel :=
  if c.closed then .ok c else closeChannel c

inductive ChannelEvent where
  | newChannel (type : Bytes) (acceptFails startFails : Bool)
  | request (ch : Nat) (req : Request)
  | outputEnds (ch : Nat)
  | inputEnds (ch : Nat)
  deriving DecidableEq, Repr

/-- A failing `pty.Start` leaves a nil process; the channel is then closed. -/
def handleChannel (startFails : Bool) : Except Panic Channel :=
  if startFails then closeChannel ⟨false, false⟩ else .ok ⟨true, false⟩

def stepChannels (channels : List Channel) : ChannelEvent → Except Panic (List Channel)
  | .newChannel type acceptFails startFails =>
      if type ≠ ascii "session" then .ok channels
      else if acceptFails then .ok channels
      else do
        let c ← handleChannel startFails
        return channels ++ [c]
  | .request ch req =>
      match channels[ch]? with
      | none => .ok channels
      | some _ => do
          let _ ← handleRequest req
          return channels
  | .outputEnds ch | .inputEnds ch =>
      match channels[ch]? with
      | none => .ok channels
      | some c => do
          let c' ← copyDone c
          return channels.set ch c'

/-- The process as a connection sees it: its channels, or the panic it died of. -/
abbrev ConnState := Except Panic (List Channel)

def stepConn (s : ConnState) (e : ChannelEvent) : ConnState :=
  match s with
  | .ok channels => stepChannels channels e
  | .error p => .error p

/-! ## Requests that do not panic -/

theorem bigEndianUint32_isOk_iff {b : Bytes} :
    (∃ w, bigEndianUint32 b = .ok w) ↔ 4 ≤ b.length := by
  match b with
  | [] => simp [bigEndianUint32, index, bind, Except.bind]
  | [_] => simp [bigEndianUint32, index, bind, Except.bind]
  | [_, _] => simp [bigEndianUint32, index, bind, Except.bind]
  | [_, _, _] => simp [bigEndianUint32, index, bind, Except.bind]
  | _ :: _ :: _ :: _ :: _ =>
      simp [bigEndianUint32, index, bind, Except.bind, pure, Except.pure]

theorem parseDims_isOk_iff {b : Bytes} :
    (∃ dims, parseDims b = .ok dims) ↔ 8 ≤ b.length := by
  unfold parseDims
  by_cases h4 : 4 ≤ b.length
  · obtain ⟨w, hw⟩ := bigEndianUint32_isOk_iff.mpr h4
    have hrest : (∃ h, bigEndianUint32 (b.drop 4) = .ok h) ↔ 8 ≤ b.length := by
      rw [bigEndianUint32_isOk_iff, List.length_drop]
      omega
    rw [← hrest]
    simp only [hw, sliceFrom, h4, if_true, bind, Except.bind]
    cases bigEndianUint32 (b.drop 4) <;> simp [pure, Except.pure]
  · have hw : ∀ w, bigEndianUint32 b ≠ .ok w := fun w hw =>
      h4 (bigEndianUint32_isOk_iff.mp ⟨w, hw⟩)
    cases hb : bigEndianUint32 b with
    | ok w => exact absurd hb (hw w)
    | error p =>
        simp only [bind, Except.bind, reduceCtorEq, exists_false, false_iff]
        omega

/-- The payload is long enough for what the request loop reads from it. -/
def PayloadFits (req : Request) : Prop :=
  (req.type = ascii "pty-req" →
    ∃ termLen, req.payload[3]? = some termLen ∧
      (termLen + 4).toNat + 8 ≤ req.payload.length) ∧
  (req.type = ascii "window-change" → 8 ≤ req.payload.length)

theorem handleRequest_isOk_iff {req : Request} :
    (∃ effects, handleRequest req = .ok effects) ↔ PayloadFits req := by
  unfold handleRequest
  split
  · rename_i hshell
    have hfits : PayloadFits req := by
      constructor <;> intro h <;> rw [hshell] at h <;> exact absurd h (by decide)
    simp only [hfits, iff_true]
    split <;> exact ⟨_, rfl⟩
  split
  · rename_i hpty
    have hfits : PayloadFits req ↔ ∃ termLen, req.payload[3]? = some termLen ∧
        (termLen + 4).toNat + 8 ≤ req.payload.length := by
      have hwindow : req.type ≠ ascii "window-change" := by
        rw [hpty]
        decide
      exact ⟨fun h => h.1 hpty, fun h => ⟨fun _ => h, fun hw => absurd hw hwindow⟩⟩
    rw [hfits, index]
    cases hlen : req.payload[3]? with
    | none => simp [bind, Except.bind]
    | some termLen =>
        simp only [bind, Except.bind, Option.some.injEq, exists_eq_left', sliceFrom]
        by_cases hslice : (termLen + 4).toNat ≤ req.payload.length
        · have hdims : (∃ dims, parseDims (req.payload.drop (termLen + 4).toNat) =
              .ok dims) ↔ (termLen + 4).toNat + 8 ≤ req.payload.length := by
            rw [parseDims_isOk_iff, List.length_drop]
            omega
          rw [← hdims]
          simp only [hslice, if_true]
          cases parseDims (req.payload.drop (termLen + 4).toNat) <;>
            simp [pure, Except.pure]
        · simp only [hslice, if_false, reduceCtorEq, exists_false, false_iff]
          omega
  · rename_i hpty
    split
    · rename_i hwindow
      have hfits : PayloadFits req ↔ 8 ≤ req.payload.length :=
        ⟨fun h => h.2 hwindow, fun h => ⟨fun hp => absurd hp hpty, fun _ => h⟩⟩
      rw [hfits, ← parseDims_isOk_iff]
      cases parseDims req.payload <;> simp [bind, Except.bind, pure, Except.pure]
    · rename_i hwindow
      simp [PayloadFits, hpty, hwindow]

/-! ## Connections that do not panic -/

/-- What an event may not do: fail to start a session, or cut a payload short. -/
def SafeEvent (s : ConnState) : ChannelEvent → Prop
  | .newChannel type acceptFails startFails =>
      type = ascii "session" → acceptFails = false → startFails = false
  | .request ch req =>
      ∀ channels, s = .ok channels → ch < channels.length → PayloadFits req
  | .outputEnds _ | .inputEnds _ => True

def Sound (s : ConnState) : Prop :=
  ∃ channels, s = .ok channels ∧ ∀ c ∈ channels, c.process = true

private theorem copyDone_of_process {c : Channel} (h : c.process = true) :
    ∃ c', copyDone c = .ok c' ∧ c'.process = true := by
  unfold copyDone closeChannel
  split
  · exact ⟨c, rfl, h⟩
  · exact ⟨{ c with closed := true }, by simp [h], h⟩

private theorem sound_copyEnds {channels : List Channel}
    (hproc : ∀ c ∈ channels, c.process = true) (ch : Nat) :
    Sound
      (match channels[ch]? with
      | none => .ok channels
      | some c => do
          let c' ← copyDone c
          return channels.set ch c') := by
  cases hc : channels[ch]? with
  | none => exact ⟨channels, rfl, hproc⟩
  | some c =>
      obtain ⟨c', hdone, hc'⟩ := copyDone_of_process
        (hproc c (List.mem_of_getElem? hc))
      refine ⟨channels.set ch c', by simp [hdone, bind, Except.bind, pure, Except.pure], ?_⟩
      intro d hd
      rcases List.mem_or_eq_of_mem_set hd with hd | rfl
      · exact hproc d hd
      · exact hc'

theorem sound_step {s : ConnState} {e : ChannelEvent} (hs : Sound s)
    (he : SafeEvent s e) : Sound (stepConn s e) := by
  obtain ⟨channels, rfl, hproc⟩ := hs
  cases e with
  | newChannel type acceptFails startFails =>
      simp only [stepConn, stepChannels]
      split
      · exact ⟨channels, rfl, hproc⟩
      · rename_i htype
        split
        · exact ⟨channels, rfl, hproc⟩
        · rename_i haccept
          have hstart := he (not_not.mp htype) (by simpa using haccept)
          subst hstart
          refine ⟨channels ++ [⟨true, false⟩], rfl, ?_⟩
          intro c hc
          rcases List.mem_append.mp hc with hc | hc
          · exact hproc c hc
          · obtain rfl := List.mem_singleton.mp hc
            rfl
  | request ch req =>
      simp only [stepConn, stepChannels]
      cases hc : channels[ch]? with
      | none => exact ⟨channels, rfl, hproc⟩
      | some c =>
          have hlt : ch < channels.length := (List.getElem?_eq_some_iff.mp hc).1
          obtain ⟨effects, heffects⟩ := handleRequest_isOk_iff.mpr (he channels rfl hlt)
          exact ⟨channels, by simp [heffects, bind, Except.bind, pure, Except.pure], hproc⟩
  | outputEnds ch => exact sound_copyEnds hproc ch
  | inputEnds ch => exact sound_copyEnds hproc ch

theorem safe_of_alive {s : ConnState} {e : ChannelEvent}
    (hs : ∃ channels, s = .ok channels) (hnext : ∃ channels, stepConn s e = .ok channels) :
    SafeEvent s e := by
  obtain ⟨channels, rfl⟩ := hs
  obtain ⟨channels', hnext⟩ := hnext
  cases e with
  | newChannel type acceptFails startFails =>
      rintro rfl rfl
      cases startFails with
      | false => rfl
      | true => cases hnext
  | request ch req =>
      rintro channels'' heq hlt
      cases heq
      rw [← handleRequest_isOk_iff]
      simp only [stepConn, stepChannels, List.getElem?_eq_getElem hlt] at hnext
      cases heffects : handleRequest req with
      | ok effects => exact ⟨effects, rfl⟩
      | error p => simp [heffects, bind, Except.bind] at hnext
  | outputEnds ch => trivial
  | inputEnds ch => trivial

/--
A connection never ends the process with a panic exactly if no `pty.Start` on it
fails and every `pty-req` and `window-change` payload is as long as what is read
from it.
-/
theorem alive_iff_safe (events : List ChannelEvent) :
    Always stepConn (fun s => ∃ channels, s = .ok channels) (.ok []) events ↔
      EachStep stepConn SafeEvent (.ok []) events := by
  constructor
  · exact eachStep_of_always fun s e => safe_of_alive
  · intro hsafe
    have hsound : Sound (.ok []) := ⟨[], rfl, by simp⟩
    refine (always_of_step (fun s e => sound_step) hsound hsafe).mono ?_
    rintro s ⟨channels, rfl, -⟩
    exact ⟨channels, rfl⟩

theorem empty_payload_panics :
    ¬ Always stepConn (fun s => ∃ channels, s = .ok channels) (.ok [])
      [.newChannel (ascii "session") false false,
       .request 0 ⟨ascii "pty-req", true, []⟩] := by
  intro halive
  obtain ⟨channels, hlast⟩ := halive.last
  cases hlast

end DockerBastion.Sshd
