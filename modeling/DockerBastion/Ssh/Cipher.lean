import DockerBastion.Foundation.Keystream
import DockerBastion.Ssh.Userauth

/-!
# The packets on the wire

A packet gets a length, a number of random bytes of padding and, once keys have been
agreed on, an authentication code or tag.  The cipher, the code and the random bytes
are parameters.

Read as a packet are the bytes that encrypt it with some padding and carry its
authentication code, and no others.
-/

namespace DockerBastion.Ssh

open Foundation Sshd

def packetSizeMultiple : Nat := 16

def prefixLen : Nat := 5

def gcmTagSize : Nat := 16

/-- A `hash.Hash` with a key. -/
structure Mac where
  size : Nat
  sum : Bytes → Bytes
  length_sum : ∀ b, (sum b).length = size

/-- A `cipher.AEAD` with a key: `Open` accepts what `Seal` makes, and nothing else. -/
structure Aead where
  sealWith : Bytes → Bytes → Bytes → Bytes
  openWith : Bytes → Bytes → Bytes → Option Bytes
  length_sealWith : ∀ nonce plain data,
    (sealWith nonce plain data).length = plain.length + gcmTagSize
  openWith_eq_some_iff : ∀ nonce sealed data plain,
    openWith nonce sealed data = some plain ↔ sealed = sealWith nonce plain data

/-- `pos` says how many bytes of the key stream have been used. -/
inductive PacketCipher where
  | stream (keystream : Nat → UInt8) (pos : Nat) (mac : Option Mac)
  | gcm (aead : Aead) (iv : Bytes)

/-- The cipher before the first key exchange. -/
def PacketCipher.initial : PacketCipher := .stream (fun _ => 0) 0 none

/--
What comes of reading a packet, and the state for the next one; the input may end
before the packet does.
-/
inductive ReadResult (σ : Type) where
  | packet (p rest : Bytes) (s : σ)
  | short
  | failed (fault : Fault)

def xorKeyStream (keystream : Nat → UInt8) (pos : Nat) (b : Bytes) : Bytes :=
  applyFrom (fun n x => x ^^^ keystream n) pos b

/-- The bytes of padding behind `n` bytes. -/
def paddingLength (n : Nat) : Nat :=
  let paddingLength := packetSizeMultiple - n % packetSizeMultiple
  if paddingLength < 4 then paddingLength + packetSizeMultiple else paddingLength

/-- `io.ReadFull` from the random reader. -/
def randomBytes (rand : Nat → UInt8) (n : Nat) : Bytes := (List.range n).map rand

def Mac.size? : Option Mac → Nat
  | none => 0
  | some mac => mac.size

def Mac.sum? (mac : Option Mac) (b : Bytes) : Bytes :=
  match mac with
  | none => []
  | some mac => mac.sum b

def cipherError (message : String) : Fault := .error (.other (ascii message))

namespace PacketCipher

/-- `incIV`, from the last byte backwards. -/
def incBytes : Bytes → Bytes
  | [] => []
  | x :: rest => if x + 1 ≠ 0 then (x + 1) :: rest else 0 :: incBytes rest

def incIV (iv : Bytes) : Bytes :=
  iv.take 4 ++ (incBytes ((iv.drop 4).take 8).reverse).reverse ++ iv.drop 12

/-- `streamPacketCipher.readPacket` -/
def readStream (keystream : Nat → UInt8) (pos : Nat) (mac : Option Mac) (seqNum : UInt32)
    (input : Bytes) : ReadResult PacketCipher :=
  if input.length < prefixLen then .short
  else
    let start := xorKeyStream keystream pos (input.take prefixLen)
    let length := declared start
    let paddingLength := (start.getD 4 0).toNat
    if length ≤ paddingLength + 1 then
      .failed (cipherError "ssh: invalid packet length, packet too small")
    else if length > maxPacket then
      .failed (cipherError "ssh: invalid packet length, packet too large")
    else
      let packetData := input.drop prefixLen
      if packetData.length < length - 1 + Mac.size? mac then .short
      else
        let data := xorKeyStream keystream (pos + prefixLen) (packetData.take (length - 1))
        let sum := (packetData.drop (length - 1)).take (Mac.size? mac)
        if Mac.sum? mac (appendU32 seqNum ++ start ++ data) ≠ sum then
          .failed (cipherError "ssh: MAC failure")
        else
          .packet (data.take (length - paddingLength - 1))
            (packetData.drop (length - 1 + Mac.size? mac))
            (.stream keystream (pos + prefixLen + (length - 1)) mac)

/-- `streamPacketCipher.writePacket` -/
def writeStream (keystream : Nat → UInt8) (pos : Nat) (mac : Option Mac) (seqNum : UInt32)
    (rand : Nat → UInt8) (packet : Bytes) : Outcome (Bytes × PacketCipher) :=
  if packet.length > maxPacket then .error (cipherError "ssh: packet too large")
  else
    let n := paddingLength (prefixLen + packet.length)
    let start := appendU32 (UInt32.ofNat (packet.length + 1 + n)) ++ [UInt8.ofNat n]
    let padding := randomBytes rand n
    let sum := Mac.sum? mac (appendU32 seqNum ++ start ++ packet ++ padding)
    .ok
      (xorKeyStream keystream pos start ++
          xorKeyStream keystream (pos + prefixLen) packet ++
          xorKeyStream keystream (pos + prefixLen + packet.length) padding ++ sum,
        .stream keystream (pos + prefixLen + packet.length + n) mac)

/-- `gcmCipher.readPacket` -/
def readGcm (aead : Aead) (iv : Bytes) (input : Bytes) : ReadResult PacketCipher :=
  if input.length < 4 then .short
  else
    let start := input.take 4
    let length := declared start
    if length > maxPacket then .failed (cipherError "ssh: max packet length exceeded.")
    else
      let buf := input.drop 4
      if buf.length < length + gcmTagSize then .short
      else
        match aead.openWith iv (buf.take (length + gcmTagSize)) start with
        | none => .failed (cipherError "cipher: message authentication failed")
        | some [] => .failed (.panic .indexOutOfRange)
        | some (padding :: plain) =>
            if padding < 4 ∨ padding ≥ 20 then
              .failed (cipherError ("ssh: illegal padding " ++ toString padding))
            else if padding.toNat + 1 ≥ plain.length + 1 then
              .failed (cipherError ("ssh: padding " ++ toString padding ++ " too large"))
            else
              .packet (plain.take (length - padding.toNat - 1))
                (buf.drop (length + gcmTagSize)) (.gcm aead (incIV iv))

/-- `gcmCipher.writePacket` -/
def writeGcm (aead : Aead) (iv : Bytes) (rand : Nat → UInt8) (packet : Bytes) :
    Outcome (Bytes × PacketCipher) :=
  let n := paddingLength (1 + packet.length)
  let length := UInt32.ofNat (packet.length + n + 1)
  let start := appendU32 length
  -- the buffer for the packet is as long as the length says
  if length.toNat < 1 + packet.length then .error (.panic .sliceOutOfRange)
  else
    let plain := UInt8.ofNat n :: packet ++ randomBytes rand (length.toNat - 1 - packet.length)
    .ok (start ++ aead.sealWith iv plain start, .gcm aead (incIV iv))

def readPacket (c : PacketCipher) (seqNum : UInt32) (input : Bytes) : ReadResult PacketCipher :=
  match c with
  | .stream keystream pos mac => readStream keystream pos mac seqNum input
  | .gcm aead iv => readGcm aead iv input

def writePacket (c : PacketCipher) (seqNum : UInt32) (rand : Nat → UInt8) (packet : Bytes) :
    Outcome (Bytes × PacketCipher) :=
  match c with
  | .stream keystream pos mac => writeStream keystream pos mac seqNum rand packet
  | .gcm aead iv => writeGcm aead iv rand packet

end PacketCipher

/-! ## Key streams and padding -/

section Pieces

variable {keystream : Nat → UInt8} {pos : Nat}

theorem xor_xor_self (x k : UInt8) : x ^^^ k ^^^ k = x := by
  rw [UInt8.xor_assoc, UInt8.xor_self, UInt8.xor_zero]

@[simp] theorem length_xorKeyStream (b : Bytes) :
    (xorKeyStream keystream pos b).length = b.length :=
  length_applyFrom _ pos b

theorem xorKeyStream_append (a b : Bytes) :
    xorKeyStream keystream pos (a ++ b) =
      xorKeyStream keystream pos a ++ xorKeyStream keystream (pos + a.length) b :=
  applyFrom_append _ pos a b

@[simp] theorem xorKeyStream_self (b : Bytes) :
    xorKeyStream keystream pos (xorKeyStream keystream pos b) = b :=
  applyFrom_applyFrom (fun n x => xor_xor_self x (keystream n)) pos b

@[simp] theorem length_randomBytes (rand : Nat → UInt8) (n : Nat) :
    (randomBytes rand n).length = n := by
  simp [randomBytes]

theorem length_sum? (mac : Option Mac) (b : Bytes) : (Mac.sum? mac b).length = Mac.size? mac := by
  cases mac with
  | none => rfl
  | some mac => exact mac.length_sum b

theorem paddingLength_bounds (n : Nat) :
    4 ≤ paddingLength n ∧ paddingLength n < 20 ∧ (n + paddingLength n) % 16 = 0 := by
  unfold paddingLength packetSizeMultiple
  dsimp only
  split
  · omega
  · omega

end Pieces

/-! ## Stream ciphers -/

def frameStart (n k : Nat) : Bytes :=
  appendU32 (UInt32.ofNat (n + 1 + k)) ++ [UInt8.ofNat k]

/-- What is encrypted of a packet with its padding. -/
def frame (p padding : Bytes) : Bytes :=
  frameStart p.length padding.length ++ (p ++ padding)

@[simp] theorem length_frameStart (n k : Nat) : (frameStart n k).length = prefixLen := by
  simp [frameStart, prefixLen]

theorem length_frame (p padding : Bytes) :
    (frame p padding).length = prefixLen + (p.length + padding.length) := by
  simp [frame]

theorem declared_frameStart {n k : Nat} (h : n + 1 + k ≤ maxPacket) :
    declared (frameStart n k) = n + 1 + k := by
  have hlt : n + 1 + k < 2 ^ 32 := lt_of_le_of_lt h (by decide)
  rw [frameStart, declared_appendU32, UInt32.toNat_ofNat', Nat.mod_eq_of_lt hlt]

theorem toNat_getD_frameStart (n : Nat) {k : Nat} (h : k < 256) :
    ((frameStart n k).getD 4 0).toNat = k := by
  have hget : (frameStart n k).getD 4 0 = UInt8.ofNat k := by
    rw [List.getD_eq_getElem?_getD, frameStart,
      List.getElem?_append_right (by rw [length_appendU32]), length_appendU32]
    rfl
  rw [hget, UInt8.toNat_ofNat', Nat.mod_eq_of_lt h]

section Stream

variable {keystream : Nat → UInt8} {pos : Nat} {mac : Option Mac} {seqNum : UInt32}
  {input p rest : Bytes} {c : PacketCipher}

theorem start_eq {start : Bytes} (h : start.length = prefixLen) :
    start = appendU32 (UInt32.ofNat (declared start)) ++ [start.getD 4 0] := by
  have hlength : 4 ≤ start.length := by
    rw [h]
    decide
  rw [appendU32_declared hlength]
  match start, h with
  | [a, b, c, d, e], _ => rfl

theorem frame_of_parts {start data : Bytes} (hstart : start.length = prefixLen)
    (hlength : declared start = data.length + 1)
    (hpadding : (start.getD 4 0).toNat ≤ data.length) :
    start ++ data =
      frame (data.take (data.length - (start.getD 4 0).toNat))
        (data.drop (data.length - (start.getD 4 0).toNat)) := by
  have htake : (data.take (data.length - (start.getD 4 0).toNat)).length =
      data.length - (start.getD 4 0).toNat := by
    rw [List.length_take]
    omega
  have hdrop : (data.drop (data.length - (start.getD 4 0).toNat)).length =
      (start.getD 4 0).toNat := by
    rw [List.length_drop]
    omega
  have hsum : data.length - (start.getD 4 0).toNat + 1 + (start.getD 4 0).toNat =
      declared start := by omega
  rw [frame, frameStart, htake, hdrop, hsum, UInt8.ofNat_toNat, List.take_append_drop,
    ← start_eq hstart]

/-- The input is cut at the declared length. -/
theorem readStream_parts {start data sum : Bytes} (hstart : start.length = prefixLen)
    (hlength : declared start = data.length + 1)
    (hmin : (start.getD 4 0).toNat + 1 < declared start) (hmax : declared start ≤ maxPacket)
    (hsum : Mac.sum? mac (appendU32 seqNum ++ start ++ data) = sum) :
    PacketCipher.readStream keystream pos mac seqNum
        (xorKeyStream keystream pos start ++
          (xorKeyStream keystream (pos + prefixLen) data ++ (sum ++ rest))) =
      .packet (data.take (data.length - (start.getD 4 0).toNat)) rest
        (.stream keystream (pos + prefixLen + data.length) mac) := by
  have hsize : sum.length = Mac.size? mac := by rw [← hsum, length_sum?]
  have hfirst : (xorKeyStream keystream pos start).length = prefixLen := by
    rw [length_xorKeyStream, hstart]
  have hdata : (xorKeyStream keystream (pos + prefixLen) data).length = data.length :=
    length_xorKeyStream data
  have hlen : declared start - 1 = data.length := by omega
  have hpacket : declared start - (start.getD 4 0).toNat - 1 =
      data.length - (start.getD 4 0).toNat := by omega
  have hshort : ¬ (xorKeyStream keystream pos start ++
      (xorKeyStream keystream (pos + prefixLen) data ++ (sum ++ rest))).length < prefixLen := by
    simp [hstart]
  have hlong : ¬ (xorKeyStream keystream (pos + prefixLen) data ++ (sum ++ rest)).length <
      data.length + Mac.size? mac := by
    simp only [List.length_append, hdata, hsize]
    omega
  have hdrop : (xorKeyStream keystream (pos + prefixLen) data ++ (sum ++ rest)).drop
      (data.length + Mac.size? mac) = rest := by
    rw [← List.append_assoc]
    refine List.drop_left' ?_
    rw [List.length_append, hdata, hsize]
  rw [PacketCipher.readStream, if_neg hshort]
  simp only [List.take_left' hfirst, List.drop_left' hfirst, xorKeyStream_self, hlen]
  rw [if_neg (by omega), if_neg (by omega), if_neg hlong, List.take_left' hdata,
    List.drop_left' hdata, List.take_left' hsize, xorKeyStream_self, hdrop, hpacket,
    if_neg (not_not.mpr hsum)]

theorem split_at (b : Bytes) (n m : Nat) :
    b = b.take n ++ ((b.drop n).take m ++ b.drop (n + m)) := by
  rw [← List.drop_drop, List.take_append_drop, List.take_append_drop]

/--
The bytes that are read as a packet: the encryption of the length, a number of bytes of
padding, the packet and the padding, and the authentication code of all of it behind
the sequence number.
-/
theorem readStream_eq_packet_iff :
    PacketCipher.readStream keystream pos mac seqNum input = .packet p rest c ↔
      ∃ padding : Bytes, padding.length < 256 ∧ 0 < p.length ∧
        p.length + 1 + padding.length ≤ maxPacket ∧
        input = xorKeyStream keystream pos (frame p padding) ++
          (Mac.sum? mac (appendU32 seqNum ++ frame p padding) ++ rest) ∧
        c = .stream keystream (pos + (frame p padding).length) mac := by
  constructor
  · intro h
    unfold PacketCipher.readStream at h
    split at h
    · cases h
    rename_i hprefix
    dsimp only at h
    generalize hstart : xorKeyStream keystream pos (input.take prefixLen) = start at h
    have hfive : start.length = prefixLen := by
      rw [← hstart, length_xorKeyStream, List.length_take]
      omega
    split at h
    · cases h
    rename_i hmin
    split at h
    · cases h
    rename_i hmax
    split at h
    · cases h
    rename_i hlong
    generalize hdata : xorKeyStream keystream (pos + prefixLen)
      ((input.drop prefixLen).take (declared start - 1)) = data at h
    have hlength : data.length = declared start - 1 := by
      rw [← hdata, length_xorKeyStream, List.length_take]
      omega
    split at h
    · cases h
    rename_i hsum
    cases h
    have hsum : Mac.sum? mac (appendU32 seqNum ++ (start ++ data)) =
        ((input.drop prefixLen).drop (declared start - 1)).take (Mac.size? mac) := by
      rw [← List.append_assoc]
      exact not_not.mp hsum
    have hfirst : xorKeyStream keystream pos start = input.take prefixLen := by
      rw [← hstart, xorKeyStream_self]
    have hbody : xorKeyStream keystream (pos + prefixLen) data =
        (input.drop prefixLen).take (declared start - 1) := by
      rw [← hdata, xorKeyStream_self]
    have hpacket : declared start - (start.getD 4 0).toNat - 1 =
        data.length - (start.getD 4 0).toNat := by omega
    have hframe := frame_of_parts hfive (by omega : declared start = data.length + 1) (by omega)
    rw [hpacket]
    refine ⟨data.drop (data.length - (start.getD 4 0).toNat), ?_, ?_, ?_, ?_, ?_⟩
    · rw [List.length_drop]
      have hbyte := (start.getD 4 0).toNat_lt
      omega
    · rw [List.length_take]
      omega
    · rw [List.length_take, List.length_drop]
      omega
    · rw [← hframe, xorKeyStream_append, hfive, hfirst, hbody, hsum, List.append_assoc,
        ← split_at, List.take_append_drop]
    · rw [← hframe, List.length_append, hfive, hlength]
      rw [Nat.add_assoc]
  · rintro ⟨padding, hpadding, hpos, hmax, rfl, rfl⟩
    have hdeclared := declared_frameStart hmax
    have hbyte := toNat_getD_frameStart p.length hpadding
    have htake : (p ++ padding).take ((p ++ padding).length - padding.length) = p := by
      rw [List.length_append, Nat.add_sub_cancel]
      exact List.take_left' rfl
    have hlength : declared (frameStart p.length padding.length) =
        (p ++ padding).length + 1 := by
      rw [hdeclared, List.length_append]
      omega
    have hparts : PacketCipher.readStream keystream pos mac seqNum
        (xorKeyStream keystream pos (frameStart p.length padding.length) ++
          (xorKeyStream keystream (pos + prefixLen) (p ++ padding) ++
            (Mac.sum? mac (appendU32 seqNum ++ frameStart p.length padding.length ++
              (p ++ padding)) ++ rest))) = _ :=
      readStream_parts (length_frameStart p.length padding.length) hlength (by omega)
        (by omega) rfl
    rw [hbyte, htake] at hparts
    rw [frame, xorKeyStream_append, length_frameStart, List.append_assoc,
      ← List.append_assoc (appendU32 seqNum), hparts]
    simp only [List.length_append, length_frameStart, Nat.add_assoc]

theorem readStream_ne_panic (e : Panic) :
    PacketCipher.readStream keystream pos mac seqNum input ≠ .failed (.panic e) := by
  unfold PacketCipher.readStream
  split
  · simp
  dsimp only
  split
  · simp [cipherError]
  split
  · simp [cipherError]
  split
  · simp
  split
  · simp [cipherError]
  · simp

/-- The padding that `writePacket` adds behind `header` bytes and the packet. -/
def paddingFor (header : Nat) (rand : Nat → UInt8) (p : Bytes) : Bytes :=
  randomBytes rand (paddingLength (header + p.length))

theorem length_paddingFor (header : Nat) (rand : Nat → UInt8) (p : Bytes) :
    (paddingFor header rand p).length = paddingLength (header + p.length) :=
  length_randomBytes rand _

theorem writeStream_eq_ok_iff {rand : Nat → UInt8} {out : Bytes} :
    PacketCipher.writeStream keystream pos mac seqNum rand p = .ok (out, c) ↔
      p.length ≤ maxPacket ∧
        out = xorKeyStream keystream pos (frame p (paddingFor prefixLen rand p)) ++
          Mac.sum? mac (appendU32 seqNum ++ frame p (paddingFor prefixLen rand p)) ∧
        c = .stream keystream (pos + (frame p (paddingFor prefixLen rand p)).length) mac := by
  have hstart : appendU32 (UInt32.ofNat (p.length + 1 + paddingLength (prefixLen + p.length))) ++
      [UInt8.ofNat (paddingLength (prefixLen + p.length))] =
        frameStart p.length (paddingFor prefixLen rand p).length := by
    rw [length_paddingFor, frameStart]
  have hpadding : randomBytes rand (paddingLength (prefixLen + p.length)) =
      paddingFor prefixLen rand p := rfl
  have hsplit : xorKeyStream keystream pos (frame p (paddingFor prefixLen rand p)) =
      xorKeyStream keystream pos (frameStart p.length (paddingFor prefixLen rand p).length) ++
        xorKeyStream keystream (pos + prefixLen) p ++
        xorKeyStream keystream (pos + prefixLen + p.length) (paddingFor prefixLen rand p) := by
    rw [frame, xorKeyStream_append, xorKeyStream_append, length_frameStart, List.append_assoc]
  have hcode : appendU32 seqNum ++ frame p (paddingFor prefixLen rand p) =
      appendU32 seqNum ++ frameStart p.length (paddingFor prefixLen rand p).length ++ p ++
        paddingFor prefixLen rand p := by
    rw [frame, ← List.append_assoc, ← List.append_assoc]
  have hpos : pos + (frame p (paddingFor prefixLen rand p)).length =
      pos + prefixLen + p.length + paddingLength (prefixLen + p.length) := by
    rw [length_frame, length_paddingFor]
    omega
  rw [hsplit, hcode, hpos]
  unfold PacketCipher.writeStream
  dsimp only
  rw [hstart, hpadding]
  split
  · rename_i hlarge
    refine iff_of_false (by simp) ?_
    rintro ⟨hle, -⟩
    omega
  · rename_i hle
    constructor
    · intro h
      cases h
      exact ⟨by omega, rfl, rfl⟩
    · rintro ⟨-, rfl, rfl⟩
      rfl

end Stream

/-! ## AES-GCM -/

/-- The length is not encrypted. -/
def gcmHeader (n k : Nat) : Bytes := appendU32 (UInt32.ofNat (n + k + 1))

def gcmFrame (p padding : Bytes) : Bytes := UInt8.ofNat padding.length :: p ++ padding

section Gcm

variable {aead : Aead} {iv input p rest : Bytes} {c : PacketCipher}

@[simp] theorem length_gcmHeader (n k : Nat) : (gcmHeader n k).length = 4 :=
  length_appendU32 _

theorem length_gcmFrame (p padding : Bytes) :
    (gcmFrame p padding).length = p.length + padding.length + 1 := by
  simp [gcmFrame]

theorem declared_gcmHeader {n k : Nat} (h : n + k + 1 ≤ maxPacket) (others : Bytes) :
    declared (gcmHeader n k ++ others) = n + k + 1 := by
  have hlt : n + k + 1 < 2 ^ 32 := lt_of_le_of_lt h (by decide)
  rw [gcmHeader, declared_appendU32, UInt32.toNat_ofNat', Nat.mod_eq_of_lt hlt]

theorem header_of_declared (h : 4 ≤ input.length) :
    input.take 4 = appendU32 (UInt32.ofNat (declared (input.take 4))) := by
  have hdeclared : declared (input.take 4) = declared input := by
    rw [declared, declared, List.take_take, Nat.min_self]
  rw [hdeclared, appendU32_declared h]

/-- What `Open` is asked about, and what it makes of it. -/
theorem openWith_parts {plain header : Bytes} {n : Nat} {buf : Bytes}
    (hbuf : n + gcmTagSize ≤ buf.length)
    (h : aead.openWith iv (buf.take (n + gcmTagSize)) header = some plain) :
    plain.length = n ∧ buf = aead.sealWith iv plain header ++ buf.drop (n + gcmTagSize) := by
  have hsealed := (aead.openWith_eq_some_iff _ _ _ _).mp h
  constructor
  · have hlength := congrArg List.length hsealed
    rw [aead.length_sealWith, List.length_take] at hlength
    omega
  · rw [← hsealed, List.take_append_drop]

theorem readGcm_sealed {header plain : Bytes} (hheader : header.length = 4)
    (hdeclared : declared header = plain.length) (hmax : plain.length ≤ maxPacket) :
    PacketCipher.readGcm aead iv (header ++ (aead.sealWith iv plain header ++ rest)) =
      match plain with
      | [] => .failed (.panic .indexOutOfRange)
      | padding :: plain =>
          if padding < 4 ∨ padding ≥ 20 then
            .failed (cipherError ("ssh: illegal padding " ++ toString padding))
          else if padding.toNat + 1 ≥ plain.length + 1 then
            .failed (cipherError ("ssh: padding " ++ toString padding ++ " too large"))
          else
            .packet (plain.take (plain.length + 1 - padding.toNat - 1)) rest
              (.gcm aead (PacketCipher.incIV iv)) := by
  have hsealed : (aead.sealWith iv plain header).length = plain.length + gcmTagSize :=
    aead.length_sealWith iv plain header
  have hopen : aead.openWith iv (aead.sealWith iv plain header) header = some plain :=
    (aead.openWith_eq_some_iff _ _ _ _).mpr rfl
  have hfour : ¬ (header ++ (aead.sealWith iv plain header ++ rest)).length < 4 := by
    simp [hheader]
  have hlong : ¬ (aead.sealWith iv plain header ++ rest).length < plain.length + gcmTagSize := by
    rw [List.length_append, hsealed]
    omega
  rw [PacketCipher.readGcm, if_neg hfour]
  simp only [List.take_left' hheader, List.drop_left' hheader, hdeclared]
  rw [if_neg (by omega), if_neg hlong, List.take_left' hsealed, List.drop_left' hsealed, hopen]
  cases plain with
  | nil => rfl
  | cons padding plain => rw [List.length_cons]

theorem readGcm_eq_packet_iff :
    PacketCipher.readGcm aead iv input = .packet p rest c ↔
      ∃ padding : Bytes, 4 ≤ padding.length ∧ padding.length < 20 ∧ 0 < p.length ∧
        p.length + padding.length + 1 ≤ maxPacket ∧
        input = gcmHeader p.length padding.length ++
          (aead.sealWith iv (gcmFrame p padding) (gcmHeader p.length padding.length) ++ rest) ∧
        c = .gcm aead (PacketCipher.incIV iv) := by
  constructor
  · intro h
    unfold PacketCipher.readGcm at h
    split at h
    · cases h
    rename_i hfour
    dsimp only at h
    split at h
    · cases h
    rename_i hmax
    split at h
    · cases h
    rename_i hlong
    split at h
    · cases h
    · cases h
    rename_i k plain hopen
    obtain ⟨hlength, hbuf⟩ := openWith_parts (by omega) hopen
    rw [List.length_cons] at hlength
    split at h
    · cases h
    rename_i hlegal
    split at h
    · cases h
    rename_i hsmall
    cases h
    have hk : 4 ≤ k.toNat ∧ k.toNat < 20 := by
      rw [not_or, UInt8.not_lt, UInt8.le_iff_toNat_le, ge_iff_le, UInt8.not_le,
        UInt8.lt_iff_toNat_lt] at hlegal
      exact hlegal
    have hcut : declared (input.take 4) - k.toNat - 1 = plain.length - k.toNat := by omega
    have htake : (plain.take (plain.length - k.toNat)).length = plain.length - k.toNat := by
      rw [List.length_take]
      omega
    have hdrop : (plain.drop (plain.length - k.toNat)).length = k.toNat := by
      rw [List.length_drop]
      omega
    have hheader : input.take 4 = gcmHeader (plain.length - k.toNat) k.toNat := by
      rw [header_of_declared (by omega), gcmHeader]
      congr 2
      omega
    have hframe : k :: plain = gcmFrame (plain.take (plain.length - k.toNat))
        (plain.drop (plain.length - k.toNat)) := by
      rw [gcmFrame, hdrop, UInt8.ofNat_toNat, List.cons_append, List.take_append_drop]
    rw [hcut]
    refine ⟨plain.drop (plain.length - k.toNat), ?_, ?_, ?_, ?_, ?_, rfl⟩
    · omega
    · omega
    · omega
    · omega
    · rw [htake, hdrop, ← hheader, ← hframe, ← hbuf, List.take_append_drop]
  · rintro ⟨padding, hmin, hless, hpos, hmax, rfl, rfl⟩
    have hdeclared : declared (gcmHeader p.length padding.length) =
        (gcmFrame p padding).length := by
      have hheader := declared_gcmHeader hmax []
      rw [List.append_nil] at hheader
      rw [hheader, length_gcmFrame]
    have hbyte : (UInt8.ofNat padding.length).toNat = padding.length := by
      rw [UInt8.toNat_ofNat', Nat.mod_eq_of_lt (by omega)]
    have hlegal : ¬ (UInt8.ofNat padding.length < 4 ∨ UInt8.ofNat padding.length ≥ 20) := by
      rw [not_or, UInt8.not_lt, UInt8.le_iff_toNat_le, ge_iff_le, UInt8.not_le,
        UInt8.lt_iff_toNat_lt, hbyte]
      exact ⟨hmin, hless⟩
    have htake : (p ++ padding).take ((p ++ padding).length + 1 - padding.length - 1) = p := by
      refine List.take_left' ?_
      rw [List.length_append]
      omega
    have hlength : (gcmFrame p padding).length ≤ maxPacket := by
      rw [length_gcmFrame]
      exact hmax
    have hroom : ¬ padding.length + 1 ≥ (p ++ padding).length + 1 := by
      rw [List.length_append]
      omega
    rw [readGcm_sealed (length_gcmHeader _ _) hdeclared hlength]
    simp only [gcmFrame, List.cons_append]
    rw [if_neg hlegal, hbyte, if_neg hroom, htake]

/-- An authentic packet without a single byte. -/
theorem readGcm_panics_iff {e : Panic} :
    PacketCipher.readGcm aead iv input = .failed (.panic e) ↔
      e = .indexOutOfRange ∧
        ∃ rest, input = appendU32 0 ++ (aead.sealWith iv [] (appendU32 0) ++ rest) := by
  constructor
  · intro h
    unfold PacketCipher.readGcm at h
    split at h
    · cases h
    rename_i hfour
    dsimp only at h
    split at h
    · cases h
    split at h
    · cases h
    rename_i hlong
    split at h
    · cases h
    · rename_i hopen
      cases h
      obtain ⟨hlength, hbuf⟩ := openWith_parts (by omega) hopen
      have hheader : input.take 4 = appendU32 0 := by
        rw [header_of_declared (by omega), ← hlength]
        rfl
      refine ⟨rfl, (input.drop 4).drop (declared (input.take 4) + gcmTagSize), ?_⟩
      rw [← hheader, ← hbuf, List.take_append_drop]
    · split at h
      · cases h
      · split at h <;> cases h
  · rintro ⟨rfl, rest, rfl⟩
    have hempty : declared (appendU32 0) = ([] : Bytes).length := rfl
    exact readGcm_sealed (length_appendU32 0) hempty (Nat.zero_le _)

theorem writeGcm_eq_ok_iff {rand : Nat → UInt8} {out : Bytes} :
    PacketCipher.writeGcm aead iv rand p = .ok (out, c) ↔
      p.length + (paddingFor 1 rand p).length + 1 < 2 ^ 32 ∧
        out = gcmHeader p.length (paddingFor 1 rand p).length ++
          aead.sealWith iv (gcmFrame p (paddingFor 1 rand p))
            (gcmHeader p.length (paddingFor 1 rand p).length) ∧
        c = .gcm aead (PacketCipher.incIV iv) := by
  have hbounds := paddingLength_bounds (1 + p.length)
  have hlength := length_paddingFor 1 rand p
  unfold PacketCipher.writeGcm
  dsimp only
  rw [← hlength] at hbounds ⊢
  generalize hn : (paddingFor 1 rand p).length = n at hbounds hlength ⊢
  split
  · rename_i hshort
    refine iff_of_false (by simp) ?_
    rintro ⟨hlt, -⟩
    rw [UInt32.toNat_ofNat', Nat.mod_eq_of_lt hlt] at hshort
    omega
  · rename_i hlong
    -- had the length wrapped around, it would be less than the padding
    have hlt : p.length + n + 1 < 2 ^ 32 := by
      rw [UInt32.toNat_ofNat'] at hlong
      omega
    have hrest : (UInt32.ofNat (p.length + n + 1)).toNat - 1 - p.length =
        paddingLength (1 + p.length) := by
      rw [UInt32.toNat_ofNat', Nat.mod_eq_of_lt hlt]
      omega
    have hframe : UInt8.ofNat n :: p ++
        randomBytes rand ((UInt32.ofNat (p.length + n + 1)).toNat - 1 - p.length) =
          gcmFrame p (paddingFor 1 rand p) := by
      rw [hrest, gcmFrame, hn]
      rfl
    rw [hframe]
    constructor
    · intro h
      cases h
      exact ⟨hlt, rfl, rfl⟩
    · rintro ⟨-, rfl, rfl⟩
      rfl

end Gcm

/-! ## Both ciphers -/

namespace PacketCipher

def legalPadding : PacketCipher → Nat → Prop
  | .stream _ _ _, n => n < 256
  | .gcm _ _, n => 4 ≤ n ∧ n < 20

/-- The bytes on the wire. -/
def encrypted (c : PacketCipher) (seqNum : UInt32) (p padding : Bytes) : Bytes :=
  match c with
  | .stream keystream pos mac =>
      xorKeyStream keystream pos (frame p padding) ++
        Mac.sum? mac (appendU32 seqNum ++ frame p padding)
  | .gcm aead iv =>
      gcmHeader p.length padding.length ++
        aead.sealWith iv (gcmFrame p padding) (gcmHeader p.length padding.length)

/-- The cipher for the next packet. -/
def after (c : PacketCipher) (p padding : Bytes) : PacketCipher :=
  match c with
  | .stream keystream pos mac => .stream keystream (pos + (frame p padding).length) mac
  | .gcm aead iv => .gcm aead (incIV iv)

/-- The padding that the server adds. -/
def padding (c : PacketCipher) (rand : Nat → UInt8) (p : Bytes) : Bytes :=
  match c with
  | .stream _ _ _ => paddingFor prefixLen rand p
  | .gcm _ _ => paddingFor 1 rand p

/-- The longest packet that fits with its padding into what is read. -/
def longest : PacketCipher → Nat
  | .stream _ _ _ => maxPacket - 9
  | .gcm _ _ => maxPacket - 5

variable {c c' : PacketCipher} {seqNum : UInt32} {rand : Nat → UInt8} {input p rest out : Bytes}

/--
A packet is read exactly from the bytes that encrypt it with some padding, with the
authentication code or tag that belongs to the sequence number or nonce.
-/
theorem readPacket_eq_packet_iff :
    c.readPacket seqNum input = .packet p rest c' ↔
      ∃ padding : Bytes, c.legalPadding padding.length ∧ 0 < p.length ∧
        p.length + padding.length + 1 ≤ maxPacket ∧
        input = c.encrypted seqNum p padding ++ rest ∧ c' = c.after p padding := by
  cases c with
  | stream keystream pos mac =>
      refine readStream_eq_packet_iff.trans (exists_congr fun padding => ?_)
      simp only [legalPadding, encrypted, after, List.append_assoc, Nat.add_right_comm]
  | gcm aead iv =>
      refine readGcm_eq_packet_iff.trans (exists_congr fun padding => ?_)
      simp only [legalPadding, encrypted, after, List.append_assoc, and_assoc]

/-- Only AES-GCM lets the reader look for the padding length in an empty packet. -/
theorem readPacket_panics_iff {e : Panic} :
    c.readPacket seqNum input = .failed (.panic e) ↔
      e = .indexOutOfRange ∧ ∃ aead iv rest, c = .gcm aead iv ∧
        input = appendU32 0 ++ (aead.sealWith iv [] (appendU32 0) ++ rest) := by
  cases c with
  | stream keystream pos mac =>
      refine iff_of_false (readStream_ne_panic e) ?_
      rintro ⟨-, aead, iv, rest, hcipher, -⟩
      cases hcipher
  | gcm aead iv =>
      refine readGcm_panics_iff.trans (and_congr_right fun _ => ?_)
      constructor
      · rintro ⟨rest, hinput⟩
        exact ⟨aead, iv, rest, rfl, hinput⟩
      · rintro ⟨_, _, rest, hcipher, hinput⟩
        cases hcipher
        exact ⟨rest, hinput⟩

theorem writePacket_eq_ok (h : c.writePacket seqNum rand p = .ok (out, c')) :
    out = c.encrypted seqNum p (c.padding rand p) ∧ c' = c.after p (c.padding rand p) := by
  cases c with
  | stream keystream pos mac => exact (writeStream_eq_ok_iff.mp h).2
  | gcm aead iv => exact (writeGcm_eq_ok_iff.mp h).2

theorem length_of_writePacket (h : c.writePacket seqNum rand p = .ok (out, c')) :
    p.length + 1 + (c.padding rand p).length < 2 ^ 32 := by
  cases c with
  | stream keystream pos mac =>
      have hle := (writeStream_eq_ok_iff.mp h).1
      have hbounds := paddingLength_bounds (prefixLen + p.length)
      simp only [padding, length_paddingFor, maxPacket] at hle ⊢
      omega
  | gcm aead iv =>
      have hlt := (writeGcm_eq_ok_iff.mp h).1
      simp only [padding]
      omega

/-- A packet with its padding fits exactly if it is not longer than `longest`. -/
theorem fits_iff :
    p.length + (c.padding rand p).length + 1 ≤ maxPacket ↔ p.length ≤ c.longest := by
  cases c with
  | stream keystream pos mac =>
      have hbounds := paddingLength_bounds (prefixLen + p.length)
      simp only [padding, longest, length_paddingFor, maxPacket, prefixLen] at hbounds ⊢
      omega
  | gcm aead iv =>
      have hbounds := paddingLength_bounds (1 + p.length)
      simp only [padding, longest, length_paddingFor, maxPacket] at hbounds ⊢
      omega

theorem legalPadding_padding : c.legalPadding (c.padding rand p).length := by
  cases c with
  | stream keystream pos mac =>
      have hbounds := paddingLength_bounds (prefixLen + p.length)
      simp only [legalPadding, padding, length_paddingFor]
      omega
  | gcm aead iv =>
      have hbounds := paddingLength_bounds (1 + p.length)
      simp only [legalPadding, padding, length_paddingFor]
      omega

theorem read_written (h : c.writePacket seqNum rand p = .ok (out, c')) (hpos : 0 < p.length)
    (hfits : p.length ≤ c.longest) : c.readPacket seqNum (out ++ rest) = .packet p rest c' := by
  obtain ⟨rfl, rfl⟩ := writePacket_eq_ok h
  exact readPacket_eq_packet_iff.mpr
    ⟨c.padding rand p, legalPadding_padding, hpos, fits_iff.mpr hfits, rfl, rfl⟩

/-- The length is declared in front, so that the bytes say how much padding there is. -/
theorem length_padding_unique {padding padding' rest rest' : Bytes}
    (hlt : p.length + 1 + padding.length < 2 ^ 32)
    (hlt' : p.length + 1 + padding'.length < 2 ^ 32)
    (h : c.encrypted seqNum p padding ++ rest = c.encrypted seqNum p padding' ++ rest') :
    padding.length = padding'.length := by
  have hdeclared : declared (frameStart p.length padding.length) =
      declared (frameStart p.length padding'.length) := by
    cases c with
    | stream keystream pos mac =>
        have hstart := congrArg (List.take prefixLen) h
        have hcut : ∀ padding rest : Bytes,
            (xorKeyStream keystream pos (frame p padding) ++ rest).take prefixLen =
              xorKeyStream keystream pos (frameStart p.length padding.length) := by
          intro padding rest
          rw [frame, xorKeyStream_append, List.append_assoc]
          exact List.take_left' (by rw [length_xorKeyStream, length_frameStart])
        rw [encrypted, encrypted, List.append_assoc, List.append_assoc, hcut, hcut] at hstart
        have hself : frameStart p.length padding.length = xorKeyStream keystream pos
            (xorKeyStream keystream pos (frameStart p.length padding.length)) :=
          (xorKeyStream_self _).symm
        rw [hself, hstart, xorKeyStream_self]
    | gcm aead iv =>
        have hstart := congrArg (List.take 4) h
        simp only [encrypted, List.append_assoc] at hstart
        rw [List.take_left' (length_gcmHeader _ _), List.take_left' (length_gcmHeader _ _),
          gcmHeader, gcmHeader] at hstart
        rw [frameStart, frameStart, Nat.add_right_comm p.length 1 padding.length,
          Nat.add_right_comm p.length 1 padding'.length, hstart, declared_appendU32,
          declared_appendU32]
  rw [frameStart, frameStart, declared_appendU32, declared_appendU32, UInt32.toNat_ofNat',
    UInt32.toNat_ofNat', Nat.mod_eq_of_lt hlt, Nat.mod_eq_of_lt hlt'] at hdeclared
  omega

theorem fits_of_read {c'' : PacketCipher} {rest' : Bytes}
    (h : c.writePacket seqNum rand p = .ok (out, c'))
    (hread : c.readPacket seqNum (out ++ rest) = .packet p rest' c'') :
    0 < p.length ∧ p.length ≤ c.longest := by
  have hlt := length_of_writePacket h
  obtain ⟨rfl, rfl⟩ := writePacket_eq_ok h
  obtain ⟨padding, -, hpos, hfits, hsame, -⟩ := readPacket_eq_packet_iff.mp hread
  have hlt' : p.length + 1 + padding.length < 2 ^ 32 := by
    have hmax : maxPacket < 2 ^ 32 := by decide
    omega
  rw [← length_padding_unique hlt hlt' hsame] at hfits
  exact ⟨hpos, fits_iff.mp hfits⟩

end PacketCipher

end DockerBastion.Ssh
