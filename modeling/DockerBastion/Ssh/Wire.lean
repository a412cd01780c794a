import DockerBastion.Foundation.BigEndian
import DockerBastion.Sshd.Terminal

/-!
# The wire format of SSH messages

A message is a tag and a list of fields of known kinds.  `unmarshal` reads the fields
one after the other; it works on slices, so it can fail with an error and also with
a panic.  The main results say which packets it accepts, and on which it panics.
-/

namespace DockerBastion.Ssh

open Foundation Sshd

inductive SshError where
  | parseError (tag : UInt8)
  | unexpectedMessage (expected got : UInt8)
  | fieldError (field : Nat)
  | shortRead
  | eof
  | other (message : Bytes)
  deriving DecidableEq, Repr

inductive Fault where
  | panic (p : Panic)
  | error (err : SshError)
  deriving DecidableEq, Repr

abbrev Outcome := Except Fault

def orPanic {α : Type*} : Except Panic α → Outcome α
  | .ok a => .ok a
  | .error p => .error (.panic p)

def slice (b : Bytes) (i j : Nat) : Except Panic Bytes :=
  if i ≤ j ∧ j ≤ b.length then .ok ((b.take j).drop i) else .error .sliceOutOfRange

/-! ## Parsing -/

/-- `none` stands for a result that is not ok. -/
def parseString (b : Bytes) : Except Panic (Option (Bytes × Bytes)) :=
  if b.length < 4 then .ok none
  else do
    let length ← bigEndianUint32 b
    -- the sum is computed in 32 bits
    if UInt32.ofNat b.length < 4 + length then return none
    let out ← slice b 4 (4 + length).toNat
    let rest ← sliceFrom b (4 + length).toNat
    return some (out, rest)

def parseUint32 (b : Bytes) : Except Panic (Option (UInt32 × Bytes)) :=
  if b.length < 4 then .ok none
  else do
    let n ← bigEndianUint32 b
    let rest ← sliceFrom b 4
    return some (n, rest)

def comma : UInt8 := 44

def nameList (contents : Bytes) : List Bytes :=
  if contents = [] then [] else contents.splitOn comma

/-! ## Fields -/

/-- The types of fields; `rest` is a `[]byte` that takes what is left of the packet. -/
inductive Kind where
  | bool
  | array (n : Nat)
  | uint32
  | string
  | bytes
  | rest
  | nameList
  | bigInt
  deriving DecidableEq, Repr

abbrev Kind.Value : Kind → Type
  | .bool => Bool
  | .array n => { b : Bytes // b.length = n }
  | .uint32 => UInt32
  | .string => Bytes
  | .bytes => Bytes
  | .rest => Bytes
  | .nameList => List Bytes
  | .bigInt => Int

def framed {α : Type} (failure : SshError) (f : Bytes → α) (b : Bytes) :
    Outcome (α × Bytes) := do
  match ← orPanic (parseString b) with
  | none => .error (.error failure)
  | some (out, rest) => return (f out, rest)

/-- The body of the loop of `Unmarshal` for the field number `i`. -/
def readField (i : Nat) : (k : Kind) → Bytes → Outcome (k.Value × Bytes)
  | .bool, b =>
      match b with
      | [] => .error (.error .shortRead)
      | x :: rest => .ok (x != 0, rest)
  | .array n, b =>
      if h : (b.take n).length = n then .ok (⟨b.take n, h⟩, b.drop n)
      else .error (.error .shortRead)
  | .uint32, b => do
      match ← orPanic (parseUint32 b) with
      | none => .error (.error .shortRead)
      | some (n, rest) => return (n, rest)
  | .string, b => framed (.fieldError i) (fun out => out) b
  | .bytes, b => framed .shortRead (fun out => out) b
  | .rest, b => .ok (b, [])
  | .nameList, b => framed .shortRead Ssh.nameList b
  | .bigInt, b => framed .shortRead ofTwosComplement b

abbrev Record : List Kind → Type
  | [] => Unit
  | k :: ks => k.Value × Record ks

def readFields : Nat → (ks : List Kind) → Bytes → Outcome (Record ks × Bytes)
  | _, [], b => .ok ((), b)
  | i, k :: ks, b => do
      let (v, b) ← readField i k b
      let (r, b) ← readFields (i + 1) ks b
      return ((v, r), b)

def restLast : List Kind → Bool
  | [] => true
  | k :: ks => (k ≠ .rest || ks.isEmpty) && restLast ks

/-- What reflection sees of the type of a message that has a tag. -/
structure Schema where
  tag : UInt8
  kinds : List Kind
  tag_ne_zero : tag ≠ 0 := by decide
  restLast : Ssh.restLast kinds = true := by decide

def unmarshal (s : Schema) (packet : Bytes) : Outcome (Record s.kinds) :=
  match packet with
  | [] => .error (.error (.parseError s.tag))
  | tag :: data =>
      if tag ≠ s.tag then .error (.error (.unexpectedMessage s.tag tag))
      else do
        let (r, rest) ← readFields 0 s.kinds data
        if rest.length ≠ 0 then .error (.error (.parseError s.tag)) else return r

/-! ## Writing -/

def appendU32 (n : UInt32) : Bytes := bigEndian 4 n.toNat

/-- The length is cut to 32 bits. -/
def appendString (s : Bytes) : Bytes := appendU32 (UInt32.ofNat s.length) ++ s

def writeField : (k : Kind) → k.Value → Bytes
  | .bool, v => [bif v then 1 else 0]
  | .array _, v => v.val
  | .uint32, v => appendU32 v
  | .string, v => appendString v
  | .bytes, v => appendString v
  | .rest, v => v
  | .nameList, v => appendString ([comma].intercalate v)
  | .bigInt, v => appendString (twosComplement v)

def writeFields : (ks : List Kind) → Record ks → Bytes
  | [], _ => []
  | k :: ks, (v, r) => writeField k v ++ writeFields ks r

def marshal (s : Schema) (r : Record s.kinds) : Bytes := s.tag :: writeFields s.kinds r

/-! ## The messages -/

def disconnectMsg : Schema := { tag := 1, kinds := [.uint32, .string, .string] }

def serviceRequestMsg : Schema := { tag := 5, kinds := [.string] }

def serviceAcceptMsg : Schema := { tag := 6, kinds := [.string] }

def kexInitMsg : Schema :=
  { tag := 20
    kinds := [.array 16, .nameList, .nameList, .nameList, .nameList, .nameList, .nameList,
      .nameList, .nameList, .nameList, .nameList, .bool, .uint32] }

def kexDHInitMsg : Schema := { tag := 30, kinds := [.bigInt] }

def kexDHReplyMsg : Schema := { tag := 31, kinds := [.bytes, .bigInt, .bytes] }

def userAuthRequestMsg : Schema := { tag := 50, kinds := [.string, .string, .string, .rest] }

def userAuthFailureMsg : Schema := { tag := 51, kinds := [.nameList, .bool] }

def userAuthPubKeyOkMsg : Schema := { tag := 60, kinds := [.string, .bytes] }

def globalRequestMsg : Schema := { tag := 80, kinds := [.string, .bool, .rest] }

def globalRequestSuccessMsg : Schema := { tag := 81, kinds := [.rest] }

def globalRequestFailureMsg : Schema := { tag := 82, kinds := [.rest] }

def channelOpenMsg : Schema :=
  { tag := 90, kinds := [.string, .uint32, .uint32, .uint32, .rest] }

def channelOpenConfirmMsg : Schema :=
  { tag := 91, kinds := [.uint32, .uint32, .uint32, .uint32, .rest] }

def channelOpenFailureMsg : Schema :=
  { tag := 92, kinds := [.uint32, .uint32, .string, .string] }

def windowAdjustMsg : Schema := { tag := 93, kinds := [.uint32, .uint32] }

def channelEOFMsg : Schema := { tag := 96, kinds := [.uint32] }

def channelCloseMsg : Schema := { tag := 97, kinds := [.uint32] }

def channelRequestMsg : Schema := { tag := 98, kinds := [.uint32, .string, .bool, .rest] }

def channelRequestSuccessMsg : Schema := { tag := 99, kinds := [.uint32] }

def channelRequestFailureMsg : Schema := { tag := 100, kinds := [.uint32] }

def msgNewKeys : UInt8 := 21

/-- The messages that `decode` knows. -/
def messages : List Schema :=
  [disconnectMsg, serviceRequestMsg, serviceAcceptMsg, kexInitMsg, kexDHInitMsg, kexDHReplyMsg,
   userAuthRequestMsg, userAuthFailureMsg, userAuthPubKeyOkMsg, globalRequestMsg,
   globalRequestSuccessMsg, globalRequestFailureMsg, channelOpenMsg, channelOpenConfirmMsg,
   channelOpenFailureMsg, windowAdjustMsg, channelEOFMsg, channelCloseMsg, channelRequestMsg,
   channelRequestSuccessMsg, channelRequestFailureMsg]

/-! ## The grammar -/

def EncodesString (s b : Bytes) : Prop := s.length < 2 ^ 32 ∧ b = appendString s

/-- The bytes `b` are the value `v`; any byte but zero is a true boolean. -/
def Encodes : (k : Kind) → k.Value → Bytes → Prop
  | .bool, v, b => ∃ x : UInt8, b = [x] ∧ v = (x != 0)
  | .array _, v, b => b = v.val
  | .uint32, v, b => b = appendU32 v
  | .string, v, b => EncodesString v b
  | .bytes, v, b => EncodesString v b
  | .rest, v, b => b = v
  | .nameList, v, b => ∃ contents, EncodesString contents b ∧ v = Ssh.nameList contents
  | .bigInt, v, b => ∃ contents, EncodesString contents b ∧ v = ofTwosComplement contents

def EncodesFields : (ks : List Kind) → Record ks → Bytes → Prop
  | [], _, b => b = []
  | k :: ks, (v, r), b =>
      ∃ first others, b = first ++ others ∧ Encodes k v first ∧ EncodesFields ks r others

/-! ## Integers and strings -/

@[simp] theorem length_appendU32 (n : UInt32) : (appendU32 n).length = 4 :=
  length_bigEndian _ _

theorem ofBigEndian_appendU32 (n : UInt32) : ofBigEndian (appendU32 n) = n.toNat :=
  ofBigEndian_bigEndian (by have := n.toNat_lt; omega)

@[simp] theorem length_appendString (s : Bytes) :
    (appendString s).length = s.length + 4 := by
  simp [appendString, Nat.add_comm]

/-- The number that the first four bytes write. -/
def declared (b : Bytes) : Nat := ofBigEndian (b.take 4)

theorem declared_lt (b : Bytes) : declared b < 2 ^ 32 := by
  have hlength : (b.take 4).length ≤ 4 := List.length_take_le 4 b
  calc declared b < 256 ^ (b.take 4).length := ofBigEndian_lt _
    _ ≤ 256 ^ 4 := Nat.pow_le_pow_right (by omega) hlength
    _ = 2 ^ 32 := by norm_num

theorem declared_appendU32 (n : UInt32) (rest : Bytes) :
    declared (appendU32 n ++ rest) = n.toNat := by
  rw [declared, List.take_left' (length_appendU32 n), ofBigEndian_appendU32]

theorem declared_appendString {s : Bytes} (h : s.length < 2 ^ 32) (rest : Bytes) :
    declared (appendString s ++ rest) = s.length := by
  rw [appendString, List.append_assoc, declared_appendU32, UInt32.toNat_ofNat',
    Nat.mod_eq_of_lt h]

theorem appendU32_declared {b : Bytes} (h : 4 ≤ b.length) :
    appendU32 (UInt32.ofNat (declared b)) = b.take 4 := by
  have hlength : (b.take 4).length = 4 := List.length_take_of_le h
  rw [appendU32, UInt32.toNat_ofNat', Nat.mod_eq_of_lt (declared_lt b), declared]
  have hinv := bigEndian_ofBigEndian (b.take 4)
  rwa [hlength] at hinv

theorem bigEndianUint32_of_length {b : Bytes} (h : 4 ≤ b.length) :
    bigEndianUint32 b = .ok (UInt32.ofNat (declared b)) := by
  match b, h with
  | b0 :: b1 :: b2 :: b3 :: rest, _ =>
      obtain ⟨w, hw, hvalue⟩ := bigEndianUint32_eq b0 b1 b2 b3 rest
      have hdeclared : declared (b0 :: b1 :: b2 :: b3 :: rest) = w.toNat := by
        simp only [declared, List.take_succ_cons, List.take_zero, ofBigEndian_cons,
          ofBigEndian_nil, List.length_cons, List.length_nil]
        omega
      rw [hw, hdeclared, UInt32.ofNat_toNat]

theorem parseUint32_of_length {b : Bytes} (h : 4 ≤ b.length) :
    parseUint32 b = .ok (some (UInt32.ofNat (declared b), b.drop 4)) := by
  have hnot : ¬ b.length < 4 := by omega
  simp [parseUint32, hnot, bigEndianUint32_of_length h, sliceFrom, h, bind, Except.bind, pure,
    Except.pure]

theorem parseUint32_eq_some_iff {b rest : Bytes} {n : UInt32} :
    parseUint32 b = .ok (some (n, rest)) ↔ b = appendU32 n ++ rest := by
  constructor
  · intro h
    by_cases hshort : b.length < 4
    · rw [parseUint32, if_pos hshort] at h
      cases h
    · have hlong : 4 ≤ b.length := by omega
      rw [parseUint32_of_length hlong] at h
      cases h
      rw [appendU32_declared hlong, List.take_append_drop]
  · rintro rfl
    have hlong : 4 ≤ (appendU32 n ++ rest).length := by simp
    rw [parseUint32_of_length hlong, declared_appendU32, UInt32.ofNat_toNat,
      List.drop_left' (length_appendU32 n)]

/--
Four bytes of length are read, and 4 added to them in 32 bits: from `2 ^ 32 - 4` on the
sum is below 4, passes for a length of the packet, and ends the slice before its start.
-/
theorem parseString_of_length {b : Bytes} (hb : b.length < 2 ^ 32) (h : 4 ≤ b.length) :
    parseString b =
      if 2 ^ 32 ≤ declared b + 4 then .error .sliceOutOfRange
      else if b.length < declared b + 4 then .ok none
      else .ok (some ((b.drop 4).take (declared b), b.drop (declared b + 4))) := by
  have hnot : ¬ b.length < 4 := by omega
  have hlt := declared_lt b
  have hfour : (4 : UInt32).toNat = 4 := rfl
  have hsum : (4 + UInt32.ofNat (declared b)).toNat = (4 + declared b) % 2 ^ 32 := by
    rw [UInt32.toNat_add, UInt32.toNat_ofNat', hfour, Nat.mod_eq_of_lt hlt]
  have hlength : (UInt32.ofNat b.length).toNat = b.length := by
    rw [UInt32.toNat_ofNat', Nat.mod_eq_of_lt hb]
  simp only [parseString, if_neg hnot, bigEndianUint32_of_length h, bind, Except.bind,
    UInt32.lt_iff_toNat_lt, hsum, hlength]
  by_cases hwrap : 2 ^ 32 ≤ declared b + 4
  · have hsmall : (4 + declared b) % 2 ^ 32 < 4 := by omega
    have hpass : ¬ b.length < (4 + declared b) % 2 ^ 32 := by omega
    have hslice : ¬ (4 ≤ (4 + declared b) % 2 ^ 32 ∧ (4 + declared b) % 2 ^ 32 ≤ b.length) := by
      omega
    simp only [if_pos hwrap, if_neg hpass, slice, if_neg hslice]
  · have hexact : (4 + declared b) % 2 ^ 32 = declared b + 4 := by omega
    simp only [if_neg hwrap, hexact]
    by_cases hlong : b.length < declared b + 4
    · simp only [if_pos hlong]
      rfl
    · have hslice : 4 ≤ declared b + 4 ∧ declared b + 4 ≤ b.length := by omega
      have htake : (b.take (declared b + 4)).drop 4 = (b.drop 4).take (declared b) := by
        rw [List.drop_take, Nat.add_sub_cancel]
      simp only [if_neg hlong, slice, if_pos hslice, sliceFrom, if_pos hslice.2, htake]
      rfl

theorem parseString_of_short {b : Bytes} (h : b.length < 4) : parseString b = .ok none := by
  rw [parseString, if_pos h]

theorem parseString_eq_some_iff {b out rest : Bytes} (hb : b.length < 2 ^ 32) :
    parseString b = .ok (some (out, rest)) ↔
      ∃ first, EncodesString out first ∧ b = first ++ rest := by
  constructor
  · intro h
    rcases Nat.lt_or_ge b.length 4 with hshort | hlong
    · rw [parseString_of_short hshort] at h
      cases h
    rw [parseString_of_length hb hlong] at h
    split at h
    · cases h
    split at h
    · cases h
    rename_i hwrap hfits
    cases h
    have htake : ((b.drop 4).take (declared b)).length = declared b := by
      rw [List.length_take, List.length_drop]
      omega
    refine ⟨_, ⟨by rw [htake]; exact declared_lt b, rfl⟩, ?_⟩
    rw [appendString, htake, appendU32_declared hlong, List.append_assoc, Nat.add_comm,
      ← List.drop_drop, List.take_append_drop, List.take_append_drop]
  · rintro ⟨first, ⟨hout, rfl⟩, rfl⟩
    have hdeclared := declared_appendString hout rest
    have hlength : (appendString out ++ rest).length = out.length + 4 + rest.length := by
      rw [List.length_append, length_appendString]
    rw [parseString_of_length hb (by omega), hdeclared, if_neg (by omega), if_neg (by omega),
      List.drop_left' (length_appendString out), appendString, List.append_assoc,
      List.drop_left' (length_appendU32 _), List.take_left]

/-- The bytes begin with the length of a string on which `parseString` panics. -/
def Overflows (b : Bytes) : Prop := 4 ≤ b.length ∧ 2 ^ 32 - 4 ≤ declared b

theorem parseString_eq_error_iff {b : Bytes} {p : Panic} (hb : b.length < 2 ^ 32) :
    parseString b = .error p ↔ p = .sliceOutOfRange ∧ Overflows b := by
  rcases Nat.lt_or_ge b.length 4 with hshort | hlong
  · rw [parseString_of_short hshort]
    refine iff_of_false (by simp) ?_
    rintro ⟨-, hlong, -⟩
    omega
  · rw [parseString_of_length hb hlong]
    by_cases hwrap : 2 ^ 32 ≤ declared b + 4
    · have hover : Overflows b := ⟨hlong, by omega⟩
      rw [if_pos hwrap]
      simp [hover, eq_comm]
    · have hnot : ¬ Overflows b := by
        rintro ⟨-, hover⟩
        omega
      simp only [if_neg hwrap, hnot, and_false, iff_false]
      split <;> simp

end DockerBastion.Ssh
