import DockerBastion.Foundation.Bytes
import Mathlib.Data.List.Induction
import Mathlib.Data.Nat.Size
import Mathlib.Tactic.Ring

/-!
# Big-endian integers

Naturals of a fixed number of bytes, and integers of any size in two's complement
with as few bytes as their sign allows.
-/

namespace DockerBastion.Foundation

/-- The number that the bytes write in base 256, the first byte being the highest. -/
def ofBigEndian (b : Bytes) : Nat := b.foldl (fun n x => 256 * n + x.toNat) 0

/-- The lowest `k` bytes of a number. -/
def bigEndian : Nat → Nat → Bytes
  | 0, _ => []
  | k + 1, n => bigEndian k (n / 256) ++ [UInt8.ofNat n]

@[simp] theorem length_bigEndian (k n : Nat) : (bigEndian k n).length = k := by
  induction k generalizing n with
  | zero => rfl
  | succ k ih => simp [bigEndian, ih]

@[simp] theorem ofBigEndian_nil : ofBigEndian [] = 0 := rfl

theorem ofBigEndian_append_singleton (b : Bytes) (x : UInt8) :
    ofBigEndian (b ++ [x]) = 256 * ofBigEndian b + x.toNat := by
  simp [ofBigEndian]

theorem ofBigEndian_cons (x : UInt8) (b : Bytes) :
    ofBigEndian (x :: b) = x.toNat * 256 ^ b.length + ofBigEndian b := by
  induction b using List.reverseRecOn with
  | nil => simp [ofBigEndian]
  | append_singleton b y ih =>
      rw [← List.cons_append, ofBigEndian_append_singleton, ofBigEndian_append_singleton, ih,
        List.length_append, List.length_singleton, pow_succ]
      ring

theorem ofBigEndian_lt (b : Bytes) : ofBigEndian b < 256 ^ b.length := by
  induction b using List.reverseRecOn with
  | nil => simp
  | append_singleton b x ih =>
      have hx := x.toNat_lt
      rw [ofBigEndian_append_singleton, List.length_append, List.length_singleton, pow_succ]
      omega

theorem ofBigEndian_bigEndian {k n : Nat} (h : n < 256 ^ k) :
    ofBigEndian (bigEndian k n) = n := by
  induction k generalizing n with
  | zero =>
      rw [pow_zero] at h
      simp only [bigEndian, ofBigEndian_nil]
      omega
  | succ k ih =>
      have hdiv : n / 256 < 256 ^ k := by
        rw [pow_succ] at h
        omega
      rw [bigEndian, ofBigEndian_append_singleton, ih hdiv, UInt8.toNat_ofNat']
      omega

theorem bigEndian_ofBigEndian (b : Bytes) : bigEndian b.length (ofBigEndian b) = b := by
  induction b using List.reverseRecOn with
  | nil => rfl
  | append_singleton b x ih =>
      have hx := x.toNat_lt
      have hdiv : (256 * ofBigEndian b + x.toNat) / 256 = ofBigEndian b := by omega
      have hbyte : UInt8.ofNat (256 * ofBigEndian b + x.toNat) = x := by
        rw [← UInt8.toNat_inj, UInt8.toNat_ofNat']
        omega
      rw [ofBigEndian_append_singleton, List.length_append, List.length_singleton, bigEndian,
        hdiv, hbyte, ih]

/-! ## As few bytes as possible -/

def byteLength (n : Nat) : Nat := (n.size + 7) / 8

/-- `(*big.Int).Bytes`. -/
def naturalBytes (n : Nat) : Bytes := bigEndian (byteLength n) n

theorem lt_pow_byteLength (n : Nat) : n < 256 ^ byteLength n := by
  have hsize : n < 2 ^ n.size := Nat.lt_size_self n
  have hle : n.size ≤ 8 * byteLength n := by
    unfold byteLength
    omega
  calc n < 2 ^ n.size := hsize
    _ ≤ 2 ^ (8 * byteLength n) := Nat.pow_le_pow_right (by omega) hle
    _ = 256 ^ byteLength n := by rw [pow_mul]; norm_num

theorem ofBigEndian_naturalBytes (n : Nat) : ofBigEndian (naturalBytes n) = n :=
  ofBigEndian_bigEndian (lt_pow_byteLength n)

/-- The highest bit of the first byte. -/
def signBit (b : Bytes) : Bool :=
  match b with
  | [] => false
  | x :: _ => 128 ≤ x.toNat

/-! ## Two's complement -/

def complement (b : Bytes) : Bytes := b.map fun x => ~~~x

@[simp] theorem complement_complement (b : Bytes) : complement (complement b) = b := by
  rw [complement, complement, List.map_map]
  exact List.map_id'' (fun x => UInt8.not_not) b

def ofTwosComplement (b : Bytes) : Int :=
  if signBit b then -((ofBigEndian (complement b) : Int) + 1) else ofBigEndian b

def nonnegativeBytes (n : Nat) : Bytes :=
  if signBit (naturalBytes n) then 0 :: naturalBytes n else naturalBytes n

/-- The bytes of `-n - 1`. -/
def negativeBytes (n : Nat) : Bytes :=
  if signBit (complement (naturalBytes n)) then complement (naturalBytes n)
  else 0xff :: complement (naturalBytes n)

/-- A number whose bytes would show the other sign has one byte in front of them. -/
def twosComplement : Int → Bytes
  | .ofNat n => nonnegativeBytes n
  | .negSucc n => negativeBytes n

theorem ofTwosComplement_nonnegativeBytes (n : Nat) :
    ofTwosComplement (nonnegativeBytes n) = n := by
  unfold nonnegativeBytes
  split
  · have hsign : signBit (0 :: naturalBytes n) = false := rfl
    rw [ofTwosComplement, if_neg (by simp [hsign]), ofBigEndian_cons, ofBigEndian_naturalBytes,
      UInt8.toNat_zero, Nat.zero_mul, Nat.zero_add]
  · rename_i hsign
    rw [ofTwosComplement, if_neg hsign, ofBigEndian_naturalBytes]

theorem ofTwosComplement_negativeBytes (n : Nat) :
    ofTwosComplement (negativeBytes n) = .negSucc n := by
  rw [Int.negSucc_eq]
  unfold negativeBytes
  split
  · rename_i hsign
    rw [ofTwosComplement, if_pos hsign, complement_complement, ofBigEndian_naturalBytes]
  · have hsign : signBit (0xff :: complement (naturalBytes n)) = true := rfl
    have hzero : complement (0xff :: complement (naturalBytes n)) = 0 :: naturalBytes n := by
      rw [complement, List.map_cons, ← complement, complement_complement]
      rfl
    rw [ofTwosComplement, if_pos hsign, hzero, ofBigEndian_cons, ofBigEndian_naturalBytes,
      UInt8.toNat_zero, Nat.zero_mul, Nat.zero_add]

theorem ofTwosComplement_twosComplement (n : Int) : ofTwosComplement (twosComplement n) = n := by
  cases n with
  | ofNat n => exact ofTwosComplement_nonnegativeBytes n
  | negSucc n => exact ofTwosComplement_negativeBytes n

example : twosComplement (-129) = [0xff, 0x7f] := by decide

end DockerBastion.Foundation
