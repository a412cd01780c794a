import DockerBastion.Foundation.Counter
import DockerBastion.Ssh.Transport

/-!
# The nonces of AES-GCM

The last eight bytes of a nonce are a counter.  Between two changes of the keys no nonce
is used twice, unless there are more packets than the counter has values.
-/

namespace DockerBastion.Ssh

open Foundation Sshd

section Counter

theorem toNat_add_one {x : UInt8} (h : x + 1 ≠ 0) : (x + 1).toNat = x.toNat + 1 := by
  have hne : (x + 1).toNat ≠ 0 := fun hzero => h (UInt8.toNat_inj.mp hzero)
  have hlt := x.toNat_lt
  rw [UInt8.toNat_add, UInt8.toNat_one] at hne ⊢
  omega

theorem toNat_of_add_one {x : UInt8} (h : x + 1 = 0) : x.toNat = 255 := by
  have hzero : (x + 1).toNat = 0 := by
    rw [h]
    rfl
  have hlt := x.toNat_lt
  rw [UInt8.toNat_add, UInt8.toNat_one] at hzero
  omega

@[simp] theorem length_incBytes (b : Bytes) : (PacketCipher.incBytes b).length = b.length := by
  induction b with
  | nil => rfl
  | cons x b ih =>
      rw [PacketCipher.incBytes]
      split
      · rfl
      · rw [List.length_cons, List.length_cons, ih]

/-- The bytes are counted from the last one, with a carry. -/
theorem ofBigEndian_incBytes (b : Bytes) :
    ofBigEndian (PacketCipher.incBytes b).reverse =
      (ofBigEndian b.reverse + 1) % 256 ^ b.length := by
  induction b with
  | nil => rfl
  | cons x b ih =>
      have hlt := ofBigEndian_lt b.reverse
      rw [List.length_reverse] at hlt
      rw [PacketCipher.incBytes, List.reverse_cons, ofBigEndian_append_singleton,
        List.length_cons, Nat.pow_succ']
      split
      · rename_i hcarry
        have hnext := toNat_add_one hcarry
        have hbyte := (x + 1).toNat_lt
        rw [List.reverse_cons, ofBigEndian_append_singleton, hnext, Nat.mod_eq_of_lt (by omega)]
        omega
      · rename_i hcarry
        have hbyte := toNat_of_add_one (not_not.mp hcarry)
        have hsum : 256 * ofBigEndian b.reverse + x.toNat + 1 =
            256 * (ofBigEndian b.reverse + 1) := by omega
        rw [List.reverse_cons, ofBigEndian_append_singleton, ih, hsum, Nat.mul_mod_mul_left]
        rfl

/-- Nonces of the right length that begin with the same four bytes. -/
def noncesWith (fixed : Bytes) : Set Bytes := { iv | iv.length = 12 ∧ iv.take 4 = fixed }

theorem incIV_of_length {iv : Bytes} (h : iv.length = 12) :
    PacketCipher.incIV iv =
      iv.take 4 ++ (PacketCipher.incBytes (iv.drop 4).reverse).reverse := by
  have htake : (iv.drop 4).take 8 = iv.drop 4 :=
    List.take_of_length_le (by rw [List.length_drop, h])
  have hdrop : iv.drop 12 = [] := List.drop_of_length_le (by omega)
  rw [PacketCipher.incIV, htake, hdrop, List.append_nil]

theorem ofBigEndian_injOn {a b : Bytes} (hlength : a.length = b.length)
    (h : ofBigEndian a = ofBigEndian b) : a = b := by
  rw [← bigEndian_ofBigEndian a, h, hlength, bigEndian_ofBigEndian]

/-- `incIV` counts modulo 2⁶⁴. -/
theorem counts_incIV (fixed : Bytes) :
    Counts PacketCipher.incIV (noncesWith fixed) (fun iv => ofBigEndian (iv.drop 4))
      (2 ^ 64) where
  mapsTo := by
    rintro iv ⟨hlength, hfixed⟩
    rw [incIV_of_length hlength]
    have hfour : (iv.take 4).length = 4 := by simp [hlength]
    refine ⟨?_, ?_⟩
    · simp [hlength]
    · rw [List.take_left' hfour, hfixed]
  value_lt := by
    rintro iv ⟨hlength, -⟩
    have hlt := ofBigEndian_lt (iv.drop 4)
    rw [List.length_drop, hlength] at hlt
    exact hlt
  value_step := by
    rintro iv ⟨hlength, -⟩
    have hfour : (iv.take 4).length = 4 := by simp [hlength]
    have height : (iv.drop 4).reverse.length = 8 := by simp [hlength]
    rw [incIV_of_length hlength, List.drop_left' hfour, ofBigEndian_incBytes,
      List.reverse_reverse, height]
    rfl
  injOn := by
    rintro iv ⟨hlength, hfixed⟩ iv' ⟨hlength', hfixed'⟩ hsame
    have hcounter : iv.drop 4 = iv'.drop 4 :=
      ofBigEndian_injOn (by rw [List.length_drop, List.length_drop, hlength, hlength']) hsame
    rw [← List.take_append_drop 4 iv, hfixed, hcounter, ← hfixed', List.take_append_drop]

end Counter

/-! ## The nonces of a run -/

def nonceOf : PacketCipher → Option Bytes
  | .stream _ _ _ => none
  | .gcm _ iv => some iv

/-- The nonces under which packets are written. -/
def nonces : ConnectionState → List WriteStep → List Bytes
  | _, [] => []
  | s, .prepare c :: steps =>
      match s.prepare c with
      | none => []
      | some s => nonces s steps
  | s, .packet p rand :: steps =>
      match s.writePacket rand p none with
      | .error _ => []
      | .ok (_, s') => (nonceOf s.packetCipher).toList ++ nonces s' steps

section Run

variable {s s' : ConnectionState} {steps : List WriteStep} {out iv : Bytes} {aead : Aead}

theorem nonces_eq (h : writeAll s steps = some (out, s')) (hcipher : s.packetCipher = .gcm aead iv)
    (hkeys : ∀ p ∈ packetsOf steps, p.head? ≠ some msgNewKeys) :
    nonces s steps =
      (List.range (packetsOf steps).length).map fun i => PacketCipher.incIV^[i] iv := by
  induction steps generalizing s s' iv out with
  | nil => rfl
  | cons step steps ih =>
      cases step with
      | prepare c =>
          unfold writeAll at h
          cases hprepare : s.prepare c with
          | none =>
              rw [hprepare] at h
              cases h
          | some s₁ =>
              rw [hprepare] at h
              rw [nonces, hprepare]
              obtain ⟨-, rfl⟩ := prepare_eq_some_iff.mp hprepare
              exact ih h hcipher hkeys
      | packet p rand =>
          unfold writeAll at h
          split at h
          · cases h
          rename_i first s₁ hwrite
          split at h
          · cases h
          rename_i others s₂ hothers
          obtain ⟨c, hwritten, hfollows⟩ := writePacket_eq_ok hwrite
          rcases hfollows with ⟨-, hnext⟩ | ⟨_, htag, -⟩
          · rw [hcipher] at hwritten
            obtain ⟨-, hafter⟩ := PacketCipher.writePacket_eq_ok hwritten
            have hlater : ∀ p ∈ packetsOf steps, p.head? ≠ some msgNewKeys :=
              fun q hq => hkeys q (List.mem_cons_of_mem p hq)
            have hcipher₁ : s₁.packetCipher = .gcm aead (PacketCipher.incIV iv) := by
              rw [hnext, hafter]
              rfl
            rw [nonces, hwrite, hcipher, packetsOf, List.length_cons, List.range_succ_eq_map,
              List.map_cons, List.map_map]
            dsimp only
            rw [ih hothers hcipher₁ hlater]
            rfl
          · exact absurd htag (hkeys p List.mem_cons_self)

/--
With one key no nonce is used twice, whatever is written, if and only if there are no
more packets than the counter has values.
-/
theorem nonces_nodup_iff (h : writeAll s steps = some (out, s'))
    (hcipher : s.packetCipher = .gcm aead iv) (hlength : iv.length = 12)
    (hkeys : ∀ p ∈ packetsOf steps, p.head? ≠ some msgNewKeys) :
    (nonces s steps).Nodup ↔ (packetsOf steps).length ≤ 2 ^ 64 := by
  rw [nonces_eq h hcipher hkeys]
  exact (counts_incIV (iv.take 4)).nodup_iff ⟨hlength, rfl⟩

def beforeCarry : ConnectionState :=
  ⟨.gcm zeroTagged [1, 2, 3, 4, 0, 0, 0, 0, 0, 7, 255, 255], 0, none⟩

def threePackets : List WriteStep :=
  [.packet [94] fun _ => 0, .packet [93, 1] fun _ => 0, .packet [94, 2, 3] fun _ => 0]

theorem nonces_threePackets :
    nonces beforeCarry threePackets =
      [[1, 2, 3, 4, 0, 0, 0, 0, 0, 7, 255, 255], [1, 2, 3, 4, 0, 0, 0, 0, 0, 8, 0, 0],
       [1, 2, 3, 4, 0, 0, 0, 0, 0, 8, 0, 1]] ∧
    (nonces beforeCarry threePackets).Nodup :=
  ⟨by decide, (nonces_nodup_iff rfl rfl rfl (by decide)).mpr (by decide)⟩

end Run

end DockerBastion.Ssh
