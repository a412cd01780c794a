import Mathlib.Data.List.Nodup
import Mathlib.Data.Nat.ModEq
import Mathlib.Dynamics.PeriodicPts.Defs

/-!
# Counters

A step counts modulo `m` if it adds one to a number that tells the states apart.  From
every state it runs through `m` different ones before it returns.
-/

namespace DockerBastion.Foundation

open Function

variable {α : Type*} {f : α → α} {S : Set α} {value : α → Nat} {m n k : Nat} {x : α}

structure Counts (f : α → α) (S : Set α) (value : α → Nat) (m : Nat) : Prop where
  mapsTo : Set.MapsTo f S S
  value_lt : ∀ x ∈ S, value x < m
  value_step : ∀ x ∈ S, value (f x) = (value x + 1) % m
  injOn : Set.InjOn value S

namespace Counts

theorem iterate_mem (h : Counts f S value m) (hx : x ∈ S) (n : Nat) : f^[n] x ∈ S :=
  h.mapsTo.iterate n hx

theorem value_iterate (h : Counts f S value m) (hx : x ∈ S) (n : Nat) :
    value (f^[n] x) = (value x + n) % m := by
  induction n with
  | zero => exact (Nat.mod_eq_of_lt (h.value_lt x hx)).symm
  | succ n ih =>
      rw [iterate_succ_apply', h.value_step _ (h.iterate_mem hx n), ih, Nat.mod_add_mod,
        Nat.add_assoc]

theorem isPeriodicPt_iff (h : Counts f S value m) (hx : x ∈ S) :
    IsPeriodicPt f n x ↔ m ∣ n := by
  have hvalue : IsPeriodicPt f n x ↔ (value x + n) % m = value x % m := by
    rw [← h.value_iterate hx, Nat.mod_eq_of_lt (h.value_lt x hx)]
    exact (h.injOn.eq_iff (h.iterate_mem hx n) hx).symm
  rw [hvalue]
  constructor
  · intro hmod
    have hzero : n ≡ 0 [MOD m] := Nat.ModEq.add_left_cancel' (value x) hmod
    exact (Nat.modEq_zero_iff_dvd).mp hzero
  · rintro ⟨q, rfl⟩
    exact Nat.add_mul_mod_self_left _ _ _

theorem minimalPeriod_eq (h : Counts f S value m) (hx : x ∈ S) : minimalPeriod f x = m := by
  refine Nat.dvd_antisymm ?_ ?_
  · exact ((h.isPeriodicPt_iff hx).mpr (Nat.dvd_refl m)).minimalPeriod_dvd
  · exact (h.isPeriodicPt_iff hx).mp (isPeriodicPt_minimalPeriod f x)

/-- The first `n` states are different exactly if there are no more than `m`. -/
theorem nodup_iff (h : Counts f S value m) (hx : x ∈ S) :
    ((List.range n).map fun i => f^[i] x).Nodup ↔ n ≤ m := by
  have hperiod := h.minimalPeriod_eq hx
  have hpos : 0 < m := Nat.zero_lt_of_lt (h.value_lt x hx)
  constructor
  · intro hnodup
    by_contra hlarge
    have hinj := List.inj_on_of_nodup_map hnodup
    have hzero : 0 = m := by
      refine hinj (List.mem_range.mpr (by omega)) (List.mem_range.mpr (by omega)) ?_
      exact ((h.isPeriodicPt_iff hx).mpr (Nat.dvd_refl m)).symm
    omega
  · intro hle
    refine List.Nodup.map_on ?_ List.nodup_range
    intro i hi j hj hsame
    have hi := List.mem_range.mp hi
    have hj := List.mem_range.mp hj
    exact (iterate_eq_iterate_iff_of_lt_minimalPeriod (by omega) (by omega)).mp hsame

end Counts

end DockerBastion.Foundation
