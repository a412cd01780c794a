import Mathlib.Data.List.Basic

/-!
# Left joins

Every row of the left list with each row of the right list that belongs to it, or
alone if there is none, in the order of the left list and then of the right one.
-/

namespace DockerBastion.Foundation

variable {α β γ : Type*} (left : List α) (right : List β) (on : α → β → Bool)

def joined (a : α) : List (α × Option β) :=
  match right.filter (on a) with
  | [] => [(a, none)]
  | b :: rest => (b :: rest).map fun b => (a, some b)

def leftJoin : List (α × Option β) := left.flatMap (joined right on)

variable {left right on}

theorem mem_joined {a : α} {row : α × Option β} (h : row ∈ joined right on a) :
    row.1 = a ∧ ∀ b ∈ row.2, b ∈ right ∧ on a b = true := by
  unfold joined at h
  split at h
  · obtain rfl := List.mem_singleton.mp h
    exact ⟨rfl, nofun⟩
  · rename_i b rest hfilter
    rw [← hfilter] at h
    obtain ⟨b', hb', rfl⟩ := List.mem_map.mp h
    refine ⟨rfl, ?_⟩
    rintro _ ⟨⟩
    exact List.mem_filter.mp hb'

theorem mem_leftJoin {row : α × Option β} (h : row ∈ leftJoin left right on) :
    row.1 ∈ left ∧ ∀ b ∈ row.2, b ∈ right ∧ on row.1 b = true := by
  obtain ⟨a, ha, hrow⟩ := List.mem_flatMap.mp h
  obtain ⟨rfl, hright⟩ := mem_joined hrow
  exact ⟨ha, hright⟩

/-- A function of the rows of a left join, given for those with and those without a match. -/
theorem map_leftJoin (f : α × Option β → γ) (alone : α → γ) (paired : α → β → γ)
    (halone : ∀ a, f (a, none) = alone a) (hpaired : ∀ a b, f (a, some b) = paired a b) :
    (leftJoin left right on).map f =
      left.flatMap fun a =>
        match right.filter (on a) with
        | [] => [alone a]
        | b :: rest => (b :: rest).map (paired a) := by
  rw [leftJoin, List.map_flatMap]
  refine congrArg (fun g => left.flatMap g) (funext fun a => ?_)
  unfold joined
  split
  · rw [List.map_singleton, halone]
  · rw [List.map_map]
    exact List.map_congr_left fun b _ => hpaired a b

end DockerBastion.Foundation
