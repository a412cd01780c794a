import Mathlib.Data.List.Nodup

/-!
# JavaScript objects as maps

An object holds own properties, one for each name, in the order in which they were
added.  A property that is not among them is looked up in the prototype.
-/

namespace DockerBastion.Foundation

structure Object (κ α : Type*) where
  props : List (κ × α)
  unique : (props.map Prod.fst).Nodup

/-- What reading a property finds: `undefined` is `missing`. -/
inductive Property (α : Type*) where
  | own (v : α)
  | inherited
  | missing
  deriving DecidableEq, Repr

namespace Object

variable {κ α β : Type*}

def empty : Object κ α := ⟨[], .nil⟩

variable [DecidableEq κ]

def own (o : Object κ α) (name : κ) : Option α := o.props.lookup name

def read (prototype : List κ) (o : Object κ α) (name : κ) : Property α :=
  match o.own name with
  | some v => .own v
  | none => if name ∈ prototype then .inherited else .missing

def replace (name : κ) (v : α) (p : κ × α) : κ × α := if p.1 = name then (name, v) else p

theorem replace_fst (name : κ) (v : α) (p : κ × α) : (replace name v p).1 = p.1 := by
  unfold replace
  split
  · rename_i h
    exact h.symm
  · rfl

theorem map_replace_fst (name : κ) (v : α) (props : List (κ × α)) :
    (props.map (replace name v)).map Prod.fst = props.map Prod.fst := by
  rw [List.map_map]
  exact List.map_congr_left fun p _ => replace_fst name v p

/-- Assigns an own property. -/
def set (o : Object κ α) (name : κ) (v : α) : Object κ α :=
  if h : name ∈ o.props.map Prod.fst then
    { props := o.props.map (replace name v)
      unique := by
        rw [map_replace_fst]
        exact o.unique }
  else
    { props := o.props ++ [(name, v)]
      unique := by
        rw [List.map_append, List.nodup_append]
        refine ⟨o.unique, List.nodup_singleton _, ?_⟩
        rintro a ha b hb rfl
        obtain rfl := List.mem_singleton.mp hb
        exact h ha }

@[simp] theorem own_empty (name : κ) : (empty : Object κ α).own name = none := rfl

private theorem lookup_map_replace (name other : κ) (v : α) (props : List (κ × α)) :
    (props.map (replace name v)).lookup other =
      if other = name then (props.lookup name).map fun _ => v else props.lookup other := by
  induction props with
  | nil => simp
  | cons p props ih =>
      obtain ⟨key, w⟩ := p
      rw [List.map_cons, replace]
      by_cases hkey : key = name
      · subst hkey
        by_cases hother : other = key
        · simp [hother]
        · simp [List.lookup_cons, ih, hother, beq_eq_false_iff_ne.mpr hother]
      · by_cases hother : other = name
        · subst hother
          simp [List.lookup_cons, ih, hkey, beq_eq_false_iff_ne.mpr (Ne.symm hkey)]
        · simp [List.lookup_cons, ih, hkey, hother]

private theorem lookup_of_notMem {props : List (κ × α)} {name : κ}
    (h : name ∉ props.map Prod.fst) : props.lookup name = none := by
  rw [List.lookup_eq_none_iff]
  intro p hp
  have hne : name ≠ p.1 := fun heq => h (heq ▸ List.mem_map_of_mem hp)
  simpa using hne

theorem own_set (o : Object κ α) (name other : κ) (v : α) :
    (o.set name v).own other = if other = name then some v else o.own other := by
  unfold set own
  split
  · rename_i hname
    simp only [lookup_map_replace]
    obtain ⟨p, hp, rfl⟩ := List.mem_map.mp hname
    have hsome : (o.props.lookup p.1).isSome := by
      rw [List.lookup_isSome_iff]
      exact ⟨p, hp, by simp⟩
    obtain ⟨w, hw⟩ := Option.isSome_iff_exists.mp hsome
    simp [hw]
  · rename_i hname
    simp only [List.lookup_append]
    by_cases hother : other = name
    · subst hother
      simp [lookup_of_notMem hname]
    · simp [List.lookup_cons, hother, beq_eq_false_iff_ne.mpr hother]

/-! ## Folds that work name by name -/

/-- A step that changes the property of its name alone. -/
def Local (key : β → κ) (change : Option α → β → α) (f : Object κ α → β → Object κ α) : Prop :=
  ∀ o b name, (f o b).own name =
    if name = key b then some (change (o.own name) b) else o.own name

/-- What a fold of such steps leaves under a name comes from the entries of that name. -/
theorem own_foldl {key : β → κ} {change : Option α → β → α} {f : Object κ α → β → Object κ α}
    (h : Local key change f) (entries : List β) (o : Object κ α) (name : κ) :
    (entries.foldl f o).own name =
      (entries.filter fun b => key b = name).foldl (fun v b => some (change v b)) (o.own name) := by
  induction entries generalizing o with
  | nil => rfl
  | cons b entries ih =>
      rw [List.foldl_cons, ih, h]
      by_cases hname : key b = name
      · simp [hname]
      · simp [hname, Ne.symm hname]

end Object

end DockerBastion.Foundation
