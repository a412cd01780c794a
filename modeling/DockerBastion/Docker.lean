import DockerBastion.Foundation.Bytes

/-!
# The docker daemon

Docker holds containers under a full id of 64 hexadecimal digits and a name.
Ids and names are unique among the containers present, and an id is never given
twice.  A reference is resolved first as a full id, then as a name, then as an
id prefix that only one container has.
-/

namespace DockerBastion

open Foundation

structure DockerContainer where
  id : Bytes
  name : Bytes
  running : Bool
  deriving DecidableEq, Repr

def isFullId (id : Bytes) : Bool := id.length == 64 && id.all isHexDigit

def shortId (id : Bytes) : Bytes := id.take 12

structure Docker where
  containers : List DockerContainer
  /-- All ids that docker has ever given to a container. -/
  issued : List Bytes
  ids_unique : containers.Pairwise fun a b => a.id ≠ b.id
  names_unique : containers.Pairwise fun a b => a.name ≠ b.name
  ids_issued : ∀ c ∈ containers, c.id ∈ issued
  issued_full : ∀ id ∈ issued, isFullId id = true

namespace Docker

def empty : Docker where
  containers := []
  issued := []
  ids_unique := .nil
  names_unique := .nil
  ids_issued := by simp
  issued_full := by simp

def ids (d : Docker) : List Bytes := d.containers.map DockerContainer.id

theorem mem_ids {d : Docker} {id : Bytes} :
    id ∈ d.ids ↔ ∃ c ∈ d.containers, c.id = id := by
  simp [ids]

theorem issued_of_mem_ids {d : Docker} {id : Bytes} (h : id ∈ d.ids) :
    id ∈ d.issued := by
  obtain ⟨c, hc, rfl⟩ := mem_ids.mp h
  exact d.ids_issued c hc

theorem isFullId_of_mem_ids {d : Docker} {id : Bytes} (h : id ∈ d.ids) :
    isFullId id = true :=
  d.issued_full id (issued_of_mem_ids h)

/-- Docker refuses a name in use; the id it gives is new and full. -/
def create (d : Docker) (id name : Bytes) : Option Docker :=
  if h : isFullId id = true ∧ id ∉ d.issued ∧
      ∀ c ∈ d.containers, c.name ≠ name then
    some
      { containers := d.containers ++ [⟨id, name, false⟩]
        issued := id :: d.issued
        ids_unique := by
          rw [List.pairwise_append]
          refine ⟨d.ids_unique, List.pairwise_singleton _ _, ?_⟩
          rintro a ha b hb heq
          obtain rfl := List.mem_singleton.mp hb
          have hissued := d.ids_issued a ha
          rw [heq] at hissued
          exact h.2.1 hissued
        names_unique := by
          rw [List.pairwise_append]
          refine ⟨d.names_unique, List.pairwise_singleton _ _, ?_⟩
          rintro a ha b hb
          obtain rfl := List.mem_singleton.mp hb
          exact h.2.2 a ha
        ids_issued := by
          intro c hc
          rcases List.mem_append.mp hc with hc | hc
          · exact List.mem_cons_of_mem _ (d.ids_issued c hc)
          · obtain rfl := List.mem_singleton.mp hc
            exact List.mem_cons_self
        issued_full := by
          intro other hother
          rcases List.mem_cons.mp hother with rfl | hother
          · exact h.1
          · exact d.issued_full other hother }
  else none

def remove (d : Docker) (id : Bytes) : Docker where
  containers := d.containers.filter fun c => c.id ≠ id
  issued := d.issued
  ids_unique := d.ids_unique.filter _
  names_unique := d.names_unique.filter _
  ids_issued c hc := d.ids_issued c (List.mem_of_mem_filter hc)
  issued_full := d.issued_full

def modify (d : Docker) (f : DockerContainer → DockerContainer)
    (hid : ∀ c, (f c).id = c.id)
    (hname : d.containers.Pairwise fun a b => (f a).name ≠ (f b).name) : Docker where
  containers := d.containers.map f
  issued := d.issued
  ids_unique := by
    rw [List.pairwise_map]
    simpa only [hid] using d.ids_unique
  names_unique := List.pairwise_map.mpr hname
  ids_issued := by
    intro c hc
    obtain ⟨old, hold, rfl⟩ := List.mem_map.mp hc
    rw [hid]
    exact d.ids_issued old hold
  issued_full := d.issued_full

def renamed (id name : Bytes) (c : DockerContainer) : DockerContainer :=
  if c.id = id then { c with name := name } else c

def started (id : Bytes) (c : DockerContainer) : DockerContainer :=
  if c.id = id then { c with running := true } else c

theorem renamed_id (id name : Bytes) (c : DockerContainer) :
    (renamed id name c).id = c.id := by
  unfold renamed
  split <;> rfl

theorem started_id (id : Bytes) (c : DockerContainer) : (started id c).id = c.id := by
  unfold started
  split <;> rfl

theorem started_name (id : Bytes) (c : DockerContainer) :
    (started id c).name = c.name := by
  unfold started
  split <;> rfl

def rename (d : Docker) (id name : Bytes) : Option Docker :=
  if h : d.containers.Pairwise fun a b =>
      (renamed id name a).name ≠ (renamed id name b).name then
    some (d.modify (renamed id name) (renamed_id id name) h)
  else none

def start (d : Docker) (id : Bytes) : Docker :=
  d.modify (started id) (started_id id) (by simpa only [started_name] using d.names_unique)

/-- The full id of the container that a reference denotes. -/
def resolve (d : Docker) (ref : Bytes) : Option Bytes :=
  match d.containers.find? fun c => c.id = ref with
  | some c => some c.id
  | none =>
      match d.containers.find? fun c => c.name = ref with
      | some c => some c.id
      | none =>
          match d.containers.filter fun c => ref.isPrefixOf c.id with
          | [c] => some c.id
          | _ => none

/-! ## What the operations do to the ids -/

theorem create_eq_some {d d' : Docker} {id name : Bytes}
    (h : d.create id name = some d') :
    isFullId id = true ∧ id ∉ d.issued ∧ d'.ids = d.ids ++ [id] ∧
      d'.issued = id :: d.issued := by
  unfold create at h
  split at h
  · rename_i hok
    cases h
    exact ⟨hok.1, hok.2.1, by simp [ids], rfl⟩
  · cases h

theorem mem_ids_remove {d : Docker} {id other : Bytes} :
    other ∈ (d.remove id).ids ↔ other ∈ d.ids ∧ other ≠ id := by
  simp only [mem_ids, remove, List.mem_filter, decide_eq_true_eq]
  constructor
  · rintro ⟨c, ⟨hc, hne⟩, rfl⟩
    exact ⟨⟨c, hc, rfl⟩, hne⟩
  · rintro ⟨⟨c, hc, rfl⟩, hne⟩
    exact ⟨c, ⟨hc, hne⟩, rfl⟩

theorem modify_ids (d : Docker) (f : DockerContainer → DockerContainer)
    (hid : ∀ c, (f c).id = c.id)
    (hname : d.containers.Pairwise fun a b => (f a).name ≠ (f b).name) :
    (d.modify f hid hname).ids = d.ids := by
  simp [ids, modify, Function.comp_def, hid]

@[simp] theorem start_ids (d : Docker) (id : Bytes) : (d.start id).ids = d.ids :=
  modify_ids _ _ _ _

theorem rename_eq_some {d d' : Docker} {id name : Bytes}
    (h : d.rename id name = some d') : d'.ids = d.ids ∧ d'.issued = d.issued := by
  unfold rename at h
  split at h
  · cases h
    exact ⟨modify_ids _ _ _ _, rfl⟩
  · cases h

/-! ## Ids are never given twice -/

structure Follows (d d' : Docker) : Prop where
  issued : ∀ id ∈ d.issued, id ∈ d'.issued
  ids : ∀ id ∈ d'.ids, id ∈ d.ids ∨ id ∉ d.issued

theorem Follows.of_eq {d d' : Docker} (hids : d'.ids = d.ids)
    (hissued : d'.issued = d.issued) : Follows d d' :=
  ⟨fun _ h => hissued ▸ h, fun _ h => .inl (hids ▸ h)⟩

theorem follows_create {d d' : Docker} {id name : Bytes}
    (h : d.create id name = some d') : Follows d d' := by
  obtain ⟨-, hnew, hids, hissued⟩ := create_eq_some h
  constructor
  · intro other hother
    rw [hissued]
    exact List.mem_cons_of_mem _ hother
  · intro other hother
    rw [hids, List.mem_append, List.mem_singleton] at hother
    rcases hother with hother | rfl
    · exact .inl hother
    · exact .inr hnew

theorem follows_remove (d : Docker) (id : Bytes) : Follows d (d.remove id) :=
  ⟨fun _ h => h, fun _ h => .inl (mem_ids_remove.mp h).1⟩

theorem resolve_eq_some {d : Docker} {ref id : Bytes} (h : d.resolve ref = some id) :
    ∃ c ∈ d.containers, c.id = id ∧ (c.id = ref ∨ c.name = ref ∨ ref <+: c.id) := by
  unfold resolve at h
  split at h
  · rename_i c hfind
    cases h
    exact ⟨c, List.mem_of_find?_eq_some hfind, rfl,
      .inl (by simpa using List.find?_some hfind)⟩
  · split at h
    · rename_i c hfind
      cases h
      exact ⟨c, List.mem_of_find?_eq_some hfind, rfl,
        .inr (.inl (by simpa using List.find?_some hfind))⟩
    · split at h
      · rename_i c hfilter
        cases h
        have hc : c ∈ d.containers.filter fun c => ref.isPrefixOf c.id := by
          rw [hfilter]
          exact List.mem_singleton_self c
        rw [List.mem_filter, List.isPrefixOf_iff_prefix] at hc
        exact ⟨c, hc.1, rfl, .inr (.inr hc.2)⟩
      · cases h

end Docker

theorem length_of_isFullId {id : Bytes} (h : isFullId id = true) : id.length = 64 := by
  simp only [isFullId, Bool.and_eq_true, beq_iff_eq] at h
  exact h.1

theorem isHexDigit_of_isFullId {id : Bytes} (h : isFullId id = true) {b : UInt8}
    (hb : b ∈ id) : isHexDigit b = true := by
  simp only [isFullId, Bool.and_eq_true, List.all_eq_true] at h
  exact h.2 b hb

theorem shortId_length {id : Bytes} (h : isFullId id = true) :
    (shortId id).length = 12 := by
  simp [shortId, length_of_isFullId h]

end DockerBastion
