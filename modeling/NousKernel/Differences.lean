import Mathlib.Data.List.Nodup

/-!
Differences of two keyed collections: the keys that were added, removed or changed, and
the patch that applies them. Items are compared by a form, which determines their key.
-/

set_option autoImplicit false

namespace Difference

structure Delta (κ : Type) where
  added : List κ
  removed : List κ
  changed : List κ

section Collections

variable {α β κ : Type} (key : α → κ) (form : α → β)

/-- Two collections hold the same items, as far as the form tells them apart. -/
def Same (first second : List α) : Prop := ∀ x, x ∈ first.map form ↔ x ∈ second.map form

/-- The delta names the keys of one collection only, and those of a changed item. -/
structure Delta.Between (delta : Delta κ) (first second : List α) : Prop where
  added : ∀ k, k ∈ delta.added ↔ k ∈ second.map key ∧ k ∉ first.map key
  removed : ∀ k, k ∈ delta.removed ↔ k ∈ first.map key ∧ k ∉ second.map key
  changed : ∀ k, k ∈ delta.changed ↔
    ∃ old ∈ first, ∃ new ∈ second, key old = k ∧ key new = k ∧ form old ≠ form new

structure Delta.Disjoint (delta : Delta κ) : Prop where
  apart : delta.added.Disjoint delta.removed
  added : delta.added.Disjoint delta.changed
  removed : delta.removed.Disjoint delta.changed

variable [DecidableEq κ]

/-- The item of a collection that has the key of another item. -/
def version (items : List α) (item : α) : α := (items.find? (key · = key item)).getD item

/-- What is removed goes, what changed is replaced, what was added comes behind. -/
def Delta.patch (delta : Delta κ) (first second : List α) : List α :=
  ((first.filter (key · ∉ delta.removed)).map fun item =>
    if key item ∈ delta.changed then version key second item else item) ++
    second.filter (key · ∈ delta.added)

end Collections

section Patching

variable {α β κ : Type} {key : α → κ} {form : α → β} {delta : Delta κ} {first second : List α}

theorem Delta.Between.disjoint (between : delta.Between key form first second) : delta.Disjoint where
  apart := by
    intro k added removed
    have present := ((between.added k).mp added).1
    exact ((between.removed k).mp removed).2 present
  added := by
    intro k added changed
    obtain ⟨old, listed, _, _, same, _⟩ := (between.changed k).mp changed
    exact ((between.added k).mp added).2 (List.mem_map.mpr ⟨old, listed, same⟩)
  removed := by
    intro k removed changed
    obtain ⟨_, _, new, listed, _, same, _⟩ := (between.changed k).mp changed
    exact ((between.removed k).mp removed).2 (List.mem_map.mpr ⟨new, listed, same⟩)

variable [DecidableEq κ]

theorem key_version (items : List α) (item : α) : key (version key items item) = key item := by
  unfold version
  cases found : items.find? (key · = key item) with
  | none => rfl
  | some other => simpa using List.find?_some found

theorem version_eq {item new : α} (distinct : (second.map key).Nodup) (listed : new ∈ second)
    (same : key new = key item) : version key second item = new := by
  unfold version
  cases found : second.find? (key · = key item) with
  | none =>
      have missed := List.find?_eq_none.mp found new listed
      rw [decide_eq_true_eq] at missed
      exact absurd same missed
  | some other =>
      have named : key other = key item := by simpa using List.find?_some found
      exact List.inj_on_of_nodup_map distinct (List.mem_of_find?_eq_some found) listed
        (named.trans same.symm)

namespace Delta.Between

/-- The patch turns the first collection into the second. -/
theorem patched (between : delta.Between key form first second)
    (distinct : (second.map key).Nodup) : Same form (delta.patch key first second) second := by
  have unchanged : ∀ old ∈ first, ∀ new ∈ second, key old = key new → key old ∉ delta.changed →
      form old = form new := by
    intro old source new target same kept
    by_contra other
    exact kept ((between.changed (key old)).mpr ⟨old, source, new, target, rfl, same.symm, other⟩)
  intro x
  simp only [Delta.patch, List.map_append, List.mem_append, List.mem_map, List.mem_filter,
    decide_eq_true_eq]
  constructor
  · rintro (⟨_, ⟨old, ⟨source, kept⟩, rfl⟩, rfl⟩ | ⟨new, ⟨target, -⟩, rfl⟩)
    · have still : key old ∈ second.map key := by
        by_contra gone
        exact kept ((between.removed _).mpr ⟨List.mem_map_of_mem source, gone⟩)
      obtain ⟨new, target, same⟩ := List.mem_map.mp still
      refine ⟨new, target, ?_⟩
      by_cases changed : key old ∈ delta.changed
      · rw [if_pos changed, version_eq distinct target same]
      · rw [if_neg changed, unchanged old source new target same.symm changed]
    · exact ⟨new, target, rfl⟩
  · rintro ⟨new, target, rfl⟩
    by_cases known : key new ∈ first.map key
    · obtain ⟨old, source, same⟩ := List.mem_map.mp known
      have kept : key old ∉ delta.removed := by
        intro removed
        exact ((between.removed _).mp removed).2 (List.mem_map.mpr ⟨new, target, same.symm⟩)
      refine Or.inl ⟨_, ⟨old, ⟨source, kept⟩, rfl⟩, ?_⟩
      by_cases changed : key old ∈ delta.changed
      · rw [if_pos changed, version_eq distinct target same.symm]
      · rw [if_neg changed, unchanged old source new target same changed]
    · exact Or.inr ⟨new, ⟨target, (between.added _).mpr ⟨List.mem_map_of_mem target, known⟩⟩, rfl⟩

/-- The patched collection has no key twice. -/
theorem patched_nodup (between : delta.Between key form first second)
    (distinct : (first.map key).Nodup) (others : (second.map key).Nodup) :
    ((delta.patch key first second).map key).Nodup := by
  have kept : (((first.filter (key · ∉ delta.removed)).map fun item =>
      if key item ∈ delta.changed then version key second item else item).map key) =
        (first.filter (key · ∉ delta.removed)).map key := by
    rw [List.map_map]
    apply List.map_congr_left
    intro item _
    simp only [Function.comp]
    split
    · exact key_version second item
    · rfl
  rw [Delta.patch, List.map_append, kept, List.nodup_append]
  refine ⟨distinct.sublist (List.filter_sublist.map key),
    others.sublist (List.filter_sublist.map key), ?_⟩
  intro k source k' target same
  subst same
  obtain ⟨old, listed, rfl⟩ := List.mem_map.mp source
  obtain ⟨new, fresh, equal⟩ := List.mem_map.mp target
  rw [List.mem_filter, decide_eq_true_eq, between.added] at fresh
  rw [List.mem_filter] at listed
  exact fresh.2.2 (equal ▸ List.mem_map_of_mem listed.1)

/-- Nothing is listed exactly when the collections hold the same items. -/
theorem empty_iff (between : delta.Between key form first second)
    (distinct : (second.map key).Nodup) (determined : ∀ a b, form a = form b → key a = key b) :
    (delta.added = [] ∧ delta.removed = [] ∧ delta.changed = []) ↔ Same form first second := by
  constructor
  · rintro ⟨added, removed, changed⟩
    have patched := between.patched distinct
    have nothing : delta.patch key first second = first := by
      simp [Delta.patch, added, removed, changed]
    rwa [nothing] at patched
  · intro same
    have carried : ∀ {one other : List α}, Same form one other →
        ∀ k ∈ one.map key, k ∈ other.map key := by
      intro one other equal k listed
      obtain ⟨item, member, rfl⟩ := List.mem_map.mp listed
      obtain ⟨twin, target, forms⟩ := List.mem_map.mp ((equal _).mp (List.mem_map_of_mem member))
      exact List.mem_map.mpr ⟨twin, target, determined _ _ forms⟩
    refine ⟨?_, ?_, ?_⟩
    · refine List.eq_nil_iff_forall_not_mem.mpr fun k added => ?_
      obtain ⟨present, absent⟩ := (between.added k).mp added
      exact absent (carried (fun x => (same x).symm) k present)
    · refine List.eq_nil_iff_forall_not_mem.mpr fun k removed => ?_
      obtain ⟨present, absent⟩ := (between.removed k).mp removed
      exact absent (carried same k present)
    · refine List.eq_nil_iff_forall_not_mem.mpr fun k changed => ?_
      obtain ⟨old, source, new, target, named, called, differ⟩ := (between.changed k).mp changed
      obtain ⟨twin, listed, forms⟩ := List.mem_map.mp ((same _).mp (List.mem_map_of_mem source))
      have keys : key twin = key new := (determined _ _ forms).trans (named.trans called.symm)
      have equal : twin = new := List.inj_on_of_nodup_map distinct listed target keys
      exact differ (equal ▸ forms.symm)

end Delta.Between

end Patching

end Difference
