import Linting.FileTree
import Linting.Proofs.Lookup
import Mathlib.Data.List.Induction

/-! What stands at the places of a tree after a change, and trees in which every entry stands in a
directory. -/

namespace Linting.FileTree
set_option autoImplicit false

variable {t t' : FileTree} {place other : Place} {entry : Entry}

/-! ## Entries after a change -/

@[simp]
theorem entryAt_root (t : FileTree) : t.entryAt [] = some .directory := rfl

theorem ne_nil_of_entryAt_none (h : t.entryAt place = none) : place ≠ [] := by
  rintro rfl
  cases h

theorem entryAt_eq_lookup (h : other ≠ []) : t.entryAt other = t.entries.lookup other := if_neg h

theorem entryAt_empty (place : Place) :
    ({} : FileTree).entryAt place = if place = [] then some .directory else none := rfl

theorem entryAt_put (h : place ≠ []) :
    (t.put place entry).entryAt other = if other = place then some entry else t.entryAt other := by
  by_cases ho : other = []
  · subst ho
    rw [if_neg (Ne.symm h)]
    rfl
  · rw [entryAt_eq_lookup ho, entryAt_eq_lookup ho]
    exact lookup_put place other entry t.entries

theorem entryAt_removeAt (h : place ≠ []) :
    (t.removeAt place).entryAt other = if place <+: other then none else t.entryAt other := by
  by_cases ho : other = []
  · subst ho
    rw [if_neg (by simpa using h)]
    rfl
  · rw [entryAt_eq_lookup ho, entryAt_eq_lookup ho, removeAt,
      lookup_filter (fun p => !place.isPrefixOf p)]
    by_cases hp : place <+: other
    · rw [if_pos hp, List.isPrefixOf_iff_prefix.mpr hp]
      rfl
    · rw [if_neg hp, if_pos]
      rw [Bool.not_eq_true', ← Bool.not_eq_true, List.isPrefixOf_iff_prefix]
      exact hp

/-! ## Places above and below -/

/-- Every entry stands in a directory. -/
def IsRooted (t : FileTree) : Prop :=
  ∀ place name, t.entryAt (place ++ [name]) ≠ none → t.entryAt place = some .directory

theorem IsRooted.empty : ({} : FileTree).IsRooted := by
  intro place name h
  rw [entryAt_empty, if_neg (List.concat_ne_nil name place)] at h
  exact absurd rfl h

/-- An entry may be put into a directory if it does not take the place of one. -/
theorem IsRooted.put {name : String} (h : t.IsRooted) (habove : t.entryAt place = some .directory)
    (hfree : t.entryAt (place ++ [name]) ≠ some .directory) :
    (t.put (place ++ [name]) entry).IsRooted := by
  intro above last hlast
  have hne : place ++ [name] ≠ [] := List.concat_ne_nil name place
  rw [entryAt_put hne] at hlast ⊢
  split at hlast
  · next heq =>
    obtain rfl := (List.append_inj' heq rfl).1
    rw [if_neg (by simp)]
    exact habove
  · have hdirectory := h above last hlast
    rw [if_neg, hdirectory]
    rintro rfl
    exact hfree hdirectory

theorem IsRooted.none_below (h : t.IsRooted) (hnone : t.entryAt place = none)
    (hle : place <+: other) : t.entryAt other = none := by
  obtain ⟨names, rfl⟩ := hle
  induction names using List.reverseRecOn with
  | nil => rw [List.append_nil, hnone]
  | append_singleton names name ih =>
    by_contra hne
    rw [← List.append_assoc] at hne
    have habove := h _ _ hne
    rw [ih] at habove
    cases habove

/-- A place that is not the one above it, but lies below it. -/
def Below (place other : Place) : Prop := place <+: other ∧ other ≠ place

/-- The places on the way from a place to that of some names below it. -/
def Along (place : Place) (names : List String) (other : Place) : Prop :=
  ∃ first, first ≠ [] ∧ first <+: names ∧ other = place ++ first

theorem Along.mono {names more : List String} (h : Along place names other)
    (hle : names <+: more) : Along place more other := by
  obtain ⟨first, hne, hfirst, rfl⟩ := h
  exact ⟨first, hne, hfirst.trans hle, rfl⟩

theorem Along.below {names : List String} (h : Along place names other) : Below place other := by
  obtain ⟨first, hne, -, rfl⟩ := h
  exact ⟨List.prefix_append .., by simpa using hne⟩

/-! ## Trees that differ in places -/

/-- Only some places may have changed. -/
structure ChangesOnly (allowed : Place → Prop) (t t' : FileTree) : Prop where
  limits : t'.limits = t.limits
  changed : ∀ other, t'.entryAt other ≠ t.entryAt other → allowed other

/-- Everything is as it was. -/
structure Same (t t' : FileTree) : Prop where
  limits : t'.limits = t.limits
  entries : ∀ other, t'.entryAt other = t.entryAt other

namespace ChangesOnly
variable {allowed more : Place → Prop} {t'' : FileTree}

theorem trans (h : ChangesOnly allowed t t') (h' : ChangesOnly allowed t' t'') :
    ChangesOnly allowed t t'' where
  limits := h'.limits.trans h.limits
  changed other hother := by
    by_cases hlast : t''.entryAt other = t'.entryAt other
    · exact h.changed other (hlast ▸ hother)
    · exact h'.changed other hlast

theorem mono (h : ChangesOnly allowed t t') (hle : ∀ other, allowed other → more other) :
    ChangesOnly more t t' :=
  ⟨h.limits, fun other hother => hle other (h.changed other hother)⟩

theorem eq_of_not (h : ChangesOnly allowed t t') (hnot : ¬ allowed other) :
    t'.entryAt other = t.entryAt other := by
  by_contra hother
  exact hnot (h.changed other hother)

theorem put (hne : place ≠ []) (hallowed : allowed place) :
    ChangesOnly allowed t (t.put place entry) where
  limits := rfl
  changed other hother := by
    rw [entryAt_put hne] at hother
    split at hother
    · next heq => exact heq ▸ hallowed
    · exact absurd rfl hother

theorem of_removeAt (t : FileTree) (hne : place ≠ []) :
    ChangesOnly (place <+: ·) t (t.removeAt place) where
  limits := rfl
  changed other hother := by
    rw [entryAt_removeAt hne] at hother
    split at hother
    · next hle => exact hle
    · exact absurd rfl hother

/-- A tree with changes at and below a place, where nothing stood, is the one before again when all
that stands there is removed. -/
theorem removeAt (h : ChangesOnly (place <+: ·) t t') (hrooted : t.IsRooted)
    (hnone : t.entryAt place = none) : Same t (t'.removeAt place) where
  limits := h.limits
  entries other := by
    rw [entryAt_removeAt (ne_nil_of_entryAt_none hnone)]
    split
    · next hle => exact (hrooted.none_below hnone hle).symm
    · next hnot => exact h.eq_of_not hnot

end ChangesOnly

end Linting.FileTree
