import Linting.Path
import Mathlib.Data.List.Chain
import Mathlib.Data.List.Induction

/-! A path and its parents: the way from a path up to its root, one name shorter at each step. -/

namespace Linting.Path
set_option autoImplicit false

/-! ## Step by step -/

theorem ancestry_root (root : Root) : (⟨root, []⟩ : Path).ancestry = [⟨root, []⟩] := rfl

theorem ancestry_concat (root : Root) (names : List String) (name : String) :
    (⟨root, names ++ [name]⟩ : Path).ancestry =
      ⟨root, names ++ [name]⟩ :: (⟨root, names⟩ : Path).ancestry := by
  have hfirst (count : Nat) (h : count ∈ List.range names.length) :
      (⟨root, (names ++ [name]).take count⟩ : Path) = ⟨root, names.take count⟩ := by
    rw [List.take_append_of_le_length (Nat.le_of_lt (List.mem_range.mp h))]
  have hlast : (⟨root, (names ++ [name]).take names.length⟩ : Path) = ⟨root, names⟩ := by
    rw [List.take_left]
  rw [ancestry, ancestry, parents, parents, List.length_append, List.length_singleton,
    List.range_succ, List.map_append, List.reverse_append, List.map_congr_left hfirst,
    List.map_singleton, hlast]
  rfl

/-- Whether a path is the one above another: without its last name. -/
def IsAbove (p above : Path) : Prop := above = p.parent ∧ above.names.length + 1 = p.names.length

theorem isAbove_concat (root : Root) (names : List String) (name : String) :
    IsAbove ⟨root, names ++ [name]⟩ ⟨root, names⟩ := by
  constructor
  · rw [parent, List.dropLast_concat]
  · rw [List.length_append, List.length_singleton]

/-- The way from a path up to its root. -/
structure Climbs (start : Path) (way : List Path) : Prop where
  starts : way.head? = some start
  steps : way.IsChain IsAbove
  once : way.Nodup
  ends : way.getLast? = some ⟨start.root, []⟩

theorem isChain_ancestry (p : Path) : p.ancestry.IsChain IsAbove := by
  obtain ⟨root, names⟩ := p
  induction names using List.reverseRecOn with
  | nil => exact .singleton _
  | append_singleton names name ih =>
    rw [ancestry_concat, List.isChain_cons]
    refine ⟨fun above habove => ?_, ih⟩
    obtain rfl := Option.some.inj habove
    exact isAbove_concat root names name

theorem getLast?_ancestry (p : Path) : p.ancestry.getLast? = some ⟨p.root, []⟩ := by
  obtain ⟨root, names⟩ := p
  induction names using List.reverseRecOn with
  | nil => rfl
  | append_singleton names name ih =>
    rw [ancestry_concat, List.getLast?_cons, ih]
    rfl

/-- No path comes again, as each has fewer names than all before it. -/
theorem nodup_of_isChain {way : List Path} (h : way.IsChain IsAbove) : way.Nodup := by
  let shorter (p above : Path) : Prop := above.names.length < p.names.length
  have htrans : Trans shorter shorter shorter := ⟨fun hpq hqr => Nat.lt_trans hqr hpq⟩
  have hshorter : way.IsChain shorter := by
    refine h.imp fun p above habove => ?_
    have hlength := habove.2
    change above.names.length < p.names.length
    omega
  refine hshorter.pairwise.imp fun {p above} hlt heq => ?_
  subst heq
  exact Nat.lt_irrefl _ hlt

theorem climbs_ancestry (p : Path) : Climbs p p.ancestry :=
  ⟨rfl, isChain_ancestry p, nodup_of_isChain (isChain_ancestry p), getLast?_ancestry p⟩

/-! ## Which paths are met -/

/-- The paths on the way have the root of the first and so many of its names, in front. -/
theorem mem_ancestry_iff {p above : Path} :
    above ∈ p.ancestry ↔ above.root = p.root ∧ above.names <+: p.names := by
  obtain ⟨root, names⟩ := p
  obtain ⟨root', names'⟩ := above
  induction names using List.reverseRecOn with
  | nil => simp [ancestry_root]
  | append_singleton names name ih =>
    rw [ancestry_concat, List.mem_cons, ih, List.prefix_concat_iff, Path.mk.injEq, and_or_left]

theorem isAbsolute_of_mem_ancestry {p above : Path} (h : above ∈ p.ancestry) :
    above.isAbsolute = p.isAbsolute := by
  rw [isAbsolute, (mem_ancestry_iff.mp h).1, isAbsolute]

end Linting.Path
