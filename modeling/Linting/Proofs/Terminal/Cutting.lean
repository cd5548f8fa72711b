import Linting.Terminal.Table
import Mathlib.Data.List.Basic

/-! Cutting a styled text: whatever becomes of it in a column, no span has a fault that none of its
spans had before. So the faults of a table are faults of its cells. -/

namespace Linting.Terminal
set_option autoImplicit false

variable {fault : PartFault} {span cut : Span} {t p : Styled} {start stop : Nat}

theorem Span.fault_of_clip? (h : span.clip? start stop = some cut) : cut.fault = span.fault := by
  rw [clip?] at h
  split at h
  · obtain rfl := Option.some.inj h
    rfl
  · cases h

theorem Span.fault_of_upTo? (h : span.upTo? stop = some cut) : cut.fault = span.fault := by
  rw [upTo?] at h
  split at h
  · obtain rfl := Option.some.inj h
    rfl
  · cases h

namespace Styled

theorem mem_faults_iff : fault ∈ t.faults ↔ ∃ span ∈ t.spans, span.fault = some fault :=
  List.mem_filterMap

/-- Spans that are cut, or dropped, bring no faults. -/
theorem faults_filterMap_subset {cutting : Span → Option Span} (chars : List Char)
    (hcutting : ∀ span cut, cutting span = some cut → cut.fault = span.fault) :
    ({ t with chars, spans := t.spans.filterMap cutting } : Styled).faults ⊆ t.faults := by
  intro fault hfault
  obtain ⟨cut, hcut, hfault⟩ := mem_faults_iff.mp hfault
  obtain ⟨span, hspan, hcutting'⟩ := List.mem_filterMap.mp hcut
  exact mem_faults_iff.mpr ⟨span, hspan, (hcutting span cut hcutting').symm.trans hfault⟩

theorem faults_map (change : Span → Span) (hchange : ∀ span, (change span).fault = span.fault)
    (spans : List Span) : (spans.map change).filterMap (·.fault) = spans.filterMap (·.fault) := by
  rw [List.filterMap_map]
  exact List.filterMap_congr fun span _ => hchange span

/-! ## Pieces -/

theorem faults_piece_subset (t : Styled) (start stop : Nat) :
    (t.piece start stop).faults ⊆ t.faults :=
  faults_filterMap_subset _ fun _ _ => Span.fault_of_clip?

theorem faults_subset_of_mem_divide {places : List Nat} (h : p ∈ t.divide places) :
    p.faults ⊆ t.faults := by
  rw [divide] at h
  split at h
  · rw [List.mem_singleton.mp h]
    exact List.Subset.refl _
  · obtain ⟨⟨start, stop⟩, -, rfl⟩ := List.mem_map.mp h
    exact faults_piece_subset ..

theorem faults_subset_of_mem_lines (h : p ∈ t.lines) : p.faults ⊆ t.faults := by
  rw [lines] at h
  dsimp only at h
  split at h
  · rw [List.mem_singleton.mp h]
    exact List.Subset.refl _
  · obtain ⟨⟨start, stop⟩, -, rfl⟩ := List.mem_map.mp h
    exact faults_piece_subset ..

/-! ## Tabs -/

theorem faults_baseSpans (t : Styled) : t.baseSpans.filterMap (·.fault) = [] := by
  rw [baseSpans]
  split <;> rfl

/-- Texts one after the other have the faults of all of them. -/
theorem faults_concat (pieces : List Styled) : (concat pieces).faults = pieces.flatMap faults := by
  have hfold (whole : Styled) : (pieces.foldl
      (fun whole p =>
        { whole with
          chars := whole.chars ++ p.chars
          spans := whole.spans ++ (p.baseSpans ++ p.spans).map (·.shift whole.length) })
      whole).faults = whole.faults ++ pieces.flatMap faults := by
    induction pieces generalizing whole with
    | nil => exact (List.append_nil _).symm
    | cons p rest ih =>
      have hshift : ((p.baseSpans ++ p.spans).map (·.shift whole.length)).filterMap (·.fault) =
          p.faults := by
        rw [faults_map (·.shift whole.length) fun _ => rfl, List.filterMap_append,
          faults_baseSpans, List.nil_append]
        rfl
      rw [List.foldl_cons, ih, List.flatMap_cons, ← List.append_assoc]
      congr 1
      rw [← hshift]
      exact List.filterMap_append
  exact hfold _

theorem faults_fillTab (p : Styled) (column : Nat) : (p.fillTab column).1.faults = p.faults := by
  refine faults_map _ (fun span => ?_) p.spans
  split <;> rfl

theorem faults_fillTabs (pieces : List Styled) (column : Nat) :
    (fillTabs pieces column).flatMap faults = pieces.flatMap faults := by
  induction pieces generalizing column with
  | nil => rfl
  | cons p rest ih =>
    rw [fillTabs]
    split
    · dsimp only
      rw [List.flatMap_cons, List.flatMap_cons, ih, faults_fillTab]
    · rw [List.flatMap_cons, List.flatMap_cons, ih]

theorem faults_expandTabs_subset (t : Styled) : t.expandTabs.faults ⊆ t.faults := by
  rw [expandTabs]
  dsimp only
  split
  · exact List.Subset.refl _
  · intro fault hfault
    change fault ∈ (concat _).faults at hfault
    rw [faults_concat, faults_fillTabs] at hfault
    obtain ⟨p, hp, hfault⟩ := List.mem_flatMap.mp hfault
    have hp : p ∈ t.divide ((t.placesOf '\t').map (· + 1)) := by
      split at hp
      · exact List.dropLast_subset _ hp
      · exact hp
    exact faults_subset_of_mem_divide hp hfault

/-! ## Columns -/

theorem faults_dropExcess_subset (t : Styled) (width : Nat) :
    (t.dropExcess width).faults ⊆ t.faults := by
  rw [dropExcess]
  split
  · exact faults_filterMap_subset _ fun _ _ => Span.fault_of_upTo?
  · exact List.Subset.refl _

theorem faults_truncate_subset (t : Styled) (width : Nat) :
    (t.truncate width).faults ⊆ t.faults := by
  rw [truncate]
  split
  · exact List.Subset.refl _
  · dsimp only
    split
    · exact faults_filterMap_subset _ fun _ _ => Span.fault_of_upTo?
    · exact List.Subset.refl _

theorem faults_subset_of_mem_column {wraps : Bool} {width : Nat} (h : p ∈ t.column wraps width) :
    p.faults ⊆ t.faults := by
  obtain ⟨line, hline, h⟩ := List.mem_flatMap.mp h
  obtain ⟨part, hpart, rfl⟩ := List.mem_map.mp h
  have hpart : part.faults ⊆ line.expandTabs.faults := by
    split at hpart
    · exact faults_subset_of_mem_divide hpart
    · rw [List.mem_singleton.mp hpart]
      exact List.Subset.refl _
  calc (((part.dropExcess width).truncate width).fill width).faults
    _ ⊆ (part.dropExcess width).faults := faults_truncate_subset ..
    _ ⊆ part.faults := faults_dropExcess_subset ..
    _ ⊆ line.expandTabs.faults := hpart
    _ ⊆ line.faults := faults_expandTabs_subset line
    _ ⊆ t.faults := faults_subset_of_mem_lines hline

end Styled

/-! ## Tables -/

theorem Table.exists_cell_of_faults {t : Table} {room : Nat} (h : fault ∈ t.faults room) :
    ∃ c ∈ t.columns, ∃ text ∈ c.cells, fault ∈ text.faults := by
  obtain ⟨i, -, h⟩ := List.mem_flatMap.mp h
  obtain ⟨⟨width, c⟩, hc, h⟩ := List.mem_flatMap.mp h
  obtain ⟨line, hline, h⟩ := List.mem_flatMap.mp h
  have hfault : fault ∈ (cellAt i c).faults := by
    rw [cellTexts] at hline
    split at hline
    · cases hline
    · exact Styled.faults_subset_of_mem_column hline h
  refine ⟨c, (List.of_mem_zip hc).2, ?_⟩
  rw [cellAt] at hfault
  cases hcell : c.cells[i]? with
  | none =>
    rw [hcell] at hfault
    cases hfault
  | some text =>
    rw [hcell] at hfault
    exact ⟨text, List.mem_of_getElem? hcell, hfault⟩

end Linting.Terminal
