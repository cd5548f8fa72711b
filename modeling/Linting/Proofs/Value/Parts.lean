import Mathlib.Data.Set.List
import Linting.Proofs.Number.Exact
import Linting.Value

/-! What stands inside a value: texts and nothing else, a whole number of too many digits, which
keeps the value from being shown, or a list or a record, which by itself or inside tuples keeps it
from being a key. -/

namespace Linting.Value
set_option autoImplicit false

/-! ## Sequences of texts -/

theorem texts?_eq_some_iff {items : List Value} {texts : List String} :
    texts? items = some texts ↔ items = texts.map text := by
  induction items generalizing texts with
  | nil =>
    change some [] = some texts ↔ [] = texts.map text
    rw [Option.some_inj, eq_comm (a := []), eq_comm (a := []), List.map_eq_nil_iff]
  | cons item rest ih =>
    rw [texts?, List.mapM_cons]
    cases texts with
    | nil =>
      refine iff_of_false ?_ (List.cons_ne_nil item rest)
      cases item.text? with
      | none => rintro ⟨⟩
      | some first => cases rest.mapM text? <;> rintro ⟨⟩
    | cons first others =>
      have hrest := @ih others
      rw [texts?] at hrest
      rw [List.map_cons, List.cons.injEq, ← hrest]
      cases item <;> cases rest.mapM text? <;> simp [text?]

theorem texts?_eq_none_iff {items : List Value} :
    texts? items = none ↔ ∃ v ∈ items, ∀ s, v ≠ text s := by
  rw [Option.eq_none_iff_forall_ne_some]
  have hall : (∃ texts : List String, items = texts.map text) ↔ ∀ v ∈ items, ∃ s, v = text s := by
    have hrange := Set.ext_iff.mp (Set.range_list_map text) items
    simpa only [Set.mem_range, Set.mem_ofPred_eq, eq_comm] using hrange
  simp only [ne_eq, texts?_eq_some_iff]
  rw [← not_exists, hall]
  simp only [not_forall, not_exists, exists_prop]

/-! ## Values that can be shown -/

/-- A whole number stands in a value. -/
inductive Holds (n : Int) : Value → Prop where
  | here : Holds n (.int n)
  | listed {v : Value} {items : List Value} (mem : v ∈ items) (inside : Holds n v) :
    Holds n (.list items)
  | tupled {v : Value} {items : List Value} (mem : v ∈ items) (inside : Holds n v) :
    Holds n (.tuple items)
  | field {name : String} {v : Value} {fields : List (String × Value)}
    (mem : (name, v) ∈ fields) (inside : Holds n v) : Holds n (.record fields)

/-- A number of more digits than may be written stands in a value. -/
def HoldsUnwritable (v : Value) : Prop :=
  ∃ n, Holds n v ∧ Text.digitLimit < (Nat.digits 10 n.natAbs).length

/-- A part of a value that holds such a number makes the value hold it. -/
theorem holdsUnwritable_iff {v : Value} {P : Value → Prop}
    (h : ∀ n, Holds n v ↔ ∃ w, P w ∧ Holds n w) :
    v.HoldsUnwritable ↔ ∃ w, P w ∧ w.HoldsUnwritable := by
  simp only [HoldsUnwritable, h]
  constructor
  · rintro ⟨n, ⟨w, hw, hn⟩, hlong⟩
    exact ⟨w, hw, n, hn, hlong⟩
  · rintro ⟨w, hw, n, hn, hlong⟩
    exact ⟨n, ⟨w, hw, hn⟩, hlong⟩

theorem holds_list_iff {n : Int} {items : List Value} :
    Holds n (.list items) ↔ ∃ w, w ∈ items ∧ Holds n w := by
  constructor
  · rintro (_ | ⟨hmem, hinside⟩)
    exact ⟨_, hmem, hinside⟩
  · rintro ⟨w, hmem, hinside⟩
    exact .listed hmem hinside

theorem holds_tuple_iff {n : Int} {items : List Value} :
    Holds n (.tuple items) ↔ ∃ w, w ∈ items ∧ Holds n w := by
  constructor
  · rintro (_ | _ | ⟨hmem, hinside⟩)
    exact ⟨_, hmem, hinside⟩
  · rintro ⟨w, hmem, hinside⟩
    exact .tupled hmem hinside

theorem holds_record_iff {n : Int} {fields : List (String × Value)} :
    Holds n (.record fields) ↔ ∃ w, (∃ name, (name, w) ∈ fields) ∧ Holds n w := by
  constructor
  · rintro (_ | _ | _ | ⟨hmem, hinside⟩)
    exact ⟨_, ⟨_, hmem⟩, hinside⟩
  · rintro ⟨w, ⟨name, hmem⟩, hinside⟩
    exact .field hmem hinside

mutual

/-- A value cannot be shown exactly if it holds a number that is too long. -/
theorem isShowable_eq_false_iff (v : Value) : v.isShowable = false ↔ v.HoldsUnwritable := by
  cases v with
  | int n =>
    rw [isShowable, ← Bool.not_eq_true, Text.isWritable_iff, Nat.not_le]
    constructor
    · intro hlong
      exact ⟨n, .here, hlong⟩
    · rintro ⟨m, hm, hlong⟩
      cases hm
      exact hlong
  | list items =>
    rw [isShowable, areShowable_eq_false_iff, holdsUnwritable_iff fun n => holds_list_iff]
  | tuple items =>
    rw [isShowable, areShowable_eq_false_iff, holdsUnwritable_iff fun n => holds_tuple_iff]
  | record fields =>
    rw [isShowable, fieldsShowable_eq_false_iff, holdsUnwritable_iff fun n => holds_record_iff]
  | _ =>
    refine iff_of_false (by simp [isShowable]) ?_
    rintro ⟨n, hn, -⟩
    cases hn

theorem areShowable_eq_false_iff (items : List Value) :
    areShowable items = false ↔ ∃ v, v ∈ items ∧ v.HoldsUnwritable := by
  cases items with
  | nil => simp [areShowable]
  | cons v rest =>
    rw [areShowable, Bool.and_eq_false_iff, isShowable_eq_false_iff v,
      areShowable_eq_false_iff rest]
    simp only [List.mem_cons, or_and_right, exists_or, exists_eq_left]

theorem fieldsShowable_eq_false_iff (fields : List (String × Value)) :
    fieldsShowable fields = false ↔
      ∃ v, (∃ name, (name, v) ∈ fields) ∧ v.HoldsUnwritable := by
  cases fields with
  | nil => simp [fieldsShowable]
  | cons field rest =>
    obtain ⟨name, v⟩ := field
    rw [fieldsShowable, Bool.and_eq_false_iff, isShowable_eq_false_iff v,
      fieldsShowable_eq_false_iff rest]
    simp only [List.mem_cons, Prod.mk.injEq, exists_or, exists_eq_left, or_and_right]

end

/-! ## Values that can be keys -/

/-- A part keeps a value from being a key: the part is a list or a record, and only tuples stand
around it. -/
inductive Bars : Value → Value → Prop where
  | list (items : List Value) : Bars (.list items) (.list items)
  | record (fields : List (String × Value)) : Bars (.record fields) (.record fields)
  | tupled {part v : Value} {items : List Value} (mem : v ∈ items) (inside : Bars part v) :
    Bars part (.tuple items)

theorem firstUnhashable?_eq (items : List Value) :
    firstUnhashable? items = items.findSome? unhashable? := by
  induction items with
  | nil => rfl
  | cons v rest ih =>
    rw [firstUnhashable?, List.findSome?_cons, ih]
    cases v.unhashable? <;> rfl

/-- A part that is found keeps the value from being a key. -/
theorem bars_of_unhashable? {found : Unhashable} : (v : Value) → v.unhashable? = some found →
    ∃ part, Bars part v ∧ found = ⟨part.kind⟩
  | list items, h => ⟨_, .list items, (Option.some.inj h).symm⟩
  | record fields, h => ⟨_, .record fields, (Option.some.inj h).symm⟩
  | tuple items, h => by
    rw [unhashable?, firstUnhashable?_eq] at h
    obtain ⟨w, hw, hfound⟩ := List.exists_of_findSome?_eq_some h
    obtain ⟨part, hpart, hkind⟩ := bars_of_unhashable? w hfound
    exact ⟨part, .tupled hw hpart, hkind⟩

theorem exists_unhashable?_of_bars {part v : Value} (h : Bars part v) :
    v.unhashable?.isSome = true := by
  induction h with
  | list => rfl
  | record => rfl
  | tupled hmem _ ih =>
    rw [unhashable?, firstUnhashable?_eq, List.findSome?_isSome_iff]
    exact ⟨_, hmem, ih⟩

theorem unhashable?_eq_none_iff {v : Value} : v.unhashable? = none ↔ ∀ part, ¬ Bars part v := by
  constructor
  · intro h part hpart
    have hsome := exists_unhashable?_of_bars hpart
    rw [h] at hsome
    cases hsome
  · intro h
    rw [Option.eq_none_iff_forall_ne_some]
    intro found hfound
    obtain ⟨part, hpart, -⟩ := bars_of_unhashable? v hfound
    exact h part hpart

end Linting.Value
