import Linting.Proofs.Json.Written

/-! The characters of trees as they are written: printable ones of ASCII, and ends of lines. -/

namespace Linting.Json
set_option autoImplicit false

/-- A printable character of ASCII, or the end of a line. -/
def isPlain (c : Char) : Bool := c = '\n' || (' ' ≤ c && c ≤ '~')

def Plain (t : List Char) : Prop := t.all isPlain = true

variable {t u : List Char} {c first last : Char} {items : List (List Char)}

theorem Plain.isPlain (h : Plain t) (hc : c ∈ t) : isPlain c = true := List.all_eq_true.mp h c hc

theorem plain_iff : Plain t ↔ ∀ c ∈ t, Json.isPlain c = true := List.all_eq_true

theorem plain_append_iff : Plain (t ++ u) ↔ Plain t ∧ Plain u := by
  rw [Plain, List.all_append, Bool.and_eq_true]
  rfl

theorem plain_cons_iff : Plain (c :: t) ↔ Plain [c] ∧ Plain t := plain_append_iff (t := [c])

theorem Plain.toNat_lt (h : Plain t) : ∀ c ∈ t, c.toNat < 128 := by
  intro c hc
  have hplain := h.isPlain hc
  simp only [Json.isPlain, Bool.or_eq_true, Bool.and_eq_true, decide_eq_true_eq] at hplain
  rcases hplain with rfl | ⟨-, hle⟩
  · decide
  · exact Nat.lt_of_le_of_lt hle (by decide : '~'.toNat < 128)

/-! ## Texts -/

theorem plain_hexDigits (places n : Nat) : Plain (Text.hexDigits places n) := by
  have hdigit : ∀ d < 16, isPlain (Text.hexDigit d) = true := by decide
  induction places generalizing n with
  | zero => rfl
  | succ places ih =>
    refine plain_append_iff.mpr ⟨ih (n / 16), plain_iff.mpr fun c hc => ?_⟩
    obtain rfl := List.mem_singleton.mp hc
    exact hdigit _ (Nat.mod_lt n (by decide))

theorem plain_unitEscape (n : Nat) : Plain (unitEscape n) :=
  plain_cons_iff.mpr ⟨rfl, plain_cons_iff.mpr ⟨rfl, plain_hexDigits 4 n⟩⟩

theorem plain_writtenChar (c : Char) : Plain (writtenChar c) := by
  rw [writtenChar]
  split
  · next letter hletter =>
    have hletters : ∀ e ∈ letterEscapes, isPlain e.2 = true :=
      List.all_eq_true.mp (rfl : letterEscapes.all (isPlain ·.2) = true)
    refine plain_cons_iff.mpr ⟨rfl, plain_iff.mpr fun d hd => ?_⟩
    obtain rfl := List.mem_singleton.mp hd
    exact hletters _ (mem_letterEscapes hletter)
  · split
    · next hrange =>
      refine plain_iff.mpr fun d hd => ?_
      obtain rfl := List.mem_singleton.mp hd
      simp [isPlain, hrange]
    · rw [codePointEscape]
      split
      · exact plain_unitEscape _
      · exact plain_append_iff.mpr ⟨plain_unitEscape _, plain_unitEscape _⟩

theorem plain_writtenText (s : String) : Plain (writtenText s) := by
  have hchars : Plain (s.toList.flatMap writtenChar) := by
    refine plain_iff.mpr fun c hc => ?_
    obtain ⟨d, -, hd⟩ := List.mem_flatMap.mp hc
    exact (plain_writtenChar d).isPlain hd
  exact plain_append_iff.mpr ⟨plain_cons_iff.mpr ⟨rfl, hchars⟩, rfl⟩

/-! ## Trees -/

theorem plain_toString (n : Int) : Plain (toString n).toList := by
  have hdigits (m : Nat) : Plain (Nat.toDigits 10 m) := by
    refine plain_iff.mpr fun c hc => ?_
    have hdigit := (isWhole_toDigits m).digit c hc
    simp only [Char.isDigit, Bool.and_eq_true, decide_eq_true_eq] at hdigit
    have hlow : ' ' ≤ c := Char.le_trans (by decide) hdigit.1
    have hhigh : c ≤ '~' := Char.le_trans hdigit.2 (by decide)
    simp [isPlain, hlow, hhigh]
  obtain ⟨m, ⟨hm, -⟩ | ⟨hm, -⟩⟩ := toList_toString n
  · rw [hm]
    exact hdigits m
  · rw [hm]
    exact plain_cons_iff.mpr ⟨rfl, hdigits m⟩

theorem plain_newline (depth : Nat) : Plain (newline depth) := by
  refine plain_iff.mpr fun c hc => ?_
  rw [newline, List.mem_cons, List.mem_replicate] at hc
  rcases hc with rfl | ⟨-, rfl⟩ <;> rfl

theorem plain_enclosed (hfirst : isPlain first = true) (hlast : isPlain last = true) (depth : Nat)
    (hitems : ∀ item ∈ items, Plain item) : Plain (enclosed first last depth items) := by
  have hclose : Plain [last] := by simpa [Plain] using hlast
  have hopen : Plain [first] := by simpa [Plain] using hfirst
  cases items with
  | nil => exact plain_cons_iff.mpr ⟨hopen, hclose⟩
  | cons item rest =>
    have hmore : Plain (moreLines (depth + 1) rest) := by
      refine plain_iff.mpr fun c hc => ?_
      obtain ⟨other, hother, hc⟩ := List.mem_flatMap.mp hc
      have hline : Plain (',' :: newline (depth + 1) ++ other) :=
        plain_append_iff.mpr ⟨plain_cons_iff.mpr ⟨rfl, plain_newline _⟩,
          hitems other (List.mem_cons_of_mem _ hother)⟩
      exact hline.isPlain hc
    rw [enclosed_cons, plain_cons_iff]
    simp only [plain_append_iff]
    exact ⟨hopen, plain_newline _, hitems item List.mem_cons_self, hmore, plain_newline _, hclose⟩

theorem plain_written (j : Json) (depth : Nat) : Plain (j.written depth) := by
  induction j using induct generalizing depth with
  | null => exact (rfl : Plain ['n', 'u', 'l', 'l'])
  | int n => exact plain_toString n
  | text s => exact plain_writtenText s
  | list items ih =>
    rw [written, writtenItems_eq_map]
    refine plain_enclosed rfl rfl depth fun item hitem => ?_
    obtain ⟨j, hj, rfl⟩ := List.mem_map.mp hitem
    exact ih j hj (depth + 1)
  | record fields ih =>
    rw [written, writtenFields_eq_map]
    refine plain_enclosed rfl rfl depth fun item hitem => ?_
    obtain ⟨f, hf, rfl⟩ := List.mem_map.mp hitem
    exact plain_append_iff.mpr
      ⟨plain_append_iff.mpr ⟨plain_writtenText f.1, rfl⟩, ih f hf (depth + 1)⟩

end Linting.Json
