import Mathlib.Algebra.Order.Floor.Semifield
import Mathlib.Data.Nat.Digits.Lemmas
import Mathlib.Data.Rat.Floor
import Linting.LineRange
import Linting.Proofs.Buffer.Rows
import Linting.Proofs.Number.Exact
import Linting.Proofs.Stretch

/-! Ranges in a buffer. The positions that a range is asked for with are numbers of any kind, and
only what they are as rational numbers counts. Over a text, a range starts in a row and within the
length of it; what is refused is a row behind the last one or a column behind the end of the row.
The positions of a range, asked for again, give the same range in every buffer. -/

namespace Linting
set_option autoImplicit false

/-! ## Numbers and positions -/

namespace Value

/-- The number that a value is. Truth values are none. -/
def number? : Value → Option ℚ
  | .int n => some n
  | .float x => x.exact?
  | _ => none

/-- Whether a value gives a position: it is a number that is not negative, and the position is the
number less its fraction. -/
def IsPosition (v : Value) (n : Nat) : Prop := ∃ q ∈ v.number?, 0 ≤ q ∧ ⌊q⌋₊ = n

/-- The position that a value gives, or else another one. -/
def Gives (v : Value) (otherwise n : Nat) : Prop :=
  v.IsPosition n ∨ (∀ k, ¬ v.IsPosition k) ∧ n = otherwise

end Value

section Positions
open Number

theorem number?_whole (n : Nat) :
    (Value.float (.finite false (n * Binary64.unitsPerOne))).number? = some (n : ℚ) :=
  exact_whole n

theorem isPosition_finite {negative : Bool} {units n : Nat} :
    (Value.float (.finite negative units)).IsPosition n ↔
      (negative = true → units = 0) ∧ units / Binary64.unitsPerOne = n := by
  have hfloor : ⌊(units / Binary64.unitsPerOne : ℚ)⌋₊ = units / Binary64.unitsPerOne :=
    Nat.floor_div_eq_div ..
  cases negative with
  | false =>
    have hnonneg : (0 : ℚ) ≤ units / Binary64.unitsPerOne :=
      div_nonneg units.cast_nonneg unitsPerOne_pos.le
    simp only [Value.IsPosition, Value.number?, Binary64.exact?, Bool.false_eq_true, if_false,
      Option.mem_some_iff, exists_eq_left', hnonneg, true_and, false_imp_iff, hfloor]
  | true =>
    simp only [Value.IsPosition, Value.number?, Binary64.exact?, if_true, Option.mem_some_iff,
      exists_eq_left', nonneg_neg_magnitude_iff, true_imp_iff]
    apply and_congr_right
    rintro rfl
    rw [Nat.cast_zero, zero_div, neg_zero, Nat.floor_zero, Nat.zero_div]

theorem isPosition_int {m : Int} {n : Nat} : (Value.int m).IsPosition n ↔ m = n := by
  simp only [Value.IsPosition, Value.number?, Option.mem_some_iff, exists_eq_left',
    Int.cast_nonneg_iff]
  constructor
  · rintro ⟨hnonneg, hfloor⟩
    obtain ⟨k, rfl⟩ := Int.eq_ofNat_of_zero_le hnonneg
    rw [Int.cast_natCast, Nat.floor_natCast] at hfloor
    exact congrArg _ hfloor
  · rintro rfl
    exact ⟨Int.natCast_nonneg n, by rw [Int.cast_natCast, Nat.floor_natCast]⟩

/-- What is usable is what gives a position. -/
theorem usable?_eq_some_iff {v : Value} {n : Nat} : usable? v = some n ↔ v.IsPosition n := by
  cases v with
  | int m =>
    rw [isPosition_int]
    cases m with
    | ofNat k => simp [usable?]
    | negSucc k => simp [usable?]
  | float x =>
    cases x with
    | finite negative units =>
      rw [isPosition_finite]
      cases negative <;> simp [usable?, Binary64.isFinite, Binary64.isNonnegative,
        Binary64.wholePart]
    | _ => simp [usable?, Binary64.isFinite, Value.IsPosition, Value.number?, Binary64.exact?]
  | _ => simp [usable?, Value.IsPosition, Value.number?]

theorem usable?_eq_none_iff {v : Value} : usable? v = none ↔ ∀ n, ¬ v.IsPosition n := by
  simp only [← usable?_eq_some_iff, Option.eq_none_iff_forall_ne_some]

theorem gives_iff {v : Value} {otherwise n : Nat} :
    v.Gives otherwise n ↔ (usable? v).getD otherwise = n := by
  rw [Value.Gives, ← usable?_eq_some_iff, ← usable?_eq_none_iff]
  cases usable? v with
  | none => simp [eq_comm]
  | some k => simp

/-- A number equal to a position gives it. -/
theorem isPosition_of_number? {v : Value} {n : Nat} (h : v.number? = some (n : ℚ)) :
    v.IsPosition n := ⟨n, h, n.cast_nonneg, Nat.floor_natCast n⟩

end Positions

/-! ## Asking again -/

section Buffers
variable {b : TextBuffer} {line column length : Value} {range : TextRange}

/-- When there is a range, in terms of what the buffer answers. -/
theorem rangeIn_eq_ok_iff : rangeIn (some b) line column length = .ok range ↔
    ∃ (row start : Nat) (size : Int), line.Gives 0 row ∧ (row : Int) ≤ b.lineCount - 1 ∧
      b.startColumn row column = .ok start ∧ b.lineLengthForRow row = .ok size ∧
      (start : Int) ≤ size ∧
      ∃ span : Nat, length.Gives (size - start).toNat span ∧
        range = ⟨⟨row, start⟩, ⟨row, start + span⟩⟩ := by
  simp only [gives_iff]
  constructor
  · intro h
    rw [rangeIn, TextBuffer.rangeAt] at h
    split at h
    · cases h
    next hlast =>
      split at h
      · cases h
      next start hstart =>
        rw [TextBuffer.rangeFrom] at h
        split at h
        · cases h
        next size hsize =>
          split at h
          · cases h
          next hcolumn =>
            cases h
            exact ⟨_, start, size, rfl, not_lt.mp hlast, hstart, hsize, not_lt.mp hcolumn, _, rfl,
              rfl⟩
  · rintro ⟨row, start, size, rfl, hlast, hstart, hsize, hcolumn, span, rfl, rfl⟩
    simp only [rangeIn, TextBuffer.rangeAt, TextBuffer.rangeFrom, hstart, hsize, if_false,
      not_lt.mpr hlast, not_lt.mpr hcolumn]

theorem startColumn_of_isPosition {row start : Nat} (h : column.IsPosition start) :
    b.startColumn row column = .ok start := by
  rw [TextBuffer.startColumn, usable?_eq_some_iff.mpr h]

/-- A range lies in one row and does not end before it starts. Asked for by its own row, column and
length, as numbers of any kind, it is the range again, in every buffer. -/
theorem range_stable_under_reuse (h : rangeIn (some b) line column length = .ok range) :
    range.stop.line = range.start.line ∧ range.start.column ≤ range.stop.column ∧
    rangeIn (some b) (.int range.start.line) (.int range.start.column)
      (.int (range.stop.column - range.start.column)) = .ok range ∧
    ∀ line' column' length' : Value, line'.number? = some (range.start.line : ℚ) →
      column'.number? = some (range.start.column : ℚ) →
      length'.number? = some ((range.stop.column : ℚ) - range.start.column) →
      rangeIn (some b) line' column' length' = .ok range := by
  obtain ⟨row, start, size, -, hlast, -, hsize, hstart, span, -, rfl⟩ := rangeIn_eq_ok_iff.mp h
  have hagain : ∀ line' column' length' : Value, line'.number? = some (row : ℚ) →
      column'.number? = some (start : ℚ) →
      length'.number? = some (((start + span : Nat) : ℚ) - start) →
      rangeIn (some b) line' column' length' = .ok ⟨⟨row, start⟩, ⟨row, start + span⟩⟩ := by
    intro line' column' length' hline hcolumn hlength
    rw [Nat.cast_add, add_sub_cancel_left] at hlength
    exact rangeIn_eq_ok_iff.mpr ⟨row, start, size, .inl (isPosition_of_number? hline), hlast,
      startColumn_of_isPosition (isPosition_of_number? hcolumn), hsize, hstart, span,
      .inl (isPosition_of_number? hlength), rfl⟩
  refine ⟨rfl, Nat.le_add_right start span, hagain _ _ _ ?_ ?_ ?_, hagain⟩
  · simp [Value.number?]
  · simp [Value.number?]
  · simp [Value.number?]

/-- A buffer whose row is shorter than the length it reports, and floating-point numbers equal to
the places found, the row being a negative zero. -/
theorem range_stable_under_reuse_floats :
    let b := TextBuffer.ofLists 7 ["  x"] [9]
    rangeIn (some b) .null .null .null = .ok ⟨⟨0, 2⟩, ⟨0, 9⟩⟩ ∧
      rangeIn (some b) (.float (.finite true 0))
        (.float (.finite false (2 * Number.Binary64.unitsPerOne)))
        (.float (.finite false (7 * Number.Binary64.unitsPerOne))) = .ok ⟨⟨0, 2⟩, ⟨0, 9⟩⟩ := by
  intro b
  have h : rangeIn (some b) .null .null .null = .ok ⟨⟨0, 2⟩, ⟨0, 9⟩⟩ := by decide +kernel
  refine ⟨h, (range_stable_under_reuse h).2.2.2 _ _ _ ?_ ?_ ?_⟩
  · rw [Value.number?, Number.Binary64.exact?, if_pos rfl, Nat.cast_zero, zero_div, neg_zero]
  · rw [number?_whole, Nat.cast_ofNat]
  · rw [number?_whole]
    norm_num

end Buffers

/-! ## Rows of a text -/

section Rows
variable {text : String} {line column length : Value} {range : TextRange} {r : Nat}
  {row : List Char}

theorem lineForRow_of_getElem? (h : (rows text.toList)[r]? = some row) :
    (TextBuffer.ofString text).lineForRow r = .ok (String.ofList row) := by
  obtain ⟨hr, rfl⟩ := List.getElem?_eq_some_iff.mp h
  rw [lineForRow_ofString, itemAt_of_index hr (.inl rfl)]
  rfl

theorem lineLengthForRow_of_getElem? (h : (rows text.toList)[r]? = some row) :
    (TextBuffer.ofString text).lineLengthForRow r = .ok row.length := by
  rw [lineLengthForRow_ofString, lineForRow_of_getElem? h]
  exact congrArg (fun size : Nat => Except.ok (size : Int)) String.length_ofList

theorem rows_ne_nil (text : List Char) : rows text ≠ [] := by
  obtain ⟨hproper, htext⟩ := laidOut text
  rw [← htext, Layout.rows_text hproper, Layout.rows]
  exact List.cons_ne_nil _ _

/-- Whether so many characters of white space stand in front of a row. -/
def Indents (row : List Char) (indent : Nat) : Prop :=
  ∃ blank rest, row = blank ++ rest ∧ blank.length = indent ∧
    (∀ c ∈ blank, Unicode.isBlank c.toNat = true) ∧
    ∀ c, rest.head? = some c → Unicode.isBlank c.toNat = false

theorem indents_iff {indent : Nat} :
    Indents row indent ↔ indentation (String.ofList row) = indent := by
  rw [indentation, String.toList_ofList]
  constructor
  · rintro ⟨blank, rest, rfl, rfl, hblank, hrest⟩
    rw [(takeWhile_stretch hblank hrest).1]
  · rintro rfl
    refine ⟨_, _, List.takeWhile_append_dropWhile.symm, rfl,
      List.all_eq_true.mp List.all_takeWhile, ?_⟩
    intro c hc
    exact head?_dropWhile (p := fun c : Char => Unicode.isBlank c.toNat) hc

theorem indentation_le (row : List Char) : indentation (String.ofList row) ≤ row.length := by
  rw [indentation, String.toList_ofList]
  exact (List.takeWhile_prefix _).length_le

theorem startColumn_ofString (h : (rows text.toList)[r]? = some row) :
    (TextBuffer.ofString text).startColumn r column =
      .ok ((usable? column).getD (indentation (String.ofList row))) := by
  rw [TextBuffer.startColumn, lineForRow_of_getElem? h]
  cases usable? column <;> rfl

/-! ## Places outside of the rows -/

/-- A place is told if it has no more digits than may be written; its bound has no more. -/
theorem told_eq {error : Nat → Int → RangeError} {place bound : Nat} (h : bound ≤ place) :
    RangeError.told error place bound =
      if (Nat.digits 10 place).length ≤ Text.digitLimit then error place bound
      else .unwritable := by
  have hbound : (Nat.digits 10 place).length ≤ Text.digitLimit → Text.isWritable bound = true :=
    fun hplace => Text.isWritable_natCast_iff.mpr
      ((Nat.le_length_digits_le 10 bound place h).trans hplace)
  rw [RangeError.told]
  split
  · next hboth =>
    rw [Bool.and_eq_true, Text.isWritable_natCast_iff] at hboth
    rw [if_pos hboth.1]
  · next hnot =>
    rw [Bool.and_eq_true, Text.isWritable_natCast_iff, not_and] at hnot
    rw [if_neg fun hplace => hnot hplace (hbound hplace)]

theorem rangeIn_behind (hr : (rows text.toList).length ≤ (usable? line).getD 0) :
    rangeIn (some (.ofString text)) line column length =
      .error
        (.told .lineTooLarge ((usable? line).getD 0) ((rows text.toList).length - 1 : Nat)) := by
  have hpos : 0 < (rows text.toList).length := List.length_pos_iff.mpr (rows_ne_nil _)
  have hlast : (((rows text.toList).length - 1 : Nat) : Int) = (rows text.toList).length - 1 := by
    omega
  rw [rangeIn, TextBuffer.rangeAt, lineCount_ofString, ← hlast, if_pos (by omega)]

theorem rangeIn_row (h : (rows text.toList)[(usable? line).getD 0]? = some row) :
    rangeIn (some (.ofString text)) line column length =
      let start := (usable? column).getD (indentation (String.ofList row))
      if row.length < start then .error (.told .columnTooLarge start row.length)
      else
        .ok ⟨⟨(usable? line).getD 0, start⟩,
          ⟨(usable? line).getD 0, start + (usable? length).getD (row.length - start)⟩⟩ := by
  have hr : (usable? line).getD 0 < (rows text.toList).length :=
    (List.getElem?_eq_some_iff.mp h).1
  rw [rangeIn, TextBuffer.rangeAt, lineCount_ofString]
  dsimp only
  rw [if_neg (by omega), startColumn_ofString h]
  dsimp only
  rw [TextBuffer.rangeFrom, lineLengthForRow_of_getElem? h]
  dsimp only
  simp only [Nat.cast_lt, Int.toNat_sub]

/-- The range in rows that values ask for: it starts in the row that the line gives, or else the
first one, at the column that is given, or else behind the white space in front, and goes on for the
length that is given, or else to the end of the row. -/
inductive Within (rows : List (List Char)) (line column length : Value) : TextRange → Prop where
  | mk {r indent start span : Nat} {row : List Char} (inRow : line.Gives 0 r)
    (here : rows[r]? = some row) (indents : Indents row indent)
    (starts : column.Gives indent start) (fits : start ≤ row.length)
    (goesOn : length.Gives (row.length - start) span) :
    Within rows line column length ⟨⟨r, start⟩, ⟨r, start + span⟩⟩

/-- A place that is asked for outside of the rows, with its error: a row behind the last one, or a
column behind the end of the row. -/
inductive Outside (rows : List (List Char)) (line column : Value) : Nat → RangeError → Prop where
  | row {n : Nat} (asked : line.IsPosition n) (behind : rows.length ≤ n) :
    Outside rows line column n (.lineTooLarge n (rows.length - 1 : Nat))
  | column {n r : Nat} {row : List Char} (inRow : line.Gives 0 r) (here : rows[r]? = some row)
    (asked : column.IsPosition n) (behind : row.length < n) :
    Outside rows line column n (.columnTooLarge n row.length)

theorem rangeIn_eq_ok_iff_within : rangeIn (some (.ofString text)) line column length = .ok range ↔
    Within (rows text.toList) line column length range := by
  constructor
  · intro h
    cases hrow : (rows text.toList)[(usable? line).getD 0]? with
    | none =>
      rw [rangeIn_behind (List.getElem?_eq_none_iff.mp hrow)] at h
      cases h
    | some row =>
      rw [rangeIn_row hrow] at h
      dsimp only at h
      split at h
      · cases h
      next hwithin =>
        obtain rfl := Except.ok.inj h
        exact .mk (gives_iff.mpr rfl) hrow (indents_iff.mpr rfl) (gives_iff.mpr rfl)
          (not_lt.mp hwithin) (gives_iff.mpr rfl)
  · rintro ⟨hline, hrow, hindent, hcolumn, hwithin, hspan⟩
    obtain rfl := gives_iff.mp hline
    obtain rfl := indents_iff.mp hindent
    obtain rfl := gives_iff.mp hcolumn
    obtain rfl := gives_iff.mp hspan
    rw [rangeIn_row hrow]
    exact if_neg (not_lt.mpr hwithin)

/-- What is refused is a place outside of the rows. -/
theorem rangeIn_eq_error_iff {e : RangeError} :
    rangeIn (some (.ofString text)) line column length = .error e ↔
      ∃ n told, Outside (rows text.toList) line column n told ∧
        e = if (Nat.digits 10 n).length ≤ Text.digitLimit then told else .unwritable := by
  constructor
  · intro h
    cases hrow : (rows text.toList)[(usable? line).getD 0]? with
    | none =>
      have hbehind := List.getElem?_eq_none_iff.mp hrow
      rw [rangeIn_behind hbehind, told_eq (by omega)] at h
      cases hline : usable? line with
      | none =>
        rw [hline] at hbehind
        exact absurd (List.eq_nil_of_length_eq_zero (Nat.le_zero.mp hbehind)) (rows_ne_nil _)
      | some n =>
        rw [hline] at h hbehind
        exact ⟨n, _, .row (usable?_eq_some_iff.mp hline) hbehind, (Except.error.inj h).symm⟩
    | some row =>
      rw [rangeIn_row hrow] at h
      dsimp only at h
      split at h
      · next hbehind =>
        rw [told_eq hbehind.le] at h
        cases hcolumn : usable? column with
        | none =>
          rw [hcolumn] at hbehind
          exact absurd hbehind (not_lt.mpr (indentation_le row))
        | some n =>
          rw [hcolumn] at h hbehind
          exact ⟨n, _, .column (gives_iff.mpr rfl) hrow (usable?_eq_some_iff.mp hcolumn) hbehind,
            (Except.error.inj h).symm⟩
      · cases h
  · rintro ⟨n, told, ⟨hasked, hbehind⟩ | ⟨hinside, hrow, hasked, hbehind⟩, rfl⟩
    · have hline := usable?_eq_some_iff.mpr hasked
      rw [rangeIn_behind (by rwa [hline]), hline, told_eq (by rw [Option.getD_some]; omega)]
      rfl
    · obtain rfl := gives_iff.mp hinside
      rw [rangeIn_row hrow, usable?_eq_some_iff.mpr hasked]
      dsimp only [Option.getD_some]
      rw [if_pos hbehind, told_eq hbehind.le]

end Rows

/-! ## Main statement -/

/-- Over a text there is a range exactly where one is asked for within the rows. Otherwise a place
outside of them is asked for, and that is the error, with the place and its bound; only if the place
has more digits than may be written is it told that there are too many. -/
theorem range_over_text_exact (text : String) (line column length : Value) :
    (∀ range, rangeIn (some (.ofString text)) line column length = .ok range ↔
      Within (rows text.toList) line column length range) ∧
    (∀ e, rangeIn (some (.ofString text)) line column length = .error e ↔
      ∃ n told, Outside (rows text.toList) line column n told ∧
        e = if (Nat.digits 10 n).length ≤ Text.digitLimit then told else .unwritable) ∧
    ((∃ range, rangeIn (some (.ofString text)) line column length = .ok range) ↔
      ∀ n told, ¬ Outside (rows text.toList) line column n told) := by
  refine ⟨fun range => rangeIn_eq_ok_iff_within, fun e => rangeIn_eq_error_iff, ?_⟩
  constructor
  · rintro ⟨range, hrange⟩ n told houtside
    rw [rangeIn_eq_error_iff.mpr ⟨n, told, houtside, rfl⟩] at hrange
    cases hrange
  · intro hinside
    cases houtcome : rangeIn (some (.ofString text)) line column length with
    | ok range => exact ⟨range, rfl⟩
    | error e =>
      obtain ⟨n, told, houtside, -⟩ := rangeIn_eq_error_iff.mp houtcome
      exact absurd houtside (hinside n told)

/-- A row behind the only one of a text, with a number that may not be written. -/
theorem range_over_text_unwritable :
    Outside (rows "a".toList) (.int (10 ^ Text.digitLimit : Nat)) .null (10 ^ Text.digitLimit)
        (.lineTooLarge (10 ^ Text.digitLimit) 0) ∧
      rangeIn (some (.ofString "a")) (.int (10 ^ Text.digitLimit : Nat)) .null .null =
        .error .unwritable := by
  have hrows : (rows "a".toList).length = 1 := by decide +kernel
  have hbehind : (rows "a".toList).length ≤ 10 ^ Text.digitLimit := by
    rw [hrows]
    exact Nat.one_le_pow _ _ (by decide)
  have houtside : Outside _ _ .null _ _ := .row (isPosition_int.mpr rfl) hbehind
  rw [hrows] at houtside
  refine ⟨houtside, rangeIn_eq_error_iff.mpr ⟨_, _, houtside, ?_⟩⟩
  rw [if_neg]
  rw [Nat.digits_length_le_iff (by decide)]
  exact lt_irrefl _

end Linting
