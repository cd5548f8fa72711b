import Mathlib.Data.List.Chain
import Linting.Buffer
import Linting.Text.Newline

/-! The rows of a text. A text has exactly one layout in rows, with a break between each and the
next: the rows hold no break, and a return with a feed behind it counts as one break. A buffer
answers from these rows, which stay the same where every break is replaced by a feed. -/

namespace Linting
open Text (unifyNewlines)
set_option autoImplicit false

/-! ## Layouts -/

inductive Break where
  | pair
  | ret
  | feed
deriving DecidableEq

def Break.text : Break → List Char
  | pair => ['\r', '\n']
  | ret => ['\r']
  | feed => ['\n']

def Unbroken (row : List Char) : Prop := '\r' ∉ row ∧ '\n' ∉ row

instance (row : List Char) : Decidable (Unbroken row) := inferInstanceAs (Decidable (_ ∧ _))

theorem unbroken_nil : Unbroken [] := ⟨List.not_mem_nil, List.not_mem_nil⟩

theorem unbroken_cons {c : Char} {row : List Char} :
    Unbroken (c :: row) ↔ (c ≠ '\r' ∧ c ≠ '\n') ∧ Unbroken row := by
  rw [Unbroken, List.mem_cons, List.mem_cons, not_or, not_or, and_and_and_comm]
  exact and_congr_left' (and_congr ne_comm ne_comm)

/-- A text in rows: the first row, and each other one with the break in front of it. -/
structure Layout where
  first : List Char
  others : List (Break × List Char)
deriving DecidableEq

namespace Layout

def text (l : Layout) : List Char :=
  l.first ++ l.others.flatMap fun other => other.1.text ++ other.2

def rows (l : Layout) : List (List Char) := l.first :: l.others.map Prod.snd

/-- Whether a layout is the one to be read from its text: no row holds a break, and no lone return
is followed by an empty row that a lone feed ends. -/
structure Proper (l : Layout) : Prop where
  unbroken : ∀ row ∈ l.rows, Unbroken row
  apart : l.others.IsChain fun other next => ¬ (other = (.ret, []) ∧ next.1 = .feed)

def empty : Layout := ⟨[], []⟩

/-- A layout behind an empty row and a break. -/
def behind (b : Break) (l : Layout) : Layout := ⟨[], (b, l.first) :: l.others⟩

/-- A layout with a character in front of the first row. -/
def push (c : Char) (l : Layout) : Layout := { l with first := c :: l.first }

/-- Every layout is built from its end, one character or one break at a time. -/
theorem induct {motive : Layout → Prop} (empty : motive empty)
    (behind : ∀ b l, motive l → motive (behind b l))
    (push : ∀ c l, motive l → motive (push c l)) (l : Layout) : motive l := by
  obtain ⟨first, others⟩ := l
  induction others generalizing first with
  | nil =>
    induction first with
    | nil => exact empty
    | cons c first ih => exact push c ⟨first, []⟩ ih
  | cons other others ih =>
    induction first with
    | nil => exact behind other.1 ⟨other.2, others⟩ (ih other.2)
    | cons c first ih' => exact push c ⟨first, other :: others⟩ ih'

@[simp] theorem text_behind (b : Break) (l : Layout) : (l.behind b).text = b.text ++ l.text := by
  simp [text, behind]

@[simp] theorem text_push (c : Char) (l : Layout) : (l.push c).text = c :: l.text := rfl

@[simp] theorem rows_behind (b : Break) (l : Layout) : (l.behind b).rows = [] :: l.rows := rfl

@[simp] theorem rows_push (c : Char) (l : Layout) : (l.push c).rows = consFirst c l.rows := rfl

theorem proper_empty : empty.Proper where
  unbroken := by simpa [rows, empty] using unbroken_nil
  apart := .nil

theorem proper_push_iff {c : Char} {l : Layout} :
    (l.push c).Proper ↔ (c ≠ '\r' ∧ c ≠ '\n') ∧ l.Proper := by
  have hrows : (∀ row ∈ (l.push c).rows, Unbroken row) ↔
      (c ≠ '\r' ∧ c ≠ '\n') ∧ ∀ row ∈ l.rows, Unbroken row := by
    rw [rows, rows, push, List.forall_mem_cons, List.forall_mem_cons, unbroken_cons, and_assoc]
  constructor
  · rintro ⟨hunbroken, hapart⟩
    obtain ⟨hc, hunbroken⟩ := hrows.mp hunbroken
    exact ⟨hc, hunbroken, hapart⟩
  · rintro ⟨hc, hunbroken, hapart⟩
    exact ⟨hrows.mpr ⟨hc, hunbroken⟩, hapart⟩

/-- Where a text begins with a feed, its layout begins with an empty row and a lone feed. -/
theorem head?_text_iff {l : Layout} (h : ∀ row ∈ l.rows, Unbroken row) :
    l.text.head? = some '\n' ↔ l.first = [] ∧ ∃ next ∈ l.others.head?, next.1 = .feed := by
  obtain ⟨first, others⟩ := l
  have hfirst : '\n' ∉ first := (h first (List.mem_cons_self ..)).2
  cases first with
  | cons c first =>
    have hc : c ≠ '\n' := fun hc => hfirst (hc ▸ List.mem_cons_self ..)
    simp [text, hc]
  | nil =>
    cases others with
    | nil => simp [text]
    | cons next others =>
      obtain ⟨b, row⟩ := next
      cases b <;> simp [text, Break.text]

theorem proper_behind_iff {b : Break} {l : Layout} :
    (l.behind b).Proper ↔ (b = .ret → l.text.head? ≠ some '\n') ∧ l.Proper := by
  have hrows : (∀ row ∈ (l.behind b).rows, Unbroken row) ↔ ∀ row ∈ l.rows, Unbroken row := by
    rw [rows_behind, List.forall_mem_cons, and_iff_right unbroken_nil]
  have happart : ((l.behind b).others.IsChain fun other next =>
        ¬ (other = (.ret, []) ∧ next.1 = .feed)) ↔
      (b = .ret → ¬ (l.first = [] ∧ ∃ next ∈ l.others.head?, next.1 = .feed)) ∧
        l.others.IsChain fun other next => ¬ (other = (.ret, []) ∧ next.1 = .feed) := by
    rw [behind, List.isChain_cons, Prod.mk.injEq]
    apply and_congr_left
    intro
    constructor
    · rintro hnext hb ⟨hfirst, next, hmem, hfeed⟩
      exact hnext next hmem ⟨⟨hb, hfirst⟩, hfeed⟩
    · rintro hnot next hmem ⟨⟨hb, hfirst⟩, hfeed⟩
      exact hnot hb ⟨hfirst, next, hmem, hfeed⟩
  constructor
  · rintro ⟨hunbroken, hchain⟩
    have hunbroken := hrows.mp hunbroken
    obtain ⟨hb, hchain⟩ := happart.mp hchain
    exact ⟨fun hret => mt (head?_text_iff hunbroken).mp (hb hret), hunbroken, hchain⟩
  · rintro ⟨hb, hunbroken, hchain⟩
    refine ⟨hrows.mpr hunbroken, happart.mpr ⟨fun hret => ?_, hchain⟩⟩
    exact mt (head?_text_iff hunbroken).mpr (hb hret)

end Layout

/-! ## Reading layouts -/

def layoutOf : List Char → Layout
  | [] => .empty
  | '\r' :: '\n' :: rest => (layoutOf rest).behind .pair
  | '\r' :: rest => (layoutOf rest).behind .ret
  | '\n' :: rest => (layoutOf rest).behind .feed
  | c :: rest => (layoutOf rest).push c

section Reading

variable {b : Break} {c : Char} {rest : List Char}

theorem ne_cons_of_head? (h : rest.head? ≠ some '\n') (rest' : List Char) :
    rest = '\n' :: rest' → False := by
  rintro rfl
  exact h rfl

theorem layoutOf_break (h : b = .ret → rest.head? ≠ some '\n') :
    layoutOf (b.text ++ rest) = (layoutOf rest).behind b := by
  cases b with
  | pair => rfl
  | feed => rfl
  | ret =>
    rw [Break.text, List.singleton_append, layoutOf]
    exact ne_cons_of_head? (h rfl)

theorem rows_break (h : b = .ret → rest.head? ≠ some '\n') :
    rows (b.text ++ rest) = [] :: rows rest := by
  cases b with
  | pair => rfl
  | feed => rfl
  | ret =>
    rw [Break.text, List.singleton_append, rows]
    exact ne_cons_of_head? (h rfl)

theorem unifyNewlines_break (h : b = .ret → rest.head? ≠ some '\n') :
    unifyNewlines (b.text ++ rest) = '\n' :: unifyNewlines rest := by
  cases b with
  | pair => rfl
  | feed => rfl
  | ret =>
    rw [Break.text, List.singleton_append, unifyNewlines]
    exact ne_cons_of_head? (h rfl)

theorem layoutOf_char (hreturn : c ≠ '\r') (hfeed : c ≠ '\n') :
    layoutOf (c :: rest) = (layoutOf rest).push c := by
  rw [layoutOf]
  · exact fun _ h _ => hreturn h
  · exact hreturn
  · exact hfeed

theorem rows_char (hreturn : c ≠ '\r') (hfeed : c ≠ '\n') :
    rows (c :: rest) = consFirst c (rows rest) := by
  rw [rows]
  · exact fun _ h _ => hreturn h
  · exact hreturn
  · exact hfeed

theorem unifyNewlines_char (hreturn : c ≠ '\r') :
    unifyNewlines (c :: rest) = c :: unifyNewlines rest := by
  rw [unifyNewlines]
  · exact fun _ h _ => hreturn h
  · exact hreturn

end Reading

/-- Whether a text has the layout that is read from it. -/
def LaidOut (text : List Char) : Prop := (layoutOf text).Proper ∧ (layoutOf text).text = text

theorem LaidOut.behind {b : Break} {rest : List Char} (h : LaidOut rest)
    (hb : b = .ret → rest.head? ≠ some '\n') : LaidOut (b.text ++ rest) := by
  rw [LaidOut, layoutOf_break hb, Layout.proper_behind_iff, Layout.text_behind, h.2]
  exact ⟨⟨hb, h.1⟩, rfl⟩

/-- Every text has a layout. -/
theorem laidOut (text : List Char) : LaidOut text := by
  induction text using layoutOf.induct with
  | case1 => exact ⟨Layout.proper_empty, rfl⟩
  | case2 rest ih => exact ih.behind (b := .pair) nofun
  | case3 rest hnot ih =>
    apply ih.behind (b := .ret)
    intro _ hhead
    obtain ⟨rest', rfl⟩ := List.head?_eq_some_iff.mp hhead
    exact hnot rest' rfl
  | case4 rest ih => exact ih.behind (b := .feed) nofun
  | case5 c rest _ hreturn hfeed ih =>
    rw [LaidOut, layoutOf_char hreturn hfeed, Layout.proper_push_iff, Layout.text_push, ih.2]
    exact ⟨⟨⟨hreturn, hfeed⟩, ih.1⟩, rfl⟩

namespace Layout

variable {l : Layout}

/-- No text has another layout. -/
theorem layoutOf_text (h : l.Proper) : layoutOf l.text = l := by
  induction l using Layout.induct with
  | empty => rfl
  | behind b l ih =>
    obtain ⟨hb, hl⟩ := proper_behind_iff.mp h
    rw [text_behind, layoutOf_break hb, ih hl]
  | push c l ih =>
    obtain ⟨⟨hreturn, hfeed⟩, hl⟩ := proper_push_iff.mp h
    rw [text_push, layoutOf_char hreturn hfeed, ih hl]

theorem rows_text (h : l.Proper) : Linting.rows l.text = l.rows := by
  induction l using Layout.induct with
  | empty => rfl
  | behind b l ih =>
    obtain ⟨hb, hl⟩ := proper_behind_iff.mp h
    rw [text_behind, rows_break hb, rows_behind, ih hl]
  | push c l ih =>
    obtain ⟨⟨hreturn, hfeed⟩, hl⟩ := proper_push_iff.mp h
    rw [text_push, rows_char hreturn hfeed, rows_push, ih hl]

/-! ## Feeds only -/

/-- The layout with a feed in place of every break. -/
def fed (l : Layout) : Layout :=
  { l with others := l.others.map fun other => (.feed, other.2) }

theorem fed_behind (b : Break) (l : Layout) : (l.behind b).fed = l.fed.behind .feed := rfl

theorem fed_push (c : Char) (l : Layout) : (l.push c).fed = l.fed.push c := rfl

theorem rows_fed (l : Layout) : l.fed.rows = l.rows := by
  rw [rows, rows, fed, List.map_map]
  rfl

theorem Proper.fed (h : l.Proper) : l.fed.Proper := by
  induction l using Layout.induct with
  | empty => exact proper_empty
  | behind b l ih =>
    rw [fed_behind, proper_behind_iff]
    exact ⟨nofun, ih (proper_behind_iff.mp h).2⟩
  | push c l ih =>
    obtain ⟨hc, hl⟩ := proper_push_iff.mp h
    rw [fed_push, proper_push_iff]
    exact ⟨hc, ih hl⟩

theorem text_fed (h : l.Proper) : l.fed.text = unifyNewlines l.text := by
  induction l using Layout.induct with
  | empty => rfl
  | behind b l ih =>
    obtain ⟨hb, hl⟩ := proper_behind_iff.mp h
    rw [fed_behind, text_behind, text_behind, unifyNewlines_break hb, ih hl]
    rfl
  | push c l ih =>
    obtain ⟨⟨hreturn, hfeed⟩, hl⟩ := proper_push_iff.mp h
    rw [fed_push, text_push, text_push, unifyNewlines_char hreturn, ih hl]

end Layout

/-- The rows of a text do not depend on how its breaks are written. -/
theorem rows_unifyNewlines (text : List Char) : rows (unifyNewlines text) = rows text := by
  obtain ⟨hproper, htext⟩ := laidOut text
  have hfed := Layout.rows_text hproper.fed
  rw [Layout.text_fed hproper, Layout.rows_fed, ← Layout.rows_text hproper, htext] at hfed
  exact hfed

/-! ## Items at a place -/

section Items

variable {α β : Type} {items : List α} {place : Int}

theorem itemAt_map (f : α → β) (items : List α) (place : Int) :
    itemAt (items.map f) place = (itemAt items place).map f := by
  unfold itemAt
  rw [List.length_map]
  generalize (if place < 0 then place + (items.length : Int) else place) = index
  cases index with
  | negSucc i => rfl
  | ofNat i =>
    dsimp only
    rw [List.getElem?_map]
    cases items[i]? with
    | none => rfl
    | some item => rfl

/-- An item is found by its index, and by its distance from the end. -/
theorem itemAt_of_index {i : Nat} (hi : i < items.length)
    (h : place = i ∨ place = i - items.length) : itemAt items place = .ok items[i] := by
  have hindex : (if place < 0 then place + (items.length : Int) else place) = .ofNat i := by
    change _ = (i : Int)
    split <;> omega
  unfold itemAt
  rw [hindex]
  simp [hi]

theorem itemAt_out (h : ¬ (-items.length ≤ place ∧ place < items.length)) :
    itemAt items place = .error .outOfRange := by
  unfold itemAt
  cases hindex : (if place < 0 then place + (items.length : Int) else place) with
  | negSucc i => rfl
  | ofNat i =>
    have hi : items.length ≤ i := by
      rw [Int.ofNat_eq_natCast] at hindex
      split at hindex <;> omega
    simp [List.getElem?_eq_none hi]

/-- There is an item at the places from the distance of the first to the index of the last. -/
theorem exists_index (h : -items.length ≤ place ∧ place < items.length) :
    ∃ i, i < items.length ∧ (place = i ∨ place = i - items.length) := by
  by_cases hneg : place < 0
  · exact ⟨(place + items.length).toNat, by omega, by omega⟩
  · exact ⟨place.toNat, by omega, by omega⟩

end Items

/-! ## Buffers -/

section Buffer

variable (text : String)

theorem lineForRow_ofString (row : Int) :
    (TextBuffer.ofString text).lineForRow row =
      (itemAt (rows text.toList) row).map String.ofList := itemAt_map ..

theorem lineCount_ofString :
    (TextBuffer.ofString text).lineCount = (rows text.toList).length := by
  change (((rows text.toList).map String.ofList).length : Int) = _
  rw [List.length_map]

/-- The length of a row is that of its text, whether there is such a row or not. -/
theorem lineLengthForRow_ofString (row : Int) :
    (TextBuffer.ofString text).lineLengthForRow row =
      ((TextBuffer.ofString text).lineForRow row).map fun line => (line.length : Int) :=
  itemAt_map ..

/-- A buffer over a text answers from the rows of the one layout that the text has: no row holds a
break, and together with the breaks between them they are the text. Each row is found by its number
and by its distance from the end, and there are no others. Breaks may be replaced by feeds. -/
theorem buffer_lays_out_text :
    ∃ l : Layout, l.Proper ∧ l.text = text.toList ∧
      (∀ other : Layout, other.Proper → other.text = text.toList → other = l) ∧
      (TextBuffer.ofString text).lineCount = l.rows.length ∧
      1 ≤ (TextBuffer.ofString text).lineCount ∧
      (∀ row : Int, -l.rows.length ≤ row ∧ row < l.rows.length →
        ∃ (i : Nat) (line : String), (row = i ∨ row = i - l.rows.length) ∧
          l.rows[i]? = some line.toList ∧
          (TextBuffer.ofString text).lineForRow row = .ok line ∧
          (TextBuffer.ofString text).lineLengthForRow row = .ok line.length) ∧
      (∀ row : Int, ¬ (-l.rows.length ≤ row ∧ row < l.rows.length) →
        (TextBuffer.ofString text).lineForRow row = .error .outOfRange ∧
        (TextBuffer.ofString text).lineLengthForRow row = .error .outOfRange) ∧
      l.fed.text = unifyNewlines text.toList ∧
      TextBuffer.ofString (String.ofList (unifyNewlines text.toList)) =
        TextBuffer.ofString text := by
  obtain ⟨hproper, htext⟩ := laidOut text.toList
  have hrows : rows text.toList = (layoutOf text.toList).rows := by
    rw [← Layout.rows_text hproper, htext]
  refine ⟨layoutOf text.toList, hproper, htext, ?_, ?_, ?_, ?_, ?_, ?_, ?_⟩
  · intro other hother hsame
    rw [← hsame, Layout.layoutOf_text hother]
  · rw [lineCount_ofString, hrows]
  · rw [lineCount_ofString, hrows, Layout.rows, List.length_cons]
    omega
  · intro row hrow
    obtain ⟨i, hi, hplace⟩ := exists_index hrow
    have hline : (TextBuffer.ofString text).lineForRow row =
        .ok (String.ofList (layoutOf text.toList).rows[i]) := by
      rw [lineForRow_ofString, hrows, itemAt_of_index hi hplace]
      rfl
    refine ⟨i, _, hplace, ?_, hline, ?_⟩
    · rw [String.toList_ofList, List.getElem?_eq_getElem hi]
    · rw [lineLengthForRow_ofString, hline]
      rfl
  · intro row hrow
    have hline : (TextBuffer.ofString text).lineForRow row = .error .outOfRange := by
      rw [lineForRow_ofString, hrows, itemAt_out hrow]
      rfl
    refine ⟨hline, ?_⟩
    rw [lineLengthForRow_ofString, hline]
    rfl
  · rw [Layout.text_fed hproper, htext]
  · rw [TextBuffer.ofString, TextBuffer.ofString, String.toList_ofList, rows_unifyNewlines]

/-- A return in front of a pair, and a feed at the end. The last row but one is found from the
end. -/
theorem buffer_lays_out_text_mixed :
    ∃ l : Layout, l = ⟨['a'], [(.ret, []), (.pair, ['b']), (.feed, [])]⟩ ∧ l.Proper ∧
      l.text = "a\r\r\nb\n".toList ∧ -l.rows.length ≤ (-2 : Int) ∧ (-2 : Int) < l.rows.length ∧
      ¬ (-l.rows.length ≤ (4 : Int) ∧ (4 : Int) < l.rows.length) ∧
      (TextBuffer.ofString "a\r\r\nb\n").lineForRow (-2) = .ok "b" ∧
      (TextBuffer.ofString "a\r\r\nb\n").lineForRow 4 = .error .outOfRange := by
  have hproper : Layout.Proper ⟨['a'], [(.ret, []), (.pair, ['b']), (.feed, [])]⟩ :=
    ⟨by decide, by decide⟩
  have htext : Layout.text ⟨['a'], [(.ret, []), (.pair, ['b']), (.feed, [])]⟩ =
      "a\r\r\nb\n".toList := by decide +kernel
  obtain ⟨l, -, -, hunique, -, -, hrows, hout, -⟩ := buffer_lays_out_text "a\r\r\nb\n"
  obtain rfl := hunique _ hproper htext
  obtain ⟨i, line, hplace, hline, hrow, -⟩ := hrows (-2) (by decide)
  obtain rfl : i = 2 := by
    simp only [Layout.rows, List.length_cons, List.map_cons, List.map_nil,
      List.length_nil] at hplace
    omega
  obtain rfl : line = "b" := String.toList_inj.mp (Option.some.inj hline).symm
  exact ⟨_, rfl, hproper, htext, by decide, by decide, by decide, hrow, (hout 4 (by decide)).1⟩

end Buffer

end Linting
