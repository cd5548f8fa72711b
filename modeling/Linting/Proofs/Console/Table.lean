import Linting.Console
import Linting.Proofs.Number.Exact
import Linting.Proofs.Terminal.Cutting
import Linting.Proofs.Terminal.Markup

/-! The table of diagnostics: when its cells read as the diagnostics do. Places and messages are
read as markup, so a path or a message with a tag in it loses the tag, and a tag can keep the whole
table from being made. So can a position with too many digits. -/

namespace Linting.Console
set_option autoImplicit false
open Terminal Terminal.Markup

variable {d : Diagnostic} {ds : List Diagnostic} {literal : LiteralReader} {coloured : Bool}
  {text place : String} {e : RenderError}

/-! ## Places -/

/-- The line and the column of a diagnostic, with a colon before each. -/
def shownPosition (d : Diagnostic) : List Char :=
  ':' :: Nat.toDigits 10 (d.start.line + 1) ++ ':' :: Nat.toDigits 10 (d.start.column + 1)

/-- The place of a diagnostic as it is to be read: a dash stands for a file that is not known. -/
def shownPlace (d : Diagnostic) : List Char :=
  (if (d.filePath.getD "").isEmpty then ['-'] else (d.filePath.getD "").toList) ++ shownPosition d

/-- Whether a position has no more digits than may be written. -/
def HasWritablePosition (d : Diagnostic) : Prop :=
  (Nat.digits 10 (d.start.line + 1)).length ≤ Text.digitLimit ∧
    (Nat.digits 10 (d.start.column + 1)).length ≤ Text.digitLimit

theorem location_eq_some_iff :
    location d = some place ↔ HasWritablePosition d ∧ place.toList = shownPlace d := by
  have hshown : ((if (d.filePath.getD "").isEmpty then "-" else d.filePath.getD "") ++ ":" ++
      toString (d.start.line + 1) ++ ":" ++ toString (d.start.column + 1)).toList =
        shownPlace d := by
    rw [shownPlace, shownPosition]
    split <;> simp [Nat.toString_eq_repr, Nat.toList_repr]
  rw [location, HasWritablePosition, ← hshown, String.toList_inj]
  constructor
  · intro h
    obtain ⟨line, hline, h⟩ := Option.bind_eq_some_iff.mp h
    obtain ⟨column, hcolumn, h⟩ := Option.bind_eq_some_iff.mp h
    obtain ⟨hline', rfl⟩ := Text.written?_natCast_eq_some_iff.mp hline
    obtain ⟨hcolumn', rfl⟩ := Text.written?_natCast_eq_some_iff.mp hcolumn
    exact ⟨⟨hline', hcolumn'⟩, (Option.some.inj h).symm⟩
  · rintro ⟨⟨hline, hcolumn⟩, rfl⟩
    rw [Text.written?_natCast_eq_some_iff.mpr ⟨hline, rfl⟩,
      Text.written?_natCast_eq_some_iff.mpr ⟨hcolumn, rfl⟩]
    rfl

theorem locate_eq_ok_iff :
    locate d = .ok place ↔ HasWritablePosition d ∧ place.toList = shownPlace d := by
  rw [locate, ← location_eq_some_iff]
  cases location d with
  | none => exact iff_of_false nofun nofun
  | some shown => rw [Option.elim_some, Except.ok.injEq, Option.some.injEq]

theorem locate_eq_error_iff :
    locate d = .error e ↔ e = .unwritable ∧ ¬ HasWritablePosition d := by
  have hnone : location d = none ↔ ¬ HasWritablePosition d := by
    rw [Option.eq_none_iff_forall_ne_some]
    simp only [ne_eq, location_eq_some_iff, not_and]
    constructor
    · intro h hposition
      exact h (String.ofList (shownPlace d)) hposition String.toList_ofList
    · exact fun h _ hposition => absurd hposition h
  rw [locate, ← hnone]
  cases location d with
  | none => rw [Option.elim_none, Except.error.injEq, and_iff_left rfl, eq_comm]
  | some shown => exact iff_of_false nofun fun h => nomatch h.2

theorem places_eq_ok_iff {places : List String} : ds.mapM locate = .ok places ↔
    (∀ d ∈ ds, HasWritablePosition d) ∧ places.map String.toList = ds.map shownPlace := by
  rw [mapM_eq_ok_iff]
  simp only [locate_eq_ok_iff]
  rw [List.forall₂_and_left]
  refine and_congr_right fun _ => ?_
  have hshown : places.map String.toList = ds.map shownPlace ↔
      List.Forall₂ (fun d place => shownPlace d = place.toList) ds places := by
    rw [eq_comm, ← List.forall₂_eq_eq_eq, List.forall₂_map_left_iff, List.forall₂_map_right_iff]
  simp only [hshown, eq_comm]

theorem isQuiet_of_isDigit {c : Char} (h : c.isDigit = true) : IsQuiet c := by
  rw [Char.isDigit, Bool.and_eq_true, decide_eq_true_iff, decide_eq_true_iff] at h
  obtain ⟨hlow, hhigh⟩ := h
  refine ⟨?_, ?_, ?_⟩
  · rintro rfl
    exact absurd hhigh (by decide)
  · rintro rfl
    exact absurd hhigh (by decide)
  · have hnat : 48 ≤ c.toNat := hlow
    rw [isDropped, ← Bool.not_eq_true, List.contains_iff_mem]
    simp only [List.mem_cons, List.not_mem_nil, or_false]
    omega

theorem isQuiet_shownPosition (d : Diagnostic) : ∀ c ∈ shownPosition d, IsQuiet c := by
  have hdigits (n : Nat) : ∀ c ∈ ':' :: Nat.toDigits 10 n, IsQuiet c := by
    intro c hc
    rcases List.mem_cons.mp hc with rfl | hc
    · exact ⟨by decide, by decide, by decide⟩
    · exact isQuiet_of_isDigit (Nat.isDigit_of_mem_toDigits (by decide) (by decide) hc)
  intro c hc
  rcases List.mem_append.mp hc with hc | hc
  · exact hdigits _ c hc
  · exact hdigits _ c hc

/-- The place of a diagnostic is shown as it stands if its file is. -/
theorem literal_shownPlace_iff :
    Literal (shownPlace d) ↔ Literal (d.filePath.getD "").toList := by
  rw [shownPlace, literal_append_iff _ (isQuiet_shownPosition d)]
  split
  · next hempty =>
    have hquiet : ∀ c ∈ ['-'], IsQuiet c := by
      intro c hc
      obtain rfl := List.mem_singleton.mp hc
      exact ⟨by decide, by decide, by decide⟩
    rw [String.isEmpty_iff.mp hempty]
    exact iff_of_true ((literal_append_iff [] hquiet).mpr .nil) .nil
  · rfl

/-- What is in brackets in a place is so in the file. -/
theorem bracketed_infix_of_shownPlace {body : List Char} (h : bracketed body <:+: shownPlace d) :
    bracketed body <:+: (d.filePath.getD "").toList := by
  rw [shownPlace, bracketed_infix_append_iff _ (isQuiet_shownPosition d)] at h
  split at h
  · exact absurd h.length_le (by simp [bracketed])
  · exact h

/-! ## Cells -/

/-- What the cells of a table read, one column after the other. -/
def contents (t : Table) : List (List (List Char)) := t.columns.map fun c => c.cells.map (·.chars)

theorem cell_eq_ok_iff {t : Styled} :
    cell literal text = .ok t ↔ Markup.read literal text = .ok t :=
  mapError_eq_ok_iff

/-- Literal texts are read as they stand, and without styles. -/
theorem cells_of_literal {texts : List String} (h : ∀ text ∈ texts, Literal text.toList) :
    texts.mapM (cell literal) = .ok (texts.map fun text => { chars := text.toList }) := by
  rw [mapM_eq_ok_iff, List.forall₂_map_right_iff, List.forall₂_same]
  exact fun text htext => cell_eq_ok_iff.mpr ((h text htext).read literal)

theorem literal_of_cells {texts : List String} {cells : List Styled}
    (h : texts.mapM (cell literal) = .ok cells)
    (hchars : cells.map (·.chars) = texts.map String.toList) :
    ∀ text ∈ texts, Literal text.toList := by
  have hall := mapM_eq_ok_iff.mp h
  clear h
  induction hall with
  | nil => exact List.forall_mem_nil _
  | cons hread _ ih =>
    obtain ⟨hfirst, hrest⟩ := List.cons.inj hchars
    exact List.forall_mem_cons.mpr
      ⟨read_eq_self_iff.mp ⟨_, cell_eq_ok_iff.mp hread, hfirst⟩, ih hrest⟩

theorem typeCells_iff (coloured : Bool) (ds : List Diagnostic) :
    (typeCells coloured ds).map (·.chars) = (ds.map fun d => (d.type.getD "").toList) ↔
      ∀ d ∈ ds, ∀ c ∈ (d.type.getD "").toList, isDropped c = false := by
  rw [typeCells, List.map_map, List.map_inj_left]
  refine forall₂_congr fun d _ => ?_
  change ((d.type.getD "").toList.filter fun c => !isDropped c) = (d.type.getD "").toList ↔ _
  rw [List.filter_eq_self]
  simp only [Bool.not_eq_true']

theorem mem_columns_iff {locations types texts : List Styled} {c : Column} :
    c ∈ (layout coloured locations types texts).columns ↔ c = ⟨"Location", false, locations⟩ ∨
      c = ⟨"Type", false, types⟩ ∨ c = ⟨"Message", true, texts⟩ := by
  rw [layout, List.mem_cons, List.mem_cons, List.mem_singleton]

/-- The texts that are read as markup. -/
def messages (ds : List Diagnostic) : List String := ds.map fun d => d.text.getD ""

theorem table_eq_ok_iff {t : Table} : table literal coloured ds = .ok t ↔
    ∃ places locations texts, ds.mapM locate = .ok places ∧
      places.mapM (cell literal) = .ok locations ∧
      (messages ds).mapM (cell literal) = .ok texts ∧
      t = layout coloured locations (typeCells coloured ds) texts := by
  constructor
  · intro h
    obtain ⟨places, hplaces, h⟩ := bind_eq_ok_iff.mp h
    obtain ⟨locations, hlocations, h⟩ := bind_eq_ok_iff.mp h
    obtain ⟨texts, htexts, h⟩ := bind_eq_ok_iff.mp h
    exact ⟨places, locations, texts, hplaces, hlocations, htexts, (Except.ok.inj h).symm⟩
  · rintro ⟨places, locations, texts, hplaces, hlocations, htexts, rfl⟩
    exact bind_eq_ok_iff.mpr ⟨places, hplaces, bind_eq_ok_iff.mpr ⟨locations, hlocations,
      bind_eq_ok_iff.mpr ⟨texts, htexts, rfl⟩⟩⟩

/-- The texts of the cells that are read as markup. -/
def IsMarkup (ds : List Diagnostic) (text : List Char) : Prop :=
  ∃ d ∈ ds, text = shownPlace d ∨ text = (d.text.getD "").toList

theorem isMarkup_of_mem_places {places : List String} (h : ds.mapM locate = .ok places)
    (hplace : place ∈ places) : IsMarkup ds place.toList := by
  have hmem : place.toList ∈ ds.map shownPlace :=
    (places_eq_ok_iff.mp h).2 ▸ List.mem_map_of_mem hplace
  obtain ⟨d, hd, hplace⟩ := List.mem_map.mp hmem
  exact ⟨d, hd, .inl hplace.symm⟩

theorem isMarkup_of_mem_messages (h : text ∈ messages ds) : IsMarkup ds text.toList := by
  obtain ⟨d, hd, rfl⟩ := List.mem_map.mp h
  exact ⟨d, hd, .inr rfl⟩

theorem IsMarkup.exists_bracketed {chars body : List Char} (h : IsMarkup ds chars)
    (hpart : bracketed body <:+: chars) :
    ∃ d ∈ ds, bracketed body <:+: (d.filePath.getD "").toList ∨
      bracketed body <:+: (d.text.getD "").toList := by
  obtain ⟨d, hd, rfl | rfl⟩ := h
  · exact ⟨d, hd, .inl (bracketed_infix_of_shownPlace hpart)⟩
  · exact ⟨d, hd, .inr hpart⟩

theorem IsMarkup.holdsTag {chars : List Char} (h : IsMarkup ds chars) (htag : HoldsTag chars) :
    ∃ d ∈ ds, HoldsTag (d.filePath.getD "").toList ∨ HoldsTag (d.text.getD "").toList := by
  obtain ⟨body, hbody, hinfix⟩ := htag
  obtain ⟨d, hd, hplace⟩ := h.exists_bracketed hinfix
  exact ⟨d, hd, hplace.imp (⟨body, hbody, ·⟩) (⟨body, hbody, ·⟩)⟩

theorem IsMarkup.holdsClosingTag {chars : List Char} (h : IsMarkup ds chars)
    (htag : HoldsClosingTag chars) :
    ∃ d ∈ ds, HoldsClosingTag (d.filePath.getD "").toList ∨
      HoldsClosingTag (d.text.getD "").toList := by
  obtain ⟨name, hname, hinfix⟩ := htag
  obtain ⟨d, hd, hplace⟩ := h.exists_bracketed hinfix
  exact ⟨d, hd, hplace.imp (⟨name, hname, ·⟩) (⟨name, hname, ·⟩)⟩

/-! ## Faults -/

/-- No table is made if a position may not be written, or else if a text that is read as markup is
none. -/
theorem table_eq_error (h : table literal coloured ds = .error e) :
    (e = .unwritable ∧ ∃ d ∈ ds, ¬ HasWritablePosition d) ∨
    ((∀ d ∈ ds, HasWritablePosition d) ∧ ∃ e' text, e = .markup e' ∧
      IsMarkup ds text.toList ∧ Markup.read literal text = .error e') := by
  rcases bind_eq_error_iff.mp h with hplaces | ⟨places, hplaces, h⟩
  · obtain ⟨d, hd, hlocate⟩ := mapM_eq_error hplaces
    obtain ⟨rfl, hposition⟩ := locate_eq_error_iff.mp hlocate
    exact .inl ⟨rfl, d, hd, hposition⟩
  · refine .inr ⟨(places_eq_ok_iff.mp hplaces).1, ?_⟩
    rcases bind_eq_error_iff.mp h with hlocations | ⟨locations, -, h⟩
    · obtain ⟨place, hplace, hcell⟩ := mapM_eq_error hlocations
      obtain ⟨e', hread, rfl⟩ := mapError_eq_error_iff.mp hcell
      exact ⟨e', place, rfl, isMarkup_of_mem_places hplaces hplace, hread⟩
    · rcases bind_eq_error_iff.mp h with htexts | ⟨texts, -, h⟩
      · obtain ⟨text, htext, hcell⟩ := mapM_eq_error htexts
        obtain ⟨e', hread, rfl⟩ := mapError_eq_error_iff.mp hcell
        exact ⟨e', text, rfl, isMarkup_of_mem_messages htext, hread⟩
      · cases h

/-- The styles that cannot be read when a table is written were asked for by tags. -/
theorem holdsTag_of_mem_faults {t : Table} {fault : PartFault}
    (htable : table literal coloured ds = .ok t) (h : fault ∈ t.faults width) :
    ∃ text : List Char, IsMarkup ds text ∧ HoldsTag text := by
  obtain ⟨places, locations, texts, hplaces, hlocations, htexts, rfl⟩ := table_eq_ok_iff.mp htable
  obtain ⟨c, hc, styled, hstyled, hfault⟩ := Table.exists_cell_of_faults h
  have hne : styled.faults ≠ [] := List.ne_nil_of_mem hfault
  rcases mem_columns_iff.mp hc with rfl | rfl | rfl
  · obtain ⟨place, hplace, hcell⟩ := exists_of_mem_mapM hlocations hstyled
    exact ⟨_, isMarkup_of_mem_places hplaces hplace,
      holdsTag_of_faults (cell_eq_ok_iff.mp hcell) hne⟩
  · obtain ⟨d, -, rfl⟩ := List.mem_map.mp hstyled
    exact absurd rfl hne
  · obtain ⟨text, htext, hcell⟩ := exists_of_mem_mapM htexts hstyled
    exact ⟨_, isMarkup_of_mem_messages htext, holdsTag_of_faults (cell_eq_ok_iff.mp hcell) hne⟩

theorem render_eq_error_iff : render literal coloured ds = .error e ↔
    table literal coloured ds = .error e ∨ ∃ t fault rest, table literal coloured ds = .ok t ∧
      t.faults width = fault :: rest ∧ e = .markup (.colour fault) := by
  rw [render, bind_eq_error_iff]
  refine or_congr_right (exists_congr fun t => ?_)
  cases hfaults : t.faults width with
  | nil =>
    refine iff_of_false (fun h => nomatch h.2) ?_
    rintro ⟨_, _, -, h, -⟩
    cases h
  | cons fault rest =>
    constructor
    · rintro ⟨htable, h⟩
      exact ⟨fault, rest, htable, rfl, (Except.error.inj h).symm⟩
    · rintro ⟨_, _, htable, h, rfl⟩
      obtain ⟨rfl, rfl⟩ := List.cons.inj h
      exact ⟨htable, rfl⟩

/-! ## Main statement -/

/-- The table is made and written, and its cells read as the diagnostics say. -/
def ShowsLiterally (literal : LiteralReader) (coloured : Bool) (ds : List Diagnostic) : Prop :=
  ∃ t, table literal coloured ds = .ok t ∧
    render literal coloured ds = .ok (written coloured (t.lines width)) ∧
    contents t = [ds.map shownPlace, ds.map fun d => (d.type.getD "").toList,
      ds.map fun d => (d.text.getD "").toList]

/-- The file and the message of a diagnostic hold nothing that markup takes out, its type none of
the control characters that are dropped, and its position may be written. -/
structure IsLiteral (d : Diagnostic) : Prop where
  position : HasWritablePosition d
  filePath : Literal (d.filePath.getD "").toList
  text : Literal (d.text.getD "").toList
  type : ∀ c ∈ (d.type.getD "").toList, isDropped c = false

theorem isLiteral_of_showsLiterally (h : ShowsLiterally literal coloured ds) :
    ∀ d ∈ ds, IsLiteral d := by
  obtain ⟨t, htable, -, hcontents⟩ := h
  obtain ⟨places, locations, texts, hplaces, hlocations, htexts, rfl⟩ := table_eq_ok_iff.mp htable
  obtain ⟨hlocation, htype, hmessage, -⟩ : _ ∧ _ ∧ _ ∧ _ := by
    simpa only [contents, layout, List.map_cons, List.cons.injEq] using hcontents
  obtain ⟨hpositions, hshown⟩ := places_eq_ok_iff.mp hplaces
  have hplace := literal_of_cells hlocations (hlocation.trans hshown.symm)
  have hmessages := literal_of_cells htexts (by rw [messages, List.map_map]; exact hmessage)
  have htypes := (typeCells_iff coloured ds).mp htype
  intro d hd
  have hmem : shownPlace d ∈ places.map String.toList := hshown ▸ List.mem_map_of_mem hd
  obtain ⟨place, hmem, heq⟩ := List.mem_map.mp hmem
  exact
    { position := hpositions d hd
      filePath := literal_shownPlace_iff.mp (heq ▸ hplace place hmem)
      text := hmessages _ (List.mem_map_of_mem hd)
      type := htypes d hd }

theorem showsLiterally_of_isLiteral (h : ∀ d ∈ ds, IsLiteral d) :
    ShowsLiterally literal coloured ds := by
  let places := ds.map fun d => String.ofList (shownPlace d)
  have hshown : places.map String.toList = ds.map shownPlace := by
    simp only [places, List.map_map, Function.comp_def, String.toList_ofList]
  have hplaces : ds.mapM locate = .ok places :=
    places_eq_ok_iff.mpr ⟨fun d hd => (h d hd).position, hshown⟩
  let plain (texts : List String) : List Styled := texts.map fun text => { chars := text.toList }
  have hlocations : places.mapM (cell literal) = .ok (plain places) := by
    refine cells_of_literal fun place hplace => ?_
    obtain ⟨d, hd, rfl⟩ := List.mem_map.mp hplace
    rw [String.toList_ofList]
    exact literal_shownPlace_iff.mpr (h d hd).filePath
  have htexts : (messages ds).mapM (cell literal) = .ok (plain (messages ds)) := by
    refine cells_of_literal fun text htext => ?_
    obtain ⟨d, hd, rfl⟩ := List.mem_map.mp htext
    exact (h d hd).text
  let t := layout coloured (plain places) (typeCells coloured ds) (plain (messages ds))
  have htable : table literal coloured ds = .ok t :=
    table_eq_ok_iff.mpr ⟨places, _, _, hplaces, hlocations, htexts, rfl⟩
  have hfaults : t.faults width = [] := by
    refine List.eq_nil_iff_forall_not_mem.mpr fun fault hfault => ?_
    obtain ⟨c, hc, styled, hstyled, hfault⟩ := Table.exists_cell_of_faults hfault
    have hplain : styled.spans = [] := by
      rcases mem_columns_iff.mp hc with rfl | rfl | rfl
      · obtain ⟨place, -, rfl⟩ := List.mem_map.mp hstyled
        rfl
      · obtain ⟨d, -, rfl⟩ := List.mem_map.mp hstyled
        rfl
      · obtain ⟨text, -, rfl⟩ := List.mem_map.mp hstyled
        rfl
    rw [Styled.faults, hplain] at hfault
    cases hfault
  refine ⟨t, htable, bind_eq_ok_iff.mpr ⟨t, htable, by rw [hfaults]; rfl⟩, ?_⟩
  have htype := (typeCells_iff coloured ds).mpr fun d hd => (h d hd).type
  simp only [t, contents, layout, List.map_cons, List.map_nil, htype]
  simp only [places, plain, messages, List.map_map, Function.comp_def, String.toList_ofList]

/-- What can keep diagnostics from being shown. -/
def Prevents (ds : List Diagnostic) : RenderError → Prop
  | .unwritable => ∃ d ∈ ds, ¬ HasWritablePosition d
  | .markup (.colour _) =>
    ∃ d ∈ ds, HoldsTag (d.filePath.getD "").toList ∨ HoldsTag (d.text.getD "").toList
  | .markup _ => ∃ d ∈ ds,
    HoldsClosingTag (d.filePath.getD "").toList ∨ HoldsClosingTag (d.text.getD "").toList

theorem prevents_of_render_eq_error (h : render literal coloured ds = .error e) :
    Prevents ds e := by
  rcases render_eq_error_iff.mp h with htable | ⟨t, fault, rest, htable, hfaults, rfl⟩
  · obtain ⟨rfl, hposition⟩ | ⟨-, e', text, rfl, hmarkup, hread⟩ := table_eq_error htable
    · exact hposition
    · obtain ⟨htag, ⟨fault, rfl⟩ | hclosing⟩ := holdsTag_of_read_eq_error hread
      · exact hmarkup.holdsTag htag
      · cases e' with
        | colour fault => exact hmarkup.holdsTag htag
        | unmatched tag position => exact hmarkup.holdsClosingTag hclosing
        | nothingOpen position => exact hmarkup.holdsClosingTag hclosing
        | handler given text fault => exact hmarkup.holdsClosingTag hclosing
  · have hfault : fault ∈ t.faults width := hfaults ▸ List.mem_cons_self ..
    obtain ⟨text, hmarkup, htag⟩ := holdsTag_of_mem_faults htable hfault
    exact hmarkup.holdsTag htag

theorem render_eq_unwritable_iff :
    render literal coloured ds = .error .unwritable ↔ ∃ d ∈ ds, ¬ HasWritablePosition d := by
  refine ⟨prevents_of_render_eq_error, fun ⟨d, hd, hposition⟩ => ?_⟩
  refine render_eq_error_iff.mpr (.inl (bind_eq_error_iff.mpr (.inl ?_)))
  cases hplaces : ds.mapM locate with
  | ok places => exact absurd ((places_eq_ok_iff.mp hplaces).1 d hd) hposition
  | error e =>
    obtain ⟨d', -, hlocate⟩ := mapM_eq_error hplaces
    rw [(locate_eq_error_iff.mp hlocate).1]

/-- The table shows diagnostics literally exactly if all of them are literal, however the parameters
of handlers are read. It fails for a position that may not be written wherever there is one; and
otherwise only where a file or a message holds a tag, which is a closing one unless it asks for
colours that cannot be mixed. -/
theorem shows_literally_iff (literal : LiteralReader) (coloured : Bool) (ds : List Diagnostic) :
    (ShowsLiterally literal coloured ds ↔ ∀ d ∈ ds, IsLiteral d) ∧
    (render literal coloured ds = .error .unwritable ↔ ∃ d ∈ ds, ¬ HasWritablePosition d) ∧
    ∀ e, render literal coloured ds = .error e → Prevents ds e :=
  ⟨⟨isLiteral_of_showsLiterally, showsLiterally_of_isLiteral⟩, render_eq_unwritable_iff,
    fun _ => prevents_of_render_eq_error⟩

/-- Brackets around a digit, and a backslash that is not before one. -/
theorem shows_literally_brackets : ShowsLiterally (fun _ => .ok ()) true
    [{ type := some "error", text := some "x[0] \\ ]", filePath := some "a[1].c" }] := by
  refine (shows_literally_iff _ true _).1.mpr fun d hd => ?_
  obtain rfl := List.mem_singleton.mp hd
  have htype : Literal "error".toList := by decide +kernel
  exact
    { position := ⟨by decide +kernel, by decide +kernel⟩
      filePath := by decide +kernel
      text := by decide +kernel
      type := htype.kept }

/-- A message that is a closing tag, one that loses what it starts with, one that asks for a mixture
of nothing, and a line behind the last one that may be written. -/
theorem message_read_as_markup :
    render (fun _ => .ok ()) false [{ text := some "[/b]" }] =
        .error (.markup (.unmatched "[/b]" 0)) ∧
      (table (fun _ => .ok ()) false [{ text := some "[id] x" }]).toOption.map contents =
        some [["-:1:1".toList], [[]], [" x".toList]] ∧
      render (fun _ => .ok ()) false [{ text := some "[rgb(,,)] x" }] =
        .error (.markup (.colour .empty)) ∧
      render (fun _ => .ok ()) false [{ text := some "[bold=rgb(,,)] x" }] =
        .error (.markup (.colour .empty)) ∧
      render (fun _ => .ok ()) false [{ range := ⟨⟨Nat.pow 10 4300 - 1, 0⟩, .zero⟩ }] =
        .error .unwritable := by
  decide +kernel

end Linting.Console
