import Linting.Proofs.Pattern.Flags
import Linting.Proofs.Pattern.Openers
import Linting.Proofs.Pattern.Walk

/-! The two spellings of a named group. An accepted expression may be written with or without the
letter in each opener that names a group of it, and means the same, exactly where respelling gives
those openers their letter and touches nothing else but what comments and remarks say. It does so
whenever no comment or remark holds an opening bracket; where one does, the pieces may get out of
step with the expression. -/

namespace Linting.Pattern
set_option autoImplicit false

open Regex (Token Part Scope Lexed Lays IsLayout Alike tokensOf)

/-! ## Spellings of one expression -/

/-- Whether a pattern is what its text says as it stands, no opener respelled. -/
structure Verbatim (source flags : String) (p : Pattern) : Prop where
  valid : flagFault? [] (normalizeFlags flags).toList = none
  read : Regex.Expression.compile source.toList (switches flags.toList) = .ok p.expression
  source_eq : p.source = source
  flags_eq : p.flags = normalizeFlags flags
  sticky_eq : p.sticky = flags.toList.contains 'y'

/-- A part, and a part that it may be respelled as: an opener may lack its letter. -/
inductive Respelled : Part → Part → Prop where
  | same (part : Part) : Respelled part part
  | opener (name : List Char) : Respelled (.opener false name) (.opener true name)

/-- Whether a text is laid out as the parts, some openers spelled without their letter. -/
def Respells (parts : List Part) (text : String) : Prop :=
  ∃ parts', List.Forall₂ Respelled parts parts' ∧ text.toList = Token.chars (tokensOf parts')

/-- Whether respelling gives back the parts but for what comments and remarks say. -/
def Restores (parts : List Part) (text : String) : Prop :=
  ∃ parts', Alike parts parts' ∧
    Regex.tokens (respell text).toList = (tokensOf parts', false)

/-- Whether respelling gives back the parts but for what comments and remarks say, and for letters
in sets that hold what would be an opener. -/
def Reopens (parts : List Part) (text : String) : Prop :=
  ∃ parts', List.Forall₂ Grown parts parts' ∧
    Regex.tokens (respell text).toList = (tokensOf parts', false)

/-- Whether no set holds what would be an opener without its letter. -/
def SetsHoldNoOpener (parts : List Part) : Prop :=
  ∀ body, .bracket body ∈ parts → ¬ HoldsOpener body

/-- What a pattern reports of a text: the matches in it, and what the named groups of each have
captured. -/
def answers (p : Pattern) (data : String) :
    List (Regex.Match × List (String × Option String)) :=
  (p.matchesIn (textOf data)).map fun m => (m, m.captures p.expression.names (textOf data))

/-! ## Answers -/

theorem matchesFrom_source (p : Pattern) (source : String) (text : Array Char)
    (bound position : Nat) :
    matchesFrom { p with source } text bound position = p.matchesFrom text bound position := by
  apply matchesFrom_congr
  intro position
  rfl

/-- The text of a pattern is not looked at when it is matched. -/
theorem answers_source (p : Pattern) (source data : String) :
    answers { p with source } data = answers p data := by
  unfold answers matchesIn
  rw [matchesFrom_source]

/-! ## From parts to parts -/

theorem Respelled.varies {part part' : Part} (h : Respelled part part') : part.Varies part' := by
  cases h with
  | same part => exact .same part
  | opener name => exact .opener false true name

theorem Respelled.lexed {part part' : Part} (h : Respelled part part')
    (hlexed : Lexed part.tokens) : Lexed part'.tokens := by
  cases h with
  | same part => exact hlexed
  | opener name => simpa [Lexed, Part.tokens] using hlexed

theorem lexed_of_respelled {parts parts' : List Part} (h : List.Forall₂ Respelled parts parts')
    (hlexed : Lexed (tokensOf parts)) : Lexed (tokensOf parts') := by
  induction h with
  | nil => exact hlexed
  | cons hpart hparts ih =>
    rw [Regex.tokensOf_cons] at hlexed ⊢
    exact (hpart.lexed hlexed.of_append.1).append (ih hlexed.of_append.2)

theorem hushed_of_respelled {parts parts' : List Part} (h : List.Forall₂ Respelled parts parts')
    (hhushed : ∀ part ∈ parts, Hushed part) : ∀ part ∈ parts', Hushed part := by
  induction h with
  | nil => exact hhushed
  | cons hpart hparts ih =>
    obtain ⟨hhere, hrest⟩ := List.forall_mem_cons.mp hhushed
    refine List.forall_mem_cons.mpr ⟨?_, ih hrest⟩
    cases hpart with
    | same part => exact hhere
    | opener name => trivial

/-- The parts of a layout are closed as their kinds ask. -/
theorem closed_of_lays {m m' : Scope} {ts behind : List Token} {parts : List Part}
    (h : Lays m ts parts m' behind) : ∀ part ∈ parts, part.Closed := by
  induction h with
  | nil m ts => simp
  | cons hfirst hrest ih =>
    refine List.forall_mem_cons.mpr ⟨?_, ih⟩
    obtain ⟨-, hcut⟩ := Regex.cut_of_firstPart? hfirst
    cases hcut with
    | comment h hend => exact h
    | remark hverbose h hend => exact h
    | _ => trivial

theorem alike_cons {part part' : Part} {parts parts' : List Part} (hbare : part'.bare = part.bare)
    (hclosed : part'.Closed) (h : Alike parts parts') :
    Alike (part :: parts) (part' :: parts') where
  bare := by rw [List.map_cons, List.map_cons, hbare, h.bare]
  closed := List.forall_mem_cons.mpr ⟨hclosed, h.closed⟩

/-- Where every opener has got its letter, the parts have grown in comments and sets alone. -/
theorem grown_of_respelled {parts parts' parts'' : List Part}
    (h : List.Forall₂ Respelled parts parts') (h' : List.Forall₂ Grown parts' parts'')
    (hlong : ∀ name, .opener true name ∉ parts'') : List.Forall₂ Grown parts parts'' := by
  induction h generalizing parts'' with
  | nil => exact h'
  | cons hpart hparts ih =>
    cases h' with
    | cons hgrown hgrowns =>
      refine .cons ?_ (ih hgrowns fun name hmem => hlong name (List.mem_cons_of_mem _ hmem))
      cases hpart with
      | same part => exact hgrown
      | opener name =>
        cases hgrown with
        | same part => exact absurd (List.mem_cons_self ..) (hlong name)
        | opener name => exact .same _

/-- Parts whose sets hold no opener have grown in comments alone. -/
theorem alike_of_grown {parts parts' : List Part} (h : List.Forall₂ Grown parts parts')
    (hlong : ∀ name, .opener true name ∉ parts) (hsets : SetsHoldNoOpener parts)
    (hclosed : ∀ part ∈ parts, part.Closed) : Alike parts parts' := by
  induction h with
  | nil => exact ⟨rfl, by simp⟩
  | cons hpart hparts ih =>
    have hrest := ih (fun name hmem => hlong name (List.mem_cons_of_mem _ hmem))
      (fun body hmem => hsets body (List.mem_cons_of_mem _ hmem))
      (fun part hmem => hclosed part (List.mem_cons_of_mem _ hmem))
    cases hpart with
    | same part => exact alike_cons rfl (hclosed _ (List.mem_cons_self ..)) hrest
    | opener name => exact absurd (List.mem_cons_self ..) (hlong name)
    | bracket hholds hgrows hbody => exact absurd hholds (hsets _ (List.mem_cons_self ..))
    | comment body hbody => exact alike_cons rfl hbody hrest
    | remark body hbody => exact alike_cons rfl hbody hrest

theorem alike_of_restored {parts parts' parts'' : List Part}
    (h : List.Forall₂ Respelled parts parts') (h' : List.Forall₂ Restored parts' parts'')
    (hlong : ∀ name, .opener true name ∉ parts) (hclosed : ∀ part ∈ parts, part.Closed) :
    Alike parts parts'' := by
  induction h generalizing parts'' with
  | nil =>
    cases h'
    exact ⟨rfl, by simp⟩
  | @cons part part' parts parts' hpart hparts ih =>
    cases h' with
    | @cons _ part'' _ parts'' hrestored hrestoreds =>
      have hrest : Alike parts parts'' :=
        ih hrestoreds (fun name hmem => hlong name (List.mem_cons_of_mem _ hmem))
          (fun part hmem => hclosed part (List.mem_cons_of_mem _ hmem))
      have hhere := hclosed part (List.mem_cons_self ..)
      cases hpart with
      | same part =>
        cases hrestored with
        | same hshort => exact alike_cons rfl hhere hrest
        | opener name => exact absurd (List.mem_cons_self ..) (hlong name)
        | comment body hlexed hbody => exact alike_cons rfl hbody hrest
        | remark body hlexed hbody => exact alike_cons rfl hbody hrest
      | opener name =>
        cases hrestored with
        | same hshort => exact absurd rfl (hshort name)
        | opener name => exact alike_cons rfl trivial hrest

theorem lexed_of_restored {parts parts' : List Part} (h : List.Forall₂ Restored parts parts')
    (hlexed : Lexed (tokensOf parts)) : Lexed (tokensOf parts') := by
  induction h with
  | nil => exact hlexed
  | @cons part part' parts parts' hpart hparts ih =>
    rw [Regex.tokensOf_cons] at hlexed ⊢
    refine Lexed.append ?_ (ih hlexed.of_append.2)
    cases hpart with
    | same hshort => exact hlexed.of_append.1
    | opener name => simpa [Lexed, Part.tokens] using hlexed.of_append.1
    | comment body hbody hclose => simpa [Lexed, Part.tokens] using hbody
    | remark body hbody hclose => simpa [Lexed, Part.tokens] using hbody

/-! ## Compiling either spelling -/

theorem expression_compile_eq_ok_iff {text : List Char} {flags : Regex.Flags}
    {e : Regex.Expression} :
    Regex.Expression.compile text flags = .ok e ↔
      Regex.Expression.read text flags = .ok e ∧ e.root.fault? e.flags.template = none := by
  rw [Regex.Expression.compile, bind_eq_ok_iff]
  constructor
  · intro h
    obtain ⟨e', hread, h⟩ := h
    cases hfault : e'.root.fault? e'.flags.template with
    | some cause =>
      rw [hfault] at h
      cases h
    | none =>
      rw [hfault] at h
      cases h
      exact ⟨hread, hfault⟩
  · intro h
    obtain ⟨hread, hfault⟩ := h
    exact ⟨e, hread, by rw [hfault]⟩

section Layouts

variable {text : List Char} {modes : Regex.Flags} {parts : List Part} {respelled : String}

/-- A respelled text has the respelled parts for its layout. -/
theorem Respells.lays (hlayout : IsLayout text modes parts) (h : Respells parts respelled) :
    ∃ parts' verbose, List.Forall₂ Respelled parts parts' ∧
      respelled.toList = Token.chars (tokensOf parts') ∧ Lexed (tokensOf parts') ∧
      Lays ⟨modes.verbose, []⟩ (tokensOf parts') parts' ⟨verbose, []⟩ [] := by
  obtain ⟨parts', hparts, htext⟩ := h
  obtain ⟨verbose, hlays⟩ := hlayout.lays
  have hlexed := lexed_of_respelled hparts (Regex.lexed_of_tokens hlayout.tokens).1
  have hlays' := hlays.varies (hparts.imp fun _ _ => Respelled.varies)
  rw [List.append_nil] at hlays'
  exact ⟨parts', verbose, hparts, htext, hlexed, hlays'⟩

/-- Where no comment or remark holds an opening bracket, every opener gets its letter back. -/
theorem restores_of_hushed (hlayout : IsLayout text modes parts)
    (hlong : ∀ name, .opener true name ∉ parts) (h : Respells parts respelled)
    (hhushed : ∀ part ∈ parts, Hushed part) : Restores parts respelled := by
  obtain ⟨parts', verbose, hparts, htext, hlexed, hlays⟩ := h.lays hlayout
  obtain ⟨_, hsource⟩ := hlayout.lays
  have hhushed' : ∀ part ∈ parts', Hushed part := hushed_of_respelled hparts hhushed
  obtain ⟨parts'', hrestored, hrespell⟩ := respellChars_lays hlays rfl hlexed hhushed'
  refine ⟨parts'', alike_of_restored hparts hrestored hlong (closed_of_lays hsource), ?_⟩
  rw [respell_toList, htext, hrespell]
  exact Regex.tokens_chars (lexed_of_restored hrestored hlexed)

/-- A respelled text that is accepted has its openers back: one without its letter is refused. -/
theorem reopens_of_read (hlayout : IsLayout text modes parts) (h : Respells parts respelled)
    {e : Regex.Expression}
    (hread : Regex.Expression.read (respell respelled).toList modes = .ok e) :
    Reopens parts respelled := by
  obtain ⟨parts', verbose, hparts, htext, hlexed, hlays⟩ := h.lays hlayout
  obtain ⟨us, hgrows, hrespell⟩ := respellChars_grows hlexed
  obtain ⟨parts'', rfl, hgrown⟩ := hgrows.lays hlays rfl
  have htokens : Regex.tokens (respell respelled).toList = (tokensOf parts'', false) := by
    rw [respell_toList, htext, hrespell]
    exact Regex.tokens_chars (hgrows.lexed hlexed)
  have hlays'' := hlays.varies (hgrown.imp fun _ _ => Grown.varies)
  rw [List.append_nil] at hlays''
  obtain ⟨read, hreadLayout, hreadLong, -, -⟩ := Regex.Expression.read_laid hread
  -- the layout that the reader found is the only one
  obtain rfl : read = parts'' := hreadLayout.unique ⟨htokens, verbose, hlays''⟩
  exact ⟨read, grown_of_respelled hparts hgrown hreadLong, htokens⟩

theorem Reopens.restores (hlayout : IsLayout text modes parts)
    (hlong : ∀ name, .opener true name ∉ parts) (hsets : SetsHoldNoOpener parts)
    (h : Reopens parts respelled) : Restores parts respelled := by
  obtain ⟨parts', hgrown, htokens⟩ := h
  obtain ⟨_, hlays⟩ := hlayout.lays
  exact ⟨parts', alike_of_grown hgrown hlong hsets (closed_of_lays hlays), htokens⟩

end Layouts

/-- An accepted expression has a layout that opens its named groups. A spelling of it compiles to a
pattern with the same answers if respelling restores the parts. If it compiles at all, every opener
is restored; if no set holds an opener, everything is. And everything is whenever no comment or
remark holds an opening bracket. -/
theorem compile_respelled {source flags : String} {plain : Pattern}
    (hplain : Verbatim source flags plain) :
    ∃ parts, IsLayout source.toList (switches flags.toList) parts ∧
      parts.filterMap Part.name? = plain.groupNames ∧
      ∀ ⦃respelled : String⦄, Respells parts respelled →
        (Restores parts respelled →
          compile respelled flags = .ok { plain with source := respelled } ∧
          ∀ data, answers { plain with source := respelled } data = answers plain data) ∧
        ((∃ p, compile respelled flags = .ok p) → Reopens parts respelled) ∧
        (SetsHoldNoOpener parts →
          ((∃ p, compile respelled flags = .ok p) ↔ Restores parts respelled)) ∧
        ((∀ part ∈ parts, Hushed part) → Restores parts respelled) := by
  obtain ⟨hread, hfault⟩ := expression_compile_eq_ok_iff.mp hplain.read
  obtain ⟨parts, hlayout, hlong, hnames, hagain⟩ := Regex.Expression.read_laid hread
  refine ⟨parts, hlayout, hnames, fun respelled hrespells => ?_⟩
  have hsame : Restores parts respelled →
      compile respelled flags = .ok { plain with source := respelled } := by
    intro hrestores
    obtain ⟨parts', halike, htokens⟩ := hrestores
    rw [compile_eq_ok_iff]
    exact ⟨hplain.valid, expression_compile_eq_ok_iff.mpr ⟨hagain halike htokens, hfault⟩, rfl,
      hplain.flags_eq, hplain.sticky_eq⟩
  have hreopens : (∃ p, compile respelled flags = .ok p) → Reopens parts respelled := by
    intro hcompiles
    obtain ⟨p, hcompile⟩ := hcompiles
    obtain ⟨-, hcompile, -⟩ := (compile_eq_ok_iff respelled flags p).mp hcompile
    have hreads := (expression_compile_eq_ok_iff.mp hcompile).1
    exact reopens_of_read hlayout hrespells hreads
  refine ⟨fun hrestores => ⟨hsame hrestores, answers_source plain respelled⟩, hreopens,
    fun hsets => ?_, restores_of_hushed hlayout hlong hrespells⟩
  constructor
  · intro hcompiles
    exact (hreopens hcompiles).restores hlayout hlong hsets
  · exact fun hrestores => ⟨_, hsame hrestores⟩

/-- A group and a comment that holds an opener. -/
theorem compile_respelled_comment :
    let plain : Pattern := ⟨"(?P<a>x)(?#(?<)", "g",
      ⟨.capture 1 (.char 0x78), { ascii := true }, 1, [("a", 1)]⟩, false⟩
    Verbatim "(?P<a>x)(?#(?<)" "" plain ∧
      compile "(?<a>x)(?#(?<)" "" = .ok { plain with source := "(?<a>x)(?#(?<)" } := by
  intro plain
  have hplain : Verbatim "(?P<a>x)(?#(?<)" "" plain :=
    ⟨by decide +kernel, ok_of_toOption (by decide +kernel), rfl, by decide +kernel,
      by decide +kernel⟩
  refine ⟨hplain, ?_⟩
  obtain ⟨parts, hlayout, -, hall⟩ := compile_respelled hplain
  have hparts : IsLayout "(?P<a>x)(?#(?<)".toList (switches "".toList)
      [.opener false ['a'], .token (.plain 'x'), .token (.plain ')'),
        .comment [.plain '(', .plain '?', .plain '<'], .token (.plain ')')] :=
    .of_layout? false (by decide +kernel) (by decide +kernel)
  obtain rfl := hlayout.unique hparts
  obtain ⟨hrestores, -, -, hhushed⟩ := @hall "(?<a>x)(?#(?<)"
    ⟨_, .cons (.opener ['a']) (.cons (.same _) (.cons (.same _) (.cons (.same _)
      (.cons (.same _) .nil)))), by decide +kernel⟩
  exact (hrestores (hhushed (by simp [Hushed]))).1

/-- A bracket in a comment takes the pieces out of step: behind it an opener is not given its
letter, or a set is given one. -/
theorem respelling_out_of_step :
    (∃ plain parts, Verbatim "(?#[)(?P<a>x)]" "" plain ∧
      IsLayout "(?#[)(?P<a>x)]".toList (switches "".toList) parts ∧
      Respells parts "(?#[)(?<a>x)]" ∧ ∀ p, compile "(?#[)(?<a>x)]" "" ≠ .ok p) ∧
    ∃ plain parts p, Verbatim "(?#[)[](?<a]" "" plain ∧
      IsLayout "(?#[)[](?<a]".toList (switches "".toList) parts ∧
      Respells parts "(?#[)[](?<a]" ∧ compile "(?#[)[](?<a]" "" = .ok p ∧
      answers p "P" ≠ answers plain "P" := by
  refine ⟨⟨⟨"(?#[)(?P<a>x)]", "g", ⟨.seq (.capture 1 (.char 0x78)) (.char 0x5D), { ascii := true },
    1, [("a", 1)]⟩, false⟩, [.comment [.plain '['], .token (.plain ')'), .opener false ['a'],
    .token (.plain 'x'), .token (.plain ')'), .token (.plain ']')], ?_, ?_, ?_, ?_⟩,
    ⟨"(?#[)[](?<a]", "g", ⟨.set ⟨false, [.single 0x5D, .single 0x28, .single 0x3F, .single 0x3C,
      .single 0x61]⟩, { ascii := true }, 0, []⟩, false⟩,
    [.comment [.plain '['], .token (.plain ')'), .bracket [.plain ']', .plain '(', .plain '?',
      .plain '<', .plain 'a', .plain ']']],
    ⟨"(?#[)[](?<a]", "g", ⟨.set ⟨false, [.single 0x5D, .single 0x28, .single 0x3F, .single 0x50,
      .single 0x3C, .single 0x61]⟩, { ascii := true }, 0, []⟩, false⟩, ?_, ?_, ?_, ?_, ?_⟩
  · exact ⟨by decide +kernel, ok_of_toOption (by decide +kernel), rfl, by decide +kernel,
      by decide +kernel⟩
  · exact .of_layout? false (by decide +kernel) (by decide +kernel)
  · exact ⟨_, .cons (.same _) (.cons (.same _) (.cons (.opener ['a']) (.cons (.same _)
      (.cons (.same _) (.cons (.same _) .nil))))), by decide +kernel⟩
  · intro p h
    have hnone : (compile "(?#[)(?<a>x)]" "").toOption = none := by decide +kernel
    rw [h] at hnone
    cases hnone
  · exact ⟨by decide +kernel, ok_of_toOption (by decide +kernel), rfl, by decide +kernel,
      by decide +kernel⟩
  · exact .of_layout? false (by decide +kernel) (by decide +kernel)
  · exact ⟨_, .cons (.same _) (.cons (.same _) (.cons (.same _) .nil)), by decide +kernel⟩
  · exact ok_of_toOption (by decide +kernel)
  · decide +kernel

end Linting.Pattern
