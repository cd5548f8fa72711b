import Linting.Proofs.Diagnostic.Collection
import Linting.Proofs.Pattern.Flags
import Linting.Proofs.Pattern.Walk

/-! Sticky patterns. The letter `y` changes nothing in the expression that is compiled; it only
makes the walk stop at the first gap. So what a sticky pattern matches is the longest part without
a gap, from the beginning, of what the same pattern matches otherwise. -/

namespace Linting.Pattern
set_option autoImplicit false

/-! ## Compiling with the letter added -/

theorem toList_append_y (flags : String) : (flags ++ "y").toList = flags.toList ++ ['y'] := by
  rw [String.toList_append]
  rfl

theorem normalizeFlags_append_y (flags : String) :
    (normalizeFlags (flags ++ "y")).toList.Perm ('y' :: (normalizeFlags flags).toList) := by
  have hg : (flags ++ "y").toList.contains 'g' = flags.toList.contains 'g' := by
    rw [toList_append_y, List.contains_append]
    exact Bool.or_false _
  rw [normalizeFlags_toList, normalizeFlags_toList, hg, toList_append_y, List.append_assoc]
  exact List.perm_middle

theorem flagFault?_append_y {flags : String} (hy : 'y' ∉ flags.toList)
    (h : flagFault? [] (normalizeFlags flags).toList = none) :
    flagFault? [] (normalizeFlags (flags ++ "y")).toList = none := by
  rw [flagFault?_eq_none_iff] at h ⊢
  obtain ⟨hletters, hnodup, -⟩ := h
  have hperm := normalizeFlags_append_y flags
  have hnew : 'y' ∉ (normalizeFlags flags).toList := by
    rw [normalizeFlags_toList, List.mem_append]
    rintro (hmem | hmem)
    · exact hy hmem
    · split at hmem <;> simp at hmem
  refine ⟨fun c hc => ?_, hperm.nodup_iff.mpr (List.nodup_cons.mpr ⟨hnew, hnodup⟩), by simp⟩
  rcases List.mem_cons.mp (hperm.mem_iff.mp hc) with rfl | hc
  · rfl
  · exact hletters c hc

/-- With the letter added the same expression comes about. -/
theorem compile_append_y {source flags : String} {p : Pattern} (hy : 'y' ∉ flags.toList)
    (h : compile source flags = .ok p) :
    p.sticky = false ∧ ∃ q, compile source (flags ++ "y") = .ok q ∧ q.sticky = true ∧
      q.expression = p.expression := by
  obtain ⟨hfault, hexpression, -, -, hsticky⟩ := (compile_eq_ok_iff source flags p).mp h
  refine ⟨by rw [hsticky]; simpa using hy,
    ⟨source, normalizeFlags (flags ++ "y"), p.expression, true⟩, ?_, rfl, rfl⟩
  rw [compile_eq_ok_iff, toList_append_y, switches_append _ ['y'] (by simp)]
  exact ⟨flagFault?_append_y hy hfault, hexpression, rfl, rfl, by simp⟩

/-! ## Runs without a gap -/

/-- Each match starts where the one before it lets the walk go on, the first at the position. -/
def GapFree : Nat → List Regex.Match → Prop
  | _, [] => True
  | position, m :: rest => m.start = position ∧ GapFree m.after rest

/-- A list is the longest part without a gap that another one begins with. -/
def IsGapFreePart (position : Nat) (part all : List Regex.Match) : Prop :=
  part <+: all ∧ GapFree position part ∧
    ∀ other, other <+: all → GapFree position other → other <+: part

theorem IsGapFreePart.nil (position : Nat) : IsGapFreePart position [] [] :=
  ⟨List.prefix_rfl, trivial, fun _ h _ => h⟩

theorem IsGapFreePart.cons {m : Regex.Match} {part all : List Regex.Match}
    (h : IsGapFreePart m.after part all) :
    IsGapFreePart m.start (m :: part) (m :: all) := by
  obtain ⟨h1, h2, h3⟩ := h
  refine ⟨List.cons_prefix_cons.mpr ⟨rfl, h1⟩, ⟨rfl, h2⟩, ?_⟩
  intro other hother hgap
  cases other with
  | nil => exact List.nil_prefix
  | cons n rest =>
    obtain ⟨rfl, hrest⟩ := List.cons_prefix_cons.mp hother
    exact List.cons_prefix_cons.mpr ⟨rfl, h3 rest hrest hgap.2⟩

/-- Matches that begin with a gap have no part without one. -/
theorem IsGapFreePart.gap {position : Nat} {m : Regex.Match} {rest : List Regex.Match}
    (h : m.start ≠ position) : IsGapFreePart position [] (m :: rest) := by
  refine ⟨List.nil_prefix, trivial, ?_⟩
  intro other hother hgap
  cases other with
  | nil => exact List.prefix_rfl
  | cons n others =>
    obtain ⟨rfl, -⟩ := List.cons_prefix_cons.mp hother
    exact absurd hgap.1 h

/-- The two walks stay at one position until the sticky one ends. -/
theorem sticky_matchesFrom {p q : Pattern} {text : Array Char} (hp : p.sticky = false)
    (hq : q.sticky = true) (he : q.expression = p.expression)
    (hleft : p.expression.SearchesLeftmost text) (bound position : Nat) :
    IsGapFreePart position (q.matchesFrom text bound position)
      (p.matchesFrom text bound position) := by
  induction bound generalizing position with
  | zero => exact .nil position
  | succ bound ih =>
    rw [matchesFrom, matchesFrom]
    by_cases hpos : position ≤ text.size
    · have hplain : p.findAt? text position = p.expression.search? text position := by
        simp [findAt?, hp]
      have hsticky : q.findAt? text position = p.expression.matchAt? text position := by
        simp [findAt?, hq, he]
      rw [if_pos hpos, if_pos hpos, hplain, hsticky]
      cases hm : p.expression.matchAt? text position with
      | some m =>
        rw [hleft.found_at hpos hm]
        have hcons := (ih m.after).cons
        rw [Regex.Expression.matchAt?_start hm] at hcons
        exact hcons
      | none =>
        cases hs : p.expression.search? text position with
        | none => exact .nil position
        | some m =>
          refine .gap fun hstart => ?_
          have hfound := (Regex.Expression.search?_found hs).2.2.2
          rw [hstart, hm] at hfound
          cases hfound
    · rw [if_neg hpos, if_neg hpos]
      exact .nil position

end Linting.Pattern

/-! ## Diagnostics -/

namespace Linting
open Pattern
set_option autoImplicit false

/-- Under the letter `y` a pattern matches the longest part without a gap of what it matches
otherwise, and the diagnostics collected are the first of those collected otherwise. -/
theorem sticky_gapFree_part {source flags : String} {p : Pattern} (hy : 'y' ∉ flags.toList)
    (hp : compile source flags = .ok p) :
    ∃ q, compile source (flags ++ "y") = .ok q ∧
      ∀ data, p.expression.SearchesLeftmost (textOf data) →
        IsGapFreePart 0 (q.matchesIn (textOf data)) (p.matchesIn (textOf data)) ∧
        ∀ filePath ds, parse data source { flags, filePath } = .ok ds →
          ∃ first, parse data source { flags := flags ++ "y", filePath } = .ok first ∧
            first <+: ds := by
  obtain ⟨hplain, q, hq, hsticky, he⟩ := compile_append_y hy hp
  refine ⟨q, hq, fun data hleft => ?_⟩
  have hpart := sticky_matchesFrom hplain hsticky he hleft ((textOf data).size + 1) 0
  refine ⟨hpart, fun filePath ds hds => ?_⟩
  obtain ⟨p', hp', hall⟩ := parse_eq_ok_iff.mp hds
  obtain rfl := Except.ok.inj (hp.symm.trans hp')
  have hsame : diagnosticOf q = diagnosticOf p := by
    funext text filePath m
    rw [diagnosticOf, diagnosticOf, he]
  rw [diagnosticsIn] at hall
  obtain ⟨first, hfirst, hprefix⟩ := mapM_prefix hpart.1 hall
  refine ⟨first, parse_eq_ok_iff.mpr ⟨q, hq, ?_⟩, hprefix⟩
  rw [diagnosticsIn, hsame]
  exact hfirst

/-- The empty matches in front of the letters `b` leave no gap, the letter `c` does. -/
theorem sticky_gapFree_part_lookahead :
    ∃ p q, 'y' ∉ "".toList ∧ compile "(?<message>a|(?=b))" "" = .ok p ∧
      p.expression.SearchesLeftmost (textOf "abbca") ∧
      compile "(?<message>a|(?=b))" ("" ++ "y") = .ok q ∧
      (p.matchesIn (textOf "abbca")).map (·.start) = [0, 1, 2, 4] ∧
      q.matchesIn (textOf "abbca") <+: p.matchesIn (textOf "abbca") ∧
      ∃ first, parse "abbca" "(?<message>a|(?=b))" { flags := "" ++ "y" } = .ok first := by
  have hy : 'y' ∉ "".toList := by decide
  let p : Pattern :=
    ⟨"(?<message>a|(?=b))", "g",
      ⟨.capture 1 (.choice (.char 0x61) (.ahead false (.char 0x62))), { ascii := true }, 1,
        [("message", 1)]⟩, false⟩
  have hp : compile "(?<message>a|(?=b))" "" = .ok p :=
    ok_of_toOption (by decide +kernel)
  have hleft : p.expression.SearchesLeftmost (textOf "abbca") :=
    Regex.Expression.searchesLeftmost_of_startSet rfl
  obtain ⟨q, hq, hmatches⟩ := sticky_gapFree_part hy hp
  obtain ⟨hpart, hparse⟩ := hmatches "abbca" hleft
  have hds : parse "abbca" "(?<message>a|(?=b))" {} = .ok
      [⟨none, some "a", none, .zero⟩, ⟨none, some "", none, .zero⟩, ⟨none, some "", none, .zero⟩,
        ⟨none, some "a", none, .zero⟩] :=
    ok_of_toOption (by decide +kernel)
  obtain ⟨first, hfirst, -⟩ := hparse none _ hds
  exact ⟨p, q, hy, hp, hleft, hq, by decide +kernel, hpart.1, first, hfirst⟩

end Linting
