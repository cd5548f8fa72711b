import Linting.Pattern.Basic
import Linting.Proofs.Regex.Leftmost

/-! The walk over the matches of a text. Each match starts behind the one before it, so the walk
ends; and where the search of the expression is leftmost, a place with a match is passed over only
inside another match. -/

namespace Linting.Pattern
set_option autoImplicit false

/-! ## Single matches -/

variable {p : Pattern} {text : Array Char} {position : Nat} {m : Regex.Match}

/-- What a walk finds is a match of the expression at its start, between the position and the end
of the text. -/
theorem findAt?_found (hp : position ≤ text.size) (h : p.findAt? text position = some m) :
    position ≤ m.start ∧ m.start ≤ text.size ∧ p.expression.matchAt? text m.start = some m := by
  unfold findAt? at h
  split at h
  · have hs := Regex.Expression.matchAt?_start h
    rw [hs]
    exact ⟨Nat.le_refl _, hp, h⟩
  · obtain ⟨h1, h2, -, h4⟩ := Regex.Expression.search?_found h
    exact ⟨h1, h2, h4⟩

theorem after_span (m : Regex.Match) (hm : m.start ≤ m.stop) :
    m.start < m.after ∧ m.stop ≤ m.after ∧ m.after ≤ m.stop + 1 ∧
      (m.start = m.stop → m.stop < m.after) ∧ (m.start ≠ m.stop → m.after = m.stop) := by
  unfold Regex.Match.after
  split <;> omega

/-! ## Walks -/

/-- The walk reports the matches one after the other, and then its end. -/
inductive Walk.Reports : Walk → List Regex.Match → Prop where
  | done {w w' : Walk} : w.next = (none, w') → Reports w []
  | more {w w' : Walk} {m : Regex.Match} {ms : List Regex.Match} :
      w.next = (some m, w') → Reports w' ms → Reports w (m :: ms)

theorem Walk.Reports.unique {w : Walk} {ms ns : List Regex.Match} (hm : w.Reports ms)
    (hn : w.Reports ns) : ms = ns := by
  induction hm generalizing ns with
  | done h =>
    cases hn with
    | done _ => rfl
    | more h' _ => cases h.symm.trans h'
  | more h _ ih =>
    cases hn with
    | done h' => cases h.symm.trans h'
    | more h' hrest =>
      cases h.symm.trans h'
      rw [ih hrest]

theorem next_none (h : position ≤ text.size → p.findAt? text position = none) :
    (Walk.mk p text (some position)).next = (none, ⟨p, text, none⟩) := by
  unfold Walk.next
  by_cases hp : position ≤ text.size
  · simp only [if_pos hp, h hp]
  · simp only [if_neg hp]

theorem next_some (hp : position ≤ text.size) (h : p.findAt? text position = some m) :
    (Walk.mk p text (some position)).next = (some m, ⟨p, text, some m.after⟩) := by
  simp only [Walk.next, if_pos hp, h]

/-- The positions left bound the matches: no walk is cut short. -/
theorem reports_matchesFrom (p : Pattern) (text : Array Char) (bound position : Nat)
    (hb : text.size + 1 ≤ bound + position) :
    (Walk.mk p text (some position)).Reports (p.matchesFrom text bound position) := by
  induction bound generalizing position with
  | zero => exact .done (next_none fun hp => by omega)
  | succ bound ih =>
    rw [matchesFrom]
    by_cases hp : position ≤ text.size
    · rw [if_pos hp]
      cases hf : p.findAt? text position with
      | none => exact .done (next_none fun _ => hf)
      | some m =>
        obtain ⟨hle, hlt, hm⟩ := findAt?_found hp hf
        have hafter := after_span m (Regex.Expression.matchAt?_span hlt hm).1
        exact .more (next_some hp hf) (ih m.after (by omega))
    · rw [if_neg hp]
      exact .done (next_none fun h => absurd h hp)

/-! ## All matches of a text -/

/-- What is matched depends on what is found at each position alone. -/
theorem matchesFrom_congr {q : Pattern}
    (h : ∀ position, q.findAt? text position = p.findAt? text position) (bound position : Nat) :
    q.matchesFrom text bound position = p.matchesFrom text bound position := by
  induction bound generalizing position with
  | zero => rfl
  | succ bound ih =>
    rw [matchesFrom, matchesFrom, h]
    cases p.findAt? text position with
    | none => rfl
    | some m => simp only [ih]

theorem matchesFrom_length (p : Pattern) (text : Array Char) (bound position : Nat) :
    (p.matchesFrom text bound position).length ≤ bound := by
  induction bound generalizing position with
  | zero => exact Nat.le_refl _
  | succ bound ih =>
    rw [matchesFrom]
    split
    · split
      · exact Nat.succ_le_succ (ih _)
      · exact Nat.zero_le _
    · exact Nat.zero_le _

/-- Every match of a walk starts at its position or behind it. -/
theorem matchesFrom_found (bound : Nat) (hm : m ∈ p.matchesFrom text bound position) :
    position ≤ m.start ∧ m.start ≤ m.stop ∧ m.stop ≤ text.size ∧
      p.expression.matchAt? text m.start = some m := by
  induction bound generalizing position with
  | zero => cases hm
  | succ bound ih =>
    rw [matchesFrom] at hm
    split at hm
    · rename_i hp
      split at hm
      · rename_i first hf
        obtain ⟨hle, hlt, hfirst⟩ := findAt?_found hp hf
        have hspan := Regex.Expression.matchAt?_span hlt hfirst
        cases hm with
        | head => exact ⟨hle, hspan.1, hspan.2, hfirst⟩
        | tail _ hm =>
          obtain ⟨h1, h2⟩ := ih hm
          have hafter := after_span first hspan.1
          exact ⟨by omega, h2⟩
      · cases hm
    · cases hm

/-- One match lies in front of another: it starts earlier and ends no later than the other starts,
before it if it is empty. -/
def InFront (a b : Regex.Match) : Prop :=
  a.start < b.start ∧ a.stop ≤ b.start ∧ (a.start = a.stop → a.stop < b.start)

theorem matchesFrom_ordered (p : Pattern) (text : Array Char) (bound position : Nat) :
    (p.matchesFrom text bound position).Pairwise InFront := by
  induction bound generalizing position with
  | zero => exact .nil
  | succ bound ih =>
    rw [matchesFrom]
    split
    · rename_i hp
      split
      · rename_i first hf
        obtain ⟨hle, hlt, hfirst⟩ := findAt?_found hp hf
        have hafter := after_span first (Regex.Expression.matchAt?_span hlt hfirst).1
        refine List.Pairwise.cons ?_ (ih first.after)
        intro m hm
        obtain ⟨h1, -⟩ := matchesFrom_found bound hm
        exact ⟨by omega, by omega, fun he => by omega⟩
      · exact .nil
    · exact .nil

/-- A place with a match is the start of a match of the walk or lies strictly inside one. -/
theorem matchesFrom_complete (hs : p.sticky = false)
    (hleft : p.expression.SearchesLeftmost text) {bound place : Nat}
    (hb : text.size + 1 ≤ bound + position) (hle : position ≤ place) (hlt : place ≤ text.size)
    (hm : p.expression.matchAt? text place = some m) :
    m ∈ p.matchesFrom text bound position ∨
      ∃ other ∈ p.matchesFrom text bound position, other.start < place ∧ place < other.stop := by
  induction bound generalizing position with
  | zero => omega
  | succ bound ih =>
    have hp : position ≤ text.size := Nat.le_trans hle hlt
    have hsearch : p.findAt? text position = p.expression.search? text position := by
      simp [findAt?, hs]
    rw [matchesFrom, if_pos hp, hsearch]
    cases hf : p.expression.search? text position with
    | none => exact absurd (hleft.none_behind hp hf hle hlt) (by simp [hm])
    | some first =>
      obtain ⟨h1, h2, -, hfirst⟩ := Regex.Expression.search?_found hf
      have hafter := after_span first (Regex.Expression.matchAt?_span h2 hfirst).1
      rcases Nat.lt_trichotomy place first.start with hbefore | hsame | hbehind
      · exact absurd (hleft.none_before hp hf hle hbefore) (by simp [hm])
      · rw [← hsame, hm] at hfirst
        obtain rfl := Option.some.inj hfirst
        exact .inl (List.mem_cons_self ..)
      · by_cases hin : place < first.after
        · -- an empty match is followed by the next place, so this one is not empty
          exact .inr ⟨first, List.mem_cons_self .., hbehind, by omega⟩
        · have hrest := ih (show text.size + 1 ≤ bound + first.after by omega) (by omega)
          rcases hrest with hmem | ⟨other, hmem, hin⟩
          · exact .inl (List.mem_cons_of_mem _ hmem)
          · exact .inr ⟨other, List.mem_cons_of_mem _ hmem, hin⟩

theorem textOf_size (data : String) : (textOf data).size = data.length := by
  simp [textOf, String.length_toList]

/-- The walk over a text ends after at most one match for each position. Its matches lie one behind
the other inside the text, and where searches are leftmost, a place with a match is left out only
inside another match. -/
theorem walk_ordered_complete (p : Pattern) (hs : p.sticky = false) (data : String) :
    (∀ ms, (Walk.start p data).Reports ms ↔ ms = p.matchesIn (textOf data)) ∧
    (p.matchesIn (textOf data)).length ≤ data.length + 1 ∧
    (∀ m ∈ p.matchesIn (textOf data), m.start ≤ m.stop ∧ m.stop ≤ data.length) ∧
    (p.matchesIn (textOf data)).Pairwise InFront ∧
    (p.expression.SearchesLeftmost (textOf data) →
      ∀ place ≤ data.length, ∀ m, p.expression.matchAt? (textOf data) place = some m →
        m.start = place ∧ (m ∈ p.matchesIn (textOf data) ∨
          ∃ other ∈ p.matchesIn (textOf data), other.start < place ∧ place < other.stop)) := by
  have hsize := textOf_size data
  have hreports : (Walk.start p data).Reports (p.matchesIn (textOf data)) :=
    reports_matchesFrom p (textOf data) _ 0 (Nat.le_refl _)
  refine ⟨?_, ?_, ?_, matchesFrom_ordered p _ _ 0, ?_⟩
  · intro ms
    constructor
    · intro h
      exact h.unique hreports
    · rintro rfl
      exact hreports
  · rw [← hsize]
    exact matchesFrom_length p _ _ 0
  · intro m hm
    rw [← hsize]
    obtain ⟨-, h2, h3, -⟩ := matchesFrom_found _ hm
    exact ⟨h2, h3⟩
  · intro hleft place hplace m hm
    rw [← hsize] at hplace
    exact ⟨Regex.Expression.matchAt?_start hm,
      matchesFrom_complete hs hleft (Nat.le_refl _) (Nat.zero_le _) hplace hm⟩

/-- Stars between other letters: the walk over a text that mixes empty matches and others. -/
theorem walk_ordered_complete_stars :
    let p : Pattern :=
      ⟨"a*", "g", ⟨.loop .greedy 0 none (.char 0x61), { ascii := true }, 0, []⟩, false⟩
    p.sticky = false ∧ p.expression.SearchesLeftmost (textOf "baab") ∧
      (Walk.start p "baab").Reports [⟨0, 0, []⟩, ⟨1, 3, []⟩, ⟨3, 3, []⟩, ⟨4, 4, []⟩] ∧
      ∃ other ∈ p.matchesIn (textOf "baab"), other.start < 2 ∧ 2 < other.stop := by
  intro p
  have hleft : p.expression.SearchesLeftmost (textOf "baab") :=
    Regex.Expression.searchesLeftmost_of_startSet rfl
  have h := walk_ordered_complete p rfl "baab"
  refine ⟨rfl, hleft, (h.1 _).mpr (by decide +kernel), ?_⟩
  -- two letters into the text the expression matches, inside the match from the first one
  have hinside := (h.2.2.2.2 hleft 2 (by decide) ⟨2, 3, []⟩ (by decide +kernel)).2
  exact hinside.resolve_left (by decide +kernel)

end Linting.Pattern
