import Linting.Regex.Match

/-! Running a node only moves to the right and never leaves the text. What holds of one way through
a node is carried through its repetitions, so a match spans a stretch of the text. -/

namespace Linting.Regex
set_option autoImplicit false

/-- The continuation gives the result at some cursor that lies no further left, in the text. -/
def Reaches (text : Array Char) (s : Cursor) (k : Continuation) (t : Cursor) : Prop :=
  ∃ u : Cursor, s.position ≤ u.position ∧ u.position ≤ text.size ∧ k u = some t

/-- A step that only moves to the right, inside the text. -/
def Advances (text : Array Char) (f : Cursor → Continuation → Option Cursor) : Prop :=
  ∀ s k t, s.position ≤ text.size → f s k = some t → Reaches text s k t

namespace Reaches
variable {text : Array Char} {s u t : Cursor} {k : Continuation}

theorem here (hs : s.position ≤ text.size) (h : k s = some t) : Reaches text s k t :=
  ⟨s, Nat.le_refl _, hs, h⟩

theorem from_right (hsu : s.position ≤ u.position) (h : Reaches text u k t) :
    Reaches text s k t := by
  obtain ⟨v, hv, hv', hk⟩ := h
  exact ⟨v, Nat.le_trans hsu hv, hv', hk⟩

/-- What is reached through `some` is the result itself. -/
theorem through_some (h : Reaches text s some t) :
    s.position ≤ t.position ∧ t.position ≤ text.size := by
  obtain ⟨u, hu, hu', hk⟩ := h
  obtain rfl := Option.some.inj hk
  exact ⟨hu, hu'⟩

end Reaches

/-! ## Single characters and references -/

theorem charAt?_lt {text : Array Char} {position c : Nat} (h : charAt? text position = some c) :
    position < text.size := by
  unfold charAt? at h
  obtain ⟨d, hd, -⟩ := Option.map_eq_some_iff.mp h
  exact (Array.getElem?_eq_some_iff.mp hd).1

theorem passOne_advances (text : Array Char) (test : Nat → Bool) :
    Advances text (passOne text test) := by
  intro s k t hs h
  unfold passOne at h
  split at h
  · rename_i c hc
    have hlt := charAt?_lt hc
    split at h
    · exact ⟨s.moveTo (s.position + 1), Nat.le_succ _, hlt, h⟩
    · cases h
  · cases h

theorem passAgain_advances (text : Array Char) (flags : Flags) (start stop : Nat) :
    Advances text (passAgain text flags start stop) := by
  intro s k t hs h
  simp only [passAgain, Option.ite_none_right_eq_some] at h
  obtain ⟨hsame, hk⟩ := h
  refine ⟨s.moveTo (s.position + (stop - start)), Nat.le_add_right _ _, ?_, hk⟩
  show s.position + (stop - start) ≤ text.size
  by_cases hz : stop - start = 0
  · omega
  · -- the last of the characters compared is one of the text
    have hlast := List.all_eq_true.mp hsame (stop - start - 1) (List.mem_range.mpr (by omega))
    split at hlast
    · rename_i a b ha hb
      have := charAt?_lt hb
      omega
    · cases hlast

/-! ## Repetitions -/

section
variable {text : Array Char} {body : Cursor → Continuation → Option Cursor} {least : Nat}
  {most : Option Nat}

theorem greedyLoop_reaches (hbody : Advances text body) (bound count : Nat) (last : Option Nat)
    (s t : Cursor) (k : Continuation) (hs : s.position ≤ text.size)
    (h : greedyLoop body least most bound count last s k = some t) : Reaches text s k t := by
  induction bound generalizing count last s with
  | zero => cases h
  | succ bound ih =>
    rw [greedyLoop] at h
    split at h
    · obtain ⟨u, hu, hu', hk⟩ := hbody s _ t hs h
      exact (ih _ _ u hu' hk).from_right hu
    · split at h
      · split at h
        · rename_i v hv
          obtain rfl := Option.some.inj h
          obtain ⟨u, hu, hu', hk⟩ := hbody s _ v hs hv
          exact (ih _ _ u hu' hk).from_right hu
        · exact .here hs h
      · exact .here hs h

theorem reluctantLoop_reaches (hbody : Advances text body) (bound count : Nat) (last : Option Nat)
    (s t : Cursor) (k : Continuation) (hs : s.position ≤ text.size)
    (h : reluctantLoop body least most bound count last s k = some t) : Reaches text s k t := by
  induction bound generalizing count last s with
  | zero => cases h
  | succ bound ih =>
    rw [reluctantLoop] at h
    split at h
    · obtain ⟨u, hu, hu', hk⟩ := hbody s _ t hs h
      exact (ih _ _ u hu' hk).from_right hu
    · split at h
      · rename_i v hv
        obtain rfl := Option.some.inj h
        exact .here hs hv
      · split at h
        · obtain ⟨u, hu, hu', hk⟩ := hbody s _ t hs h
          exact (ih _ _ u hu' hk).from_right hu
        · cases h

theorem possessiveLoop_reaches (hbody : Advances text body) (bound count : Nat)
    (last : Option Nat) (s t : Cursor) (hs : s.position ≤ text.size)
    (h : possessiveLoop body least most bound count last s = some t) :
    Reaches text s some t := by
  induction bound generalizing count last s with
  | zero => cases h
  | succ bound ih =>
    rw [possessiveLoop] at h
    split at h
    · split at h
      · rename_i v hv
        obtain ⟨hsv, hv'⟩ := (hbody s some v hs hv).through_some
        exact (ih _ _ v hv' h).from_right hsv
      · cases h
    · split at h
      · split at h
        · rename_i v hv
          obtain ⟨hsv, hv'⟩ := (hbody s some v hs hv).through_some
          exact (ih _ _ v hv' h).from_right hsv
        · exact .here hs h
      · exact .here hs h

end

/-! ## Nodes -/

theorem run_advances (text : Array Char) (node : Node) (flags : Flags) :
    Advances text (node.run text flags) := by
  induction node generalizing flags with
  | empty => exact fun s k t hs h => .here hs h
  | char c => exact passOne_advances text _
  | notChar c => exact passOne_advances text _
  | any => exact passOne_advances text _
  | set members => exact passOne_advances text _
  | anchor a =>
    intro s k t hs h
    rw [Node.run] at h
    split at h
    · exact .here hs h
    · cases h
  | seq a b iha ihb =>
    intro s k t hs h
    obtain ⟨u, hu, hu', hk⟩ := iha flags s _ t hs h
    exact (ihb flags u k t hu' hk).from_right hu
  | choice a b iha ihb =>
    intro s k t hs h
    rw [Node.run] at h
    split at h
    · rename_i v hv
      obtain rfl := Option.some.inj h
      exact iha flags s k _ hs hv
    · exact ihb flags s k t hs h
  | capture group body ih =>
    intro s k t hs h
    obtain ⟨u, hu, hu', hk⟩ := ih flags (s.enter group) _ t hs h
    exact ⟨u.leave group, hu, hu', hk⟩
  | switched on off body ih => exact ih (flags.inside on off)
  | atomic body ih =>
    intro s k t hs h
    rw [Node.run] at h
    split at h
    · rename_i v hv
      obtain ⟨hsv, hv'⟩ := (ih flags s some v hs hv).through_some
      exact ⟨v, hsv, hv', h⟩
    · cases h
  | ahead negated body ih =>
    intro s k t hs h
    rw [Node.run] at h
    split at h <;> split at h
    · cases h
    · rename_i v hv _
      exact ⟨v.moveTo s.position, Nat.le_refl _, hs, h⟩
    · exact .here hs h
    · cases h
  | behind negated width body ih =>
    intro s k t hs h
    rw [Node.run] at h
    -- wherever the body ends, the position is that of the cursor again
    split at h <;> split at h
    · cases h
    · rename_i v hv _
      exact ⟨v.moveTo s.position, Nat.le_refl _, hs, h⟩
    · exact .here hs h
    · cases h
  | loop greed least most body ih =>
    intro s k t hs h
    cases greed with
    | greedy => exact greedyLoop_reaches (ih flags) _ _ _ s t k hs h
    | reluctant => exact reluctantLoop_reaches (ih flags) _ _ _ s t k hs h
    | possessive =>
      simp only [Node.run] at h
      split at h
      · rename_i v hv
        obtain ⟨hsv, hv'⟩ := (possessiveLoop_reaches (ih flags) _ _ _ s v hs hv).through_some
        exact ⟨v, hsv, hv', h⟩
      · cases h
  | backref group width =>
    intro s k t hs h
    rw [Node.run] at h
    split at h
    · exact passAgain_advances text flags _ _ s k t hs h
    · cases h
  | ifGroup group yes no ihy ihn =>
    intro s k t hs h
    rw [Node.run] at h
    split at h
    · exact ihy flags s k t hs h
    · exact ihn flags s k t hs h

/-! ## Matches -/

namespace Expression
variable {e : Expression} {text : Array Char} {position : Nat} {m : Match}

theorem matchAt?_start (h : e.matchAt? text position = some m) : m.start = position := by
  unfold matchAt? at h
  split at h
  · exact (congrArg Match.start (Option.some.inj h)).symm
  · cases h

/-- A match spans a stretch of the text. -/
theorem matchAt?_span (hp : position ≤ text.size) (h : e.matchAt? text position = some m) :
    m.start ≤ m.stop ∧ m.stop ≤ text.size := by
  unfold matchAt? at h
  split at h
  · rename_i t ht
    obtain rfl := Option.some.inj h
    exact (run_advances text e.root e.flags (e.freshCursor position) some t hp ht).through_some
  · cases h

end Expression

end Linting.Regex
