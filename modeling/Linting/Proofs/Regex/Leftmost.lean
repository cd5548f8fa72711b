import Linting.Proofs.Regex.Advance

/-! Where a search finds its match. It tries the places of the text from left to right, but only
those whose character may begin the expression; if every place with a match is tried, the match
found is the leftmost one. -/

namespace Linting.Regex
set_option autoImplicit false

/-! ## The first place of a stretch that gives a value -/

section
variable {α : Type} {f g : Nat → Option α}

theorem findSome?_stretch {start count : Nat} {x : α}
    (h : (List.range' start count).findSome? f = some x) :
    ∃ place, start ≤ place ∧ place < start + count ∧ f place = some x ∧
      ∀ before, start ≤ before → before < place → f before = none := by
  induction count generalizing start with
  | zero => cases h
  | succ count ih =>
    rw [List.range'_succ, List.findSome?_cons] at h
    cases hf : f start with
    | some y =>
      rw [hf] at h
      refine ⟨start, Nat.le_refl _, by omega, hf.trans h, ?_⟩
      intro before h1 h2
      omega
    | none =>
      rw [hf] at h
      obtain ⟨place, h1, h2, h3, h4⟩ := ih h
      refine ⟨place, by omega, by omega, h3, ?_⟩
      intro before hle hlt
      by_cases he : before = start
      · rw [he, hf]
      · exact h4 before (by omega) hlt

theorem findSome?_stretch_congr (start count : Nat)
    (h : ∀ place, start ≤ place → place < start + count → f place = g place) :
    (List.range' start count).findSome? f = (List.range' start count).findSome? g := by
  induction count generalizing start with
  | zero => rfl
  | succ count ih =>
    rw [List.range'_succ, List.findSome?_cons, List.findSome?_cons, h start (by omega) (by omega),
      ih (start + 1) fun place h1 h2 => h place (by omega) (by omega)]

end

namespace Expression

/-! ## The places a search tries -/

/-- Whether a search tries for a match at a position. -/
def tries (e : Expression) (text : Array Char) (position : Nat) : Bool :=
  (charAt? text position).all (mayStart (e.root.startSet? e.flags) e.flags)

/-- A search from any position of the text finds the match at the first place that has one. -/
def SearchesLeftmost (e : Expression) (text : Array Char) : Prop :=
  ∀ position ≤ text.size, e.search? text position =
    (List.range' position (text.size + 1 - position)).findSome? (e.matchAt? text)

variable {e : Expression} {text : Array Char} {position : Nat} {m : Match}

theorem searchFrom_eq (e : Expression) (text : Array Char) (set : Option CharSet)
    (count position : Nat) :
    e.searchFrom text set count position =
      (List.range' position count).findSome? fun place =>
        if (charAt? text place).all (mayStart set e.flags) then e.matchAt? text place
        else none := by
  induction count generalizing position with
  | zero => rfl
  | succ count ih =>
    rw [searchFrom, List.range'_succ, List.findSome?_cons]
    simp only [ih]
    split <;> simp_all

theorem search?_eq (e : Expression) (text : Array Char) (position : Nat) :
    e.search? text position =
      (List.range' position (text.size + 1 - position)).findSome? fun place =>
        if e.tries text place then e.matchAt? text place else none :=
  searchFrom_eq e text _ _ _

/-- A search finds a match at a place it tries, between the position and the end. -/
theorem search?_found (h : e.search? text position = some m) :
    position ≤ m.start ∧ m.start ≤ text.size ∧ e.tries text m.start ∧
      e.matchAt? text m.start = some m := by
  rw [search?_eq] at h
  obtain ⟨place, h1, h2, hm, -⟩ := findSome?_stretch h
  rw [Option.ite_none_right_eq_some] at hm
  obtain ⟨htries, hm⟩ := hm
  obtain rfl := matchAt?_start hm
  exact ⟨h1, by omega, htries, hm⟩

/-! ## Leftmost searches -/

/-- A leftmost search from a place with a match finds that match. -/
theorem SearchesLeftmost.found_at (h : e.SearchesLeftmost text) (hp : position ≤ text.size)
    (hm : e.matchAt? text position = some m) : e.search? text position = some m := by
  have hc : text.size + 1 - position = (text.size - position) + 1 := by omega
  rw [h position hp, hc, List.range'_succ, List.findSome?_cons, hm]

/-- A leftmost search passes over no place with a match. -/
theorem SearchesLeftmost.none_before (h : e.SearchesLeftmost text) (hp : position ≤ text.size)
    (hs : e.search? text position = some m) {place : Nat} (hle : position ≤ place)
    (hlt : place < m.start) : e.matchAt? text place = none := by
  rw [h position hp] at hs
  obtain ⟨found, -, -, hm, hbefore⟩ := findSome?_stretch hs
  rw [matchAt?_start hm] at hlt
  exact hbefore place hle hlt

/-- A leftmost search that finds nothing has passed places without a match only. -/
theorem SearchesLeftmost.none_behind (h : e.SearchesLeftmost text) (hp : position ≤ text.size)
    (hs : e.search? text position = none) {place : Nat} (hle : position ≤ place)
    (hlt : place ≤ text.size) : e.matchAt? text place = none := by
  rw [h position hp, List.findSome?_eq_none_iff] at hs
  exact hs place (List.mem_range'_1.mpr ⟨hle, by omega⟩)

/-- A search is leftmost exactly if it tries every place that has a match. -/
theorem searchesLeftmost_iff :
    e.SearchesLeftmost text ↔
      ∀ position ≤ text.size, (e.matchAt? text position).isSome → e.tries text position := by
  constructor
  · intro h position hp hm
    obtain ⟨m, hm⟩ := Option.isSome_iff_exists.mp hm
    have htries := (search?_found (h.found_at hp hm)).2.2.1
    rwa [matchAt?_start hm] at htries
  · intro h position hp
    rw [search?_eq]
    apply findSome?_stretch_congr
    intro place _ hlt
    by_cases htries : e.tries text place
    · rw [if_pos htries]
    · rw [if_neg htries]
      cases hm : e.matchAt? text place with
      | none => rfl
      | some m => exact absurd (h place (by omega) (by rw [hm]; rfl)) htries

/-- Every place is tried unless the expression begins with a set of another alphabet. -/
theorem searchesLeftmost_of_startSet (h : e.root.startSet? e.flags = none) :
    e.SearchesLeftmost text := by
  rw [searchesLeftmost_iff]
  intro position _ _
  rw [tries, h]
  cases charAt? text position <;> rfl

end Expression

end Linting.Regex
