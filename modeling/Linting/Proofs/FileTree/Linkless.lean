import Linting.Proofs.FileTree.Ways

/-! Trees without links. There a double dot takes away the name before it, so where the names of a
path lead can be told from the names alone. -/

namespace Linting.FileTree
set_option autoImplicit false

variable {t : FileTree} {links : Nat} {here next place cwd : Place} {name text : String}
  {names rest : List String} {p : Path}

/-! ## Names and double dots -/

/-- Where names lead from a place if there are no links. -/
def lead (here : Place) (names : List String) : Place :=
  (names.foldl stepTo here.reverse).reverse

theorem lead_nil (here : Place) : lead here [] = here := List.reverse_reverse here

theorem lead_append (here : Place) (names rest : List String) :
    lead here (names ++ rest) = lead (lead here names) rest := by
  rw [lead, List.foldl_append, lead, lead, List.reverse_reverse]

theorem lead_singleton (here : Place) (name : String) :
    lead here [name] =
      if name = "." then here else if name = ".." then here.dropLast else here ++ [name] := by
  rw [lead, List.foldl_cons, List.foldl_nil, stepTo]
  split
  · exact List.reverse_reverse here
  · split
    · rw [List.drop_one, List.tail_reverse, List.reverse_reverse]
    · rw [List.reverse_cons, List.reverse_reverse]

/-- Without double dots names lead downwards. -/
theorem prefix_lead (here : Place) (h : ".." ∉ names) : here <+: lead here names := by
  induction names generalizing here with
  | nil => exact (lead_nil here).symm ▸ List.prefix_rfl
  | cons name rest ih =>
    obtain ⟨hname, hrest⟩ := not_or.mp (mt List.mem_cons.mpr h)
    have hfirst : here <+: lead here [name] := by
      rw [lead_singleton, if_neg (Ne.symm hname)]
      split
      · exact List.prefix_rfl
      · exact List.prefix_append ..
    rw [← List.singleton_append, lead_append]
    exact hfirst.trans (ih _ hrest)

/-- Whatever directory a double dot leaves is the one that all names lead to, or above it. -/
def Returns (names : List String) : Prop :=
  ∀ front back, names = front ++ ".." :: back → collapse front <+: collapse names

theorem returns_of_notMem (h : ".." ∉ names) : Returns names := by
  rintro front back rfl
  exact absurd (List.mem_append_right front (List.mem_cons_self ..)) h

/-- If names return, then all directories on their way are the one they lead to, or above it. -/
theorem returns_iff : Returns names ↔
    ∀ front, front <+: names → collapse front <+: collapse names := by
  constructor
  · rintro h front ⟨rest, rfl⟩
    have hdown (more : List String) (hmore : ".." ∉ more) :
        collapse front <+: collapse (front ++ more) := by
      change lead [] front <+: lead [] (front ++ more)
      rw [lead_append]
      exact prefix_lead _ hmore
    by_cases hdots : ".." ∈ rest
    · -- the names lead downwards up to the next double dot, and this one returns
      obtain ⟨down, back, rfl, hfirst⟩ := List.eq_append_cons_of_mem hdots
      exact (hdown down hfirst).trans (h (front ++ down) back (List.append_assoc ..).symm)
    · exact hdown rest hdots
  · rintro h front back rfl
    exact h front (List.prefix_append ..)

/-! ## Trees -/

/-- No link stands anywhere. -/
def Linkless (t : FileTree) : Prop := ∀ place target, t.entryAt place ≠ some (.link target)

theorem Linkless.empty : ({} : FileTree).Linkless := by
  intro place target
  rw [entryAt_empty]
  split <;> exact nofun

theorem Linkless.put {entry : Entry} (h : t.Linkless) (hne : place ≠ [])
    (hentry : ∀ target, entry ≠ .link target) : (t.put place entry).Linkless := by
  intro other target
  rw [entryAt_put hne]
  split
  · exact fun hlink => hentry target (Option.some.inj hlink)
  · exact h other target

theorem follow_linkless (h : t.Linkless) (links : Nat) (active : List Position) (here : Position)
    (names : List String) :
    t.follow links active here names = ({ here with place := lead here.place names }, true) := by
  induction names generalizing here with
  | nil => rw [follow, lead_nil]
  | cons name rest ih =>
    rw [← List.singleton_append, lead_append, lead_singleton, List.singleton_append, follow]
    by_cases hdots : name = ".."
    · subst hdots
      rw [if_pos rfl, ih]
      rfl
    by_cases hdot : name = "."
    · subst hdot
      rw [if_neg hdots, if_pos rfl, ih]
      rfl
    rw [if_neg hdots, if_neg hdot, if_neg hdot, if_neg hdots]
    dsimp only
    split
    · next target hlink => exact absurd hlink (h _ target)
    · exact ih _

/-- The place of an absolute path is that of its names. -/
theorem resolve_linkless (h : t.Linkless) (cwd : Place) (hp : p.isAbsolute = true) :
    t.resolve cwd p = collapse p.names := by
  rw [resolve, if_pos hp, follow_linkless h]
  rfl

theorem lead_of_enter (h : t.enter here name = .ok next) : next = lead here [name] := by
  rw [lead_singleton]
  by_cases hdot : name = "."
  · subst hdot
    rw [enter, directory_of_enter h] at h
    exact (Except.ok.inj h).symm
  by_cases hdots : name = ".."
  · subst hdots
    rw [enter, directory_of_enter h] at h
    exact (Except.ok.inj h).symm
  rw [if_neg hdot, if_neg hdots]
  exact enter_proper h hdot hdots

theorem Way.eq_lead (h : t.Linkless) (hway : Way t links here names place) :
    place = lead here names := by
  induction hway with
  | here => exact (lead_nil _).symm
  | name henter _ _ ih =>
    rw [← List.singleton_append, lead_append, ← lead_of_enter henter]
    exact ih
  | link _ hlink _ _ => exact absurd hlink (h _ _)

/-- Also what is found by the text of an absolute path is at the place of its names. -/
theorem find_linkless {entry : Entry} (h : t.Linkless)
    (habsolute : (Path.ofString text).isAbsolute = true)
    (hfind : t.find cwd text = .ok (place, entry)) :
    place = collapse (Path.ofString text).names := by
  obtain ⟨⟨-, hway⟩, -⟩ := wayOf_of_find hfind
  rw [startOf, if_pos habsolute] at hway
  exact hway.eq_lead h

end Linting.FileTree
