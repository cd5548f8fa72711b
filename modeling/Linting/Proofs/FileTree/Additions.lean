import Linting.Proofs.FileTree.Ways

/-! Directories made and files written under the path of a directory without links: what is added is
on the way to the place of their names in that directory, also where a fault cuts the work short. -/

namespace Linting.FileTree
set_option autoImplicit false

variable {t t' t'' : FileTree} {place : Place} {names : List String}

/-! ## Additions -/

/-- A tree after additions: only some places may have changed, none of them to a link, and what was
a directory or a link is one still. -/
structure Adds (allowed : Place → Prop) (t t' : FileTree) : Prop where
  keeps : Keeps t t'
  changed : ∀ other, t'.entryAt other ≠ t.entryAt other →
    allowed other ∧ ∀ target, t'.entryAt other ≠ some (.link target)

namespace Adds
variable {allowed more : Place → Prop}

theorem refl (t : FileTree) : Adds allowed t t := ⟨.refl t, fun _ h => absurd rfl h⟩

theorem trans (h : Adds allowed t t') (h' : Adds allowed t' t'') : Adds allowed t t'' where
  keeps := h.keeps.trans h'.keeps
  changed other hother := by
    by_cases hlast : t''.entryAt other = t'.entryAt other
    · rw [hlast] at hother ⊢
      exact h.changed other hother
    · exact h'.changed other hlast

theorem mono (h : Adds allowed t t') (hle : ∀ other, allowed other → more other) :
    Adds more t t' :=
  ⟨h.keeps, fun other hother => (h.changed other hother).imp_left (hle other)⟩

theorem put {entry : Entry} (hne : place ≠ []) (hallowed : allowed place)
    (hdirectory : t.entryAt place ≠ some .directory)
    (hlink : ∀ target, t.entryAt place ≠ some (.link target))
    (hentry : ∀ target, entry ≠ .link target) : Adds allowed t (t.put place entry) where
  keeps := .put hne hdirectory hlink
  changed other hother := by
    rw [entryAt_put hne] at hother ⊢
    split at hother
    · next heq =>
      subst heq
      rw [if_pos rfl]
      exact ⟨hallowed, fun target h => hentry target (Option.some.inj h)⟩
    · exact absurd rfl hother

theorem changesOnly (h : Adds allowed t t') : ChangesOnly allowed t t' :=
  ⟨h.keeps.limits, fun other hother => (h.changed other hother).1⟩

end Adds

/-! ## Directories without links -/

/-- A path leads to a directory, seen from the root, and there are no links in it. -/
structure Leads (t : FileTree) (p : Path) (place : Place) : Prop where
  way : WayOf t [] p.toString place
  directory : t.entryAt place = some .directory
  plain : ∀ other target, place <+: other → t.entryAt other ≠ some (.link target)

/-- Names that a path keeps as they are and that lead downwards. -/
def Descend (names : List String) : Prop := ∀ name ∈ names, Path.IsProper name ∧ name ≠ ".."

theorem Descend.initial {more : List String} (h : Descend more) (hle : names <+: more) :
    Descend names := fun name hname => h name (hle.subset hname)

theorem startOf_root (p : Path) : startOf [] p = [] := ite_self _

namespace Leads
variable {p : Path}

theorem adds {allowed : Place → Prop} (h : Leads t p place) (hadds : Adds allowed t t') :
    Leads t' p place where
  way := hadds.keeps.wayOf h.way h.directory
  directory := hadds.keeps.directory place h.directory
  plain other target hle hlink := by
    by_cases hother : t'.entryAt other = t.entryAt other
    · exact h.plain other target hle (hother ▸ hlink)
    · exact (hadds.changed other hother).2 target hlink

theorem names_below (hnames : Descend names) :
    (Path.ofString (p.below names).toString).names = (Path.ofString p.toString).names ++ names :=
  Path.namesIn_below p fun name hname => (hnames name hname).1

/-- A way that goes over the directory leads on from there. -/
theorem way_below {last : Place} (h : Leads t p place) (hnames : Descend names)
    (hway : WayOf t [] (p.below names).toString last) : ∃ left, Way t left place names last := by
  have hall := hway.2
  have hfirst := h.way.2
  rw [startOf_root] at hall hfirst
  rw [names_below hnames] at hall
  exact hfirst.rest hall

/-- Where a way leads that goes over the directory and then downwards. -/
theorem wayOf_below {last : Place} (h : Leads t p place) (hnames : Descend names)
    (hway : WayOf t [] (p.below names).toString last) : last = place ++ names := by
  obtain ⟨left, hrest⟩ := h.way_below hnames hway
  exact hrest.eq_append h.plain fun name hname =>
    ⟨(hnames name hname).1.ne_dot, (hnames name hname).2⟩

/-- An entry that is no link is put at the place of names where there is no directory. -/
theorem put (entry : Entry) (h : Leads t p place)
    (hother : t.entryAt (place ++ names) ≠ some .directory)
    (hentry : ∀ target, entry ≠ .link target) :
    Adds (Along place names) t (t.put (place ++ names) entry) ∧
      (t.put (place ++ names) entry).entryAt (place ++ names) = some entry := by
  have hroot : place ++ names ≠ [] := by
    intro hroot
    rw [hroot] at hother
    exact hother rfl
  have hne : names ≠ [] := by
    rintro rfl
    rw [List.append_nil, h.directory] at hother
    exact hother rfl
  have hplain (target : Path) : t.entryAt (place ++ names) ≠ some (.link target) :=
    h.plain _ target (List.prefix_append ..)
  refine ⟨.put hroot ⟨names, hne, List.prefix_refl _, rfl⟩ hother hplain hentry, ?_⟩
  rw [entryAt_put hroot, if_pos rfl]

/-- Where nothing stands yet, a directory is made at the place of its names. -/
theorem ensureDirectory (h : Leads t p place) (hnames : Descend names)
    (hmade : t.ensureDirectory [] (p.below names).toString = .ok t') :
    Adds (Along place names) t t' := by
  rw [FileTree.ensureDirectory] at hmade
  split at hmade
  · next made hmake =>
    obtain rfl := Except.ok.inj hmade
    obtain ⟨other, hspot, hnone, rfl⟩ := makeDirectory_eq_ok_iff.mp hmake
    have hnot (entry : Entry) : t.entryAt other ≠ some entry := by
      rw [hnone]
      exact fun h => nomatch h
    -- what is made is made at the place of the names, wherever the text was looked up
    obtain rfl := h.wayOf_below hnames (wayOf_of_spot hspot fun target => hnot (.link target))
    exact (h.put .directory (hnot .directory) fun _ => Entry.noConfusion).1
  · split at hmade
    · obtain rfl := Except.ok.inj hmade
      exact .refl t
    · cases hmade

/-- Directories are made on the way to the place of the names, one below the other. -/
theorem makePath (h : Leads t p place) (hnames : Descend names) :
    Adds (Along place names) t (t.makePath [] (p.below names)).2 := by
  -- from the end, since the directories above are made first
  induction names using List.reverseRecOn with
  | nil =>
    have hbelow : p.below [] = p := by rw [Path.below, List.append_nil]
    rw [hbelow, FileTree.makePath, h.way.ensureDirectory h.directory]
    exact .refl t
  | append_singleton names name ih =>
    have hle : names <+: names ++ [name] := List.prefix_append ..
    have habove := ih (hnames.initial hle)
    rw [FileTree.makePath]
    split
    · next made hmade => exact h.ensureDirectory hnames hmade
    · split
      · exact .refl t
      · rw [Path.parent_below_concat]
        have hmono := habove.mono fun _ hother => Along.mono hother hle
        split
        · next e above heq =>
          rw [heq] at hmono
          exact hmono
        · next above heq =>
          rw [heq] at hmono
          split
          · next made hmade => exact hmono.trans ((h.adds hmono).ensureDirectory hnames hmade)
          · exact hmono
    · exact .refl t

/-- A file is written at the place of its names, unless there is a device, which takes the bytes. -/
theorem write {bytes : List UInt8} (h : Leads t p place) (hnames : Descend names)
    (hwritten : t.write [] (p.below names).toString bytes = .ok t') :
    Adds (Along place names) t t' ∧
      ((∃ executable, t'.entryAt (place ++ names) = some (.file bytes executable)) ∨
        t'.entryAt (place ++ names) = some .device) := by
  rw [FileTree.write] at hwritten
  split at hwritten
  · cases hwritten
  · next other hlocate =>
    obtain rfl := h.wayOf_below hnames (wayOf_of_locate hlocate)
    split at hwritten
    · cases hwritten
    · next executable hfile =>
      obtain rfl := Except.ok.inj hwritten
      have hother : t.entryAt (place ++ names) ≠ some .directory := by
        rw [hfile]
        exact fun h => nomatch h
      obtain ⟨hadds, hat⟩ := h.put (.file bytes executable) hother
        fun _ => Entry.noConfusion
      exact ⟨hadds, .inl ⟨executable, hat⟩⟩
    · next hdevice =>
      obtain rfl := Except.ok.inj hwritten
      exact ⟨.refl t, .inr hdevice⟩
    · next hother _ _ =>
      obtain rfl := Except.ok.inj hwritten
      obtain ⟨hadds, hat⟩ := h.put (.file bytes false) hother fun _ => Entry.noConfusion
      exact ⟨hadds, .inl ⟨false, hat⟩⟩

end Leads

end Linting.FileTree
