import Linting.Proofs.FileTree.Entries
import Linting.Proofs.Path.Names

/-! Ways through a tree: where the names of a path lead. A way stays as it is when a tree changes
but keeps its directories and links, and from a directory that has no links in it names lead to the
place of these names below it. -/

namespace Linting.FileTree
set_option autoImplicit false

variable {t t' : FileTree} {links : Nat} {here next place : Place} {name : String}
  {names : List String} {text : String} {cwd : Place}

/-! ## Single names -/

theorem directory_of_enter (h : t.enter here name = .ok next) :
    t.entryAt here = some .directory := by
  rw [enter] at h
  split at h
  · cases h
  · next hhere => exact hhere
  · cases h

theorem enter_proper (h : t.enter here name = .ok next) (hdot : name ≠ ".")
    (hdots : name ≠ "..") : next = here ++ [name] := by
  rw [enter, directory_of_enter h] at h
  dsimp only at h
  rw [if_neg hdots, if_neg hdot] at h
  split at h
  · cases h
  · exact (Except.ok.inj h).symm

/-! ## Ways -/

/-- How names lead from a place to another one, where so many links may be followed. -/
inductive Way (t : FileTree) : Nat → Place → List String → Place → Prop where
  | here {links : Nat} {place : Place} : Way t links place [] place
  | name {links : Nat} {here next place : Place} {name : String} {rest : List String}
    (enters : t.enter here name = .ok next) (plain : ∀ target, t.entryAt next ≠ some (.link target))
    (goes : Way t links next rest place) : Way t links here (name :: rest) place
  | link {links : Nat} {here next place : Place} {name : String} {rest : List String}
    {target : Path} (enters : t.enter here name = .ok next)
    (follows : t.entryAt next = some (.link target))
    (goes : Way t links (startOf here target) (target.names ++ rest) place) :
    Way t (links + 1) here (name :: rest) place

section
variable {rest : List String} {follow : Place → List String → Except FileFault Place}

theorem walkWith_name (henter : t.enter here name = .ok next)
    (hplain : ∀ target, t.entryAt next ≠ some (.link target)) :
    t.walkWith follow here (name :: rest) = t.walkWith follow next rest := by
  rw [walkWith, henter]
  dsimp only
  split
  · next target htarget => exact absurd htarget (hplain target)
  · rfl

theorem walkWith_link {target : Path} (henter : t.enter here name = .ok next)
    (hlink : t.entryAt next = some (.link target)) :
    t.walkWith follow here (name :: rest) =
      follow (startOf here target) (target.names ++ rest) := by
  rw [walkWith, henter]
  dsimp only
  rw [hlink]

theorem walk_eq_walkWith (t : FileTree) (links : Nat) :
    ∃ follow, t.walk links = t.walkWith follow := by
  cases links with
  | zero => exact ⟨_, rfl⟩
  | succ links => exact ⟨_, rfl⟩

theorem walk_name (henter : t.enter here name = .ok next)
    (hplain : ∀ target, t.entryAt next ≠ some (.link target)) :
    t.walk links here (name :: rest) = t.walk links next rest := by
  obtain ⟨follow, hwalk⟩ := walk_eq_walkWith t links
  rw [hwalk, walkWith_name henter hplain]

theorem walk_link {target : Path} (henter : t.enter here name = .ok next)
    (hlink : t.entryAt next = some (.link target)) :
    t.walk (links + 1) here (name :: rest) =
      t.walk links (startOf here target) (target.names ++ rest) :=
  walkWith_link henter hlink

/-- Names that are followed up to a link are a way if the link leads on to its end. -/
theorem way_of_walkWith (h : t.walkWith follow here names = .ok place)
    (hfollow : ∀ start more, follow start more = .ok place →
      ∃ left, links = left + 1 ∧ Way t left start more place) : Way t links here names place := by
  induction names generalizing here with
  | nil =>
    obtain rfl := Except.ok.inj h
    exact .here
  | cons name rest ih =>
    cases henter : t.enter here name with
    | error fault =>
      rw [walkWith, henter] at h
      cases h
    | ok next =>
      by_cases hlink : ∃ target, t.entryAt next = some (.link target)
      · obtain ⟨target, hlink⟩ := hlink
        rw [walkWith_link henter hlink] at h
        obtain ⟨left, rfl, hway⟩ := hfollow _ _ h
        exact .link henter hlink hway
      · have hplain := not_exists.mp hlink
        rw [walkWith_name henter hplain] at h
        exact .name henter hplain (ih h)

end

theorem walk_eq_ok_iff : t.walk links here names = .ok place ↔ Way t links here names place := by
  constructor
  · intro h
    induction links generalizing here names with
    | zero => exact way_of_walkWith h fun _ _ hfollow => nomatch hfollow
    | succ links ih => exact way_of_walkWith h fun _ _ hfollow => ⟨links, rfl, ih hfollow⟩
  · intro h
    induction h with
    | @here links place =>
      obtain ⟨follow, hwalk⟩ := walk_eq_walkWith t links
      rw [hwalk]
      rfl
    | name henter hplain _ ih => rw [walk_name henter hplain, ih]
    | link henter hlink _ ih => rw [walk_link henter hlink, ih]

/-- A way of some names and then others goes on from where the first lead. -/
theorem Way.rest {more : List String} {last : Place} (h : Way t links here names place)
    (hmore : Way t links here (names ++ more) last) : ∃ left, Way t left place more last := by
  induction h with
  | here => exact ⟨_, hmore⟩
  | name henter hplain _ ih =>
    refine ih (walk_eq_ok_iff.mp ?_)
    rw [← walk_name henter hplain]
    exact walk_eq_ok_iff.mpr hmore
  | link henter hlink _ ih =>
    refine ih (walk_eq_ok_iff.mp ?_)
    rw [List.append_assoc, ← walk_link henter hlink]
    exact walk_eq_ok_iff.mpr hmore

theorem Way.starts (h : Way t links here names place) (hplace : t.entryAt place = some .directory) :
    t.entryAt here = some .directory := by
  cases h with
  | here => exact hplace
  | name henter _ _ => exact directory_of_enter henter
  | link henter _ _ => exact directory_of_enter henter

/-- Names lead to their own place if there are no links in the directory. -/
theorem Way.eq_append (h : Way t links here names place)
    (hplain : ∀ other target, here <+: other → t.entryAt other ≠ some (.link target))
    (hproper : ∀ name ∈ names, name ≠ "." ∧ name ≠ "..") : place = here ++ names := by
  induction h with
  | here => exact (List.append_nil _).symm
  | name henter _ _ ih =>
    obtain ⟨⟨hdot, hdots⟩, hrest⟩ := List.forall_mem_cons.mp hproper
    obtain rfl := enter_proper henter hdot hdots
    have hplace := ih (fun other target hle => hplain other target
      ((List.prefix_append _ _).trans hle)) hrest
    rw [hplace, List.append_assoc]
    rfl
  | link henter hlink _ _ =>
    obtain ⟨⟨hdot, hdots⟩, -⟩ := List.forall_mem_cons.mp hproper
    obtain rfl := enter_proper henter hdot hdots
    exact absurd hlink (hplain _ _ (List.prefix_append _ _))

/-! ## Trees that keep their ways -/

/-- What a tree is made of for those that follow a path is still there. -/
structure Keeps (t t' : FileTree) : Prop where
  limits : t'.limits = t.limits
  directory : ∀ place, t.entryAt place = some .directory → t'.entryAt place = some .directory
  link : ∀ place target, t.entryAt place = some (.link target) →
    t'.entryAt place = some (.link target)

namespace Keeps

theorem refl (t : FileTree) : Keeps t t := ⟨rfl, fun _ => id, fun _ _ => id⟩

theorem trans {t'' : FileTree} (h : Keeps t t') (h' : Keeps t' t'') : Keeps t t'' where
  limits := h'.limits.trans h.limits
  directory place hplace := h'.directory place (h.directory place hplace)
  link place target hplace := h'.link place target (h.link place target hplace)

/-- A tree keeps its ways if no directory and no link is replaced. -/
theorem put {entry : Entry} (hne : place ≠ []) (hdirectory : t.entryAt place ≠ some .directory)
    (hlink : ∀ target, t.entryAt place ≠ some (.link target)) : Keeps t (t.put place entry) where
  limits := rfl
  directory other hother := by
    rw [entryAt_put hne, if_neg, hother]
    rintro rfl
    exact hdirectory hother
  link other target hother := by
    rw [entryAt_put hne, if_neg, hother]
    rintro rfl
    exact hlink target hother

theorem enter (hk : Keeps t t') (h : t.enter here name = .ok next) :
    t'.enter here name = .ok next := by
  have hhere := directory_of_enter h
  rw [FileTree.enter, hhere] at h
  rw [FileTree.enter, hk.directory here hhere, hk.limits]
  exact h

theorem way (hk : Keeps t t') (h : Way t links here names place)
    (hplace : t.entryAt place = some .directory) : Way t' links here names place := by
  induction h with
  | here => exact .here
  | name henter _ hgoes ih =>
    refine .name (hk.enter henter) (fun target hlink => ?_) (ih hplace)
    rw [hk.directory _ (hgoes.starts hplace)] at hlink
    cases hlink
  | link henter hlink _ ih => exact .link (hk.enter henter) (hk.link _ _ hlink) (ih hplace)

theorem textFault? (hk : Keeps t t') (text : String) : t'.textFault? text = t.textFault? text := by
  rw [FileTree.textFault?, FileTree.textFault?, hk.limits]

end Keeps

/-- Changes at and below a place where nothing stood leave all ways as they were. -/
theorem ChangesOnly.keeps (h : ChangesOnly (place <+: ·) t t') (hrooted : t.IsRooted)
    (hnone : t.entryAt place = none) : Keeps t t' := by
  -- what stood in the tree before is not below the place
  have hstays {other : Place} {entry : Entry} (hother : t.entryAt other = some entry) :
      t'.entryAt other = some entry := by
    rw [h.eq_of_not, hother]
    intro hle
    rw [hrooted.none_below hnone hle] at hother
    cases hother
  exact ⟨h.limits, fun _ => hstays, fun _ _ => hstays⟩

/-! ## Texts -/

/-- The way of the path of a text, which can be the text of a path. -/
def WayOf (t : FileTree) (cwd : Place) (text : String) (place : Place) : Prop :=
  t.textFault? text = none ∧
    Way t linkLimit (startOf cwd (Path.ofString text)) (Path.ofString text).names place

theorem WayOf.unique {other : Place} (h : WayOf t cwd text place) (h' : WayOf t cwd text other) :
    place = other :=
  Except.ok.inj ((walk_eq_ok_iff.mpr h.2).symm.trans (walk_eq_ok_iff.mpr h'.2))

theorem Keeps.wayOf (hk : Keeps t t') (h : WayOf t cwd text place)
    (hplace : t.entryAt place = some .directory) : WayOf t' cwd text place :=
  ⟨(hk.textFault? text).trans h.1, hk.way h.2 hplace⟩

theorem wayOf_of_locate (h : t.locate cwd text = .ok place) : WayOf t cwd text place := by
  rw [locate] at h
  split at h
  · cases h
  · next htext =>
    dsimp only at h
    split at h
    · cases h
    · next found hwalk =>
      have hplace : found = place := by
        split at h
        · cases h
        · cases h
        · cases h
        · exact Except.ok.inj h
      exact ⟨htext, hplace ▸ walk_eq_ok_iff.mp hwalk⟩

/-- A directory is found at the end of its way. -/
theorem WayOf.find (h : WayOf t cwd text place) (hplace : t.entryAt place = some .directory) :
    t.find cwd text = .ok (place, .directory) := by
  have hlocate : t.locate cwd text = .ok place := by
    rw [locate, h.1]
    dsimp only
    rw [walk_eq_ok_iff.mpr h.2]
    dsimp only
    rw [hplace]
    cases asksDirectory text <;> rfl
  rw [FileTree.find, hlocate]
  dsimp only
  rw [hplace]

theorem wayOf_of_find {entry : Entry} (h : t.find cwd text = .ok (place, entry)) :
    WayOf t cwd text place ∧ t.entryAt place = some entry := by
  rw [FileTree.find] at h
  split at h
  · cases h
  · next found hlocate =>
    split at h
    · next hentry =>
      cases h
      exact ⟨wayOf_of_locate hlocate, hentry⟩
    · cases h

/-- A text names an entry: it names the root of its way, or its last name is entered from where the
others lead. -/
theorem spot_eq_ok_iff : t.spot cwd text = .ok place ↔ t.textFault? text = none ∧
    (((Path.ofString text).names = [] ∧ place = startOf cwd (Path.ofString text)) ∨
      ∃ above last here, (Path.ofString text).names = above ++ [last] ∧
        Way t linkLimit (startOf cwd (Path.ofString text)) above here ∧
        t.enter here last = .ok place) := by
  rw [spot]
  cases t.textFault? text with
  | some fault => simp
  | none =>
    rw [and_iff_right rfl]
    dsimp only
    rcases List.eq_nil_or_concat (Path.ofString text).names with hnil | ⟨above, last, hlast⟩
    · rw [hnil]
      constructor
      · intro h
        exact .inl ⟨rfl, (Except.ok.inj h).symm⟩
      · rintro (⟨-, rfl⟩ | ⟨above, last, here, heq, -⟩)
        · rfl
        · simp at heq
    · rw [hlast, List.concat_eq_append, List.getLast?_concat, List.dropLast_concat]
      dsimp only
      constructor
      · intro h
        split at h
        · cases h
        · next here hwalk => exact .inr ⟨above, last, here, rfl, walk_eq_ok_iff.mp hwalk, h⟩
      · rintro (⟨hnil, -⟩ | ⟨above', last', here, heq, hway, henter⟩)
        · simp at hnil
        · obtain ⟨rfl, hlasts⟩ := List.append_inj' heq rfl
          obtain rfl := List.singleton_injective hlasts
          rw [walk_eq_ok_iff.mpr hway]
          exact henter

theorem Way.append_name (h : Way t links here names place) (henter : t.enter place name = .ok next)
    (hplain : ∀ target, t.entryAt next ≠ some (.link target)) :
    Way t links here (names ++ [name]) next := by
  induction h with
  | here => exact .name henter hplain .here
  | name henter' hplain' _ ih => exact .name henter' hplain' (ih henter)
  | link henter' hlink' _ ih =>
    have hgoes := ih henter
    rw [List.append_assoc] at hgoes
    exact .link henter' hlink' hgoes

/-- A way leads to the entry that a text names, unless it is a link. -/
theorem wayOf_of_spot (h : t.spot cwd text = .ok place)
    (hplain : ∀ target, t.entryAt place ≠ some (.link target)) : WayOf t cwd text place := by
  obtain ⟨htext, ⟨hnil, rfl⟩ | ⟨above, last, here, hnames, hway, henter⟩⟩ := spot_eq_ok_iff.mp h
  · refine ⟨htext, ?_⟩
    rw [hnil]
    exact .here
  · refine ⟨htext, ?_⟩
    rw [hnames]
    exact hway.append_name henter hplain

theorem Keeps.spot (hk : Keeps t t') (h : t.spot cwd text = .ok place) :
    t'.spot cwd text = .ok place := by
  obtain ⟨htext, hspot⟩ := spot_eq_ok_iff.mp h
  refine spot_eq_ok_iff.mpr ⟨(hk.textFault? text).trans htext, hspot.imp_right ?_⟩
  rintro ⟨above, last, here, hnames, hway, henter⟩
  exact ⟨above, last, here, hnames, hk.way hway (directory_of_enter henter), hk.enter henter⟩

/-! ## Directories that are made and removed -/

theorem makeDirectory_eq_ok_iff {made : FileTree} : t.makeDirectory cwd text = .ok made ↔
    ∃ place, t.spot cwd text = .ok place ∧ t.entryAt place = none ∧
      made = t.put place .directory := by
  rw [makeDirectory]
  cases hspot : t.spot cwd text with
  | error fault => simp
  | ok place =>
    cases hplace : t.entryAt place with
    | some entry => simp [hplace]
    | none => simp [hplace, eq_comm]

theorem removable_of_spot (h : t.spot cwd text = .ok place) :
    t.removable cwd text =
      match t.entryAt place with
      | some .directory => .ok place
      | some _ => .error .notDirectory
      | none => .error .notFound := by
  cases hplace : t.entryAt place with
  | none => simp only [removable, h, hplace]
  | some entry => cases entry <;> simp only [removable, h, hplace]

/-- What stands at the end of its way is not made again. -/
theorem WayOf.ensureDirectory (h : WayOf t cwd text place)
    (hplace : t.entryAt place = some .directory) : t.ensureDirectory cwd text = .ok t := by
  rw [FileTree.ensureDirectory]
  cases hmake : t.makeDirectory cwd text with
  | ok made =>
    obtain ⟨other, hspot, hnone, -⟩ := makeDirectory_eq_ok_iff.mp hmake
    have hother : WayOf t cwd text other := by
      refine wayOf_of_spot hspot fun target hlink => ?_
      rw [hnone] at hlink
      cases hlink
    rw [h.unique hother, hnone] at hplace
    cases hplace
  | error fault =>
    dsimp only
    rw [h.find hplace]

end Linting.FileTree
