import Linting.Proofs.FileTree.Descents
import Linting.Proofs.Scratch.Restoration

/-! What an action finds in a scratch directory. Files are written one after the other into a tree
that grows with them, and names may be nested or repeated, so what is there at the end is told from
the whole list: the last file of each name, and the directories above the files. It comes to that if
no name goes on where another one ends. -/

namespace Linting.Scratch
set_option autoImplicit false
open FileTree

/-! ## Layouts -/

/-- The last of the files that has these names. -/
def lastNamed (specs : List FileSpec) (names : List String) : Option FileSpec :=
  specs.reverse.find? fun f => FileSpec.components f.name = names

instance (place other : Place) : Decidable (Below place other) :=
  inferInstanceAs (Decidable (place <+: other ∧ other ≠ place))

/-- What the files come to at names in their directory: the last file that has them, or a directory
above files. -/
def laid (specs : List FileSpec) (names : List String) : Option Entry :=
  match lastNamed specs names with
  | some f => some (.file (Text.encode f.contents) false)
  | none =>
    if ∃ f ∈ specs, Below names (FileSpec.components f.name) then some .directory else none

/-- The files can all be written: their names have no null, and none goes on where another ends. -/
structure Fit (specs : List FileSpec) : Prop where
  nullFree : ∀ f ∈ specs, Path.hasNull f.name = false
  apart : ∀ f ∈ specs, ∀ g ∈ specs,
    ¬ Below (FileSpec.components f.name) (FileSpec.components g.name)

variable {specs rest : List FileSpec} {f : FileSpec} {names : List String}

theorem lastNamed_concat (specs : List FileSpec) (f : FileSpec) (names : List String) :
    lastNamed (specs ++ [f]) names =
      if FileSpec.components f.name = names then some f else lastNamed specs names := by
  rw [lastNamed, List.reverse_concat, List.find?_cons]
  by_cases h : FileSpec.components f.name = names
  · rw [if_pos h, decide_eq_true h]
  · rw [if_neg h, decide_eq_false h, lastNamed]

theorem lastNamed_eq_none_iff :
    lastNamed specs names = none ↔ ∀ f ∈ specs, FileSpec.components f.name ≠ names := by
  rw [lastNamed, List.find?_eq_none]
  simp only [List.mem_reverse, decide_eq_true_eq, ne_eq]

theorem of_lastNamed (h : lastNamed specs names = some f) :
    f ∈ specs ∧ FileSpec.components f.name = names := by
  rw [lastNamed] at h
  exact ⟨List.mem_reverse.mp (List.mem_of_find?_eq_some h), by simpa using List.find?_some h⟩

/-- At names stand a file, a directory above files, or nothing. -/
theorem laid_cases (specs : List FileSpec) (names : List String) :
    (∃ f ∈ specs, FileSpec.components f.name = names ∧ lastNamed specs names = some f ∧
      laid specs names = some (.file (Text.encode f.contents) false)) ∨
    lastNamed specs names = none ∧
      ((∃ f ∈ specs, Below names (FileSpec.components f.name)) ∧
          laid specs names = some .directory ∨
        (¬ ∃ f ∈ specs, Below names (FileSpec.components f.name)) ∧ laid specs names = none) := by
  rw [laid]
  cases hlast : lastNamed specs names with
  | some f =>
    obtain ⟨hf, hnames⟩ := of_lastNamed hlast
    exact .inl ⟨f, hf, hnames, rfl, rfl⟩
  | none =>
    refine .inr ⟨rfl, ?_⟩
    by_cases habove : ∃ f ∈ specs, Below names (FileSpec.components f.name)
    · exact .inl ⟨habove, if_pos habove⟩
    · exact .inr ⟨habove, if_neg habove⟩

/-! ## One more file -/

theorem not_below_self (place : Place) : ¬ Below place place := fun h => h.2 rfl

theorem Fit.mono {more : List FileSpec} (h : Fit more) (hle : specs ⊆ more) : Fit specs where
  nullFree f hf := h.nullFree f (hle hf)
  apart f hf g hg := h.apart f (hle hf) g (hle hg)

theorem fit_concat_iff : Fit (specs ++ [f]) ↔ Fit specs ∧ Path.hasNull f.name = false ∧
    ∀ g ∈ specs, ¬ Below (FileSpec.components f.name) (FileSpec.components g.name) ∧
      ¬ Below (FileSpec.components g.name) (FileSpec.components f.name) := by
  constructor
  · intro h
    have hle : specs ⊆ specs ++ [f] := List.subset_append_left ..
    have hlast : f ∈ specs ++ [f] := List.mem_append_right _ (List.mem_cons_self ..)
    exact ⟨h.mono hle, h.nullFree f hlast, fun g hg =>
      ⟨h.apart f hlast g (hle hg), h.apart g (hle hg) f hlast⟩⟩
  · rintro ⟨⟨hnulls, hapart⟩, hnull, hf⟩
    have hcases {g : FileSpec} (hg : g ∈ specs ++ [f]) : g ∈ specs ∨ g = f := by
      simpa using hg
    refine ⟨fun g hg => ?_, fun g hg g' hg' => ?_⟩
    · rcases hcases hg with hg | rfl
      · exact hnulls g hg
      · exact hnull
    · rcases hcases hg with hold | rfl <;> rcases hcases hg' with hold' | rfl
      · exact hapart g hold g' hold'
      · exact (hf g hold).2
      · exact (hf g' hold').1
      · exact not_below_self _

theorem laid_at (specs : List FileSpec) (f : FileSpec) :
    laid (specs ++ [f]) (FileSpec.components f.name) =
      some (.file (Text.encode f.contents) false) := by
  rw [laid, lastNamed_concat, if_pos rfl]

/-- Above the file stands a directory, if no other file ends there. -/
theorem laid_above (hother : ∀ g ∈ specs, FileSpec.components g.name ≠ names)
    (h : Below names (FileSpec.components f.name)) :
    laid (specs ++ [f]) names = some .directory := by
  rw [laid, lastNamed_concat, if_neg h.2, lastNamed_eq_none_iff.mpr hother]
  exact if_pos ⟨f, List.mem_append_right _ (List.mem_cons_self ..), h⟩

/-- What is not on the way to the file stays as it was. -/
theorem laid_elsewhere (h : ¬ names <+: FileSpec.components f.name) :
    laid (specs ++ [f]) names = laid specs names := by
  have hne : FileSpec.components f.name ≠ names := by
    rintro rfl
    exact h (List.prefix_refl _)
  have habove : (∃ g ∈ specs ++ [f], Below names (FileSpec.components g.name)) ↔
      ∃ g ∈ specs, Below names (FileSpec.components g.name) := by
    constructor
    · rintro ⟨g, hg, hbelow⟩
      rcases List.mem_append.mp hg with hg | hg
      · exact ⟨g, hg, hbelow⟩
      · obtain rfl := List.mem_singleton.mp hg
        exact absurd hbelow.1 h
    · rintro ⟨g, hg, hbelow⟩
      exact ⟨g, List.mem_append_left _ hg, hbelow⟩
  rw [laid, laid, lastNamed_concat, if_neg hne]
  simp only [habove]

/-- Where a file ends stands the last one that ends there. -/
theorem laid_of_mem (hf : f ∈ specs) : ∃ g, lastNamed specs (FileSpec.components f.name) = some g ∧
    laid specs (FileSpec.components f.name) = some (.file (Text.encode g.contents) false) := by
  rcases laid_cases specs (FileSpec.components f.name) with ⟨g, -, -, hlast, hfile⟩ | ⟨hnone, -⟩
  · exact ⟨g, hlast, hfile⟩
  · exact absurd rfl (lastNamed_eq_none_iff.mp hnone f hf)

theorem laid_of_below (hfit : Fit specs) (hf : f ∈ specs)
    (hbelow : Below names (FileSpec.components f.name)) : laid specs names = some .directory := by
  rcases laid_cases specs names with ⟨g, hg, rfl, -⟩ | ⟨-, ⟨-, hdirectory⟩ | ⟨hnone, -⟩⟩
  · exact absurd hbelow (hfit.apart g hg f hf)
  · exact hdirectory
  · exact absurd ⟨f, hf, hbelow⟩ hnone

/-! ## Writing them -/

/-- The directory at a place holds what the files come to, and nothing else. -/
def Laid (t : FileTree) (place : Place) (specs : List FileSpec) : Prop :=
  ∀ names, names ≠ [] → t.entryAt (place ++ names) = laid specs names

variable {t made saved left : FileTree} {p : Path} {place : Place} {paths : List Path}

theorem nullFree_components : NullFree (FileSpec.components f.name) ↔
    Path.hasNull f.name = false := by
  have hnames := Path.mem_namesIn f.name.toList (c := Char.ofNat 0) (by decide) (by decide)
  rw [← Bool.not_eq_true, NullFree, FileSpec.components_eq, Path.hasNull, List.contains_iff_mem,
    ← hnames]
  simp only [Path.hasNull, ← Bool.not_eq_true, List.contains_iff_mem, not_exists, not_and]
  rfl

/-- A file is saved where nothing but directories stands above it and no directory in its place. -/
theorem saveFile_clear (contents : String) (h : t.Leads p place) (hunlimited : t.Unlimited)
    (hnames : Descend names) (hnulls : NullFree names) (hne : names ≠ [])
    (hclear : Clear t place names)
    (hlast : t.entryAt (place ++ names) = none ∨
      ∃ old, t.entryAt (place ++ names) = some (.file old false)) :
    ∃ saved, saveFile t (p.below names) contents = (.ok (), saved) ∧
      saved.entryAt (place ++ names) = some (.file (Text.encode contents) false) ∧
      (∀ first, Below first names → saved.entryAt (place ++ first) = some .directory) ∧
      ∀ first, ¬ first <+: names → saved.entryAt (place ++ first) = t.entryAt (place ++ first) := by
  obtain ⟨above, name, rfl⟩ := (List.eq_nil_or_concat names).resolve_left hne
  rw [List.concat_eq_append] at *
  have hle : above <+: above ++ [name] := List.prefix_append ..
  obtain ⟨made, hmade⟩ := h.makePath_clear hunlimited (hnames.initial hle)
    (fun other hother => hnulls other (hle.subset hother)) hclear.initial
    (hclear above (below_concat_iff.mpr (List.prefix_refl above)))
  have hadds := h.makePath (hnames.initial hle)
  rw [hmade] at hadds
  obtain ⟨hfills, hmadeAbove⟩ := h.of_makePath (hnames.initial hle) hmade
  have hpasses (first : List String) (hbelow : Below first (above ++ [name])) :
      made.entryAt (place ++ first) = some .directory :=
    hmadeAbove first (below_concat_iff.mp hbelow)
  -- what has been made is above the file, so what is not there is as before
  have hsame {first : List String} (hfirst : ¬ first <+: above) :
      made.entryAt (place ++ first) = t.entryAt (place ++ first) := by
    refine hadds.changesOnly.eq_of_not ?_
    rintro ⟨other, -, hother, heq⟩
    exact hfirst (List.append_cancel_left heq ▸ hother)
  have hfree : ¬ above ++ [name] <+: above := fun hstarts => (below_concat_iff.mpr hstarts).2 rfl
  rw [← hsame hfree] at hlast
  have hwrite := (hfills.leads h).write_open (hfills.unlimited hunlimited) hnames hnulls hne hpasses
    (Text.encode contents) hlast
  have hplace : place ++ (above ++ [name]) ≠ [] := List.append_ne_nil_of_right_ne_nil _ hne
  refine ⟨made.put (place ++ (above ++ [name])) (.file (Text.encode contents) false), ?_, ?_,
    fun first hbelow => ?_, fun first hfirst => ?_⟩
  · rw [saveFile, Path.parent_below_concat, hmade]
    dsimp only
    rw [hwrite]
  · rw [entryAt_put hplace, if_pos rfl]
  · rw [entryAt_put hplace, if_neg, hpasses first hbelow]
    exact fun heq => hbelow.2 (List.append_cancel_left heq).symm
  · rw [entryAt_put hplace, if_neg, hsame fun hstarts => hfirst (hstarts.trans hle)]
    exact fun heq => hfirst (List.append_cancel_left heq ▸ List.prefix_refl _)

theorem of_saveFile {contents : String} (h : saveFile t p contents = (.ok (), saved)) :
    ∃ above, t.makePath [] p.parent = (.ok (), above) ∧
      above.write [] p.toString (Text.encode contents) = .ok saved := by
  rw [saveFile] at h
  split at h
  · cases h
  · next above habove =>
    split at h
    · next written hwrite =>
      cases h
      exact ⟨above, habove, hwrite⟩
    · cases h

/-- No directory replaces a file that stands above a file that is saved. -/
theorem not_file_above {contents : String} (h : t.Leads p place) (hnames : Descend names)
    (hsave : saveFile t (p.below names) contents = (.ok (), saved)) {first : List String}
    (hbelow : Below first names) (bytes : List UInt8) (executable : Bool) :
    t.entryAt (place ++ first) ≠ some (.file bytes executable) := by
  rcases List.eq_nil_or_concat names with rfl | ⟨above, name, rfl⟩
  · exact absurd (List.prefix_nil.mp hbelow.1).symm hbelow.2
  rw [List.concat_eq_append] at *
  have hle : above <+: above ++ [name] := List.prefix_append ..
  obtain ⟨made, hmade, -⟩ := of_saveFile hsave
  rw [Path.parent_below_concat] at hmade
  obtain ⟨hfills, hpasses⟩ := h.of_makePath (hnames.initial hle) hmade
  have hdirectory := hpasses first (below_concat_iff.mp hbelow)
  intro hfile
  rcases hfills.filled (place ++ first) with hsame | ⟨hnone, -⟩
  · rw [hdirectory, hfile] at hsame
    cases hsame
  · rw [hnone] at hfile
    cases hfile

section
variable (h : t.Leads p place) (hlaid : Laid t place specs)
  (hinside : FileSpec.staysInside f.name = true)
include h hlaid hinside

/-- A file that fits with those before is saved, and comes to what it does in the layout. -/
theorem saveFile_laid (hunlimited : t.Unlimited) (hfit : Fit (specs ++ [f])) :
    ∃ saved, saveFile t (pathOf p f) f.contents = (.ok (), saved) ∧
      Laid saved place (specs ++ [f]) := by
  obtain ⟨-, hnull, hapart⟩ := fit_concat_iff.mp hfit
  have hne := (FileSpec.staysInside_iff.mp hinside).2.1
  have hclear : Clear t place (FileSpec.components f.name) := by
    intro first hbelow
    by_cases hnil : first = []
    · rw [hnil, List.append_nil]
      exact .inl h.directory
    rw [hlaid first hnil]
    rcases laid_cases specs first with ⟨g, hg, rfl, -⟩ | ⟨-, ⟨-, hdirectory⟩ | ⟨-, hnone⟩⟩
    · exact absurd hbelow (hapart g hg).2
    · exact .inl hdirectory
    · exact .inr hnone
  have hlast : t.entryAt (place ++ FileSpec.components f.name) = none ∨
      ∃ old, t.entryAt (place ++ FileSpec.components f.name) = some (.file old false) := by
    rw [hlaid _ hne]
    rcases laid_cases specs (FileSpec.components f.name) with
      ⟨g, -, -, -, hfile⟩ | ⟨-, ⟨⟨g, hg, hbelow⟩, -⟩ | ⟨-, hnone⟩⟩
    · exact .inr ⟨_, hfile⟩
    · exact absurd hbelow (hapart g hg).1
    · exact .inl hnone
  obtain ⟨saved, hsave, hfile, hdirectories, hrest⟩ := saveFile_clear f.contents h hunlimited
    (FileSpec.descend_components hinside) (nullFree_components.mpr hnull) hne hclear hlast
  rw [pathOf_eq p hinside]
  refine ⟨saved, hsave, fun first hfirst => ?_⟩
  by_cases hle : first <+: FileSpec.components f.name
  · by_cases heq : FileSpec.components f.name = first
    · rw [← heq, hfile, laid_at]
    · have hbelow : Below first (FileSpec.components f.name) := ⟨hle, heq⟩
      rw [hdirectories first hbelow, laid_above (fun g hg hother => ?_) hbelow]
      exact (hapart g hg).2 (hother ▸ hbelow)
  · rw [hrest first hle, laid_elsewhere hle, hlaid first hfirst]

/-- A file that can be saved fits with those before. -/
theorem fit_of_saveFile (hbefore : ∀ g ∈ specs, FileSpec.staysInside g.name = true)
    (hfit : Fit specs) (hsave : saveFile t (pathOf p f) f.contents = (.ok (), saved)) :
    Fit (specs ++ [f]) := by
  have hnames := FileSpec.descend_components hinside
  have hne := (FileSpec.staysInside_iff.mp hinside).2.1
  rw [pathOf_eq p hinside] at hsave
  refine fit_concat_iff.mpr ⟨hfit, ?_, fun g hg => ⟨fun hbelow => ?_, fun hbelow => ?_⟩⟩
  · rw [← nullFree_components]
    by_contra hnulls
    obtain ⟨above, -, hwrite⟩ := of_saveFile hsave
    rw [FileTree.write, locate, textFault?_null hnulls] at hwrite
    cases hwrite
  · -- a directory stands where the file would be, and stays
    have hdirectory : t.entryAt (place ++ FileSpec.components f.name) = some .directory := by
      rw [hlaid _ hne]
      rcases laid_cases specs (FileSpec.components f.name) with
        ⟨g', hg', heq, -⟩ | ⟨-, ⟨-, hdirectory⟩ | ⟨hnone, -⟩⟩
      · exact absurd (heq ▸ hbelow) (hfit.apart g' hg' g hg)
      · exact hdirectory
      · exact absurd ⟨g, hg, hbelow⟩ hnone
    obtain ⟨hadds, hat⟩ := saveFile_adds f.contents h hnames hne
    rw [hsave] at hadds hat
    have hstays := hadds.keeps.directory _ hdirectory
    rcases hat rfl with ⟨_, hfile⟩ | hdevice
    · rw [hstays] at hfile
      cases hfile
    · rw [hstays] at hdevice
      cases hdevice
  · have hother := (FileSpec.staysInside_iff.mp (hbefore g hg)).2.1
    rcases laid_cases specs (FileSpec.components g.name) with ⟨_, -, -, -, hfile⟩ | ⟨hnone, -⟩
    · exact not_file_above h hnames hsave hbelow _ _ ((hlaid _ hother).trans hfile)
    · exact lastNamed_eq_none_iff.mp hnone g hg rfl

end

/-- Files are written one after the other. Either all fit together, and are laid out, or they do
not, and one of them cannot be written. -/
theorem writeFiles_laid (h : t.Leads p place) (hunlimited : t.Unlimited)
    (hlaid : Laid t place specs) (hfit : Fit specs)
    (hinside : ∀ f ∈ specs ++ rest, FileSpec.staysInside f.name = true) :
    (∃ paths left, writeFiles t p rest = (.ok paths, left) ∧ Fit (specs ++ rest) ∧
        Laid left place (specs ++ rest)) ∨
      (∃ e left, writeFiles t p rest = (.error e, left)) ∧ ¬ Fit (specs ++ rest) := by
  -- over the files that are left, after those that are laid out
  induction rest generalizing t specs with
  | nil =>
    rw [List.append_nil]
    exact .inl ⟨[], t, rfl, hfit, hlaid⟩
  | cons f rest ih =>
    rw [List.append_cons] at hinside ⊢
    have hbefore (g : FileSpec) (hg : g ∈ specs ++ [f]) : FileSpec.staysInside g.name = true :=
      hinside g (List.mem_append_left rest hg)
    have hf := hbefore f (List.mem_append_right specs (List.mem_cons_self ..))
    by_cases hnext : Fit (specs ++ [f])
    · obtain ⟨saved, hsave, hlaid'⟩ := saveFile_laid h hlaid hf hunlimited hnext
      have hadds : Adds (Along place (FileSpec.components f.name)) t saved := by
        have hadds := (saveFile_adds f.contents h (FileSpec.descend_components hf)
          (FileSpec.staysInside_iff.mp hf).2.1).1
        rwa [← pathOf_eq p hf, hsave] at hadds
      rw [writeFiles_saved hsave]
      rcases ih (h.adds hadds) (hadds.keeps.unlimited hunlimited) hlaid' hnext hinside with
        ⟨paths, left, hwrite, hrest⟩ | ⟨⟨e, left, hwrite⟩, hrest⟩
      · rw [hwrite]
        exact .inl ⟨_, left, rfl, hrest⟩
      · rw [hwrite]
        exact .inr ⟨⟨e, left, rfl⟩, hrest⟩
    · refine .inr ⟨?_, fun hall => hnext (hall.mono (List.subset_append_left ..))⟩
      rcases hsave : saveFile t (pathOf p f) f.contents with ⟨e | _, saved⟩
      · exact ⟨e, saved, writeFiles_failed hsave⟩
      · exact absurd (fit_of_saveFile h hlaid hf
          (fun g hg => hbefore g (List.mem_append_left [f] hg)) hfit hsave) hnext

/-! ## Main statement -/

/-- An action that ends with what it finds: the paths it gets and the tree. -/
def look : Action (List Path × FileTree) Unit := fun paths t => (.error (paths, t), t)

variable {home : Home} {env : Environment} {kept : Settings.Kept} {directory : Path}
  {files : Value} {removal : Removal}

theorem Opens.laid (h : Opens home env kept t directory place made) (hrooted : t.IsRooted) :
    Laid made place [] := by
  obtain ⟨hnone, rfl⟩ := h.free
  intro names hne
  rw [entryAt_put (ne_nil_of_entryAt_none hnone), if_neg (by simpa using hne),
    hrooted.none_below hnone (List.prefix_append ..)]
  rfl

/-- The files at their paths are read as the last ones of their names. -/
theorem Laid.reads {tree : FileTree} (hlaid : Laid tree place specs) (h : tree.Leads p place)
    (hunlimited : tree.Unlimited) (hinside : ∀ f ∈ specs, FileSpec.staysInside f.name = true)
    (hfit : Fit specs) (hf : f ∈ specs) :
    ∃ g, lastNamed specs (FileSpec.components f.name) = some g ∧
      tree.read [] (p.below (FileSpec.components f.name)).toString =
        .ok (Text.encode g.contents) := by
  have hne := (FileSpec.staysInside_iff.mp (hinside f hf)).2.1
  obtain ⟨g, hlast, hfile⟩ := laid_of_mem hf
  refine ⟨g, hlast, h.read_open hunlimited (FileSpec.descend_components (hinside f hf))
    (nullFree_components.mpr (hfit.nullFree f hf)) hne (fun first hbelow => ?_)
    ((hlaid _ hne).trans hfile)⟩
  by_cases hnil : first = []
  · rw [hnil, List.append_nil, h.directory]
  · rw [hlaid first hnil, laid_of_below hfit hf hbelow]

/-- An action on files is called exactly if no name goes on where another one ends, names with a
null apart, for which it never is. It gets the path of each file in order, where the contents of the
last file of that name are read. In the directory stand these files, the directories above them,
and nothing else. -/
theorem action_finds_layout (removal : Removal) (hrooted : t.IsRooted) (hunlimited : t.Unlimited)
    (hvalid : HasValidSpecs files) (hspecs : checkFiles files = .ok specs)
    (h : Opens home env kept t directory place made) :
    let ended := run removal home env kept t (checkMany files true) look
    let isCalled := ∃ seen, ended.1 = .error (.action seen)
    ((∀ f ∈ specs, Path.hasNull f.name = false) →
      (isCalled ↔ ∀ f ∈ specs, ∀ g ∈ specs,
        ¬ Below (FileSpec.components f.name) (FileSpec.components g.name))) ∧
    ((∃ f ∈ specs, Path.hasNull f.name = true) → ¬ isCalled) ∧
    ∀ paths tree, ended.1 = .error (.action (paths, tree)) →
      paths = specs.map (fun f => directory.below (FileSpec.components f.name)) ∧
      (∀ f ∈ specs, ∃ g, lastNamed specs (FileSpec.components f.name) = some g ∧
        tree.read [] (directory.below (FileSpec.components f.name)).toString =
          .ok (Text.encode g.contents)) ∧
      ∀ names, names ≠ [] → tree.entryAt (place ++ names) = laid specs names := by
  have hmany : checkMany files true = .ok specs := by
    rw [checkMany, hspecs]
    rfl
  rw [hmany]
  intro ended isCalled
  have hinside := staysInside_of_checkFiles hvalid hspecs
  have hleads := h.leads hrooted
  have hmade : made.Unlimited := by
    rw [Unlimited, h.changesOnly.limits]
    exact hunlimited
  have hempty : Fit [] := ⟨List.forall_mem_nil _, List.forall_mem_nil _⟩
  rcases writeFiles_laid hleads hmade (h.laid hrooted) hempty hinside with
    ⟨paths, left, hwrite, hfit, hlaid⟩ | ⟨⟨e, left, hwrite⟩, hunfit⟩
  · have hended : ended.1 = .error (.action (paths, left)) := by
      have hrun : run removal home env kept t (.ok specs) look = _ :=
        (h.run_written hrooted hinside hwrite ⟨rfl, fun _ hother => absurd rfl hother⟩).1
      rw [show ended = _ from hrun]
      rfl
    have hcalled : isCalled := ⟨_, hended⟩
    refine ⟨fun _ => iff_of_true hcalled hfit.apart, ?_, fun paths' tree htree => ?_⟩
    · rintro ⟨f, hf, hnull⟩
      have hfree := hfit.nullFree f hf
      rw [hnull] at hfree
      cases hfree
    · rw [hended] at htree
      cases htree
      have hadds := h.writes hrooted hinside hwrite
      refine ⟨?_, fun f hf => ?_, hlaid⟩
      · rw [paths_of_writeFiles hwrite]
        exact List.map_congr_left fun f hf => pathOf_eq directory (hinside f hf)
      · exact hlaid.reads (hleads.adds hadds) (hadds.keeps.unlimited hmade) hinside hfit hf
  · have hended : ended.1 = .error (.file e) := by
      have hrun : run removal home env kept t (.ok specs) look = _ :=
        (h.run_failed hrooted hinside hwrite look).1
      rw [show ended = _ from hrun]
    have hnever : ¬ isCalled := by
      rintro ⟨seen, hseen⟩
      rw [hended] at hseen
      cases hseen
    refine ⟨fun hnulls => iff_of_false hnever fun hapart => hunfit ⟨hnulls, hapart⟩,
      fun _ => hnever, fun paths tree htree => ?_⟩
    exact absurd ⟨_, htree⟩ hnever

/-- A name that is written twice, in two ways, and one beside it. -/
theorem action_finds_layout_twice :
    let files : Value := .list [.record (FileSpec.record "a/b" "1"),
      .record (FileSpec.record "c" "2"), .record (FileSpec.record "a//./b" "3")]
    ∃ paths tree,
      (run .tolerant tmpHome [] none tmpTree (checkMany files true) look).1 =
        .error (.action (paths, tree)) ∧
      paths.map Path.toString =
        ["/tmp/linterkit_x/a/b", "/tmp/linterkit_x/c", "/tmp/linterkit_x/a/b"] ∧
      tree.entryAt ["tmp", "linterkit_x", "a"] = some .directory ∧
      tree.read [] "/tmp/linterkit_x/a/b" = .ok (Text.encode "3") ∧
      tree.entryAt ["tmp", "linterkit_x", "b"] = none := by
  intro files
  have hspecs : checkFiles files = .ok [⟨"a/b", "1"⟩, ⟨"c", "2"⟩, ⟨"a//./b", "3"⟩] := by
    decide +kernel
  have hvalid := hasValidSpecs_records [FileSpec.record "a/b" "1", FileSpec.record "c" "2",
    FileSpec.record "a//./b" "3"]
  obtain ⟨hcalled, -, hfinds⟩ := action_finds_layout .tolerant isRooted_tmpTree ⟨rfl, rfl⟩ hvalid
    hspecs opens_tmp
  obtain ⟨⟨paths, tree⟩, hseen⟩ := (hcalled (by decide +kernel)).mpr (by decide +kernel)
  obtain ⟨rfl, hreads, hlaid⟩ := hfinds paths tree hseen
  obtain ⟨g, hlast, hread⟩ := hreads ⟨"a/b", "1"⟩ (by decide)
  have hg : some g = some ⟨"a//./b", "3"⟩ := hlast.symm.trans (by decide +kernel)
  obtain rfl := Option.some.inj hg
  refine ⟨_, tree, hseen, by decide +kernel, ?_, hread, ?_⟩
  · exact (hlaid ["a"] (by decide)).trans (by decide +kernel)
  · exact (hlaid ["b"] (by decide)).trans (by decide +kernel)

end Linting.Scratch
