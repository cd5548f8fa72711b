import Linting.Proofs.FileTree.Additions

/-! Ways downwards from a directory without links, where names and paths may have any length: names
lead on as long as directories stand on their way, and a missing one is all that can stop them
otherwise. So it can be told from what stands on the way which paths can be made and which files
written, and what is there afterwards. -/

namespace Linting.FileTree
set_option autoImplicit false

variable {t t' made : FileTree} {links : Nat} {here mid place last cwd : Place} {name text : String}
  {names : List String} {p : Path} {bytes : List UInt8}

/-! ## Names on their way -/

/-- Names and paths may have any length. -/
def Unlimited (t : FileTree) : Prop := t.limits.name = none ∧ t.limits.path = none

theorem Keeps.unlimited (hk : Keeps t t') (h : t.Unlimited) : t'.Unlimited := by
  rw [Unlimited, hk.limits]
  exact h

/-- Nothing but directories stands on the way of the names. What they end at does not count. -/
def Clear (t : FileTree) (here : Place) (names : List String) : Prop :=
  ∀ first, Below first names →
    t.entryAt (here ++ first) = some .directory ∨ t.entryAt (here ++ first) = none

/-- A directory is missing on the way of the names. -/
def Missing (t : FileTree) (here : Place) (names : List String) : Prop :=
  ∃ first, Below first names ∧ t.entryAt (here ++ first) = none

theorem below_cons_iff {first : List String} :
    Below (name :: first) (name :: names) ↔ Below first names := by
  rw [Below, List.prefix_cons_inj, Below, ne_eq, List.cons_inj_right]

theorem below_concat_iff {first : List String} :
    Below first (names ++ [name]) ↔ first <+: names := by
  rw [Below, List.prefix_concat_iff]
  constructor
  · rintro ⟨rfl | hle, hne⟩
    · exact absurd rfl hne
    · exact hle
  · intro hle
    refine ⟨.inr hle, ?_⟩
    rintro rfl
    have hlength := hle.length_le
    rw [List.length_append, List.length_singleton] at hlength
    omega

theorem Clear.tail (h : Clear t here (name :: names)) : Clear t (here ++ [name]) names := by
  intro first hbelow
  rw [List.append_assoc]
  exact h (name :: first) (below_cons_iff.mpr hbelow)

theorem Clear.initial (h : Clear t here (names ++ [name])) : Clear t here names :=
  fun first hbelow => h first (below_concat_iff.mpr hbelow.1)

theorem Missing.concat (h : Missing t here names) : Missing t here (names ++ [name]) := by
  obtain ⟨first, hbelow, hnone⟩ := h
  exact ⟨first, below_concat_iff.mpr hbelow.1, hnone⟩

/-- The names lead on, or there is a directory missing. -/
theorem Clear.walk (h : Clear t here names) (hunlimited : t.Unlimited) (hnames : Descend names)
    (hplain : ∀ other target, here <+: other → t.entryAt other ≠ some (.link target)) :
    t.walk links here names = .ok (here ++ names) ∨
      t.walk links here names = .error .notFound ∧ Missing t here names := by
  induction names generalizing here with
  | nil => exact .inl (by rw [List.append_nil]; exact walk_eq_ok_iff.mpr .here)
  | cons name rest ih =>
    obtain ⟨⟨hproper, hdots⟩, hrest⟩ := List.forall_mem_cons.mp hnames
    have hstart : Below [] (name :: rest) := ⟨List.nil_prefix .., List.cons_ne_nil name rest⟩
    have hfirst := h [] hstart
    rw [List.append_nil] at hfirst
    rcases hfirst with hhere | hhere
    · have henter : t.enter here name = .ok (here ++ [name]) := by
        rw [enter, hhere]
        dsimp only
        rw [if_neg hdots, if_neg hproper.ne_dot, hunlimited.1]
        rfl
      have hbelow {other : Place} (hle : here ++ [name] <+: other) : here <+: other :=
        (List.prefix_append ..).trans hle
      rw [walk_name henter fun target => hplain _ target (List.prefix_append ..),
        List.append_cons here name rest]
      refine (ih h.tail hrest fun other target hle => hplain other target (hbelow hle)).imp_right ?_
      rintro ⟨hwalk, first, hfirst, hnone⟩
      refine ⟨hwalk, name :: first, below_cons_iff.mpr hfirst, ?_⟩
      rw [List.append_cons, hnone]
    · refine .inr ⟨?_, [], hstart, by rw [List.append_nil, hhere]⟩
      obtain ⟨follow, hwalk⟩ := walk_eq_walkWith t links
      rw [hwalk, walkWith, enter, hhere]

/-- All that a way downwards passes is a directory. -/
theorem Way.passes (h : Way t links here names last) (hnames : Descend names)
    (hplain : ∀ other target, here <+: other → t.entryAt other ≠ some (.link target))
    (hlast : t.entryAt last = some .directory) :
    ∀ first, first <+: names → t.entryAt (here ++ first) = some .directory := by
  induction h with
  | here =>
    intro first hle
    rw [List.prefix_nil.mp hle, List.append_nil, hlast]
  | @name _ here next place name rest henter _ _ ih =>
    obtain ⟨⟨hproper, hdots⟩, hrest⟩ := List.forall_mem_cons.mp hnames
    obtain rfl := enter_proper henter hproper.ne_dot hdots
    intro first hle
    cases first with
    | nil => rw [List.append_nil, directory_of_enter henter]
    | cons other more =>
      obtain ⟨rfl, hmore⟩ := List.cons_prefix_cons.mp hle
      rw [List.append_cons]
      exact ih hrest (fun other target hle => hplain other target
        ((List.prefix_append ..).trans hle)) hlast more hmore
  | link henter hlink _ _ =>
    obtain ⟨⟨hproper, hdots⟩, -⟩ := List.forall_mem_cons.mp hnames
    obtain rfl := enter_proper henter hproper.ne_dot hdots
    exact absurd hlink (hplain _ _ (List.prefix_append ..))

/-- Names lead on from where the first of them lead. -/
theorem Way.walk_append (h : Way t links here names mid) :
    ∃ left, ∀ more, t.walk links here (names ++ more) = t.walk left mid more := by
  induction h with
  | @here links place => exact ⟨links, fun _ => rfl⟩
  | name henter hplain _ ih =>
    obtain ⟨left, hleft⟩ := ih
    refine ⟨left, fun more => ?_⟩
    rw [List.cons_append, walk_name henter hplain, hleft]
  | link henter hlink _ ih =>
    obtain ⟨left, hleft⟩ := ih
    refine ⟨left, fun more => ?_⟩
    rw [List.cons_append, walk_link henter hlink, ← List.append_assoc, hleft]

/-! ## Directories that are made -/

/-- Directories have been made where nothing stood, and nothing else has changed. -/
structure Fills (t t' : FileTree) : Prop where
  limits : t'.limits = t.limits
  filled : ∀ other, t'.entryAt other = t.entryAt other ∨
    t.entryAt other = none ∧ t'.entryAt other = some .directory

namespace Fills

theorem refl (t : FileTree) : Fills t t := ⟨rfl, fun _ => .inl rfl⟩

theorem trans {t'' : FileTree} (h : Fills t t') (h' : Fills t' t'') : Fills t t'' where
  limits := h'.limits.trans h.limits
  filled other := by
    rcases h'.filled other with hlast | ⟨hnone, hmade⟩
    · rw [hlast]
      exact h.filled other
    · rcases h.filled other with hfirst | ⟨-, hdirectory⟩
      · exact .inr ⟨hfirst ▸ hnone, hmade⟩
      · rw [hnone] at hdirectory
        cases hdirectory

theorem keeps (h : Fills t t') : Keeps t t' := by
  have hstays {other : Place} {entry : Entry} (hother : t.entryAt other = some entry) :
      t'.entryAt other = some entry := by
    rcases h.filled other with hsame | ⟨hnone, -⟩
    · rw [hsame, hother]
    · rw [hnone] at hother
      cases hother
  exact ⟨h.limits, fun _ => hstays, fun _ _ => hstays⟩

theorem leads (h : Fills t t') (hleads : t.Leads p place) : t'.Leads p place where
  way := h.keeps.wayOf hleads.way hleads.directory
  directory := h.keeps.directory place hleads.directory
  plain other target hle := by
    rcases h.filled other with hsame | ⟨-, hdirectory⟩
    · rw [hsame]
      exact hleads.plain other target hle
    · rw [hdirectory]
      exact nofun

theorem unlimited (h : Fills t t') (hunlimited : t.Unlimited) : t'.Unlimited :=
  h.keeps.unlimited hunlimited

theorem clear (h : Fills t t') (hclear : Clear t here names) : Clear t' here names := by
  intro first hbelow
  rcases h.filled (here ++ first) with hsame | ⟨-, hdirectory⟩
  · rw [hsame]
    exact hclear first hbelow
  · exact .inl hdirectory

end Fills

theorem fills_of_ensureDirectory (h : t.ensureDirectory cwd text = .ok made) : Fills t made := by
  rw [ensureDirectory] at h
  split at h
  · next hmake =>
    obtain rfl := Except.ok.inj h
    obtain ⟨place, -, hnone, rfl⟩ := makeDirectory_eq_ok_iff.mp hmake
    refine ⟨rfl, fun other => ?_⟩
    rw [entryAt_put (ne_nil_of_entryAt_none hnone)]
    split
    · next heq => exact .inr ⟨heq ▸ hnone, rfl⟩
    · exact .inl rfl
  · split at h
    · obtain rfl := Except.ok.inj h
      exact .refl t
    · cases h

theorem fills_makePath (t : FileTree) (cwd : Place) (p : Path) :
    Fills t (t.makePath cwd p).2 := by
  fun_induction t.makePath cwd p with
  | case1 p made hmade => exact fills_of_ensureDirectory hmade
  | case2 => exact .refl t
  | case3 p _ _ e above heq ih =>
    rw [heq] at ih
    exact ih
  | case4 p _ _ above heq made hmade ih =>
    rw [heq] at ih
    exact ih.trans (fills_of_ensureDirectory hmade)
  | case5 p _ _ above heq fault _ ih =>
    rw [heq] at ih
    exact ih
  | case6 => exact .refl t

/-- A directory stands where the way of a directory leads that has been made. -/
theorem wayOf_of_ensureDirectory (h : t.ensureDirectory cwd text = .ok made) :
    ∃ place, WayOf made cwd text place ∧ made.entryAt place = some .directory := by
  rw [ensureDirectory] at h
  split at h
  · next hmake =>
    obtain rfl := Except.ok.inj h
    obtain ⟨place, hspot, hnone, rfl⟩ := makeDirectory_eq_ok_iff.mp hmake
    have hne := ne_nil_of_entryAt_none hnone
    have hplace : (t.put place .directory).entryAt place = some .directory := by
      rw [entryAt_put hne, if_pos rfl]
    have hnot (entry : Entry) : t.entryAt place ≠ some entry := by
      rw [hnone]
      exact nofun
    have hkeeps : Keeps t (t.put place .directory) :=
      .put hne (hnot .directory) fun target => hnot (.link target)
    refine ⟨place, wayOf_of_spot (hkeeps.spot hspot) fun target => ?_, hplace⟩
    rw [hplace]
    exact nofun
  · split at h
    · next place hfind =>
      obtain rfl := Except.ok.inj h
      exact ⟨place, wayOf_of_find hfind⟩
    · cases h

theorem wayOf_of_makePath (h : t.makePath cwd p = (.ok (), made)) :
    ∃ place, WayOf made cwd p.toString place ∧ made.entryAt place = some .directory := by
  rw [makePath] at h
  split at h
  · next hmade =>
    cases h
    exact wayOf_of_ensureDirectory hmade
  · split at h
    · cases h
    · split at h
      · cases h
      · split at h
        · next hmade =>
          cases h
          exact wayOf_of_ensureDirectory hmade
        · cases h
  · cases h

/-! ## Paths below a directory -/

/-- No name holds a null. -/
def NullFree (names : List String) : Prop := ∀ name ∈ names, Path.hasNull name = false

theorem textFault?_below (hunlimited : t.Unlimited) (hp : t.textFault? p.toString = none)
    (hnames : Descend names) (hnulls : NullFree names) :
    t.textFault? (p.below names).toString = none := by
  rcases List.eq_nil_or_concat names with rfl | ⟨above, name, rfl⟩
  · rw [Path.below, List.append_nil]
    exact hp
  have hnull : Path.hasNull (p.below (above.concat name)).toString = false := by
    rw [← Bool.not_eq_true, Path.hasNull_toString]
    rintro ⟨other, hother, hnull⟩
    rcases List.mem_append.mp hother with habove | hbelow
    · have htext := (Path.hasNull_toString p).mpr ⟨other, habove, hnull⟩
      rw [textFault?, if_pos htext] at hp
      cases hp
    · rw [hnulls other hbelow] at hnull
      cases hnull
  have hempty : (p.below (above.concat name)).toString.isEmpty = false := by
    rw [List.concat_eq_append] at hnames ⊢
    have hproper := (hnames name (by simp)).1
    have hlast := Path.getLast?_stretches_below p above hproper
    rw [← Bool.not_eq_true, String.isEmpty_iff]
    intro hempty
    rw [hempty] at hlast
    have hname : [] = name.toList := Option.some.inj hlast
    have hisName := hproper.1
    rw [← hname] at hisName
    cases hisName
  rw [textFault?, hnull, hempty, hunlimited.2]
  rfl

theorem textFault?_null (hnulls : ¬ NullFree names) :
    t.textFault? (p.below names).toString = some .nullInPath := by
  have hnull : Path.hasNull (p.below names).toString = true := by
    simp only [NullFree, not_forall, Bool.not_eq_false] at hnulls
    obtain ⟨name, hname, hnull⟩ := hnulls
    exact (Path.hasNull_toString _).mpr ⟨name, List.mem_append_right _ hname, hnull⟩
  rw [textFault?, if_pos hnull]

theorem asksDirectory_below (hnames : Descend names) (hne : names ≠ []) :
    asksDirectory (p.below names).toString = false := by
  obtain ⟨above, name, rfl⟩ := (List.eq_nil_or_concat names).resolve_left hne
  rw [List.concat_eq_append] at hnames ⊢
  have hproper := (hnames name (by simp)).1
  rw [asksDirectory, Path.getLast?_stretches_below p above hproper]
  dsimp only
  rw [hproper.1]
  rfl

namespace Leads

theorem walk_below (h : t.Leads p place) : ∃ left, ∀ more,
    t.walk linkLimit [] ((Path.ofString p.toString).names ++ more) = t.walk left place more := by
  have hway := h.way.2
  rw [startOf_root] at hway
  exact hway.walk_append

/-- A path has been made: only directories are new, and all that its names pass is one. -/
theorem of_makePath (h : t.Leads p place) (hnames : Descend names)
    (hmade : t.makePath [] (p.below names) = (.ok (), made)) :
    Fills t made ∧ ∀ first, first <+: names → made.entryAt (place ++ first) = some .directory := by
  have hfills := fills_makePath t [] (p.below names)
  rw [hmade] at hfills
  have hleads := hfills.leads h
  obtain ⟨last, hway, hlast⟩ := wayOf_of_makePath hmade
  obtain ⟨left, hrest⟩ := hleads.way_below hnames hway
  exact ⟨hfills, hrest.passes hnames hleads.plain hlast⟩

/-- A name is entered where the names before it lead, or there is a directory missing. -/
theorem spot_clear (h : t.Leads p place) (hunlimited : t.Unlimited)
    (hnames : Descend (names ++ [name])) (hnulls : NullFree (names ++ [name]))
    (hclear : Clear t place (names ++ [name])) :
    t.spot [] (p.below (names ++ [name])).toString = .ok (place ++ (names ++ [name])) ∨
      t.spot [] (p.below (names ++ [name])).toString = .error .notFound ∧
        Missing t place (names ++ [name]) := by
  have hle : names <+: names ++ [name] := List.prefix_append ..
  obtain ⟨left, hleft⟩ := h.walk_below
  rw [spot, textFault?_below hunlimited h.way.1 hnames hnulls]
  dsimp only
  rw [names_below hnames, ← List.append_assoc, List.getLast?_concat, List.dropLast_concat,
    startOf_root, hleft]
  dsimp only
  rcases hclear.initial.walk hunlimited (hnames.initial hle) h.plain with hwalk | ⟨hwalk, hmissing⟩
  · rw [hwalk]
    dsimp only
    obtain ⟨hproper, hdots⟩ := hnames name (by simp)
    have hbelow : Below names (names ++ [name]) := below_concat_iff.mpr (List.prefix_refl names)
    rcases hclear names hbelow with hhere | hhere
    · rw [enter, hhere]
      dsimp only
      rw [if_neg hdots, if_neg hproper.ne_dot, hunlimited.1, List.append_assoc]
      exact .inl rfl
    · rw [enter, hhere]
      exact .inr ⟨rfl, names, hbelow, hhere⟩
  · rw [hwalk]
    exact .inr ⟨rfl, hmissing.concat⟩

/-- A directory is made or there already, or one above it is missing. -/
theorem ensureDirectory_clear (h : t.Leads p place) (hunlimited : t.Unlimited)
    (hnames : Descend names) (hnulls : NullFree names) (hclear : Clear t place names)
    (hlast : t.entryAt (place ++ names) = some .directory ∨ t.entryAt (place ++ names) = none) :
    (∃ made, t.ensureDirectory [] (p.below names).toString = .ok made) ∨
      t.ensureDirectory [] (p.below names).toString = .error .notFound ∧
        Missing t place names := by
  rcases List.eq_nil_or_concat names with rfl | ⟨above, name, rfl⟩
  · rw [Path.below, List.append_nil]
    exact .inl ⟨t, h.way.ensureDirectory h.directory⟩
  rw [List.concat_eq_append] at *
  rw [FileTree.ensureDirectory, makeDirectory]
  rcases h.spot_clear hunlimited hnames hnulls hclear with hspot | ⟨hspot, hmissing⟩
  · rcases hlast with hdirectory | hnone
    · have hway := wayOf_of_spot hspot fun target => by
        rw [hdirectory]
        rintro ⟨⟩
      rw [hspot]
      dsimp only
      rw [hdirectory]
      dsimp only
      rw [hway.find hdirectory]
      exact .inl ⟨t, rfl⟩
    · rw [hspot]
      dsimp only
      rw [hnone]
      exact .inl ⟨_, rfl⟩
  · rw [hspot]
    dsimp only
    split
    · exact .inl ⟨t, rfl⟩
    · exact .inr ⟨rfl, hmissing⟩

/-- A path can be made if there is nothing but directories on its way. -/
theorem makePath_clear (h : t.Leads p place) (hunlimited : t.Unlimited)
    (hnames : Descend names) (hnulls : NullFree names) (hclear : Clear t place names)
    (hlast : t.entryAt (place ++ names) = some .directory ∨ t.entryAt (place ++ names) = none) :
    ∃ made, t.makePath [] (p.below names) = (.ok (), made) := by
  -- from the end, since the directories above are made first
  induction names using List.reverseRecOn with
  | nil =>
    refine ⟨t, ?_⟩
    rw [FileTree.makePath, Path.below, List.append_nil, h.way.ensureDirectory h.directory]
  | append_singleton names name ih =>
    have hle : names <+: names ++ [name] := List.prefix_append ..
    have hnulls' : NullFree names := fun other hother => hnulls other (hle.subset hother)
    rcases h.ensureDirectory_clear hunlimited hnames hnulls hclear hlast with
      ⟨made, hmade⟩ | ⟨hfault, -⟩
    · refine ⟨made, ?_⟩
      rw [FileTree.makePath, hmade]
    · obtain ⟨above, habove⟩ := ih (hnames.initial hle) hnulls' hclear.initial
        (hclear names (below_concat_iff.mpr (List.prefix_refl names)))
      obtain ⟨hfills, hpasses⟩ := h.of_makePath (hnames.initial hle) habove
      have hlast' : above.entryAt (place ++ (names ++ [name])) = some .directory ∨
          above.entryAt (place ++ (names ++ [name])) = none := by
        rcases hfills.filled (place ++ (names ++ [name])) with hsame | ⟨-, hdirectory⟩
        · rw [hsame]
          exact hlast
        · exact .inl hdirectory
      rcases (hfills.leads h).ensureDirectory_clear (hfills.unlimited hunlimited) hnames hnulls
        (hfills.clear hclear) hlast' with ⟨made, hmade⟩ | ⟨-, first, hfirst, hnone⟩
      · refine ⟨made, ?_⟩
        rw [FileTree.makePath, hfault]
        dsimp only
        rw [if_neg (by simp [Path.below]), Path.parent_below_concat, habove]
        dsimp only
        rw [hmade]
      · -- the directories above are all there by now
        rw [hpasses first (below_concat_iff.mp hfirst)] at hnone
        cases hnone

section
variable (h : t.Leads p place) (hunlimited : t.Unlimited) (hnames : Descend names)
  (hnulls : NullFree names) (hne : names ≠ [])
  (habove : ∀ first, Below first names → t.entryAt (place ++ first) = some .directory)
include h hunlimited hnames hnulls hne habove

/-- Names lead to their place where all directories above it are there. -/
theorem locate_open : t.locate [] (p.below names).toString = .ok (place ++ names) := by
  obtain ⟨left, hleft⟩ := h.walk_below
  have hclear : Clear t place names := fun first hbelow => .inl (habove first hbelow)
  rw [locate, textFault?_below hunlimited h.way.1 hnames hnulls]
  dsimp only
  rw [names_below hnames, startOf_root, hleft, asksDirectory_below hnames hne]
  rcases hclear.walk hunlimited hnames h.plain with hwalk | ⟨-, first, hbelow, hnone⟩
  · rw [hwalk]
  · rw [habove first hbelow] at hnone
    cases hnone

theorem write_open (bytes : List UInt8) (hlast : t.entryAt (place ++ names) = none ∨
      ∃ old, t.entryAt (place ++ names) = some (.file old false)) :
    t.write [] (p.below names).toString bytes =
      .ok (t.put (place ++ names) (.file bytes false)) := by
  rw [FileTree.write, h.locate_open hunlimited hnames hnulls hne habove]
  dsimp only
  rcases hlast with hnone | ⟨old, hfile⟩
  · rw [hnone]
  · rw [hfile]

theorem read_open {executable : Bool}
    (hfile : t.entryAt (place ++ names) = some (.file bytes executable)) :
    t.read [] (p.below names).toString = .ok bytes := by
  rw [read, find, h.locate_open hunlimited hnames hnulls hne habove]
  dsimp only
  rw [hfile]

end

end Leads

end Linting.FileTree
