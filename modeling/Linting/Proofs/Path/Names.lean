import Linting.Path
import Mathlib.Data.List.Basic

/-! The names of paths: how they are read from a text, that a written path reads back as it was,
what it is written with, and the names that a path has under another one. -/

namespace Linting.Path
set_option autoImplicit false

/-! ## Stretches -/

theorem stretches_eq_splitOn (text : List Char) : stretches text = text.splitOn '/' := by
  induction text with
  | nil => rfl
  | cons c rest ih =>
    rw [stretches, ih, List.splitOn_cons_eq_if_modifyHead]
    by_cases hc : c = '/'
    · rw [if_pos hc, if_pos (beq_iff_eq.mpr hc)]
    · rw [if_neg hc, if_neg (mt beq_iff_eq.mp hc)]
      cases hsplit : rest.splitOn '/' with
      | nil => exact absurd hsplit (List.splitOn_ne_nil _ _)
      | cons first others => rfl

theorem stretches_slash (a b : List Char) :
    stretches (a ++ '/' :: b) = stretches a ++ stretches b := by
  simp only [stretches_eq_splitOn]
  exact List.splitOnP_append_cons a b (beq_self_eq_true _)

theorem slash_notMem_stretch {text stretch : List Char} (h : stretch ∈ stretches text) :
    '/' ∉ stretch := by
  induction text generalizing stretch with
  | nil =>
    rw [stretches, List.mem_singleton] at h
    rw [h]
    exact List.not_mem_nil
  | cons c rest ih =>
    rw [stretches] at h
    by_cases hc : c = '/'
    · rw [if_pos hc, List.mem_cons] at h
      rcases h with rfl | h
      · exact List.not_mem_nil
      · exact ih h
    · rw [if_neg hc] at h
      cases hsplit : stretches rest with
      | nil =>
        rw [stretches_eq_splitOn] at hsplit
        exact absurd hsplit (List.splitOn_ne_nil _ _)
      | cons first others =>
        rw [hsplit] at h ih
        rcases List.mem_cons.mp h with rfl | h
        · rw [List.mem_cons, not_or]
          exact ⟨Ne.symm hc, ih (List.mem_cons_self ..)⟩
        · exact ih (List.mem_cons_of_mem _ h)

/-! ## Names -/

/-- A text that a path can have as a name: it is read back as one. -/
def IsProper (name : String) : Prop := isName name.toList = true ∧ '/' ∉ name.toList

theorem isProper_of_mem_namesIn {text : List Char} {name : String} (h : name ∈ namesIn text) :
    IsProper name := by
  obtain ⟨stretch, hstretch, rfl⟩ := List.mem_map.mp h
  obtain ⟨hmem, hname⟩ := List.mem_filter.mp hstretch
  rw [IsProper, String.toList_ofList]
  exact ⟨hname, slash_notMem_stretch hmem⟩

theorem IsProper.ne_dot {name : String} (h : IsProper name) : name ≠ "." := by
  rintro rfl
  exact absurd h.1 (by decide)

theorem mem_stretches {c : Char} (text : List Char) (hc : c ≠ '/') :
    (∃ stretch ∈ stretches text, c ∈ stretch) ↔ c ∈ text := by
  induction text with
  | nil => simp [stretches]
  | cons d rest ih =>
    rw [List.mem_cons, ← ih, stretches]
    by_cases hd : d = '/'
    · simp [hd, hc]
    · rw [if_neg hd]
      cases hsplit : stretches rest with
      | nil => simp
      | cons first others => simp [or_assoc]

/-- Only slashes and dots of a text may be in none of its names. -/
theorem mem_namesIn {c : Char} (text : List Char) (hslash : c ≠ '/') (hdot : c ≠ '.') :
    (∃ name ∈ namesIn text, c ∈ name.toList) ↔ c ∈ text := by
  rw [← mem_stretches text hslash]
  constructor
  · rintro ⟨name, hname, hc⟩
    obtain ⟨stretch, hstretch, rfl⟩ := List.mem_map.mp hname
    rw [String.toList_ofList] at hc
    exact ⟨stretch, (List.mem_filter.mp hstretch).1, hc⟩
  · rintro ⟨stretch, hstretch, hc⟩
    have hname : isName stretch = true := by
      have hempty : stretch ≠ [] := List.ne_nil_of_mem hc
      have hsingle : stretch ≠ ['.'] := by
        rintro rfl
        exact hdot (List.mem_singleton.mp hc)
      simp [isName, hempty, hsingle]
    refine ⟨String.ofList stretch, List.mem_map_of_mem (List.mem_filter.mpr ⟨hstretch, hname⟩), ?_⟩
    rwa [String.toList_ofList]

theorem namesIn_slash (a b : List Char) : namesIn (a ++ '/' :: b) = namesIn a ++ namesIn b := by
  rw [namesIn, stretches_slash, List.filter_append, List.map_append, namesIn, namesIn]

/-- Names with slashes between them. -/
def joined (names : List String) : List Char := ['/'].intercalate (names.map String.toList)

theorem joined_append {as bs : List String} (ha : as ≠ []) (hb : bs ≠ []) :
    joined (as ++ bs) = joined as ++ '/' :: joined bs := by
  induction as with
  | nil => exact absurd rfl ha
  | cons name rest ih =>
    cases rest with
    | nil =>
      rw [List.singleton_append, joined, List.map_cons,
        List.intercalate_cons_of_ne_nil (by simpa using hb)]
      simp [joined]
    | cons second others =>
      have hrest := ih (List.cons_ne_nil _ _)
      simp only [joined, List.cons_append, List.map_cons, List.intercalate_cons_cons,
        List.append_assoc] at hrest ⊢
      rw [hrest]

theorem namesIn_joined_append (as bs : List String) :
    namesIn (joined (as ++ bs)) = namesIn (joined as) ++ namesIn (joined bs) := by
  by_cases ha : as = []
  · subst ha
    rfl
  by_cases hb : bs = []
  · subst hb
    rw [List.append_nil]
    exact (List.append_nil _).symm
  rw [joined_append ha hb, namesIn_slash]

theorem namesIn_joined {names : List String} (h : ∀ name ∈ names, IsProper name) :
    namesIn (joined names) = names := by
  by_cases hnil : names = []
  · subst hnil
    rfl
  have hsplit : stretches (joined names) = names.map String.toList := by
    rw [stretches_eq_splitOn]
    refine List.splitOn_intercalate '/' ?_ (by simpa using hnil)
    intro l hl
    obtain ⟨name, hname, rfl⟩ := List.mem_map.mp hl
    exact (h name hname).2
  have hfilter : (names.map String.toList).filter isName = names.map String.toList := by
    rw [List.filter_eq_self]
    intro l hl
    obtain ⟨name, hname, rfl⟩ := List.mem_map.mp hl
    exact (h name hname).1
  rw [namesIn, hsplit, hfilter, List.map_map]
  exact (List.map_congr_left fun name _ => String.ofList_toList).trans (List.map_id _)

/-! ## Written paths -/

theorem toString_toList (p : Path) :
    p.toString.toList =
      if p.root = .none ∧ p.names = [] then ['.'] else p.root.text.toList ++ joined p.names := by
  rw [toString]
  split
  · rfl
  · rw [String.toList_append, String.toList_intercalate]
    rfl

/-- The root of a path has no part in its names. -/
theorem namesIn_toString (p : Path) : namesIn p.toString.toList = namesIn (joined p.names) := by
  rw [toString_toList]
  split
  · next h =>
    rw [h.2]
    rfl
  · cases p.root with
    | none => rfl
    | slash => exact namesIn_slash [] (joined p.names)
    | doubleSlash =>
      exact (namesIn_slash [] ('/' :: joined p.names)).trans (namesIn_slash [] (joined p.names))

theorem parent_below {p : Path} {names : List String} (hne : names ≠ []) :
    (p.below names).parent = p.below names.dropLast := by
  rw [parent, below, below, List.dropLast_append_of_ne_nil hne]

theorem parent_below_concat {p : Path} {names : List String} {name : String} :
    (p.below (names ++ [name])).parent = p.below names := by
  rw [parent_below (List.append_ne_nil_of_right_ne_nil _ (List.cons_ne_nil _ _)),
    List.dropLast_concat]

theorem namesIn_below (p : Path) {names : List String} (h : ∀ name ∈ names, IsProper name) :
    namesIn (p.below names).toString.toList = namesIn p.toString.toList ++ names := by
  rw [namesIn_toString, namesIn_toString, below, namesIn_joined_append, namesIn_joined h]

/-- A written path is read as it was. -/
theorem ofString_toString {p : Path} (h : ∀ name ∈ p.names, IsProper name) :
    ofString p.toString = p := by
  have hnames : (ofString p.toString).names = p.names := by
    change namesIn p.toString.toList = p.names
    rw [namesIn_toString, namesIn_joined h]
  have hhead : (joined p.names).takeWhile (· = '/') = [] := by
    cases hp : p.names with
    | nil => rfl
    | cons name rest =>
      rw [hp] at h
      obtain ⟨hname, hslash⟩ := h name (List.mem_cons_self ..)
      cases hchars : name.toList with
      | nil =>
        rw [hchars] at hname
        cases hname
      | cons c chars =>
        rw [hchars, List.mem_cons, not_or] at hslash
        have hc : ¬ c = '/' := Ne.symm hslash.1
        cases rest with
        | nil => simp [joined, hchars, hc]
        | cons second others => simp [joined, hchars, hc]
  have hroot : (ofString p.toString).root = p.root := by
    change Root.ofSlashes (p.toString.toList.takeWhile (· = '/')).length = p.root
    rw [toString_toList]
    split
    · next hp => exact hp.1.symm
    · cases p.root with
      | none =>
        change Root.ofSlashes ((joined p.names).takeWhile (· = '/')).length = .none
        rw [hhead]
        rfl
      | slash =>
        change Root.ofSlashes (('/' :: joined p.names).takeWhile (· = '/')).length = .slash
        rw [List.takeWhile_cons_of_pos (by decide), hhead]
        rfl
      | doubleSlash =>
        change Root.ofSlashes (('/' :: '/' :: joined p.names).takeWhile (· = '/')).length =
          .doubleSlash
        rw [List.takeWhile_cons_of_pos (by decide), List.takeWhile_cons_of_pos (by decide), hhead]
        rfl
  calc ofString p.toString
    _ = ⟨(ofString p.toString).root, (ofString p.toString).names⟩ := rfl
    _ = p := by rw [hroot, hnames]

/-- A text that is a name itself. -/
theorem ofString_name {name : String} (h : IsProper name) : ofString name = ⟨.none, [name]⟩ := by
  have htext : (⟨.none, [name]⟩ : Path).toString = name := by
    simp [toString, Root.text]
  have hread := ofString_toString (p := ⟨.none, [name]⟩) (by simpa using h)
  rwa [htext] at hread

theorem isAbsolute_ofString (text : String) :
    (ofString text).isAbsolute = true ↔ text.toList.head? = some '/' := by
  change decide (Root.ofSlashes (text.toList.takeWhile (· = '/')).length ≠ .none) = true ↔ _
  rw [decide_eq_true_iff]
  cases text.toList with
  | nil => simp [Root.ofSlashes]
  | cons c rest =>
    by_cases hc : c = '/'
    · subst hc
      rw [List.takeWhile_cons_of_pos (by decide), List.length_cons, List.head?_cons]
      refine iff_of_true ?_ rfl
      unfold Root.ofSlashes
      split <;> simp_all
    · rw [List.takeWhile_cons_of_neg (by simpa using hc), List.head?_cons, Option.some_inj]
      exact iff_of_false (by simp [Root.ofSlashes]) hc

theorem isAbsolute_written {p : Path} (h : p.isAbsolute = true) :
    (ofString p.toString).isAbsolute = true := by
  have hroot : p.root ≠ .none := of_decide_eq_true h
  rw [isAbsolute_ofString, toString_toList, if_neg fun hdot => hroot hdot.1]
  cases hp : p.root with
  | none => exact absurd hp hroot
  | slash => rfl
  | doubleSlash => rfl

/-! ## Characters of a written path -/

theorem mem_joined {c : Char} (names : List String) (hc : c ≠ '/') :
    c ∈ joined names ↔ ∃ name ∈ names, c ∈ name.toList := by
  induction names with
  | nil => simp [joined]
  | cons name rest ih =>
    have hjoined : c ∈ joined (name :: rest) ↔ c ∈ name.toList ∨ c ∈ joined rest := by
      cases rest with
      | nil => simp [joined]
      | cons second others => simp [joined, List.intercalate_cons_cons, hc]
    rw [hjoined, ih, List.exists_mem_cons_iff]

/-- Only slashes and the dot of an empty path come to the characters of the names. -/
theorem mem_toString {c : Char} (p : Path) (hslash : c ≠ '/') (hdot : c ≠ '.') :
    c ∈ p.toString.toList ↔ ∃ name ∈ p.names, c ∈ name.toList := by
  rw [toString_toList]
  split
  · next h => simp [h.2, hdot]
  · have hroot : c ∉ p.root.text.toList := by
      cases p.root <;> simp [Root.text, hslash]
    rw [List.mem_append, mem_joined _ hslash]
    exact or_iff_right hroot

theorem hasNull_toString (p : Path) :
    hasNull p.toString = true ↔ ∃ name ∈ p.names, hasNull name = true := by
  simp only [hasNull, List.contains_iff_mem]
  exact mem_toString p (by decide) (by decide)

theorem stretches_proper {name : String} (h : IsProper name) :
    stretches name.toList = [name.toList] := by
  rw [stretches_eq_splitOn]
  exact List.splitOn_eq_singleton h.2

/-- The text of a path ends with its last name. -/
theorem getLast?_stretches_below (p : Path) (names : List String) {name : String}
    (h : IsProper name) :
    (stretches (p.below (names ++ [name])).toString.toList).getLast? = some name.toList := by
  have hne : p.names ++ (names ++ [name]) ≠ [] := by simp
  have hname : joined [name] = name.toList := by simp [joined]
  have hslash (front : List Char) :
      (stretches (front ++ '/' :: name.toList)).getLast? = some name.toList := by
    rw [stretches_slash, stretches_proper h, List.getLast?_concat]
  rw [toString_toList, below, if_neg fun hp => hne hp.2, ← List.append_assoc]
  by_cases hnil : p.names ++ names = []
  · rw [hnil, List.nil_append, hname]
    cases p.root with
    | none => exact congrArg List.getLast? (stretches_proper h)
    | slash => exact hslash []
    | doubleSlash => exact hslash ['/']
  · rw [joined_append hnil (List.cons_ne_nil _ _), hname, ← List.append_assoc]
    exact hslash _

/-! ## Joined paths -/

theorem isAbsolute_join {base p : Path} (h : base.isAbsolute = true) :
    (base / p).isAbsolute = true := by
  change (base.join p).isAbsolute = true
  rw [join]
  split
  · next hp => exact hp
  · exact h

theorem isProper_join {base p : Path} (hbase : ∀ name ∈ base.names, IsProper name)
    (hp : ∀ name ∈ p.names, IsProper name) : ∀ name ∈ (base / p).names, IsProper name := by
  change ∀ name ∈ (base.join p).names, IsProper name
  rw [join]
  split
  · exact hp
  · exact fun name hname => (List.mem_append.mp hname).elim (hbase name) (hp name)

end Linting.Path
