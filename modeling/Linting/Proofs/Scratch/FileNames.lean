import Linting.Proofs.FileTree.Additions
import Linting.Scratch

/-! Which names the files of a scratch directory may have, and that these lead strictly below the
directory, wherever it is: the path of the file, the directories made for it, and what changes in
the tree when it is written. -/

namespace Linting
set_option autoImplicit false

/-! ## Names that are accepted -/

namespace FileSpec
variable {name contents : String} {f : FileSpec}

/-- The parts of a name between slashes, without empty and single-dot ones. -/
def components (name : String) : List String :=
  ((name.toList.splitOn '/').map String.ofList).filter fun part => part ≠ "" ∧ part ≠ "."

/-- The record of a file. -/
def record (name contents : String) : List (String × Value) :=
  [("name", .text name), ("contents", .text contents)]

theorem components_eq (name : String) : components name = (Path.ofString name).names := by
  have hname (part : List Char) :
      decide (String.ofList part ≠ "" ∧ String.ofList part ≠ ".") = Path.isName part := by
    have hempty : String.ofList part = "" ↔ part = [] := by
      rw [← String.toList_inj, String.toList_ofList]
      rfl
    have hdot : String.ofList part = "." ↔ part = ['.'] := by
      rw [← String.toList_inj, String.toList_ofList]
      rfl
    simp [Path.isName, hempty, hdot]
  change _ = Path.namesIn name.toList
  rw [components, Path.namesIn, List.filter_map, Path.stretches_eq_splitOn]
  congr 1
  exact List.filter_congr fun part _ => hname part

theorem staysInside_iff : staysInside name = true ↔
    name.toList.head? ≠ some '/' ∧ components name ≠ [] ∧ ".." ∉ components name := by
  have habsolute := Path.isAbsolute_ofString name
  rw [components_eq, staysInside]
  simp only [Bool.and_eq_true, Bool.not_eq_true', ne_eq, ← habsolute, ← List.isEmpty_iff,
    ← List.contains_iff_mem, Bool.not_eq_true, and_assoc]

/-- A name is accepted if it stays inside the directory. -/
theorem ofFields_record (name contents : String) :
    (∃ f, ofFields (record name contents) = .ok f) ↔ staysInside name = true := by
  have hfault : nameFault? (some (.text name)) = none ↔ staysInside name = true := by
    rw [nameFault?]
    by_cases hempty : name.isEmpty
    · have hname : name = "" := String.isEmpty_iff.mp hempty
      subst hname
      decide +kernel
    · rw [if_neg hempty]
      split
      · next h => exact iff_of_true rfl h
      · next h => exact iff_of_false (fun h => nomatch h) h
  have hname : (record name contents).lookup "name" = some (.text name) := rfl
  have hcontents : (record name contents).lookup "contents" = some (.text contents) := rfl
  rw [← hfault]
  simp only [ofFields, hname, hcontents, contentsFault?]
  cases nameFault? (some (.text name)) with
  | none => exact iff_of_true ⟨_, rfl⟩ rfl
  | some fault =>
    refine iff_of_false ?_ fun h => nomatch h
    rintro ⟨f, h⟩
    cases h

theorem eq_of_ofFields (h : ofFields (record name contents) = .ok f) : f = ⟨name, contents⟩ := by
  rw [ofFields] at h
  dsimp only at h
  split at h
  · exact (Except.ok.inj h).symm
  · cases h

theorem isAbsolute_of_staysInside (h : staysInside name = true) :
    (Path.ofString name).isAbsolute = false := by
  have hhead := (staysInside_iff.mp h).1
  rwa [ne_eq, ← Path.isAbsolute_ofString, Bool.not_eq_true] at hhead

theorem descend_components (h : staysInside name = true) :
    FileTree.Descend (components name) := by
  intro part hpart
  refine ⟨?_, ?_⟩
  · rw [components_eq] at hpart
    exact Path.isProper_of_mem_namesIn hpart
  · rintro rfl
    exact (staysInside_iff.mp h).2.2 hpart

end FileSpec

namespace Scratch
open FileTree
variable {t : FileTree} {p : Path} {place : Place} {names : List String} {contents : String}

/-- The path of a file is that of the parts of its name under the directory. -/
theorem pathOf_eq {f : FileSpec} (directory : Path) (h : FileSpec.staysInside f.name = true) :
    pathOf directory f = directory.below (FileSpec.components f.name) := by
  change Path.join directory (Path.ofString f.name) = _
  rw [Path.join, FileSpec.isAbsolute_of_staysInside h, if_neg Bool.false_ne_true,
    FileSpec.components_eq]

theorem parents_below (p : Path) (names : List String) :
    ∀ above ∈ (p.below names).parents, above ∈ p.ancestry ∨
      ∃ first, first ≠ [] ∧ first <+: names ∧ above = p.below first := by
  intro above habove
  rw [Path.parents, List.mem_reverse] at habove
  obtain ⟨count, hcount, rfl⟩ := List.mem_map.mp habove
  rw [List.mem_range, Path.below, List.length_append] at hcount
  rcases Nat.lt_trichotomy count p.names.length with hlt | heq | hgt
  · refine .inl (List.mem_cons_of_mem _ ?_)
    rw [Path.parents, List.mem_reverse]
    refine List.mem_map.mpr ⟨count, List.mem_range.mpr hlt, ?_⟩
    rw [Path.below, List.take_append_of_le_length (Nat.le_of_lt hlt)]
  · refine .inl ?_
    rw [Path.below, heq, List.take_left]
    exact List.mem_cons_self ..
  · refine .inr ⟨names.take (count - p.names.length), ?_, List.take_prefix .., ?_⟩
    · rw [ne_eq, List.take_eq_nil_iff, not_or, ← List.length_eq_zero_iff]
      omega
    · rw [Path.below, Path.below, List.take_append, List.take_of_length_le (Nat.le_of_lt hgt)]

/-! ## Writing a file -/

/-- Writing a file changes nothing but what is on the way to its place, also if it cannot be
written. -/
theorem saveFile_adds (contents : String) (h : t.Leads p place) (hnames : Descend names)
    (hne : names ≠ []) :
    Adds (Along place names) t (saveFile t (p.below names) contents).2 ∧
      ((saveFile t (p.below names) contents).1 = .ok () →
        (∃ executable, (saveFile t (p.below names) contents).2.entryAt (place ++ names) =
          some (.file (Text.encode contents) executable)) ∨
        (saveFile t (p.below names) contents).2.entryAt (place ++ names) = some .device) := by
  have hle : names.dropLast <+: names := List.dropLast_prefix names
  have habove := (h.makePath (hnames.initial hle)).mono fun _ hother => Along.mono hother hle
  rw [saveFile, Path.parent_below hne]
  split
  · next e above heq =>
    rw [heq] at habove
    refine ⟨habove, fun hok => ?_⟩
    cases hok
  · next above heq =>
    rw [heq] at habove
    split
    · next written hwritten =>
      obtain ⟨hadds, hat⟩ := (h.adds habove).write hnames hwritten
      exact ⟨habove.trans hadds, fun _ => hat⟩
    · refine ⟨habove, fun hok => ?_⟩
      cases hok

/-! ## Main statement -/

/-- A name is accepted exactly if it does not start with a slash and has parts, none of them a
double dot. Its path in a directory is that of its parts under the directory, and is read back so.
The directories above it are those of the directory and others strictly below it. Where there are no
links in the directory, writing the file changes nothing but places strictly below that of the
directory, on the way to its own. -/
theorem accepted_name_leads_below (name contents : String) :
    ((∃ f, FileSpec.ofFields (FileSpec.record name contents) = .ok f) ↔
      name.toList.head? ≠ some '/' ∧ FileSpec.components name ≠ [] ∧
        ".." ∉ FileSpec.components name) ∧
    ∀ f, FileSpec.ofFields (FileSpec.record name contents) = .ok f →
      ∀ directory : String,
        let base := Path.ofString directory
        let p := pathOf base f
        p.root = base.root ∧ p.names = base.names ++ FileSpec.components name ∧
        Path.ofString p.toString = p ∧
        (∀ above ∈ p.parents, above ∈ base.ancestry ∨
          ∃ first, first ≠ [] ∧ first <+: FileSpec.components name ∧
            above = base.below first) ∧
        ∀ (t : FileTree) (place : Place), t.find [] base.toString = .ok (place, .directory) →
          (∀ other target, place <+: other → t.entryAt other ≠ some (.link target)) →
          (∀ other, (saveFile t p contents).2.entryAt other ≠ t.entryAt other →
            Along place (FileSpec.components name) other) ∧
          ((saveFile t p contents).1 = .ok () →
            (∃ executable,
              (saveFile t p contents).2.entryAt (place ++ FileSpec.components name) =
                some (.file (Text.encode contents) executable)) ∨
            (saveFile t p contents).2.entryAt (place ++ FileSpec.components name) =
              some .device) := by
  refine ⟨(FileSpec.ofFields_record name contents).trans FileSpec.staysInside_iff, ?_⟩
  intro f hf directory base p
  have hinside := (FileSpec.ofFields_record name contents).mp ⟨f, hf⟩
  obtain rfl := FileSpec.eq_of_ofFields hf
  have hp : p = base.below (FileSpec.components name) := pathOf_eq base hinside
  have hnames := FileSpec.descend_components hinside
  have hproper : ∀ part ∈ p.names, Path.IsProper part := by
    rw [hp]
    intro part hpart
    rcases List.mem_append.mp hpart with hbase | hname
    · exact Path.isProper_of_mem_namesIn hbase
    · exact (hnames part hname).1
  refine ⟨?_, ?_, Path.ofString_toString hproper, ?_, ?_⟩
  · rw [hp]
    rfl
  · rw [hp]
    rfl
  · rw [hp]
    exact parents_below base _
  · intro t place hfind hplain
    obtain ⟨hway, hdirectory⟩ := wayOf_of_find hfind
    obtain ⟨hadds, hat⟩ := saveFile_adds contents ⟨hway, hdirectory, hplain⟩ hnames
      (FileSpec.staysInside_iff.mp hinside).2.1
    rw [hp]
    exact ⟨fun other hother => (hadds.changed other hother).1, hat⟩

/-- A name with slashes and a dot that its path does not keep. -/
theorem accepted_name_leads_below_dots :
    let t : FileTree := FileTree.put {} ["tmp"] .directory
    let p := pathOf (Path.ofString "/tmp") ⟨"sub//./a", "x"⟩
    p = ⟨.slash, ["tmp", "sub", "a"]⟩ ∧
      ∀ other, (saveFile t p "x").2.entryAt other ≠ t.entryAt other →
        Along ["tmp"] ["sub", "a"] other := by
  intro t p
  have hcomponents : FileSpec.components "sub//./a" = ["sub", "a"] := by decide +kernel
  obtain ⟨haccepted, hleads⟩ := accepted_name_leads_below "sub//./a" "x"
  obtain ⟨f, hf⟩ := haccepted.mpr (by rw [hcomponents]; decide +kernel)
  obtain ⟨hroot, hnames, -, -, hwrites⟩ := hleads f hf "/tmp"
  obtain rfl := FileSpec.eq_of_ofFields hf
  rw [hcomponents] at hnames hwrites
  have hfind : t.find [] (Path.ofString "/tmp").toString = .ok (["tmp"], .directory) := by
    have hplain (target : Path) : t.entryAt ["tmp"] ≠ some (.link target) :=
      fun h => nomatch h
    have hway : WayOf t [] (Path.ofString "/tmp").toString ["tmp"] :=
      ⟨by decide +kernel, .name (by decide +kernel) hplain .here⟩
    exact hway.find (by decide +kernel)
  refine ⟨?_, (hwrites t ["tmp"] hfind ?_).1⟩
  · change (⟨p.root, p.names⟩ : Path) = _
    rw [hroot, hnames]
    decide +kernel
  · intro other target _ hlink
    rw [entryAt_put (List.cons_ne_nil "tmp" []), entryAt_empty] at hlink
    split at hlink
    · cases hlink
    · split at hlink <;> cases hlink

end Scratch

end Linting
