import Linting.Proofs.FileTree.Additions
import Linting.Proofs.FileTree.Linkless
import Linting.Proofs.Search.Nearest
import Mathlib.Data.List.Infix

/-! Where the directories of a search stand. The walk up drops the last name of a path, and a double
dot is a name like any other for it. So behind a double dot it comes through the directory that was
left, which is above the start only if the names return to it. -/

namespace Linting
set_option autoImplicit false

namespace Search
open FileTree

variable {t : FileTree} {here : Place} {cwd directory name path : String} {start d : Path}
  {names : List String}

theorem ofString_candidate (hd : ∀ part ∈ d.names, Path.IsProper part)
    (hname : Path.IsProper name) : Path.ofString (candidate d name) = d.below [name] := by
  have hjoin : d / (⟨.none, [name]⟩ : Path) = d.below [name] := rfl
  rw [candidate, Path.ofString_name hname, hjoin, Path.ofString_toString]
  intro part hpart
  rcases List.mem_append.mp hpart with hpart | hpart
  · exact hd part hpart
  · rwa [List.mem_singleton.mp hpart]

theorem find_candidate {place : Place} {entry : Entry} (h : t.Linkless)
    (habsolute : d.isAbsolute = true) (hd : ∀ part ∈ d.names, Path.IsProper part)
    (hname : Path.IsProper name) (hdots : name ≠ "..")
    (hfind : t.find here (candidate d name) = .ok (place, entry)) :
    place = t.resolve here d ++ [name] := by
  have hread := ofString_candidate hd hname
  have hplace := find_linkless h (by rw [hread]; exact habsolute) hfind
  rw [hplace, hread, resolve_linkless h here habsolute]
  change lead [] (d.names ++ [name]) = lead [] d.names ++ [name]
  rw [lead_append, lead_singleton, if_neg hname.ne_dot, if_neg hdots]

theorem resolve_directories_iff (h : t.Linkless) (here : Place)
    (hstart : start.isAbsolute = true) :
    (∀ d ∈ start.ancestry, t.resolve here d <+: t.resolve here start) ↔ Returns start.names := by
  have hplace {d : Path} (hd : d ∈ start.ancestry) : t.resolve here d = collapse d.names :=
    resolve_linkless h here ((Path.isAbsolute_of_mem_ancestry hd).trans hstart)
  rw [returns_iff, resolve_linkless h here hstart]
  constructor
  · intro hall front hfront
    have hd : (⟨start.root, front⟩ : Path) ∈ start.ancestry :=
      Path.mem_ancestry_iff.mpr ⟨rfl, hfront⟩
    have habove := hall _ hd
    rwa [hplace hd] at habove
  · intro hall d hd
    rw [hplace hd]
    exact hall d.names (Path.mem_ancestry_iff.mp hd).2

theorem stands_of_stopsAt {readable : String → Bool} (h : t.Linkless)
    (hstart : start.isAbsolute = true) (hproper : ∀ part ∈ start.names, Path.IsProper part)
    (hplain : Descend names) (hstop : StopsAt readable start.ancestry names path)
    (hthere : t.isReadable here path = true) :
    ∃ d ∈ start.ancestry, ∃ name ∈ names, ∃ entry,
      t.find here path = .ok (t.resolve here d ++ [name], entry) := by
  obtain ⟨d, hd, name, hname, rfl⟩ := exists_candidate_of_stopsAt hstop
  have habsolute : d.isAbsolute = true := (Path.isAbsolute_of_mem_ancestry hd).trans hstart
  have hfront : d.names <+: start.names := (Path.mem_ancestry_iff.mp hd).2
  obtain ⟨hpart, hdots⟩ := hplain name hname
  rw [isReadable, Option.isSome_iff_exists] at hthere
  obtain ⟨⟨place, entry⟩, hfound⟩ := hthere
  have hfind := ok_of_toOption hfound
  have hplace : place = t.resolve here d ++ [name] :=
    find_candidate h habsolute (fun part hmem => hproper part (hfront.subset hmem)) hpart hdots
      hfind
  exact ⟨d, hd, name, hname, entry, hplace ▸ hfind⟩

theorem run_of_find {readable : String → Bool} {cwd : Path} {loose : Value}
    (hnames : SearchRequest.namesOf loose = some names)
    (h : find readable cwd (.text directory) loose = .ok (some path)) :
    SearchRequest.run readable cwd ⟨directory, names⟩ = .ok (some path) := by
  rw [find, SearchRequest.check, hnames, SearchRequest.directoryOf] at h
  by_cases hempty : directory.isEmpty = true
  · rw [if_pos hempty] at h
    cases h
  · rw [if_neg hempty] at h
    exact mapError_eq_ok_iff.mp h

/-! ## Main statement -/

/-- In a tree without links, all directories of a search are its start or above it exactly if the
names of the start return from their double dots, and what is found for plain names stands in one of
these directories. So if the names return, and in particular if there are no double dots, nothing is
found that lies beside the start or below it. -/
theorem ascends_iff (h : t.Linkless) (here : Place) {cwd : String}
    (hcwd : (Path.ofString cwd).isAbsolute = true) (directory : String)
    {readable : String → Bool} (hreadable : ∀ path, readable path = true →
      t.isReadable here path = true) :
    let start := Path.ofString cwd / Path.ofString directory
    let way := directories (Path.ofString cwd) directory
    ((∀ d ∈ way, t.resolve here d <+: t.resolve here start) ↔ Returns start.names) ∧
    (".." ∉ start.names → Returns start.names) ∧
    ∀ (loose : Value) (names : List String) (path : String),
      SearchRequest.namesOf loose = some names → Descend names →
      find readable (Path.ofString cwd) (.text directory) loose = .ok (some path) →
      ∃ d ∈ way, ∃ name ∈ names, ∃ entry,
        t.find here path = .ok (t.resolve here d ++ [name], entry) ∧
        (Returns start.names → t.resolve here d <+: t.resolve here start) := by
  intro start way
  have hstart : start.isAbsolute = true := Path.isAbsolute_join hcwd
  have hproper : ∀ name ∈ start.names, Path.IsProper name :=
    Path.isProper_join (fun _ => Path.isProper_of_mem_namesIn) fun _ => Path.isProper_of_mem_namesIn
  have hascends := resolve_directories_iff h here hstart
  refine ⟨hascends, returns_of_notMem, ?_⟩
  intro loose names path hnames hplain hfind
  obtain ⟨hstop, -, hpath⟩ := run_eq_some_iff.mp (run_of_find hnames hfind)
  obtain ⟨d, hd, name, hname, entry, hentry⟩ :=
    stands_of_stopsAt h hstart hproper hplain hstop (hreadable path hpath)
  exact ⟨d, hd, name, hname, entry, hentry, fun hreturns => hascends.mpr hreturns d hd⟩

/-- The name behind the double dot leads back to the directory that was left. What is found is in
the directory above it. -/
theorem ascends_iff_returning :
    let t : FileTree :=
      ((FileTree.put {} ["a"] .directory).put ["a", "b"] .directory).put ["a", "conf"]
        (.file [] false)
    let readable := fun path => path == "/a/b/../conf"
    let cwd := "/a/b"
    let start := Path.ofString cwd / Path.ofString "../b/."
    t.Linkless ∧ (Path.ofString cwd).isAbsolute = true ∧
      (∀ path, readable path = true → t.isReadable [] path = true) ∧
      Returns start.names ∧
      (∀ d ∈ directories (Path.ofString cwd) "../b/.", t.resolve [] d <+: t.resolve [] start) ∧
      SearchRequest.namesOf (.text "conf") = some ["conf"] ∧ Descend ["conf"] ∧
      find readable (Path.ofString cwd) (.text "../b/.") (.text "conf") =
        .ok (some "/a/b/../conf") ∧
      ∃ above entry, t.find [] "/a/b/../conf" = .ok (above ++ ["conf"], entry) ∧
        above <+: t.resolve [] start := by
  intro t readable cwd start
  have hlinkless : t.Linkless :=
    ((Linkless.empty.put (List.cons_ne_nil _ _) fun _ => Entry.noConfusion).put
      (List.cons_ne_nil _ _) fun _ => Entry.noConfusion).put
      (List.cons_ne_nil _ _) fun _ => Entry.noConfusion
  have hcwd : (Path.ofString cwd).isAbsolute = true := by decide +kernel
  have hreadable : ∀ path, readable path = true → t.isReadable [] path = true := by
    intro path h
    rw [eq_of_beq h]
    decide +kernel
  have hreturns : Returns start.names := by
    have hnames : start.names = ["a", "b", "..", "b"] := by decide +kernel
    rw [hnames, returns_iff]
    simp only [← List.mem_inits]
    decide
  have hnames : SearchRequest.namesOf (.text "conf") = some ["conf"] := by decide +kernel
  have hplain : Descend ["conf"] := by
    unfold Descend Path.IsProper
    decide
  have hfind : find readable (Path.ofString cwd) (.text "../b/.") (.text "conf") =
      .ok (some "/a/b/../conf") := by decide +kernel
  obtain ⟨hascends, -, hstands⟩ := ascends_iff hlinkless [] hcwd "../b/." hreadable
  obtain ⟨d, -, name, hname, entry, hentry, habove⟩ := hstands _ _ _ hnames hplain hfind
  rw [List.mem_singleton.mp hname] at hentry
  exact ⟨hlinkless, hcwd, hreadable, hreturns, hascends.mpr hreturns, hnames, hplain, hfind,
    _, entry, hentry, habove hreturns⟩

/-- A double dot that does not return: what is found stands beside the start. -/
theorem leaves_ancestors :
    let t : FileTree :=
      ((FileTree.put {} ["a"] .directory).put ["b"] .directory).put ["a", "conf"] (.file [] false)
    let start := Path.ofString "/a/../b"
    t.Linkless ∧ (Path.ofString "/").isAbsolute = true ∧ Descend ["conf"] ∧
      (∃ d ∈ directories (Path.ofString "/") "/a/../b",
        ¬ t.resolve [] d <+: t.resolve [] start) ∧
      t.find [] "/a/../b" = .ok (["b"], .directory) ∧
      find (t.isReadable []) (Path.ofString "/") (.text "/a/../b") (.text "conf") =
        .ok (some "/a/conf") ∧
      t.find [] "/a/conf" = .ok (["a", "conf"], .file [] false) := by
  intro t start
  have hlinkless : t.Linkless :=
    ((Linkless.empty.put (List.cons_ne_nil _ _) fun _ => Entry.noConfusion).put
      (List.cons_ne_nil _ _) fun _ => Entry.noConfusion).put
      (List.cons_ne_nil _ _) fun _ => Entry.noConfusion
  have hplain : Descend ["conf"] := by
    unfold Descend Path.IsProper
    decide
  refine ⟨hlinkless, by decide +kernel, hplain, ⟨⟨.slash, ["a"]⟩, by decide +kernel, ?_⟩, ?_⟩
  · rw [resolve_linkless hlinkless [] rfl, resolve_linkless hlinkless [] (by decide +kernel)]
    decide +kernel
  · decide +kernel

end Search
end Linting
