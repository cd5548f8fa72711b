import Linting.Proofs.Fallible
import Linting.Proofs.Path.Ancestry
import Linting.Proofs.Path.Names
import Linting.Proofs.Value.Parts
import Linting.SearchCache

/-! What a search finds. It goes up from where it starts to the root, directory by directory, and in
each through the names in their order. It stops at the first candidate that does not pass, which is
readable or cannot be probed, and finds nothing exactly if all pass. -/

namespace Linting
set_option autoImplicit false

namespace Search

variable {readable : String → Bool} {directories : List Path} {names paths passed : List String}
  {path : String}

/-! ## Probes -/

/-- A search that notes what it probes. -/
def noted (readable : String → Bool) :
    List String → Except NullInPath (Option String) × List String
  | [] => (.ok none, [])
  | path :: rest =>
    match probe readable path with
    | .error e => (.error e, [path])
    | .ok true => (.ok (some path), [path])
    | .ok false => ((noted readable rest).1, path :: (noted readable rest).2)

theorem noted_fst (readable : String → Bool) (paths : List String) :
    (noted readable paths).1 = first? readable paths := by
  induction paths with
  | nil => rfl
  | cons path rest ih =>
    rw [noted, first?]
    cases probe readable path with
    | error e => rfl
    | ok found =>
      cases found with
      | true => rfl
      | false => exact ih

/-- A search goes on behind a path that can be probed and is not readable. -/
def Passes (readable : String → Bool) (path : String) : Prop :=
  Path.hasNull path = false ∧ readable path = false

theorem probe_of_passes (h : Passes readable path) : probe readable path = .ok false := by
  rw [probe, h.1, h.2]
  rfl

theorem noted_append (h : ∀ path ∈ passed, Passes readable path) (rest : List String) :
    noted readable (passed ++ rest) =
      ((noted readable rest).1, passed ++ (noted readable rest).2) := by
  induction passed with
  | nil => rfl
  | cons path others ih =>
    obtain ⟨hpath, hothers⟩ := List.forall_mem_cons.mp h
    rw [List.cons_append, noted, probe_of_passes hpath, ih hothers]
    rfl

theorem noted_of_passes (h : ∀ path ∈ paths, Passes readable path) :
    noted readable paths = (.ok none, paths) := by
  have hall := noted_append h []
  rwa [List.append_nil, noted, List.append_nil] at hall

/-- What the first path that does not pass makes of a search. -/
theorem noted_of_stop (hpassed : ∀ path ∈ passed, Passes readable path)
    (hstop : ¬ Passes readable path) (rest : List String) :
    noted readable (passed ++ path :: rest) =
      (if Path.hasNull path then .error {} else .ok (some path), passed ++ [path]) := by
  rw [noted_append hpassed, noted, probe]
  cases hnull : Path.hasNull path with
  | true => rfl
  | false =>
    cases hreadable : readable path with
    | true => rfl
    | false => exact absurd ⟨hnull, hreadable⟩ hstop

/-! ## Candidates -/

/-- The text of a name in a directory. -/
def candidate (directory : Path) (name : String) : String :=
  (directory / Path.ofString name).toString

/-- Where a search stops: at the first candidate that does not pass. All in nearer directories pass,
and all of earlier names in the same directory. -/
inductive StopsAt (readable : String → Bool) (directories : List Path) (names : List String) :
    String → Prop where
  | mk {nearer farther : List Path} {directory : Path} {earlier later : List String} {name : String}
    (there : directories = nearer ++ directory :: farther)
    (named : names = earlier ++ name :: later)
    (nearerPass : ∀ d ∈ nearer, ∀ n ∈ names, Passes readable (candidate d n))
    (earlierPass : ∀ n ∈ earlier, Passes readable (candidate directory n))
    (stops : ¬ Passes readable (candidate directory name)) :
    StopsAt readable directories names (candidate directory name)

/-- All members of a list have a property, or there is a first one that does not. -/
theorem all_or_first {α : Type} (P : α → Prop) (xs : List α) :
    (∀ x ∈ xs, P x) ∨ ∃ front x back, xs = front ++ x :: back ∧ (∀ y ∈ front, P y) ∧ ¬ P x := by
  induction xs with
  | nil => exact .inl (List.forall_mem_nil P)
  | cons x xs ih =>
    by_cases hx : P x
    · rcases ih with hall | ⟨front, y, back, rfl, hfront, hy⟩
      · exact .inl (List.forall_mem_cons.mpr ⟨hx, hall⟩)
      · exact .inr ⟨x :: front, y, back, rfl, List.forall_mem_cons.mpr ⟨hx, hfront⟩, hy⟩
    · exact .inr ⟨[], x, xs, rfl, List.forall_mem_nil P, hx⟩

theorem all_pass_or_stopsAt (readable : String → Bool) (directories : List Path)
    (names : List String) :
    (∀ d ∈ directories, ∀ n ∈ names, Passes readable (candidate d n)) ∨
      ∃ path, StopsAt readable directories names path := by
  rcases all_or_first (fun d => ∀ n ∈ names, Passes readable (candidate d n)) directories with
    hall | ⟨nearer, d, farther, hdirectories, hnearer, hd⟩
  · exact .inl hall
  · rcases all_or_first (fun n => Passes readable (candidate d n)) names with
      hall | ⟨earlier, name, later, hnames, hearlier, hname⟩
    · exact absurd hall hd
    · exact .inr ⟨_, .mk hdirectories hnames hnearer hearlier hname⟩

theorem candidates_split (nearer farther : List Path) (d : Path) (earlier later : List String)
    (name : String) :
    candidates (nearer ++ d :: farther) (earlier ++ name :: later) =
      (candidates nearer (earlier ++ name :: later) ++ earlier.map (candidate d)) ++
        candidate d name ::
          (later.map (candidate d) ++ candidates farther (earlier ++ name :: later)) := by
  have hcons : candidates (d :: farther) (earlier ++ name :: later) =
      (earlier ++ name :: later).map (candidate d) ++
        candidates farther (earlier ++ name :: later) := List.flatMap_cons
  rw [candidates, List.flatMap_append, ← candidates, ← candidates, hcons, List.map_append,
    List.map_cons, List.append_assoc, List.append_assoc, List.cons_append]

theorem mem_candidates_iff : path ∈ candidates directories names ↔
    ∃ d ∈ directories, ∃ n ∈ names, candidate d n = path := by
  simp only [candidates, candidate, List.mem_flatMap, List.mem_map]

theorem exists_candidate_of_stopsAt (h : StopsAt readable directories names path) :
    ∃ d ∈ directories, ∃ n ∈ names, candidate d n = path := by
  obtain ⟨rfl, rfl, -⟩ := h
  exact ⟨_, List.mem_append_right _ (List.mem_cons_self ..), _,
    List.mem_append_right _ (List.mem_cons_self ..), rfl⟩

theorem noted_of_all_pass (h : ∀ d ∈ directories, ∀ n ∈ names, Passes readable (candidate d n)) :
    noted readable (candidates directories names) = (.ok none, candidates directories names) := by
  refine noted_of_passes fun path hpath => ?_
  obtain ⟨d, hd, n, hn, rfl⟩ := mem_candidates_iff.mp hpath
  exact h d hd n hn

theorem noted_of_stopsAt (h : StopsAt readable directories names path) :
    ∃ passed rest, candidates directories names = passed ++ path :: rest ∧
      noted readable (candidates directories names) =
        (if Path.hasNull path then .error {} else .ok (some path), passed ++ [path]) := by
  obtain @⟨nearer, farther, d, earlier, later, name, rfl, rfl, hnearer, hearlier, hstop⟩ := h
  have hpassed : ∀ other ∈ candidates nearer (earlier ++ name :: later) ++
      earlier.map (candidate d), Passes readable other := by
    intro other hother
    rcases List.mem_append.mp hother with hother | hother
    · obtain ⟨d', hd', n, hn, rfl⟩ := mem_candidates_iff.mp hother
      exact hnearer d' hd' n hn
    · obtain ⟨n, hn, rfl⟩ := List.mem_map.mp hother
      exact hearlier n hn
  exact ⟨_, _, candidates_split .., by rw [candidates_split, noted_of_stop hpassed hstop]⟩

end Search

/-! ## Outcomes -/

section Outcomes

open Search

variable {readable : String → Bool} {cwd : Path} {request : SearchRequest} {path : String}

theorem run_eq_noted : request.run readable cwd =
    (noted readable (candidates (directories cwd request.directory) request.names)).1 :=
  (noted_fst ..).symm

theorem run_of_stopsAt
    (h : StopsAt readable (directories cwd request.directory) request.names path) :
    request.run readable cwd =
      if Path.hasNull path then .error {} else .ok (some path) := by
  obtain ⟨passed, rest, -, hnoted⟩ := noted_of_stopsAt h
  rw [run_eq_noted, hnoted]

/-- Nothing is found exactly if every candidate passes. -/
theorem run_eq_none_iff : request.run readable cwd = .ok none ↔
    ∀ d ∈ directories cwd request.directory, ∀ n ∈ request.names,
      Passes readable (candidate d n) := by
  constructor
  · intro h
    rcases all_pass_or_stopsAt readable (directories cwd request.directory) request.names with
      hall | ⟨path, hstop⟩
    · exact hall
    · rw [run_of_stopsAt hstop] at h
      split at h <;> cases h
  · intro h
    rw [run_eq_noted, noted_of_all_pass h]

theorem not_passes_of_stopsAt {directories : List Path} {names : List String}
    (h : StopsAt readable directories names path) : ¬ Passes readable path := by
  cases h with
  | mk _ _ _ _ hstop => exact hstop

/-- What is found is where the search stops, if that is readable. -/
theorem run_eq_some_iff : request.run readable cwd = .ok (some path) ↔
    StopsAt readable (directories cwd request.directory) request.names path ∧
      Path.hasNull path = false ∧ readable path = true := by
  constructor
  · intro h
    rcases all_pass_or_stopsAt readable (directories cwd request.directory) request.names with
      hall | ⟨other, hstop⟩
    · rw [run_eq_none_iff.mpr hall] at h
      cases h
    · rw [run_of_stopsAt hstop] at h
      split at h
      · cases h
      next hnull =>
        cases h
        rw [Bool.not_eq_true] at hnull
        refine ⟨hstop, hnull, ?_⟩
        by_contra hreadable
        exact not_passes_of_stopsAt hstop ⟨hnull, by simpa using hreadable⟩
  · rintro ⟨hstop, hnull, -⟩
    rw [run_of_stopsAt hstop, hnull]
    rfl

theorem run_eq_error_iff {e : NullInPath} : request.run readable cwd = .error e ↔
    ∃ path, StopsAt readable (directories cwd request.directory) request.names path ∧
      Path.hasNull path = true := by
  constructor
  · intro h
    rcases all_pass_or_stopsAt readable (directories cwd request.directory) request.names with
      hall | ⟨path, hstop⟩
    · rw [run_eq_none_iff.mpr hall] at h
      cases h
    · rw [run_of_stopsAt hstop] at h
      split at h
      next hnull => exact ⟨path, hstop, hnull⟩
      · cases h
  · rintro ⟨path, hstop, hnull⟩
    rw [run_of_stopsAt hstop, if_pos hnull]

/-- What a search notes is a part of the candidates, in their order: all of them if nothing is
found, and otherwise those up to what is found. -/
theorem noted_candidates (readable : String → Bool) (cwd : Path) (request : SearchRequest) :
    let all := candidates (directories cwd request.directory) request.names
    (noted readable all).2 <+: all ∧
      (request.run readable cwd = .ok none → (noted readable all).2 = all) ∧
      ∀ path, request.run readable cwd = .ok (some path) →
        (noted readable all).2.getLast? = some path := by
  intro all
  rcases all_pass_or_stopsAt readable (directories cwd request.directory) request.names with
    hall | ⟨path, hstop⟩
  · have hnoted := noted_of_all_pass hall
    rw [run_eq_noted, hnoted]
    exact ⟨List.prefix_rfl, fun _ => rfl, fun _ h => nomatch h⟩
  · obtain ⟨passed, rest, hsplit, hnoted⟩ := noted_of_stopsAt hstop
    rw [run_of_stopsAt hstop, hnoted]
    refine ⟨⟨rest, ?_⟩, ?_, ?_⟩
    · rw [List.append_assoc, List.singleton_append]
      exact hsplit.symm
    · intro h
      split at h <;> cases h
    · intro found h
      split at h
      · cases h
      · cases h
        exact List.getLast?_concat

/-! ## Arguments and paths -/

theorem check_texts {directory : String} {names : List String} (hdirectory : directory ≠ "")
    (hnames : names ≠ []) (hnonempty : ∀ name ∈ names, name ≠ "") :
    SearchRequest.check (.text directory) (.list (names.map .text)) = .ok ⟨directory, names⟩ := by
  have htexts : Value.texts? (names.map .text) = some names := Value.texts?_eq_some_iff.mpr rfl
  have hdirectoryOf : SearchRequest.directoryOf (.text directory) = some directory := by
    rw [SearchRequest.directoryOf, if_neg (mt String.isEmpty_iff.mp hdirectory)]
  have hnamesOf : SearchRequest.namesOf (.list (names.map .text)) = some names := by
    simp only [SearchRequest.namesOf, Value.items?, Option.bind_some, htexts]
    rw [Option.filter_some, if_pos]
    simpa [hnames, String.isEmpty_iff] using hnonempty
  rw [SearchRequest.check, hdirectoryOf, hnamesOf]

/-- Where a search from an absolute directory stops, the path is absolute. -/
theorem isAbsolute_of_stopsAt {start : Path} {names : List String} (h : start.isAbsolute = true)
    (hstop : StopsAt readable start.ancestry names path) :
    (Path.ofString path).isAbsolute = true := by
  obtain ⟨d, hmem, name, -, rfl⟩ := exists_candidate_of_stopsAt hstop
  have hd : d.isAbsolute = true := (Path.isAbsolute_of_mem_ancestry hmem).trans h
  exact Path.isAbsolute_written (Path.isAbsolute_join hd)

/-! ## Main statement -/

/-- A search goes up from its absolute start to the root, one directory after the other, and probes
the candidates in their order. It finds the first one that is readable, with all others of nearer
directories and of earlier names passed, and nothing exactly if all are passed; only a candidate
that cannot be probed ends it otherwise. What is found is absolute. -/
theorem search_finds_nearest (readable : String → Bool) {cwd : Path} {directory : String}
    {names : List String} (hcwd : cwd.isAbsolute = true) (hdirectory : directory ≠ "")
    (hnames : names ≠ []) (hnonempty : ∀ name ∈ names, name ≠ "") :
    let start := cwd / Path.ofString directory
    let way := directories cwd directory
    let search := noted readable (candidates way names)
    let outcome := find readable cwd (.text directory) (.list (names.map .text))
    start.isAbsolute = true ∧ Path.Climbs start way ∧
    (outcome = ofProbe search.1 ∧ search.2 <+: candidates way names ∧
      (outcome = .ok none → search.2 = candidates way names) ∧
      ∀ path, outcome = .ok (some path) → search.2.getLast? = some path) ∧
    (∀ path, outcome = .ok (some path) ↔ StopsAt readable way names path ∧
      Path.hasNull path = false ∧ readable path = true) ∧
    (outcome = .ok none ↔ ∀ d ∈ way, ∀ name ∈ names, Passes readable (candidate d name)) ∧
    (∀ e, outcome = .error e ↔ e = .nullInPath ∧
      ∃ path, StopsAt readable way names path ∧ Path.hasNull path = true) ∧
    ∀ path, outcome = .ok (some path) → (Path.ofString path).isAbsolute = true := by
  intro start way search outcome
  have houtcome : outcome = ofProbe (SearchRequest.run readable cwd ⟨directory, names⟩) := by
    change find readable cwd (.text directory) (.list (names.map .text)) = _
    rw [find, check_texts hdirectory hnames hnonempty]
  have hok (found : Option String) : outcome = .ok found ↔
      SearchRequest.run readable cwd ⟨directory, names⟩ = .ok found := by
    rw [houtcome]
    exact mapError_eq_ok_iff
  have hstart : start.isAbsolute = true := Path.isAbsolute_join hcwd
  obtain ⟨hpart, hnone, hsome⟩ := noted_candidates readable cwd ⟨directory, names⟩
  refine ⟨hstart, Path.climbs_ancestry start, ⟨?_, hpart, ?_, ?_⟩, ?_, ?_, ?_, ?_⟩
  · rw [houtcome, run_eq_noted]
  · exact fun h => hnone ((hok none).mp h)
  · exact fun path h => hsome path ((hok (some path)).mp h)
  · exact fun path => (hok (some path)).trans run_eq_some_iff
  · exact (hok none).trans run_eq_none_iff
  · intro e
    rw [houtcome, ofProbe, mapError_eq_error_iff]
    constructor
    · rintro ⟨null, hnull, rfl⟩
      have hstop := run_eq_error_iff.mp hnull
      exact ⟨rfl, hstop⟩
    · rintro ⟨rfl, hstop⟩
      have hnull : SearchRequest.run readable cwd ⟨directory, names⟩ = .error {} :=
        run_eq_error_iff.mpr hstop
      exact ⟨{}, hnull, rfl⟩
  · intro path h
    exact isAbsolute_of_stopsAt hstart (run_eq_some_iff.mp ((hok (some path)).mp h)).1

/-- The second name in the nearer directory comes before the first name in the root. -/
theorem search_finds_nearest_relative :
    let readable := fun path => path == "/lint.toml" || path == "/work/tox.ini"
    let cwd : Path := ⟨.slash, ["work"]⟩
    let names := ["lint.toml", "tox.ini"]
    cwd.isAbsolute = true ∧ "sub//." ≠ "" ∧ names ≠ [] ∧ (∀ name ∈ names, name ≠ "") ∧
      find readable cwd (.text "sub//.") (.list (names.map .text)) = .ok (some "/work/tox.ini") ∧
      StopsAt readable (directories cwd "sub//.") names "/work/tox.ini" := by
  intro readable cwd names
  have hcwd : cwd.isAbsolute = true := rfl
  have hdirectory : "sub//." ≠ "" := by decide
  have hnames : names ≠ [] := List.cons_ne_nil _ _
  have hnonempty : ∀ name ∈ names, name ≠ "" := by decide
  have hfind : find readable cwd (.text "sub//.") (.list (names.map .text)) =
      .ok (some "/work/tox.ini") := by decide +kernel
  obtain ⟨-, -, -, hfound, -⟩ :=
    search_finds_nearest readable hcwd hdirectory hnames hnonempty
  exact ⟨hcwd, hdirectory, hnames, hnonempty, hfind, ((hfound _).mp hfind).1⟩

/-- A name with a null in it: nothing is readable, but the search does not say so. -/
theorem search_ends_at_null :
    let readable := fun _ : String => false
    let cwd : Path := ⟨.slash, []⟩
    (∀ d ∈ directories cwd "work", readable (candidate d "a\x00b") = false) ∧
      find readable cwd (.text "work") (.list [.text "a\x00b"]) = .error .nullInPath := by
  decide +kernel

end Outcomes

end Linting
