import Linting.Proofs.Diagnostic.Collection

/-! The default of the file. What is collected from a text depends on it in the files of those
diagnostics alone whose matches have captured none. -/

namespace Linting
set_option autoImplicit false

/-! ## One match -/

/-- What the diagnostics of one match have in common if they differ in the default of the file: all
but the file, and that too if the match has captured one. Otherwise each has its own default, and an
empty default is none. -/
structure AgreeButForDefault (file default default' : Option String) (d d' : Diagnostic) :
    Prop where
  type : d.type = d'.type
  text : d.text = d'.text
  range : d.range = d'.range
  filePath :
    (∃ path, path ≠ "" ∧ file = some path ∧ d.filePath = some path ∧ d'.filePath = some path) ∨
      (file = none ∨ file = some "") ∧
        d.filePath = (if default = some "" then none else default) ∧
        d'.filePath = (if default' = some "" then none else default')

theorem nonempty?_eq (default : Option String) :
    nonempty? default = if default = some "" then none else default := by
  cases default with
  | none => rfl
  | some path =>
    by_cases hpath : path = ""
    · subst hpath
      rfl
    · have hempty : path.isEmpty = false := by simpa [String.isEmpty_iff] using hpath
      simp [nonempty?, hempty, hpath]

theorem FirstNonempty.single_cases {capture r : Option String} (h : FirstNonempty [capture] r) :
    (∃ s, s ≠ "" ∧ capture = some s ∧ r = some s) ∨
      (capture = none ∨ capture = some "") ∧ r = none := by
  cases h with
  | here hs => exact .inl ⟨_, hs, rfl, rfl⟩
  | there hc hrest =>
    cases hrest
    exact .inr ⟨hc, rfl⟩

section

variable (p : Pattern) (data : String) (default default' : Option String) (m : Regex.Match)

/-- The file of a match, given the default. -/
def Pattern.fileOf : Option String :=
  (GroupMap.resolve (m.captures p.expression.names (Pattern.textOf data)) ["file"]).or
    (nonempty? default)

/-- A diagnostic with the file that its match has under a default. -/
def Pattern.withFile (d : Diagnostic) : Diagnostic :=
  { d with filePath := p.fileOf data default m }

/-- The default has no part in whether a match has a diagnostic. -/
theorem diagnosticOf_default :
    diagnosticOf p (Pattern.textOf data) default' m =
      (diagnosticOf p (Pattern.textOf data) default m).map (p.withFile data default' m) := by
  let groups := m.captures p.expression.names (Pattern.textOf data)
  have hrange : (MatchFields.ofGroups groups default').range =
      (MatchFields.ofGroups groups default).range := rfl
  change ((MatchFields.ofGroups groups default').range).map _ =
    ((MatchFields.ofGroups groups default).range.map _).map _
  rw [hrange]
  cases (MatchFields.ofGroups groups default).range with
  | error e => rfl
  | ok range => rfl

theorem filePath_of_diagnosticOf {d : Diagnostic}
    (h : diagnosticOf p (Pattern.textOf data) default m = .ok d) :
    d.filePath = p.fileOf data default m := by
  rw [diagnosticOf, MatchFields.diagnostic, map_eq_ok_iff] at h
  obtain ⟨range, -, rfl⟩ := h
  rfl

theorem agreeButForDefault_withFile {d : Diagnostic}
    (h : diagnosticOf p (Pattern.textOf data) default m = .ok d) :
    AgreeButForDefault (p.captured data m "file") default default' d
      (p.withFile data default' m d) where
  type := rfl
  text := rfl
  range := rfl
  filePath := by
    have hfile := filePath_of_diagnosticOf p data default m h
    have hfile' : (p.withFile data default' m d).filePath = p.fileOf data default' m := rfl
    have hcaptured : FirstNonempty [p.captured data m "file"]
        (GroupMap.resolve (m.captures p.expression.names (Pattern.textOf data)) ["file"]) :=
      Pattern.resolve_captures p data m ["file"]
    rw [hfile, hfile', Pattern.fileOf, Pattern.fileOf, ← nonempty?_eq, ← nonempty?_eq]
    rcases hcaptured.single_cases with ⟨path, hpath, hcapture, hresolve⟩ | ⟨hcapture, hresolve⟩
    · rw [hresolve]
      exact .inl ⟨path, hpath, hcapture, rfl, rfl⟩
    · rw [hresolve]
      exact .inr ⟨hcapture, rfl, rfl⟩

end

namespace AgreeButForDefault

variable {file default default' : Option String} {d d' : Diagnostic}

theorem filePath_ne_empty (h : AgreeButForDefault file default default' d d') :
    d.filePath ≠ some "" := by
  rcases h.filePath with ⟨path, hpath, -, hd, -⟩ | ⟨-, hd, -⟩
  · rw [hd]
    simpa using hpath
  · rw [hd]
    split
    · simp
    · assumption

theorem filePath_ne_none (h : AgreeButForDefault file default default' d d') {path : String}
    (hdefault : default = some path) (hpath : path ≠ "") : d.filePath ≠ none := by
  rcases h.filePath with ⟨captured, -, -, hd, -⟩ | ⟨-, hd, -⟩
  · rw [hd]
    simp
  · rw [hd, hdefault]
    simp [hpath]

end AgreeButForDefault

/-! ## All matches -/

theorem diagnosticsIn_default (p : Pattern) (data : String) (default default' : Option String) :
    diagnosticsIn p data default' =
      (diagnosticsIn p data default).map
        (List.zipWith (p.withFile data default') (p.matchesIn (Pattern.textOf data))) := by
  have hmatches := mapM_map (diagnosticOf p (Pattern.textOf data) default)
    (p.withFile data default') (p.matchesIn (Pattern.textOf data))
  rw [diagnosticsIn, diagnosticsIn, ← hmatches]
  refine congrArg (fun f => List.mapM f _) (funext fun m => ?_)
  exact diagnosticOf_default p data default default' m

section

variable {data source : String} {given other : Value} {options options' : ParseOptions}

theorem parse_default (data source : String) (hflags : options'.flags = options.flags) :
    (∃ e, parse data source options = .error e ∧ parse data source options' = .error e) ∨
      ∃ p ds, Pattern.compile source options.flags = .ok p ∧
        diagnosticsIn p data options.filePath = .ok ds ∧ parse data source options = .ok ds ∧
        parse data source options' = .ok (List.zipWith (p.withFile data options'.filePath)
          (p.matchesIn (Pattern.textOf data)) ds) := by
  cases hp : Pattern.compile source options.flags with
  | error e => exact .inl ⟨.compile e, parse_error hp, parse_error (hflags ▸ hp)⟩
  | ok p =>
    have hp' : Pattern.compile source options'.flags = .ok p := hflags ▸ hp
    have hother := diagnosticsIn_default p data options.filePath options'.filePath
    rw [parse_eq hp, parse_eq hp', hother]
    cases hds : diagnosticsIn p data options.filePath with
    | error e => exact .inl ⟨.coordinate e, rfl, rfl⟩
    | ok ds => exact .inr ⟨p, ds, rfl, hds, rfl, rfl⟩

/-- The default of the file is seen in nothing but the files of matches that have captured none.
With another default the same error is told, or there are as many diagnostics, which agree one by
one but for that. No diagnostic has an empty file, and none is without a file if the default is not
empty. -/
theorem default_fills_missing_files (hgiven : ParseOptions.ofValue given = .ok options)
    (hother : ParseOptions.ofValue other = .ok options')
    (hflags : options'.flags = options.flags) :
    (∀ e, (collect (.text data) (.text source) given).1 = .error e →
      (collect (.text data) (.text source) other).1 = .error e) ∧
    ∀ ds, (collect (.text data) (.text source) given).1 = .ok ds →
      ∃ p ds', Pattern.compile source options.flags = .ok p ∧
        (collect (.text data) (.text source) other).1 = .ok ds' ∧
        ds.length = (p.matchesIn (Pattern.textOf data)).length ∧ ds'.length = ds.length ∧
        (∀ (i : Nat) m, (p.matchesIn (Pattern.textOf data))[i]? = some m →
          ∃ d d', ds[i]? = some d ∧ ds'[i]? = some d' ∧
            AgreeButForDefault (p.captured data m "file") options.filePath options'.filePath
              d d') ∧
        ∀ d ∈ ds, d.filePath ≠ some "" ∧
          ∀ path, options.filePath = some path → path ≠ "" → d.filePath ≠ none := by
  rw [collect_text hgiven, collect_text hother]
  rcases parse_default data source hflags with
    ⟨e, hfails, hfails'⟩ | ⟨p, ds, hp, hds, hreturns, hreturns'⟩
  · rw [hfails, hfails']
    refine ⟨fun _ h => h, fun ds h => ?_⟩
    cases h
  · rw [hreturns, hreturns']
    refine ⟨fun e h => ?_, fun _ h => ?_⟩
    · cases h
    cases h
    have hall := mapM_eq_ok_iff.mp hds
    have hlength := hall.length_eq
    have hagree (i : Nat) (m : Regex.Match)
        (hm : (p.matchesIn (Pattern.textOf data))[i]? = some m) : ∃ d, ds[i]? = some d ∧
          AgreeButForDefault (p.captured data m "file") options.filePath options'.filePath d
            (p.withFile data options'.filePath m d) := by
      obtain ⟨hi, rfl⟩ := List.getElem?_eq_some_iff.mp hm
      have hd := hall.get hi (hlength ▸ hi)
      exact ⟨_, List.getElem?_eq_getElem (hlength ▸ hi), agreeButForDefault_withFile _ _ _ _ _ hd⟩
    refine ⟨p, _, hp, rfl, hlength.symm, by simp [hlength], fun i m hm => ?_, fun d hd => ?_⟩
    · obtain ⟨d, hd, hagree⟩ := hagree i m hm
      exact ⟨d, _, hd, by simp [List.getElem?_zipWith, hm, hd], hagree⟩
    · obtain ⟨i, hi, rfl⟩ := List.getElem_of_mem hd
      obtain ⟨d, hd, hagree⟩ := hagree i _ (List.getElem?_eq_getElem (hlength ▸ hi))
      obtain rfl : ds[i] = d := by
        rw [List.getElem?_eq_getElem hi] at hd
        exact Option.some.inj hd
      exact ⟨hagree.filePath_ne_empty, fun path => hagree.filePath_ne_none⟩

end

/-- Two lines, of which one names its file, read with a default and with an empty one. -/
theorem default_fills_missing_files_empty :
    ∃ options options' p ds, ParseOptions.ofValue (.record [("filePath", .text "a.c")]) =
        .ok options ∧
      ParseOptions.ofValue (.record [("file_path", .text "")]) = .ok options' ∧
      options'.flags = options.flags ∧
      (collect (.text ":1,b:2") (.text "(?<file>[a-z]?):(?<line>.)")
        (.record [("filePath", .text "a.c")])).1 = .ok ds ∧
      (collect (.text ":1,b:2") (.text "(?<file>[a-z]?):(?<line>.)")
        (.record [("file_path", .text "")])).1 =
        .ok [⟨none, none, none, ⟨⟨0, 0⟩, ⟨0, 0⟩⟩⟩, ⟨none, none, some "b", ⟨⟨1, 0⟩, ⟨1, 0⟩⟩⟩] ∧
      Pattern.compile "(?<file>[a-z]?):(?<line>.)" options.flags = .ok p ∧
      (∀ d ∈ ds, d.filePath ≠ some "" ∧
        ∀ path, options.filePath = some path → path ≠ "" → d.filePath ≠ none) := by
  have hgiven : ParseOptions.ofValue (.record [("filePath", .text "a.c")]) =
      .ok ⟨"", some "a.c"⟩ := ok_of_toOption (by decide +kernel)
  have hother : ParseOptions.ofValue (.record [("file_path", .text "")]) = .ok ⟨"", some ""⟩ :=
    ok_of_toOption (by decide +kernel)
  have hds : (collect (.text ":1,b:2") (.text "(?<file>[a-z]?):(?<line>.)")
      (.record [("filePath", .text "a.c")])).1 = .ok
        [⟨none, none, some "a.c", ⟨⟨0, 0⟩, ⟨0, 0⟩⟩⟩, ⟨none, none, some "b", ⟨⟨1, 0⟩, ⟨1, 0⟩⟩⟩] :=
    ok_of_toOption (by decide +kernel)
  have hds' : (collect (.text ":1,b:2") (.text "(?<file>[a-z]?):(?<line>.)")
      (.record [("file_path", .text "")])).1 = .ok
        [⟨none, none, none, ⟨⟨0, 0⟩, ⟨0, 0⟩⟩⟩, ⟨none, none, some "b", ⟨⟨1, 0⟩, ⟨1, 0⟩⟩⟩] :=
    ok_of_toOption (by decide +kernel)
  obtain ⟨p, -, hp, -, -, -, -, hfiles⟩ :=
    (default_fills_missing_files hgiven hother rfl).2 _ hds
  exact ⟨_, _, p, _, hgiven, hother, rfl, hds, hds', hp, hfiles⟩

end Linting
