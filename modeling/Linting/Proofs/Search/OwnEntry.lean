import Linting.Proofs.Search.Entries
import Linting.Proofs.Search.Nearest

/-! What one call does to a cache: at most the entry of its own key changes, and after the call it
is what the call returned. The answer is the entry that was there if its path is still readable, and
otherwise what a plain search finds. -/

namespace Linting
set_option autoImplicit false

/-! ## Arguments -/

/-- A directory as it may be given: a path, or a text that is not empty. -/
inductive GivesDirectory : Value → String → Prop where
  | path (p : Path) : GivesDirectory (.path p) p.toString
  | text {directory : String} (full : directory ≠ "") : GivesDirectory (.text directory) directory

/-- Names as they may be given: one text, or a sequence of texts that has one. None is empty. -/
inductive GivesNames : Value → List String → Prop where
  | one {name : String} (full : name ≠ "") : GivesNames (.text name) [name]
  | many {v : Value} {names : List String} (listed : v.items? = some (names.map .text))
    (present : names ≠ []) (full : ∀ name ∈ names, name ≠ "") : GivesNames v names

/-- The arguments give a request. -/
def Gives (directory names : Value) (request : SearchRequest) : Prop :=
  GivesDirectory directory request.directory ∧ GivesNames names request.names

section
variable {directory names : Value} {request : SearchRequest} {texts : List String}

theorem directoryOf_eq_some_iff {text : String} :
    SearchRequest.directoryOf directory = some text ↔ GivesDirectory directory text := by
  constructor
  · intro h
    cases directory with
    | path p =>
      obtain rfl := Option.some.inj h
      exact .path p
    | text s =>
      rw [SearchRequest.directoryOf] at h
      split at h
      · cases h
      · next hfull =>
        obtain rfl := Option.some.inj h
        exact .text (mt String.isEmpty_iff.mpr hfull)
    | _ => cases h
  · rintro (p | hfull)
    · rfl
    · rw [SearchRequest.directoryOf, if_neg (mt String.isEmpty_iff.mp hfull)]

/-- The texts that a value offers as names, whether or not they may be given. -/
def offered : Value → Option (List String)
  | .text name => some [name]
  | v => v.items?.bind Value.texts?

theorem offered_eq_some_iff : offered names = some texts ↔
    (∃ name, names = .text name ∧ texts = [name]) ∨ names.items? = some (texts.map .text) := by
  by_cases htext : ∃ name, names = .text name
  · obtain ⟨name, rfl⟩ := htext
    constructor
    · intro h
      exact .inl ⟨name, rfl, (Option.some.inj h).symm⟩
    · rintro (⟨other, hother, rfl⟩ | h)
      · rw [Value.text.inj hother]
        rfl
      · cases h
  · have hoffered : offered names = names.items?.bind Value.texts? := by
      cases names with
      | text name => exact absurd ⟨name, rfl⟩ htext
      | _ => rfl
    rw [hoffered, or_iff_right fun ⟨name, hname, _⟩ => htext ⟨name, hname⟩,
      Option.bind_eq_some_iff]
    simp only [Value.texts?_eq_some_iff, exists_eq_right]

theorem namesOf_eq_some_iff :
    SearchRequest.namesOf names = some texts ↔ GivesNames names texts := by
  have hnames : SearchRequest.namesOf names = (offered names).filter fun names =>
      !names.isEmpty && names.all fun name => !name.isEmpty := by
    cases names <;> rfl
  have hpass : SearchRequest.namesOf names = some texts ↔
      offered names = some texts ∧ texts ≠ [] ∧ ∀ name ∈ texts, name ≠ "" := by
    rw [hnames, Option.filter_eq_some_iff]
    simp
  rw [hpass, offered_eq_some_iff]
  constructor
  · rintro ⟨⟨name, rfl, rfl⟩ | hlisted, hsome, hfull⟩
    · exact .one (hfull name (List.mem_singleton_self name))
    · exact .many hlisted hsome hfull
  · intro h
    cases h with
    | @one name hfull =>
      exact ⟨.inl ⟨name, rfl, rfl⟩, List.cons_ne_nil _ _, by simpa using hfull⟩
    | many hlisted hsome hfull => exact ⟨.inr hlisted, hsome, hfull⟩

theorem check_eq_ok_iff :
    SearchRequest.check directory names = .ok request ↔ Gives directory names request := by
  rw [Gives, ← directoryOf_eq_some_iff, ← namesOf_eq_some_iff, SearchRequest.check]
  cases SearchRequest.directoryOf directory with
  | none => simp
  | some start =>
    cases SearchRequest.namesOf names with
    | none => simp
    | some texts =>
      obtain ⟨start', texts'⟩ := request
      simp

end

/-! ## One lookup -/

namespace SearchCache
variable {readable : String → Bool} {cwd : Path} {cache after : SearchCache}
  {request : SearchRequest} {key path : String} {r : Option String}

/-- A key has an entry or none, and everything else is as it was. -/
structure Updates (cache : SearchCache) (key : String) (r : Option String)
    (after : SearchCache) : Prop where
  own : after.get? key = r
  others : ∀ other, other ≠ key → after.get? other = cache.get? other

/-- No entry of the key can be used: there is none, or its path is no longer readable. -/
def Lacks (readable : String → Bool) (cache : SearchCache) (key : String) : Prop :=
  ∀ path, cache.get? key = some path → Search.probe readable path = .ok false

theorem lookup_of_readable (hget : cache.get? request.key = some path)
    (hprobe : Search.probe readable path = .ok true) :
    cache.lookup readable cwd request = (.ok (some path), cache) := by
  rw [lookup, fresh?, hget]
  simp only [hprobe]

theorem lookup_of_null (hget : cache.get? request.key = some path)
    (hnull : Path.hasNull path = true) :
    cache.lookup readable cwd request = (.error {}, cache) := by
  have hprobe : Search.probe readable path = .error {} := by rw [Search.probe, if_pos hnull]
  rw [lookup, fresh?, hget]
  simp only [hprobe]

theorem Updates.refl (cache : SearchCache) (key : String) :
    cache.Updates key (cache.get? key) cache := ⟨rfl, fun _ _ => rfl⟩

theorem Updates.trans {dropped : SearchCache} {r' : Option String}
    (h : cache.Updates key r' dropped) (h' : dropped.Updates key r after) :
    cache.Updates key r after :=
  ⟨h'.own, fun other hne => (h'.others other hne).trans (h.others other hne)⟩

/-- A lookup without a usable entry is a search in the cache without that entry. -/
theorem lookup_of_lacks (cwd : Path) (h : cache.Lacks readable request.key) :
    ∃ dropped, cache.Updates request.key none dropped ∧
      cache.lookup readable cwd request = dropped.search readable cwd request := by
  cases hget : cache.get? request.key with
  | none =>
    refine ⟨cache, hget ▸ .refl cache request.key, ?_⟩
    rw [lookup, fresh?, hget]
  | some path =>
    refine ⟨cache.erase request.key, ⟨?_, fun other hne => ?_⟩, ?_⟩
    · rw [get?_erase, if_pos rfl]
    · rw [get?_erase, if_neg hne]
    · rw [lookup, fresh?, hget]
      simp only [h path hget]

theorem search_fst (readable : String → Bool) (cwd : Path) (cache : SearchCache)
    (request : SearchRequest) :
    (cache.search readable cwd request).1 = request.run readable cwd := by
  rw [search]
  split
  · next path hrun => exact hrun.symm
  · rfl

theorem search_updates (hget : cache.get? request.key = none)
    (hrun : request.run readable cwd = .ok r) :
    cache.Updates request.key r (cache.search readable cwd request).2 := by
  cases r with
  | none =>
    rw [search, hrun]
    exact ⟨hget, fun _ _ => rfl⟩
  | some path =>
    rw [search, hrun]
    refine ⟨?_, fun other hne => ?_⟩
    · rw [get?_put, if_pos rfl]
    · rw [get?_put, if_neg hne]

theorem usable_or_lacks (readable : String → Bool) (cache : SearchCache) (key : String) :
    (∃ path, cache.get? key = some path ∧ Search.probe readable path = .ok true) ∨
      (∃ path, cache.get? key = some path ∧ Path.hasNull path = true) ∨
      cache.Lacks readable key := by
  cases hget : cache.get? key with
  | none => exact .inr (.inr fun path hpath => nomatch hget.symm.trans hpath)
  | some path =>
    cases hnull : Path.hasNull path with
    | true => exact .inr (.inl ⟨path, rfl, hnull⟩)
    | false =>
      have hprobe : Search.probe readable path = .ok (readable path) := by
        rw [Search.probe, hnull, if_neg Bool.false_ne_true]
      cases hreadable : readable path with
      | true => exact .inl ⟨path, rfl, by rw [hprobe, hreadable]⟩
      | false =>
        refine .inr (.inr fun other hother => ?_)
        obtain rfl := Option.some.inj (hget.symm.trans hother)
        rw [hprobe, hreadable]

/-- What a lookup returns is the entry of its key afterwards. -/
theorem lookup_updates (h : (cache.lookup readable cwd request).1 = .ok r) :
    cache.Updates request.key r (cache.lookup readable cwd request).2 := by
  rcases usable_or_lacks readable cache request.key with
    ⟨path, hget, hprobe⟩ | ⟨path, hget, hnull⟩ | hlacks
  · rw [lookup_of_readable hget hprobe] at h ⊢
    rw [← Except.ok.inj h, ← hget]
    exact .refl cache request.key
  · rw [lookup_of_null hget hnull] at h
    cases h
  · obtain ⟨dropped, hdropped, hlookup⟩ := lookup_of_lacks cwd hlacks
    rw [hlookup, search_fst] at h
    rw [hlookup]
    exact hdropped.trans (search_updates hdropped.own h)

end SearchCache

/-! ## One call -/

section
variable {readable : String → Bool} {cwd : Path} {env : Environment} {kept : Settings.Kept}
  {cache : SearchCache} {directory names : Value} {request : SearchRequest} {e : ConfigError}

/-- The settings can be read and disable the cache. -/
def CacheDisabled (env : Environment) (kept : Settings.Kept) : Prop :=
  ∃ settings, (Settings.get kept env).1 = .ok settings ∧ settings.findCacheEnabled = false

theorem findCached_of_enabled (henabled : CacheEnabled env kept)
    (hcheck : SearchRequest.check directory names = .ok request) :
    let outcome := findCached readable cwd env kept cache directory names
    outcome.1 = ofProbe (cache.lookup readable cwd request).1 ∧
      outcome.2.2 = (cache.lookup readable cwd request).2 := by
  obtain ⟨settings, hget, hon⟩ := henabled.get
  rw [findCached, hcheck, hget]
  simp only [hon, if_true, and_self]

theorem findCached_of_disabled (hdisabled : CacheDisabled env kept)
    (hcheck : SearchRequest.check directory names = .ok request) :
    let outcome := findCached readable cwd env kept cache directory names
    outcome.1 = ofProbe (request.run readable cwd) ∧ outcome.2.2 = cache := by
  obtain ⟨settings, hsettings, hoff⟩ := hdisabled
  rcases hget : Settings.get kept env with ⟨_, kept'⟩
  rw [hget] at hsettings
  obtain rfl := hsettings
  rw [findCached, hcheck]
  dsimp only
  rw [hget]
  simp only [hoff, Bool.false_eq_true, if_false, and_self]

theorem findCached_of_unreadable (hsettings : (Settings.get kept env).1 = .error e)
    (hcheck : SearchRequest.check directory names = .ok request) :
    let outcome := findCached readable cwd env kept cache directory names
    outcome.1 = .error (.settings e) ∧ outcome.2.2 = cache := by
  rcases hget : Settings.get kept env with ⟨_, kept'⟩
  rw [hget] at hsettings
  obtain rfl := hsettings
  rw [findCached, hcheck]
  dsimp only
  rw [hget]
  exact ⟨rfl, rfl⟩

theorem settings_cases (env : Environment) (kept : Settings.Kept) :
    (∃ e, (Settings.get kept env).1 = .error e) ∨
      CacheEnabled env kept ∨ CacheDisabled env kept := by
  cases hsettings : (Settings.get kept env).1 with
  | error e => exact .inl ⟨e, rfl⟩
  | ok settings =>
    cases hon : settings.findCacheEnabled with
    | true => exact .inr (.inl ⟨settings, hsettings, hon⟩)
    | false => exact .inr (.inr ⟨settings, hsettings, hon⟩)

theorem ofProbe_ne_argument {α : Type} (r : Except NullInPath α) (fault : SearchFault) :
    ofProbe r ≠ .error (.argument fault) := by
  cases r <;> exact nofun

/-- A checked call does not end with a fault of its arguments. -/
theorem findCached_ne_argument (hcheck : SearchRequest.check directory names = .ok request)
    (fault : SearchFault) :
    (findCached readable cwd env kept cache directory names).1 ≠ .error (.argument fault) := by
  rcases settings_cases env kept with ⟨e, h⟩ | h | h
  · rw [(findCached_of_unreadable h hcheck).1]
    rintro ⟨⟩
  · rw [(findCached_of_enabled h hcheck).1]
    exact ofProbe_ne_argument _ fault
  · rw [(findCached_of_disabled h hcheck).1]
    exact ofProbe_ne_argument _ fault

/-- A call leaves the entries of all other keys as they are. -/
theorem get?_findCached_of_ne (hcheck : SearchRequest.check directory names = .ok request)
    {other : String} (hne : other ≠ request.key) :
    (findCached readable cwd env kept cache directory names).2.2.get? other = cache.get? other := by
  rcases settings_cases env kept with ⟨e, h⟩ | h | h
  · rw [(findCached_of_unreadable h hcheck).2]
  · rw [(findCached_of_enabled h hcheck).2, SearchCache.get?_lookup_of_ne hne]
  · rw [(findCached_of_disabled h hcheck).2]

/-- With the cache enabled and no usable entry, a call is answered as a plain search. -/
theorem findCached_of_lacks (henabled : CacheEnabled env kept)
    (hcheck : SearchRequest.check directory names = .ok request)
    (hlacks : cache.Lacks readable request.key) :
    (findCached readable cwd env kept cache directory names).1 =
      find readable cwd directory names := by
  obtain ⟨dropped, -, hlookup⟩ := SearchCache.lookup_of_lacks cwd hlacks
  rw [(findCached_of_enabled henabled hcheck).1, hlookup, SearchCache.search_fst,
    find_of_ok hcheck]

end

/-! ## Main statement -/

/-- Arguments that give no request are refused, whatever the files, the settings and the cache are.
A call for a request leaves all entries but that of its key as they are. If the cache is enabled and
the call returns, the entry of the key is what it returned: the path that was there if it is still
readable, and what a plain search finds if there was none or it is not; a path there that cannot be
probed ends the call and stays. If the cache is disabled the call is a plain search, and on an empty
cache it is answered as one. -/
theorem call_updates_own_entry (readable : String → Bool) (cwd : Path) (env : Environment)
    (kept : Settings.Kept) (cache : SearchCache) (directory names : Value) :
    let outcome := findCached readable cwd env kept cache directory names
    let answer := outcome.1
    let after := outcome.2.2
    let plain := find readable cwd directory names
    ((∀ request, ¬ Gives directory names request) →
      ∃ fault, ∀ readable' cwd' env' kept' cache',
        findCached readable' cwd' env' kept' cache' directory names =
          (.error (.argument fault), kept', cache')) ∧
    ∀ request, Gives directory names request →
      (∀ fault, answer ≠ .error (.argument fault)) ∧
      (∀ other, other ≠ request.key → after.get? other = cache.get? other) ∧
      (CacheEnabled env kept →
        (∀ r, answer = .ok r → cache.Updates request.key r after) ∧
        (∀ path, cache.get? request.key = some path → Path.hasNull path = false →
          readable path = true → answer = .ok (some path)) ∧
        ((∀ path, cache.get? request.key = some path →
          Path.hasNull path = false ∧ readable path = false) → answer = plain) ∧
        ∀ path, cache.get? request.key = some path → Path.hasNull path = true →
          answer = .error .nullInPath ∧ after = cache) ∧
      (CacheDisabled env kept → answer = plain ∧ after = cache) ∧
      (∀ e, (Settings.get kept env).1 = .error e → answer = .error (.settings e) ∧ after = cache) ∧
      (cache = {} → ∀ settings, (Settings.get kept env).1 = .ok settings → answer = plain) := by
  intro outcome answer after plain
  refine ⟨fun hnone => ?_, fun request hgives => ?_⟩
  · cases hcheck : SearchRequest.check directory names with
    | error fault => exact ⟨fault, fun _ _ _ _ _ => by rw [findCached, hcheck]⟩
    | ok request => exact absurd (check_eq_ok_iff.mp hcheck) (hnone request)
  have hcheck := check_eq_ok_iff.mpr hgives
  have hplain : plain = ofProbe (request.run readable cwd) := find_of_ok hcheck
  have henabled (h : CacheEnabled env kept) :
      answer = ofProbe (cache.lookup readable cwd request).1 ∧
        after = (cache.lookup readable cwd request).2 := findCached_of_enabled h hcheck
  have hdisabled (h : CacheDisabled env kept) : answer = plain ∧ after = cache :=
    hplain ▸ findCached_of_disabled h hcheck
  have hlacks (h : CacheEnabled env kept) (hnone : cache.Lacks readable request.key) :
      answer = plain := findCached_of_lacks h hcheck hnone
  refine ⟨findCached_ne_argument hcheck, fun other => get?_findCached_of_ne hcheck,
    fun h => ⟨?_, ?_, ?_, ?_⟩, hdisabled, fun e h => findCached_of_unreadable h hcheck, ?_⟩
  · intro r hr
    rw [(henabled h).1, ofProbe, mapError_eq_ok_iff] at hr
    rw [(henabled h).2]
    exact SearchCache.lookup_updates hr
  · intro path hget hnull hreadable
    have hprobe : Search.probe readable path = .ok true := by
      rw [Search.probe, hnull, hreadable]
      rfl
    rw [(henabled h).1, SearchCache.lookup_of_readable hget hprobe]
    rfl
  · intro hstale
    exact hlacks h fun path hget => Search.probe_of_passes (hstale path hget)
  · intro path hget hnull
    rw [(henabled h).1, (henabled h).2, SearchCache.lookup_of_null hget hnull]
    exact ⟨rfl, rfl⟩
  · rintro rfl settings hsettings
    rcases settings_cases env kept with ⟨e, hunreadable⟩ | h | h
    · cases hsettings.symm.trans hunreadable
    · refine hlacks h fun path hget => ?_
      cases hget
    · exact (hdisabled h).1

/-- A file that went away: its entry is dropped, and the one farther up is found and kept. -/
theorem call_updates_own_entry_stale :
    let readable := fun path => path == "/a/lint"
    let cache : SearchCache := ⟨[("/a/b:lint", "/a/b/lint"), ("/c:lint", "/c/lint")]⟩
    let directory : Value := .text "/a/b"
    let names : Value := .tuple [.text "lint"]
    let outcome := findCached readable ⟨.slash, []⟩ [] none cache directory names
    Gives directory names ⟨"/a/b", ["lint"]⟩ ∧ CacheEnabled [] none ∧
      outcome.1 = .ok (some "/a/lint") ∧
      cache.Updates "/a/b:lint" (some "/a/lint") outcome.2.2 ∧
      outcome.2.2.get? "/c:lint" = some "/c/lint" ∧
      find readable ⟨.slash, []⟩ directory names = .ok (some "/a/lint") := by
  intro readable cache directory names outcome
  have hgives : Gives directory names ⟨"/a/b", ["lint"]⟩ :=
    ⟨.text (by decide), .many rfl (by decide) (by decide)⟩
  have henabled : CacheEnabled [] none := ⟨{}, rfl, rfl⟩
  have hkey : (⟨"/a/b", ["lint"]⟩ : SearchRequest).key = "/a/b:lint" := by decide +kernel
  have hanswer : outcome.1 = .ok (some "/a/lint") := by decide +kernel
  obtain ⟨-, hcall⟩ := call_updates_own_entry readable ⟨.slash, []⟩ [] none cache directory names
  obtain ⟨-, hothers, hon, -⟩ := hcall _ hgives
  obtain ⟨hupdates, -, hstale, -⟩ := hon henabled
  rw [hkey] at hothers hupdates hstale
  have hplain : outcome.1 = find readable ⟨.slash, []⟩ directory names := by
    refine hstale fun path hget => ?_
    obtain rfl := Option.some.inj ((by decide +kernel :
      cache.get? "/a/b:lint" = some "/a/b/lint").symm.trans hget)
    decide +kernel
  exact ⟨hgives, henabled, hanswer, hupdates _ hanswer,
    (hothers "/c:lint" (by decide)).trans (by decide +kernel), hplain ▸ hanswer⟩

end Linting
