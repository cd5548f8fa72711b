import Linting.Proofs.Search.Transparency

/-! Where the entries of a cache come from. Files may come and go between searches, and entries may
be dropped; an entry is there exactly if a search put it there and nothing has dropped it since. A
path that a call returns is readable at that moment, whatever the cache holds. -/

namespace Linting
set_option autoImplicit false

/-! ## Events -/

/-- What a call finds before it. -/
structure SearchState where
  readable : String → Bool
  cwd : Path
  env : Environment
  kept : Settings.Kept
  cache : SearchCache

/-- What may happen: a call, a change of the files or of what surrounds the calls, or the loss of
entries. -/
inductive SearchEvent where
  | call (directory names : Value)
  | files (readable : String → Bool)
  | move (cwd : Path)
  | environment (env : Environment)
  | forgetSettings
  | invalidate (key : String)
  | clear

namespace SearchState

def answer (s : SearchState) (directory names : Value) : Except SearchError (Option String) :=
  (findCached s.readable s.cwd s.env s.kept s.cache directory names).1

def after (s : SearchState) : SearchEvent → SearchState
  | .call directory names =>
    let (_, kept, cache) := findCached s.readable s.cwd s.env s.kept s.cache directory names
    { s with kept, cache }
  | .files readable => { s with readable }
  | .move cwd => { s with cwd }
  | .environment env => { s with env }
  | .forgetSettings => { s with kept := none }
  | .invalidate key => { s with cache := s.cache.erase key }
  | .clear => { s with cache := {} }

def run (s : SearchState) (events : List SearchEvent) : SearchState := events.foldl after s

/-- The call is one with the cache enabled, for a request with the key. -/
def Asks (s : SearchState) (key : String) (directory names : Value) (request : SearchRequest) :
    Prop :=
  SearchRequest.check directory names = .ok request ∧ CacheEnabled s.env s.kept ∧ request.key = key

/-- The event is a call that has no entry to use, searches, and finds the path. -/
def Stores (s : SearchState) (key path : String) : SearchEvent → Prop
  | .call directory names => ∃ request, s.Asks key directory names request ∧
      (s.cache.fresh? s.readable key).1 = .ok none ∧
      request.run s.readable s.cwd = .ok (some path)
  | _ => False

/-- The event takes the entry away: the cache is cleared, the key invalidated, or the path found to
be no longer readable by a call. -/
def Drops (s : SearchState) (key path : String) : SearchEvent → Prop
  | .call directory names => ∃ request, s.Asks key directory names request ∧
      Search.probe s.readable path = .ok false
  | .invalidate other => other = key
  | .clear => True
  | _ => False

/-- None of the events takes the entry away. -/
def Keeps (s : SearchState) (key path : String) : List SearchEvent → Prop
  | [] => True
  | event :: rest => ¬ s.Drops key path event ∧ (s.after event).Keeps key path rest

end SearchState

/-! ## Entries after a lookup -/

namespace SearchCache

variable {readable : String → Bool} {cwd : Path} {cache : SearchCache} {request : SearchRequest}
  {key path : String}

theorem get?_erase (cache : SearchCache) (key other : String) :
    (cache.erase key).get? other = if other = key then none else cache.get? other := by
  rw [get?, erase, lookup_filter (fun k => decide (k ≠ key))]
  by_cases h : other = key <;> simp [h, get?]

/-- A lookup leaves the entries of other keys as they are. -/
theorem get?_lookup_of_ne (h : key ≠ request.key) :
    (cache.lookup readable cwd request).2.get? key = cache.get? key := by
  have hsearch (c : SearchCache) :
      (c.search readable cwd request).2.get? key = c.get? key := by
    rw [search]
    split
    · rw [get?_put, if_neg h]
    · rfl
  have hfresh : (cache.fresh? readable request.key).2.get? key = cache.get? key := by
    rw [fresh?]
    split
    · rfl
    · split
      · rfl
      · rfl
      · rw [get?_erase, if_neg h]
  rw [lookup]
  split
  · next c hc => rw [hsearch, ← hfresh, hc]
  · exact hfresh

/-- A search under a key that has no entry leaves one exactly if it finds something. -/
theorem get?_search (h : cache.get? request.key = none) :
    (cache.search readable cwd request).2.get? request.key = some path ↔
      request.run readable cwd = .ok (some path) := by
  rw [search]
  split
  · next found hrun =>
    rw [get?_put, if_pos rfl, hrun, Except.ok.injEq]
  · next hrun =>
    rw [h]
    exact iff_of_false (Option.some_ne_none path).symm (hrun path)

/-- After a lookup the key has an entry that the lookup found by a search, or the one it had, unless
that was found to be stale. -/
theorem get?_lookup : (cache.lookup readable cwd request).2.get? request.key = some path ↔
    ((cache.fresh? readable request.key).1 = .ok none ∧
        request.run readable cwd = .ok (some path)) ∨
      (cache.get? request.key = some path ∧ Search.probe readable path ≠ .ok false) := by
  cases hget : cache.get? request.key with
  | none =>
    have hfresh : cache.fresh? readable request.key = (.ok none, cache) := by rw [fresh?, hget]
    rw [lookup, hfresh]
    simp only [get?_search hget, true_and, reduceCtorEq, false_and, or_false]
  | some found =>
    rw [Option.some.injEq]
    cases hprobe : Search.probe readable found with
    | error e =>
      have hfresh : cache.fresh? readable request.key = (.error e, cache) := by
        rw [fresh?, hget]
        simp only [hprobe]
      rw [lookup, hfresh]
      simp only [hget, Option.some.injEq, reduceCtorEq, false_and, false_or]
      refine (and_iff_left_of_imp ?_).symm
      rintro rfl
      simp [hprobe]
    | ok readableNow =>
      cases readableNow with
      | true =>
        have hfresh : cache.fresh? readable request.key = (.ok (some found), cache) := by
          rw [fresh?, hget]
          simp only [hprobe]
        rw [lookup, hfresh]
        simp only [hget, Option.some.injEq, Except.ok.injEq, reduceCtorEq, false_and, false_or]
        refine (and_iff_left_of_imp ?_).symm
        rintro rfl
        simp [hprobe]
      | false =>
        have hfresh : cache.fresh? readable request.key =
            (.ok none, cache.erase request.key) := by
          rw [fresh?, hget]
          simp only [hprobe]
        have herased : (cache.erase request.key).get? request.key = none := by
          rw [get?_erase, if_pos rfl]
        rw [lookup, hfresh]
        simp only [get?_search herased, true_and]
        refine (or_iff_left ?_).symm
        rintro ⟨rfl, hnot⟩
        exact hnot hprobe

/-! ## One entry for each key -/

/-- No key has two entries. -/
def Distinct (cache : SearchCache) : Prop := (cache.entries.map Prod.fst).Nodup

theorem Distinct.erase (h : cache.Distinct) (key : String) : (cache.erase key).Distinct :=
  h.sublist (List.filter_sublist.map Prod.fst)

theorem Distinct.put (h : cache.Distinct) (key path : String) : (cache.put key path).Distinct := by
  refine List.nodup_cons.mpr ⟨?_, h.erase key⟩
  intro hmem
  obtain ⟨entry, hentry, hkey⟩ := List.mem_map.mp hmem
  exact (of_decide_eq_true (List.mem_filter.mp hentry).2) hkey

theorem Distinct.lookup (h : cache.Distinct) : (cache.lookup readable cwd request).2.Distinct := by
  have hfresh : (cache.fresh? readable request.key).2.Distinct := by
    rw [fresh?]
    split
    · exact h
    · split
      · exact h
      · exact h
      · exact h.erase _
  rw [SearchCache.lookup]
  split
  · next c hc =>
    rw [hc] at hfresh
    rw [search]
    split
    · exact hfresh.put _ _
    · exact hfresh
  · exact hfresh

theorem Distinct.mem_entries_iff (h : cache.Distinct) :
    (key, path) ∈ cache.entries ↔ cache.get? key = some path := by
  obtain ⟨entries⟩ := cache
  change (key, path) ∈ entries ↔ entries.lookup key = some path
  induction entries with
  | nil => exact iff_of_false List.not_mem_nil nofun
  | cons entry rest ih =>
    obtain ⟨k, p⟩ := entry
    obtain ⟨hk, hrest⟩ := List.nodup_cons.mp h
    rw [List.mem_cons, List.lookup_cons, ih hrest]
    cases hkey : key == k with
    | true =>
      obtain rfl := eq_of_beq hkey
      have hnot : ¬ rest.lookup key = some path := by
        rw [← ih hrest]
        exact fun hmem => hk (List.mem_map.mpr ⟨_, hmem, rfl⟩)
      simp only [hnot, or_false, Prod.mk.injEq, true_and, Option.some.injEq, eq_comm]
    | false =>
      have hne : key ≠ k := fun h => Bool.false_ne_true (hkey.symm.trans (beq_iff_eq.mpr h))
      simp only [Prod.mk.injEq, hne, false_and, false_or]

end SearchCache

/-! ## Entries after an event -/

namespace SearchState

variable {s : SearchState} {key path : String}

/-- A call looks its request up if the cache is enabled, and leaves the cache alone if not. -/
theorem cache_call (s : SearchState) (directory names : Value) :
    (∃ request, s.Asks request.key directory names request ∧
      (s.after (.call directory names)).cache = (s.cache.lookup s.readable s.cwd request).2) ∨
    (∀ key request, ¬ s.Asks key directory names request) ∧
      (s.after (.call directory names)).cache = s.cache := by
  change (∃ request, _ ∧ (findCached _ _ _ _ _ _ _).2.2 = _) ∨
    _ ∧ (findCached _ _ _ _ _ _ _).2.2 = _
  rw [findCached]
  cases hcheck : SearchRequest.check directory names with
  | error fault =>
    refine .inr ⟨?_, rfl⟩
    rintro key request ⟨hok, -⟩
    rw [hcheck] at hok
    cases hok
  | ok request =>
    dsimp only
    by_cases henabled : CacheEnabled s.env s.kept
    · obtain ⟨settings, hget, hon⟩ := henabled.get
      refine .inl ⟨request, ⟨hcheck, henabled, rfl⟩, ?_⟩
      rw [hget]
      simp only [hon, if_true]
    · refine .inr ⟨fun key request h => henabled h.2.1, ?_⟩
      cases hget : Settings.get s.kept s.env with
      | mk result kept =>
        cases result with
        | error e => rfl
        | ok settings =>
          have hoff : settings.findCacheEnabled = false := by
            rw [← Bool.not_eq_true]
            exact fun hon => henabled ⟨settings, by rw [hget], hon⟩
          simp only [hoff, Bool.false_eq_true, if_false]

/-- A call asks for one request, under its key. -/
theorem Asks.exists_iff {directory names : Value} {request : SearchRequest}
    {P : SearchRequest → Prop} (h : s.Asks request.key directory names request) :
    (∃ other, s.Asks key directory names other ∧ P other) ↔ key = request.key ∧ P request := by
  constructor
  · rintro ⟨other, ⟨hcheck, -, rfl⟩, hother⟩
    obtain rfl := Except.ok.inj (hcheck.symm.trans h.1)
    exact ⟨rfl, hother⟩
  · rintro ⟨rfl, hrequest⟩
    exact ⟨request, h, hrequest⟩

/-- An entry after an event was put there by it, or was there and has not been dropped. -/
theorem get?_after (s : SearchState) (event : SearchEvent) (key path : String) :
    (s.after event).cache.get? key = some path ↔
      s.Stores key path event ∨ (s.cache.get? key = some path ∧ ¬ s.Drops key path event) := by
  cases event with
  | call directory names =>
    rcases cache_call s directory names with ⟨request, hasks, hcache⟩ | ⟨hnone, hcache⟩
    · rw [hcache, Stores, Drops, hasks.exists_iff, hasks.exists_iff]
      by_cases hkey : key = request.key
      · subst hkey
        simp only [SearchCache.get?_lookup, true_and]
      · simp only [SearchCache.get?_lookup_of_ne hkey, hkey, false_and, false_or, not_false_iff,
          and_true]
    · have hasked {P : SearchRequest → Prop} :
          ¬ ∃ request, s.Asks key directory names request ∧ P request :=
        fun ⟨request, hasks, _⟩ => hnone key request hasks
      rw [hcache, Stores, Drops]
      simp only [hasked, false_or, not_false_iff, and_true]
  | files readable => simp [after, Stores, Drops]
  | move cwd => simp [after, Stores, Drops]
  | environment env => simp [after, Stores, Drops]
  | forgetSettings => simp [after, Stores, Drops]
  | invalidate other =>
    change (s.cache.erase other).get? key = some path ↔
      False ∨ (s.cache.get? key = some path ∧ ¬ other = key)
    rw [SearchCache.get?_erase, false_or]
    by_cases hkey : key = other
    · rw [if_pos hkey]
      exact iff_of_false nofun fun h => h.2 hkey.symm
    · rw [if_neg hkey]
      exact (and_iff_left fun h => hkey h.symm).symm
  | clear => simp [after, Stores, Drops, SearchCache.get?]

theorem distinct_after (h : s.cache.Distinct) (event : SearchEvent) :
    (s.after event).cache.Distinct := by
  cases event with
  | call directory names =>
    rcases cache_call s directory names with ⟨request, -, hcache⟩ | ⟨-, hcache⟩
    · rw [hcache]
      exact h.lookup
    · rwa [hcache]
  | files readable => exact h
  | move cwd => exact h
  | environment env => exact h
  | forgetSettings => exact h
  | invalidate key => exact h.erase key
  | clear => exact List.nodup_nil

/-! ## Entries after a run -/

/-- An event of a run put the entry there, and none after it took it away. -/
def Explains (s : SearchState) (key path : String) (events : List SearchEvent) : Prop :=
  ∃ before event later, events = before ++ event :: later ∧
    (s.run before).Stores key path event ∧ ((s.run before).after event).Keeps key path later

theorem explains_cons_iff {event : SearchEvent} {rest : List SearchEvent} :
    s.Explains key path (event :: rest) ↔
      (s.Stores key path event ∧ (s.after event).Keeps key path rest) ∨
        (s.after event).Explains key path rest := by
  constructor
  · rintro ⟨before, stored, later, heq, hstores, hkeeps⟩
    cases before with
    | nil =>
      obtain ⟨rfl, rfl⟩ := List.cons.inj heq
      exact .inl ⟨hstores, hkeeps⟩
    | cons first before =>
      obtain ⟨rfl, rfl⟩ := List.cons.inj heq
      exact .inr ⟨before, stored, later, rfl, hstores, hkeeps⟩
  · rintro (⟨hstores, hkeeps⟩ | ⟨before, stored, later, rfl, hstores, hkeeps⟩)
    · exact ⟨[], event, rest, rfl, hstores, hkeeps⟩
    · exact ⟨event :: before, stored, later, rfl, hstores, hkeeps⟩

/-- An entry after a run is explained by it, or was there before and has been kept. -/
theorem get?_run (s : SearchState) (events : List SearchEvent) (key path : String) :
    (s.run events).cache.get? key = some path ↔
      s.Explains key path events ∨
        (s.cache.get? key = some path ∧ s.Keeps key path events) := by
  induction events generalizing s with
  | nil =>
    have hnone : ¬ s.Explains key path [] := by
      rintro ⟨before, event, later, heq, -⟩
      exact List.append_ne_nil_of_right_ne_nil before (List.cons_ne_nil event later) heq.symm
    rw [or_iff_right hnone, Keeps, and_true]
    rfl
  | cons event rest ih =>
    change ((s.after event).run rest).cache.get? key = some path ↔ _
    rw [ih, get?_after, explains_cons_iff, Keeps]
    tauto

theorem distinct_run (h : s.cache.Distinct) (events : List SearchEvent) :
    (s.run events).cache.Distinct := by
  induction events generalizing s with
  | nil => exact h
  | cons event rest ih => exact ih (distinct_after h event)

/-! ## Answers -/

theorem probe_eq_true {readable : String → Bool} (h : Search.probe readable path = .ok true) :
    readable path = true := by
  rw [Search.probe] at h
  split at h
  · cases h
  · exact Except.ok.inj h

theorem lookup_readable {readable : String → Bool} {cwd : Path} {cache : SearchCache}
    {request : SearchRequest}
    (h : (cache.lookup readable cwd request).1 = .ok (some path)) :
    Search.probe readable path = .ok true := by
  have hrun {c : SearchCache} (h : (c.search readable cwd request).1 = .ok (some path)) :
      Search.probe readable path = .ok true := by
    rw [SearchCache.search] at h
    split at h
    · next hrun =>
      obtain rfl := Option.some.inj (Except.ok.inj h)
      exact probe_of_first? hrun
    · exact probe_of_first? h
  rw [SearchCache.lookup] at h
  split at h
  · exact hrun h
  · rw [SearchCache.fresh?] at h
    split at h
    · cases h
    · split at h
      · cases h
      · next hprobe =>
        obtain rfl := Option.some.inj (Except.ok.inj h)
        exact hprobe
      · cases h

theorem ofProbe_eq_ok {r : Except NullInPath (Option String)} {o : Option String}
    (h : ofProbe r = .ok o) : r = .ok o := by
  cases r with
  | error e => cases h
  | ok found => rw [Except.ok.inj h]

/-- Whatever the cache holds, a path is readable when a call returns it. -/
theorem answer_readable {directory names : Value}
    (h : s.answer directory names = .ok (some path)) : s.readable path = true := by
  rw [answer, findCached] at h
  split at h
  · cases h
  · split at h
    · cases h
    · split at h
      · exact probe_eq_true (lookup_readable (ofProbe_eq_ok h))
      · exact probe_eq_true (probe_of_first? (ofProbe_eq_ok h))

end SearchState

/-! ## Main statement -/

/-- From an empty cache, whatever happens, an entry is there exactly if a call with the cache
enabled and of the same key searched and found the path in the files of that moment, and since then
the cache has not been cleared, the key not invalidated, and the path not found to be unreadable by
a call of the key. A path that a call returns is readable at that moment. -/
theorem entries_explained {start : SearchState} (hempty : start.cache = {})
    (events : List SearchEvent) :
    (∀ key path, (key, path) ∈ (start.run events).cache.entries ↔
      ∃ before event later, events = before ++ event :: later ∧
        (start.run before).Stores key path event ∧
        ((start.run before).after event).Keeps key path later) ∧
    ∀ directory names path, (start.run events).answer directory names = .ok (some path) →
      (start.run events).readable path = true := by
  have hstart : start.cache.Distinct := by
    rw [hempty]
    exact List.nodup_nil
  have hdistinct := SearchState.distinct_run hstart events
  refine ⟨fun key path => ?_, fun directory names path => SearchState.answer_readable⟩
  have hnone : ¬ start.cache.get? key = some path := by
    rw [hempty]
    exact nofun
  rw [hdistinct.mem_entries_iff, SearchState.get?_run]
  exact or_iff_left fun h => hnone h.1

/-- A file is found, goes, and is found again in the directory above; then the settings disable the
cache. -/
theorem entries_explained_moved :
    let readable := fun path => path == "/a/b/lint" || path == "/a/lint"
    let start : SearchState := ⟨readable, ⟨.slash, []⟩, [], none, {}⟩
    let call : SearchEvent := .call (.text "/a/b") (.text "lint")
    let events := [call, .files fun path => path == "/a/lint", call,
      .environment [("LINTERKIT_FIND_CACHE", "off")], .forgetSettings]
    (start.run [call]).cache.entries = [("/a/b:lint", "/a/b/lint")] ∧
      (start.run events).cache.entries = [("/a/b:lint", "/a/lint")] ∧
      (∃ before event later, events = before ++ event :: later ∧
        (start.run before).Stores "/a/b:lint" "/a/lint" event ∧
        ((start.run before).after event).Keeps "/a/b:lint" "/a/lint" later) ∧
      (start.run events).answer (.text "/a/b") (.text "lint") = .ok (some "/a/lint") ∧
      (start.run events).readable "/a/lint" = true := by
  intro readable start call events
  have hentries : (start.run events).cache.entries = [("/a/b:lint", "/a/lint")] := by
    decide +kernel
  have hmem : ("/a/b:lint", "/a/lint") ∈ (start.run events).cache.entries := by
    rw [hentries]
    exact List.mem_cons_self ..
  have hanswer : (start.run events).answer (.text "/a/b") (.text "lint") =
      .ok (some "/a/lint") := by decide +kernel
  have hempty : start.cache = {} := rfl
  obtain ⟨hiff, hreadable⟩ := entries_explained hempty events
  exact ⟨by decide +kernel, hentries, (hiff _ _).mp hmem, hanswer, hreadable _ _ _ hanswer⟩

end Linting
