import Linting.Proofs.Lookup
import Linting.SearchCache

/-! When searches through a cache answer what plain searches answer. While the files and the working
directory stay as they are, an entry stays true of the request that made it. So a run of searches
differs from plain ones exactly if two requests of it share a key and do not find the same; names
without commas and colons rule this out. -/

namespace Linting
set_option autoImplicit false

/-! ## Entries -/

namespace SearchCache
variable {cache : SearchCache}

theorem get?_put (cache : SearchCache) (key path other : String) :
    (cache.put key path).get? other = if other = key then some path else cache.get? other :=
  lookup_put key other path cache.entries

end SearchCache

/-! ## What a search finds -/

theorem probe_of_first? {readable : String → Bool} {paths : List String} {path : String}
    (h : Search.first? readable paths = .ok (some path)) :
    Search.probe readable path = .ok true := by
  induction paths with
  | nil => cases h
  | cons first rest ih =>
    rw [Search.first?] at h
    split at h
    · cases h
    · rename_i hprobe
      cases h
      exact hprobe
    · exact ih h

theorem ofProbe_inj {α : Type} {r s : Except NullInPath α} :
    ofProbe r = ofProbe s ↔ r = s := by
  constructor
  · intro h
    cases r <;> cases s <;> cases h <;> rfl
  · rintro rfl
    rfl

/-! ## Runs of searches -/

section
variable (readable : String → Bool) (cwd : Path) (env : Environment)

abbrev SearchCall := Value × Value

def SearchCall.request? (call : SearchCall) : Option SearchRequest :=
  (SearchRequest.check call.1 call.2).toOption

/-- The answers to calls made one after the other through one cache. -/
def cachedAnswers (kept : Settings.Kept) (cache : SearchCache) :
    List SearchCall → List (Except SearchError (Option String))
  | [] => []
  | call :: rest =>
    let (answer, kept, cache) := findCached readable cwd env kept cache call.1 call.2
    answer :: cachedAnswers kept cache rest

def plainAnswers (calls : List SearchCall) : List (Except SearchError (Option String)) :=
  calls.map fun call => find readable cwd call.1 call.2

/-- What the first request finds under a key, the second one finds too. -/
def Agree (first second : SearchCall) : Prop :=
  ∀ r ∈ first.request?, ∀ s ∈ second.request?, r.key = s.key →
    ∀ path, r.run readable cwd = .ok (some path) → s.run readable cwd = .ok (some path)

/-- The cache holds what the call finds, if it holds anything for it. -/
def Fits (cache : SearchCache) (call : SearchCall) : Prop :=
  ∀ r ∈ call.request?, ∀ path, cache.get? r.key = some path →
    r.run readable cwd = .ok (some path)

/-- The entries of the cache are true of the calls, and the calls agree. -/
def Consistent (cache : SearchCache) (calls : List SearchCall) : Prop :=
  (∀ call ∈ calls, Fits readable cwd cache call) ∧ calls.Pairwise (Agree readable cwd)

/-- No entry of the cache is stale. -/
def Fresh (cache : SearchCache) : Prop :=
  ∀ key path, cache.get? key = some path → Search.probe readable path = .ok true

def CacheEnabled (kept : Settings.Kept) : Prop :=
  ∃ settings, (Settings.get kept env).1 = .ok settings ∧ settings.findCacheEnabled = true

end

/-! ## Single calls -/

section
variable {readable : String → Bool} {cwd : Path} {env : Environment} {kept : Settings.Kept}
  {cache : SearchCache} {directory names : Value}

theorem request?_of_ok {request : SearchRequest}
    (h : SearchRequest.check directory names = .ok request) :
    SearchCall.request? (directory, names) = some request := by
  rw [SearchCall.request?, h]
  rfl

theorem CacheEnabled.get (h : CacheEnabled env kept) :
    ∃ settings, Settings.get kept env = (.ok settings, some settings) ∧
      settings.findCacheEnabled = true := by
  obtain ⟨settings, hget, henabled⟩ := h
  refine ⟨settings, ?_, henabled⟩
  unfold Settings.get at hget ⊢
  cases kept with
  | some kept =>
    obtain rfl := Except.ok.inj hget
    rfl
  | none =>
    cases hload : Settings.load env with
    | ok loaded =>
      rw [hload] at hget
      obtain rfl := Except.ok.inj hget
      rfl
    | error e =>
      rw [hload] at hget
      cases hget

/-- A call with an entry is answered from it, and the cache stays as it is. -/
theorem findCached_hit (cwd : Path) {request : SearchRequest} {path : String}
    (henabled : CacheEnabled env kept) (hfresh : Fresh readable cache)
    (hr : SearchRequest.check directory names = .ok request)
    (hget : cache.get? request.key = some path) :
    ∃ kept', findCached readable cwd env kept cache directory names =
      (.ok (some path), kept', cache) ∧ CacheEnabled env kept' := by
  obtain ⟨settings, hs, hon⟩ := henabled.get
  refine ⟨some settings, ?_, settings, rfl, hon⟩
  have hlookup : cache.lookup readable cwd request = (.ok (some path), cache) := by
    rw [SearchCache.lookup, SearchCache.fresh?, hget]
    simp only [hfresh _ _ hget]
  rw [findCached, hr, hs]
  simp only [hon, hlookup, if_true]
  rfl

/-- A call without an entry is answered by the search, and what was found is kept. -/
theorem findCached_miss (readable : String → Bool) (cwd : Path) {request : SearchRequest}
    (henabled : CacheEnabled env kept)
    (hr : SearchRequest.check directory names = .ok request)
    (hget : cache.get? request.key = none) :
    ∃ kept', findCached readable cwd env kept cache directory names =
        (ofProbe (request.run readable cwd), kept',
          match request.run readable cwd with
          | .ok (some path) => cache.put request.key path
          | _ => cache) ∧ CacheEnabled env kept' := by
  obtain ⟨settings, hs, hon⟩ := henabled.get
  refine ⟨some settings, ?_, settings, rfl, hon⟩
  rw [findCached, hr, hs]
  simp only [hon, if_true, SearchCache.lookup, SearchCache.fresh?, hget, SearchCache.search]
  split <;> rename_i hrun <;> simp [hrun]

theorem findCached_refused {fault : SearchFault}
    (hr : SearchRequest.check directory names = .error fault) :
    findCached readable cwd env kept cache directory names =
      (find readable cwd directory names, kept, cache) := by
  rw [findCached, find, hr]

theorem find_of_ok {request : SearchRequest}
    (hr : SearchRequest.check directory names = .ok request) :
    find readable cwd directory names = ofProbe (request.run readable cwd) := by
  rw [find, hr]

/-! ## Whole runs -/

theorem Fresh.put {request : SearchRequest} {path : String} (hfresh : Fresh readable cache)
    (hrun : request.run readable cwd = .ok (some path)) :
    Fresh readable (cache.put request.key path) := by
  intro key found hget
  rw [SearchCache.get?_put] at hget
  split at hget
  · obtain rfl := Option.some.inj hget
    exact probe_of_first? hrun
  · exact hfresh key found hget

/-- A new entry is true of the calls that the cache was true of and that agree with its request. -/
theorem fits_put_iff {request : SearchRequest} {path : String} {call : SearchCall}
    (hget : cache.get? request.key = none) :
    Fits readable cwd (cache.put request.key path) call ↔
      Fits readable cwd cache call ∧ ∀ s ∈ call.request?, request.key = s.key →
        s.run readable cwd = .ok (some path) := by
  constructor
  · intro h
    refine ⟨fun s hs found hfound => h s hs found ?_, fun s hs hkey => h s hs path ?_⟩
    · have hne : s.key ≠ request.key := by
        intro he
        rw [he, hget] at hfound
        cases hfound
      rw [SearchCache.get?_put, if_neg hne, hfound]
    · rw [SearchCache.get?_put, if_pos hkey.symm]
  · rintro ⟨hfits, hagree⟩ s hs found hfound
    rw [SearchCache.get?_put] at hfound
    split at hfound
    · rename_i hkey
      obtain rfl := Option.some.inj hfound
      exact hagree s hs hkey.symm
    · exact hfits s hs found hfound

theorem agree_iff {request : SearchRequest} {call other : SearchCall}
    (hr : call.request? = some request) :
    Agree readable cwd call other ↔ ∀ path, request.run readable cwd = .ok (some path) →
      ∀ s ∈ other.request?, request.key = s.key → s.run readable cwd = .ok (some path) := by
  constructor
  · intro h path hrun s hs hkey
    exact h request (by rw [hr]; rfl) s hs hkey path hrun
  · intro h r hmem s hs hkey path hrun
    obtain rfl := Option.some.inj (hr.symm.trans hmem)
    exact h path hrun s hs hkey

theorem fits_iff {request : SearchRequest} {call : SearchCall}
    (hr : call.request? = some request) :
    Fits readable cwd cache call ↔ ∀ path, cache.get? request.key = some path →
      request.run readable cwd = .ok (some path) := by
  constructor
  · intro h
    exact h request (by rw [hr]; rfl)
  · intro h r hmem
    obtain rfl := Option.some.inj (hr.symm.trans hmem)
    exact h

theorem consistent_cons_iff {call : SearchCall} {rest : List SearchCall} :
    Consistent readable cwd cache (call :: rest) ↔
      Fits readable cwd cache call ∧ (∀ other ∈ rest, Agree readable cwd call other) ∧
        Consistent readable cwd cache rest := by
  unfold Consistent
  rw [List.forall_mem_cons, List.pairwise_cons]
  constructor
  · intro h
    obtain ⟨⟨hfits, hrest⟩, hagree, hpair⟩ := h
    exact ⟨hfits, hagree, hrest, hpair⟩
  · intro h
    obtain ⟨hfits, hagree, hrest, hpair⟩ := h
    exact ⟨⟨hfits, hrest⟩, hagree, hpair⟩

theorem consistent_cons_of_refused {call : SearchCall} {rest : List SearchCall}
    (hr : call.request? = none) :
    Consistent readable cwd cache (call :: rest) ↔ Consistent readable cwd cache rest := by
  have hfits : Fits readable cwd cache call := by
    intro r hmem
    rw [hr] at hmem
    cases hmem
  have hagree : ∀ other ∈ rest, Agree readable cwd call other := by
    intro other _ r hmem
    rw [hr] at hmem
    cases hmem
  rw [consistent_cons_iff]
  exact ⟨fun h => h.2.2, fun h => ⟨hfits, hagree, h⟩⟩

/-- Where there is an entry it is to be true, and the later calls see the same entry. -/
theorem consistent_cons_of_entry {request : SearchRequest} {path : String} {call : SearchCall}
    {rest : List SearchCall} (hr : call.request? = some request)
    (hget : cache.get? request.key = some path) :
    Consistent readable cwd cache (call :: rest) ↔
      request.run readable cwd = .ok (some path) ∧ Consistent readable cwd cache rest := by
  rw [consistent_cons_iff, fits_iff hr]
  constructor
  · intro h
    obtain ⟨hfits, -, hrest⟩ := h
    exact ⟨hfits path hget, hrest⟩
  · intro h
    obtain ⟨hrun, hrest⟩ := h
    have hfound : ∀ found, cache.get? request.key = some found →
        request.run readable cwd = .ok (some found) := by
      intro found hfound
      rw [← Option.some.inj (hget.symm.trans hfound)]
      exact hrun
    refine ⟨hfound, ?_, hrest⟩
    intro other hother
    rw [agree_iff hr]
    intro found hrun' s hs hkey
    obtain rfl := Option.some.inj (Except.ok.inj (hrun.symm.trans hrun'))
    exact hrest.1 other hother s hs path (by rw [← hkey, hget])

/-- What a call without an entry finds is to be true of the later calls as an entry. -/
theorem consistent_cons_of_found {request : SearchRequest} {path : String} {call : SearchCall}
    {rest : List SearchCall} (hr : call.request? = some request)
    (hget : cache.get? request.key = none)
    (hrun : request.run readable cwd = .ok (some path)) :
    Consistent readable cwd cache (call :: rest) ↔
      Consistent readable cwd (cache.put request.key path) rest := by
  rw [consistent_cons_iff, fits_iff hr]
  simp only [Consistent, fits_put_iff hget, agree_iff hr, hrun, hget]
  constructor
  · intro h
    obtain ⟨-, hagree, hrest, hpair⟩ := h
    exact ⟨fun other hother => ⟨hrest other hother, hagree other hother path rfl⟩, hpair⟩
  · intro h
    obtain ⟨hrest, hpair⟩ := h
    refine ⟨fun _ hnone => (nomatch hnone), ?_, fun other hother => (hrest other hother).1, hpair⟩
    intro other hother found hfound
    obtain rfl := Option.some.inj (Except.ok.inj hfound)
    exact (hrest other hother).2

theorem consistent_cons_of_not_found {request : SearchRequest} {call : SearchCall}
    {rest : List SearchCall} (hr : call.request? = some request)
    (hget : cache.get? request.key = none)
    (hrun : ∀ path, request.run readable cwd ≠ .ok (some path)) :
    Consistent readable cwd cache (call :: rest) ↔ Consistent readable cwd cache rest := by
  have hfits : Fits readable cwd cache call := by
    rw [fits_iff hr, hget]
    intro path hnone
    cases hnone
  have hagree : ∀ other ∈ rest, Agree readable cwd call other := by
    intro other _
    rw [agree_iff hr]
    intro path hfound
    exact absurd hfound (hrun path)
  rw [consistent_cons_iff]
  exact ⟨fun h => h.2.2, fun h => ⟨hfits, hagree, h⟩⟩

/-- From a cache without stale entries, a run answers what plain searches answer exactly if the
calls are consistent with the cache. -/
theorem cachedAnswers_eq_iff (henabled : CacheEnabled env kept) (hfresh : Fresh readable cache)
    (calls : List SearchCall) :
    cachedAnswers readable cwd env kept cache calls = plainAnswers readable cwd calls ↔
      Consistent readable cwd cache calls := by
  induction calls generalizing kept cache with
  | nil => simp [cachedAnswers, plainAnswers, Consistent]
  | cons call rest ih =>
    obtain ⟨directory, names⟩ := call
    rw [cachedAnswers, plainAnswers, List.map_cons, ← plainAnswers]
    cases hcheck : SearchRequest.check directory names with
    | error fault =>
      have hnone : SearchCall.request? (directory, names) = none := by
        rw [SearchCall.request?, hcheck]
        rfl
      rw [findCached_refused hcheck, consistent_cons_of_refused hnone]
      simp only [List.cons.injEq, true_and, ih henabled hfresh]
    | ok request =>
      have hrequest := request?_of_ok hcheck
      cases hget : cache.get? request.key with
      | some path =>
        obtain ⟨kept', hcall, henabled'⟩ := findCached_hit cwd henabled hfresh hcheck hget
        have hanswer : .ok (some path) = ofProbe (request.run readable cwd) ↔
            request.run readable cwd = .ok (some path) := by
          rw [eq_comm]
          exact ofProbe_inj (s := .ok (some path))
        rw [hcall, find_of_ok hcheck, consistent_cons_of_entry hrequest hget]
        simp only [List.cons.injEq, ih henabled' hfresh, hanswer]
      | none =>
        obtain ⟨kept', hcall, henabled'⟩ :=
          findCached_miss readable cwd henabled hcheck hget
        rw [hcall, find_of_ok hcheck]
        simp only [List.cons.injEq, true_and]
        split
        · rename_i path hrun
          rw [ih henabled' (hfresh.put hrun), consistent_cons_of_found hrequest hget hrun]
        · rename_i hrun
          rw [ih henabled' hfresh, consistent_cons_of_not_found hrequest hget hrun]

/-! ## Keys -/

theorem append_colon_inj {a b c d : List Char} (hb : ':' ∉ b) (hd : ':' ∉ d)
    (h : a ++ ':' :: b = c ++ ':' :: d) : a = c ∧ b = d := by
  rcases List.append_eq_append_iff.mp h with ⟨e, rfl, he⟩ | ⟨e, rfl, he⟩
  · cases e with
    | nil => exact ⟨(List.append_nil a).symm, (List.cons.inj he).2⟩
    | cons x e =>
      have hmem : ':' ∈ b := by
        rw [(List.cons.inj he).2]
        simp
      exact absurd hmem hb
  · cases e with
    | nil => exact ⟨List.append_nil c, (List.cons.inj he).2.symm⟩
    | cons x e =>
      have hmem : ':' ∈ d := by
        rw [(List.cons.inj he).2]
        simp
      exact absurd hmem hd

def SearchRequest.HasPlainNames (r : SearchRequest) : Prop :=
  r.names ≠ [] ∧ ∀ name ∈ r.names, ',' ∉ name.toList ∧ ':' ∉ name.toList

theorem SearchRequest.key_toList (r : SearchRequest) :
    r.key.toList =
      r.directory.toList ++ ':' :: [','].intercalate (r.names.map String.toList) := by
  rw [SearchRequest.key, SearchCache.key, String.toList_append, String.toList_append,
    String.toList_intercalate, List.append_assoc]
  rfl

theorem colon_notMem_intercalate {names : List (List Char)} (h : ∀ name ∈ names, ':' ∉ name) :
    ':' ∉ [','].intercalate names := by
  induction names with
  | nil => simp
  | cons name rest ih =>
    obtain ⟨hname, hrest⟩ := List.forall_mem_cons.mp h
    cases rest with
    | nil => simpa using hname
    | cons second others =>
      rw [List.intercalate_cons_cons, List.mem_append, List.mem_append]
      rintro ((hmem | hmem) | hmem)
      · exact hname hmem
      · simp at hmem
      · exact ih hrest hmem

theorem SearchRequest.HasPlainNames.colon_notMem {r : SearchRequest} (h : r.HasPlainNames) :
    ':' ∉ [','].intercalate (r.names.map String.toList) := by
  apply colon_notMem_intercalate
  intro chars hchars
  obtain ⟨name, hname, rfl⟩ := List.mem_map.mp hchars
  exact (h.2 name hname).2

theorem SearchRequest.key_inj {r s : SearchRequest} (hr : r.HasPlainNames) (hs : s.HasPlainNames)
    (h : r.key = s.key) : r = s := by
  have hkey := congrArg String.toList h
  rw [r.key_toList, s.key_toList] at hkey
  obtain ⟨hdirectory, hnames⟩ := append_colon_inj hr.colon_notMem hs.colon_notMem hkey
  have hsplit : ∀ q : SearchRequest, q.HasPlainNames →
      ([','].intercalate (q.names.map String.toList)).splitOn ',' = q.names.map String.toList := by
    intro q hq
    refine List.splitOn_intercalate ',' ?_ (by simpa using hq.1)
    intro l hl
    obtain ⟨name, hname, rfl⟩ := List.mem_map.mp hl
    exact (hq.2 name hname).1
  have hlists : r.names.map String.toList = s.names.map String.toList := by
    rw [← hsplit r hr, ← hsplit s hs, hnames]
  have hinj : Function.Injective String.toList := fun a b hab => String.toList_inj.mp hab
  cases r
  cases s
  simp only [SearchRequest.mk.injEq]
  exact ⟨String.toList_inj.mp hdirectory, List.map_injective_iff.mpr hinj hlists⟩

theorem request?_names_ne_nil {call : SearchCall} {r : SearchRequest}
    (h : call.request? = some r) : r.names ≠ [] := by
  obtain ⟨directory, names⟩ := call
  simp only [SearchCall.request?, SearchRequest.check] at h
  split at h
  · cases h
  · cases h
  · rename_i d ns hdirectory hnames
    obtain rfl := Option.some.inj h
    unfold SearchRequest.namesOf at hnames
    have hfilter := (Option.filter_eq_some_iff.mp hnames).2
    intro hnil
    simp only at hnil
    rw [hnil] at hfilter
    cases hfilter

end

/-! ## Main statement -/

/-- Calls made through a cache that starts empty answer what plain searches answer exactly if no
call finds something that another call of the same key after it does not find. Calls whose names
hold no comma and no colon are such calls. -/
theorem cachedAnswers_transparent_iff (readable : String → Bool) (cwd : Path) {env : Environment}
    {kept : Settings.Kept} (henabled : CacheEnabled env kept) (calls : List SearchCall) :
    (cachedAnswers readable cwd env kept {} calls = plainAnswers readable cwd calls ↔
      calls.Pairwise (Agree readable cwd)) ∧
    ((∀ call ∈ calls, ∀ r ∈ call.request?, ∀ name ∈ r.names,
        ',' ∉ name.toList ∧ ':' ∉ name.toList) →
      cachedAnswers readable cwd env kept {} calls = plainAnswers readable cwd calls) := by
  have hfresh : Fresh readable {} := fun _ _ h => (nomatch h)
  have hiff : cachedAnswers readable cwd env kept {} calls = plainAnswers readable cwd calls ↔
      calls.Pairwise (Agree readable cwd) := by
    rw [cachedAnswers_eq_iff henabled hfresh]
    exact and_iff_right fun _ _ _ _ _ h => (nomatch h)
  refine ⟨hiff, fun hplain => hiff.mpr ?_⟩
  refine List.pairwise_of_forall_mem_list ?_
  intro a ha b hb r hr s hs hkey path hrun
  have hra : r.HasPlainNames := ⟨request?_names_ne_nil hr, hplain a ha r hr⟩
  have hsb : s.HasPlainNames := ⟨request?_names_ne_nil hs, hplain b hb s hs⟩
  rwa [← SearchRequest.key_inj hra hsb hkey]

/-- A hit, a search that fails twice and one with a second name, all of plain names. -/
theorem cachedAnswers_transparent_config :
    let readable := fun path => path == "/work/lint.toml"
    let calls : List SearchCall := [(.text "/work/sub", .text "lint.toml"),
      (.text "/work/sub", .text "lint.toml"), (.text "/work", .text "tox.ini"),
      (.text "/work", .text "tox.ini"), (.text "/work", .list [.text "tox.ini", .text "lint.toml"])]
    CacheEnabled [] none ∧
      cachedAnswers readable ⟨.slash, []⟩ [] none {} calls =
        plainAnswers readable ⟨.slash, []⟩ calls ∧
      calls.Pairwise (Agree readable ⟨.slash, []⟩) := by
  intro readable calls
  have henabled : CacheEnabled [] none := ⟨{}, rfl, rfl⟩
  obtain ⟨hiff, hplain⟩ := cachedAnswers_transparent_iff readable ⟨.slash, []⟩ henabled calls
  have h := hplain (by decide +kernel)
  exact ⟨henabled, h, hiff.mp h⟩

/-- A name with a comma and two names with the same key: the cache answers the second search with
what the first one found. -/
theorem cachedAnswers_ne_plainAnswers_comma :
    let readable := fun path => path == "/work/b,c" || path == "/work/b"
    let calls : List SearchCall := [(.text "/work", .text "b,c"),
      (.text "/work", .list [.text "b", .text "c"])]
    CacheEnabled [] none ∧
      (cachedAnswers readable ⟨.slash, []⟩ [] none {} calls).map Except.toOption =
        [some (some "/work/b,c"), some (some "/work/b,c")] ∧
      (plainAnswers readable ⟨.slash, []⟩ calls).map Except.toOption =
        [some (some "/work/b,c"), some (some "/work/b")] ∧
      cachedAnswers readable ⟨.slash, []⟩ [] none {} calls ≠
        plainAnswers readable ⟨.slash, []⟩ calls := by
  intro readable calls
  have hcached : (cachedAnswers readable ⟨.slash, []⟩ [] none {} calls).map Except.toOption =
      [some (some "/work/b,c"), some (some "/work/b,c")] := by decide +kernel
  have hplain : (plainAnswers readable ⟨.slash, []⟩ calls).map Except.toOption =
      [some (some "/work/b,c"), some (some "/work/b")] := by decide +kernel
  refine ⟨⟨{}, rfl, rfl⟩, hcached, hplain, ?_⟩
  intro h
  rw [h, hplain] at hcached
  exact absurd hcached (by decide)

end Linting
