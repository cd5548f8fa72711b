import Linting.Search
import Linting.Settings

/-! A cache of what searches found. An entry is used for as long as its path is readable; one that
is not is dropped and searched for anew. Searches that find nothing leave no entry. -/

namespace Linting
set_option autoImplicit false

/-- Pairs of a key and the path found for it. -/
structure SearchCache where
  entries : List (String × String) := []
deriving DecidableEq, Repr

namespace SearchCache

/-! ## Entries -/

def get? (cache : SearchCache) (key : String) : Option String := cache.entries.lookup key

def erase (cache : SearchCache) (key : String) : SearchCache :=
  ⟨cache.entries.filter (·.1 ≠ key)⟩

def put (cache : SearchCache) (key path : String) : SearchCache :=
  ⟨(key, path) :: (cache.erase key).entries⟩

def size (cache : SearchCache) : Nat := cache.entries.length

def contains (cache : SearchCache) (key : String) : Bool := (cache.get? key).isSome

/-- Whether a loose value is a key of the cache. -/
def containsValue (cache : SearchCache) (key : Value) : Except Unhashable Bool :=
  match key.unhashable? with
  | some part => .error part
  | none => .ok (key.text?.any cache.contains)

/-- The key of a search: the directory, a colon, and the names with commas between them. -/
def key (directory : String) (names : List String) : String :=
  directory ++ ":" ++ ",".intercalate names

end SearchCache

def SearchRequest.key (request : SearchRequest) : String :=
  SearchCache.key request.directory request.names

/-! ## Searches through the cache -/

namespace SearchCache

/-- The entry of a key if its path is readable, and the cache without it if not. -/
def fresh? (readable : String → Bool) (cache : SearchCache) (key : String) :
    Except NullInPath (Option String) × SearchCache :=
  match cache.get? key with
  | none => (.ok none, cache)
  | some path =>
    match Search.probe readable path with
    | .error e => (.error e, cache)
    | .ok true => (.ok (some path), cache)
    | .ok false => (.ok none, cache.erase key)

/-- The result of a search, kept if there is one. -/
def search (readable : String → Bool) (cwd : Path) (cache : SearchCache)
    (request : SearchRequest) : Except NullInPath (Option String) × SearchCache :=
  match request.run readable cwd with
  | .ok (some path) => (.ok (some path), cache.put request.key path)
  | result => (result, cache)

/-- Looks a search up, and runs it if there is no entry that can be used. -/
def lookup (readable : String → Bool) (cwd : Path) (cache : SearchCache)
    (request : SearchRequest) : Except NullInPath (Option String) × SearchCache :=
  match cache.fresh? readable request.key with
  | (.ok none, cache) => cache.search readable cwd request
  | done => done

end SearchCache

/-! ## Searches on request -/

inductive SearchError where
  | argument (fault : SearchFault)
  | settings (error : ConfigError)
  | nullInPath
deriving DecidableEq, Repr

def SearchError.message : SearchError → String
  | argument fault => fault.message
  | settings error => error.message
  | nullInPath => Path.nullMessage

def ofProbe {α : Type} (result : Except NullInPath α) : Except SearchError α :=
  result.mapError fun _ => .nullInPath

/-- Finds a file. -/
def find (readable : String → Bool) (cwd : Path) (directory names : Value) :
    Except SearchError (Option String) :=
  match SearchRequest.check directory names with
  | .error fault => .error (.argument fault)
  | .ok request => ofProbe (request.run readable cwd)

/-- Finds a file through a cache, unless the settings disable it. The arguments are checked before
the settings are read, and the settings before anything is probed. -/
def findCached (readable : String → Bool) (cwd : Path) (env : Environment) (kept : Settings.Kept)
    (cache : SearchCache) (directory names : Value) :
    Except SearchError (Option String) × Settings.Kept × SearchCache :=
  match SearchRequest.check directory names with
  | .error fault => (.error (.argument fault), kept, cache)
  | .ok request =>
    match Settings.get kept env with
    | (.error e, kept) => (.error (.settings e), kept, cache)
    | (.ok settings, kept) =>
      if settings.findCacheEnabled then
        let (result, cache) := cache.lookup readable cwd request
        (ofProbe result, kept, cache)
      else (ofProbe (request.run readable cwd), kept, cache)

end Linting
