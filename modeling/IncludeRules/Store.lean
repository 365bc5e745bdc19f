import IncludeRules.Path.Normal
import IncludeRules.Script.FileSystem

/-! Files kept in memory. Directories are implied by the files below them. -/

namespace IncludeRules

/-- Files by location, and the number of writes so far. What `insert` and `write` make of the empty
store keeps each location once. -/
structure Store where
  files : List (Location × Octets)
  writes : Nat

namespace Store

def empty : Store :=
  ⟨[], 0⟩

def put (l : Location) (contents : Octets) : List (Location × Octets) → List (Location × Octets)
  | [] => [(l, contents)]
  | (k, old) :: rest => if k = l then (k, contents) :: rest else (k, old) :: put l contents rest

/-- Adds or replaces a file. -/
def insert (s : Store) (path : Path) (contents : Octets) : Store :=
  { s with files := put path.location contents s.files }

def octets? (s : Store) (path : Path) : Option Octets :=
  s.files.lookup path.location

/-- The locations of all files. -/
def locations (s : Store) : List Location :=
  s.files.map (·.1)

/-- Something exists where a file is at or below it; the empty path always does. -/
def present (s : Store) (path : Path) : Bool :=
  path.location.isEmpty || s.locations.any path.location.isPrefixOf

def isDirectory (s : Store) (path : Path) : Bool :=
  path.location.isEmpty ||
    s.locations.any fun l => l != path.location && path.location.isPrefixOf l

/-- The name of an entry, when it is a text. -/
def entryName? (c : Component) : Option String :=
  match c with
  | .name n => (Octets.strict n).toOption
  | .root => some "/"
  | .here => some "."
  | .parent => some ".."

/-- The names right below a directory, ascending, each once. -/
def entries (s : Store) (path : Path) : List String :=
  let below := s.locations.filterMap fun l => path.location.isPrefixOf? l
  let names := below.filterMap fun l => l.head?.bind entryName?
  (names.mergeSort fun a b => decide (a ≤ b)).eraseReps

/-- Adds or replaces a file and counts the write. -/
def write (s : Store) (path : Path) (contents : Octets) : Store :=
  { s.insert path contents with writes := s.writes + 1 }

def read (s : Store) (path : Path) : Except String Octets :=
  match s.octets? path with
  | some contents => .ok contents
  | none => .error (path.display ++ ": no such file")

def fileSystem : FileSystem (StateM Store) where
  answer
    | .readText p => fun s =>
      let text := do
        let contents ← s.read p
        (Octets.strict contents).mapError Octets.Malformed.message
      (.ok text, s)
    | .read p => fun s => (.ok (s.read p), s)
    | .write p text => fun s => (.ok (.ok ()), s.write p (.ofString text))
    | .present p => fun s => (.ok (s.present p), s)
    | .isDirectory p => fun s => (.ok (s.isDirectory p), s)
    | .entries p => fun s =>
      if s.isDirectory p then (.ok (.ok (s.entries p)), s)
      else (.ok (.error (p.display ++ ": not a directory")), s)

end Store

end IncludeRules
