import IncludeRules.Octets

/-! Paths: the spelling as octets and the components that it names. -/

namespace IncludeRules

/-- A path is what was written; spellings of one file may differ. -/
structure Path where
  octets : Octets
  deriving DecidableEq

inductive Component where
  | root
  | here
  | parent
  | name (octets : Octets)
  deriving DecidableEq

namespace Path

def slash : UInt8 := 0x2F

def dot : UInt8 := 0x2E

def ofString (s : String) : Path :=
  ⟨Octets.ofString s⟩

/-- The text that messages show for a path. -/
def display (p : Path) : String :=
  Octets.lenient p.octets

def isRooted (p : Path) : Bool :=
  p.octets.head? == some slash

/-- Empty pieces and dots between slashes name nothing. -/
def component? (piece : Octets) : Option Component :=
  if piece = [] ∨ piece = [dot] then none
  else if piece = [dot, dot] then some .parent
  else some (.name piece)

/-- A dot counts only at the very start. -/
def start (p : Path) (pieces : List Octets) : List Component :=
  if p.isRooted then [.root] else if pieces.head? = some [dot] then [.here] else []

def components (p : Path) : List Component :=
  let pieces := p.octets.splitOnP (· == slash)
  p.start pieces ++ pieces.filterMap component?

/-- The path `name` as seen from the directory `dir`: a rooted path stays itself. -/
def join (dir name : Path) : Path :=
  if name.isRooted then name
  else if dir.octets = [] ∨ dir.octets.getLast? = some slash then ⟨dir.octets ++ name.octets⟩
  else ⟨dir.octets ++ slash :: name.octets⟩

/-- The last component, when it is a name. -/
def fileName? (p : Path) : Option Octets :=
  match p.components.getLast? with
  | some (.name n) => some n
  | _ => none

/-- A file name without its last extension; a single dot at its start begins no extension. -/
def stemOf (name : Octets) : Octets :=
  let extension := (name.reverse.takeWhile (· != dot)).reverse
  let kept := name.take (name.length - extension.length - 1)
  if extension.length = name.length ∨ kept = [] then name else kept

def stem? (p : Path) : Option Octets :=
  p.fileName?.map stemOf

/-- The components of the directory that holds the path; a root and the empty path are held by
none. -/
def parent? (p : Path) : Option (List Component) :=
  match p.components.getLast? with
  | none | some .root => none
  | some _ => some p.components.dropLast

end Path

end IncludeRules
