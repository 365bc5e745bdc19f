import IncludeRules.Path.Normal

/-! Disks: a tree of directories and files, and the ways that paths take through it. -/

namespace IncludeRules

/-- The names from the root of the tree down to a place. -/
abbrev Place := List Octets

/-- What stands at a place. -/
inductive Entry where
  | directory
  | file (contents : Octets)
  deriving DecidableEq

/-- The root always is a directory; every other place is listed with what stands there, below places
that are directories. `written` names the files that were written so far. -/
structure Disk where
  workplace : Place
  entries : List (Place × Entry)
  written : List Place

namespace Disk

/-- Why a disk refuses a call. -/
inductive Refusal where
  | missing
  | taken
  | notDirectory
  | isDirectory
  | nameTooLong
  | nulOctet
  | notText
  deriving DecidableEq

def Refusal.message : Refusal → String
  | .missing => "No such file or directory (os error 2)"
  | .taken => "File exists (os error 17)"
  | .notDirectory => "Not a directory (os error 20)"
  | .isDirectory => "Is a directory (os error 21)"
  | .nameTooLong => "File name too long (os error 36)"
  | .nulOctet => "file name contained an unexpected NUL byte"
  | .notText => "stream did not contain valid UTF-8"

/-- The most octets in a name. -/
def longestName : Nat :=
  255

/-- The most octets in a path. -/
def longestPath : Nat :=
  4095

/-- The directories from the root down to a place, the place included. -/
def upTo (place : Place) : List Place :=
  (List.range (place.length + 1)).map place.take

/-- A disk with nothing but a directory to work in. -/
def empty (workplace : Place) : Disk where
  workplace := workplace
  entries := (upTo workplace).tail.map (·, .directory)
  written := []

def entry? (d : Disk) (place : Place) : Option Entry :=
  if place = [] then some .directory else d.entries.lookup place

def isDirectoryAt (d : Disk) (place : Place) : Bool :=
  d.entry? place == some .directory

/-- Puts an entry at a place. -/
def put (place : Place) (e : Entry) : List (Place × Entry) → List (Place × Entry)
  | [] => [(place, e)]
  | (p, old) :: rest => if p = place then (place, e) :: rest else (p, old) :: put place e rest

/-! ### Ways -/

/-- The names of a path in order, dots included. -/
def pieces (p : Path) : List Octets :=
  (p.octets.splitOnP (· == Path.slash)).filter (· ≠ [])

/-- A slash at its end makes a path ask for a directory. -/
def endsWithSlash (p : Path) : Bool :=
  p.octets.getLast? == some Path.slash

/-- Where a path starts. -/
def start (d : Disk) (p : Path) : Place :=
  if p.isRooted then [] else d.workplace

/-- Paths that no disk follows. -/
def check (p : Path) : Except Refusal Unit :=
  if p.octets.contains 0 then .error .nulOctet
  else if p.octets = [] then .error .missing
  else if longestPath < p.octets.length then .error .nameTooLong
  else .ok ()

/-- One step on a way. Whatever is next, it is looked for in a directory; the parent of the root is
the root. -/
def advance (d : Disk) (place : Place) (piece : Octets) : Except Refusal Place :=
  if !d.isDirectoryAt place then .error .notDirectory
  else if piece = [Path.dot] then .ok place
  else if piece = [Path.dot, Path.dot] then .ok place.dropLast
  else if longestName < piece.length then .error .nameTooLong
  else if (d.entry? (place ++ [piece])).isSome then .ok (place ++ [piece])
  else .error .missing

/-- The place that a path leads to. -/
def find (d : Disk) (p : Path) : Except Refusal Place := do
  check p
  let place ← (pieces p).foldlM d.advance (d.start p)
  if endsWithSlash p && !d.isDirectoryAt place then .error .notDirectory
  return place

/-- The directory in which a path asks for its last name, and that name; none if the path ends with
dots or is the root, which name a directory that is there already. -/
def approach (d : Disk) (p : Path) : Except Refusal (Place × Option Octets) := do
  check p
  let place ← (pieces p).dropLast.foldlM d.advance (d.start p)
  match (pieces p).getLast? with
  | none => return (place, none)
  | some last =>
    if !d.isDirectoryAt place then .error .notDirectory
    else if last = [Path.dot] ∨ last = [Path.dot, Path.dot] then return (place, none)
    else return (place, some last)

/-! ### Calls -/

def present (d : Disk) (p : Path) : Bool :=
  (d.find p).toOption.isSome

def isDirectory (d : Disk) (p : Path) : Bool :=
  (d.find p).toOption.any d.isDirectoryAt

def read (d : Disk) (p : Path) : Except Refusal Octets := do
  match d.entry? (← d.find p) with
  | some (.file contents) => return contents
  | some .directory => .error .isDirectory
  | none => .error .missing

def readText (d : Disk) (p : Path) : Except Refusal String := do
  match Octets.strict (← d.read p) with
  | .ok text => return text
  | .error _ => .error .notText

/-- The names right below a place, ascending; names that are no texts are left out. -/
def namesBelow (d : Disk) (place : Place) : List String :=
  let below := d.entries.filterMap fun (p, _) =>
    match place.isPrefixOf? p with
    | some [name] => (Octets.strict name).toOption
    | _ => none
  below.mergeSort fun a b => decide (a ≤ b)

/-- The names in a directory. -/
def names? (d : Disk) (p : Path) : Option (List String) := do
  let place ← (d.find p).toOption
  if d.isDirectoryAt place then d.namesBelow place else none

/-- Makes one directory. -/
def makeDirectory (d : Disk) (p : Path) : Except Refusal Disk := do
  match ← d.approach p with
  | (_, none) => .error .taken
  | (place, some name) =>
    if longestName < name.length then .error .nameTooLong
    else if (d.entry? (place ++ [name])).isSome then .error .taken
    else return { d with entries := put (place ++ [name]) .directory d.entries }

/-- Writes a file in a directory that is there already. A path with a slash at its end names a
directory, whether there is one or not. -/
def writeInto (d : Disk) (p : Path) (contents : Octets) : Except Refusal Disk := do
  match ← d.approach p with
  | (_, none) => .error .isDirectory
  | (place, some name) =>
    let place := place ++ [name]
    if endsWithSlash p ∨ d.isDirectoryAt place then .error .isDirectory
    else if longestName < name.length then .error .nameTooLong
    else return { d with
      entries := put place (.file contents) d.entries
      written := d.written ++ [place] }

/-- Makes the directory with the given components, last one first, and those that hold it. What is
made stays, even if a later step is refused. -/
def makeDirectories (d : Disk) : List Component → Except Refusal Unit × Disk
  | [] => (.ok (), d)
  | c :: above =>
    let p := Path.ofLocation (c :: above).reverse
    match d.makeDirectory p with
    | .ok d => (.ok (), d)
    | .error .missing =>
      match d.makeDirectories above with
      | (.error e, d) => (.error e, d)
      | (.ok (), d) =>
        match d.makeDirectory p with
        | .ok d => (.ok (), d)
        | .error e => (if d.isDirectory p then .ok () else .error e, d)
    | .error e => (if d.isDirectory p then .ok () else .error e, d)

/-- Writes a file; the directories that hold it are made first. -/
def write (d : Disk) (p : Path) (contents : Octets) : Except Refusal Unit × Disk :=
  match d.makeDirectories (p.parent?.getD []).reverse with
  | (.error e, d) => (.error e, d)
  | (.ok (), d) =>
    match d.writeInto p contents with
    | .ok d => (.ok (), d)
    | .error e => (.error e, d)

/-- Takes away what a path leads to and all below it. -/
def remove (d : Disk) (p : Path) : Disk :=
  match d.find p with
  | .ok place => { d with entries := d.entries.filter fun (q, _) => !place.isPrefixOf q }
  | .error _ => d

end Disk

end IncludeRules
