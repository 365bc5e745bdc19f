import IncludeRules.Json.Basic
import IncludeRules.Yaml.Node
import IncludeRules.Yaml.Plain

/-! Reading typed values out of YAML documents. -/

namespace IncludeRules.Yaml

/-- Where a reader stands: the way to the value, innermost step first, and how many more lists and
dictionaries may be entered. -/
structure Place where
  document : Document
  path : List Step
  depth : Nat

/-- The state counts how many aliases were followed. -/
abbrev Reading := StateT Nat (Except Fault)

abbrev Reader (α : Type) := Place → Node → Reading α

namespace Reader

variable {α : Type}

def refuse (p : Place) (problem : Problem) : Reading α :=
  throw (.at p.path.reverse problem)

def Place.step (p : Place) (s : Step) : Place :=
  { p with path := s :: p.path }

/-- Lists and dictionaries nest at most this deeply, which ends values that contain themselves. -/
def deepest : Nat :=
  128

/-- Follows an alias. The number of aliases is bounded by the size of the document, so that a short
text cannot unfold into a huge value. -/
def follow (p : Place) (number : Nat) : Reading Node := do
  set ((← get) + 1)
  if p.document.size * 100 < (← get) then refuse p .repetition
  else return (p.document.anchored? number).getD .cut

/-- The value with aliases at its top replaced by what they stand for. -/
def resolved (p : Place) : Nat → Node → Reading Node
  | 0, _ => refuse p .repetition
  | fuel + 1, .reference number => do resolved p fuel (← follow p number)
  | _, n => return n

def resolve (p : Place) (n : Node) : Reading Node :=
  resolved p (p.document.size * 100 + 2) n

/-- Refuses a value of a wrong kind. -/
def mistyped (p : Place) (expected : String) : Node → Reading α
  | .cut => throw .malformed
  | .scalar s plain tag =>
    match Meaning.ofScalar s plain tag with
    | .ok m => refuse p (.mismatch (.kind m.found expected))
    | .error m => refuse p (.mismatch m)
  | .list _ _ => refuse p (.mismatch (.kind .list expected))
  | .dict _ _ => refuse p (.mismatch (.kind .object expected))
  | .reference _ | .void => refuse p (.mismatch (.kind .null expected))

/-- Any scalar, taken as it is written. -/
def text (expected : String) : Reader String := fun p n => do
  match ← resolve p n with
  | .scalar s _ _ => return s
  | n => mistyped p expected n

/-- A plain whole number that fits into 64 bits. -/
def number : Reader Nat := fun p n => do
  match ← resolve p n with
  | n@(.scalar s true _) =>
    match Meaning.unsigned? (Nat.pow 2 64) s.toList with
    | some k => return k
    | none => mistyped p "u64" n
  | n => mistyped p "u64" n

/-- One level deeper, if there is one. -/
def enter (p : Place) : Reading Place :=
  match p.depth with
  | 0 => refuse p .nesting
  | d + 1 => return { p with depth := d }

def isEmptyPlain : Node → Bool
  | .scalar s plain _ => plain && s == ""
  | .void => true
  | _ => false

/-- The items of a list; where nothing was written there are none. -/
def items (expected : String) (p : Place) (n : Node) : Reading (Place × List Node) := do
  match ← resolve p n with
  | .list _ items => return (← enter p, items)
  | n => if isEmptyPlain n then return (p, []) else mistyped p expected n

def list (item : Reader α) : Reader (List α) := fun p n => do
  let (p, items) ← items "a sequence" p n
  items.zipIdx.mapM fun (n, i) => item (Place.step p (.index i)) n

/-- The members of a dictionary; where nothing was written there are none. -/
def members (expected : String) (p : Place) (n : Node) : Reading (Place × List (Node × Node)) := do
  match ← resolve p n with
  | .dict _ members => return (← enter p, members)
  | n => if isEmptyPlain n then return (p, []) else mistyped p expected n

/-- The step to a member's value: only keys that are scalars as written have a name. -/
def stepOf : Node → Step
  | .scalar s _ _ => .key s
  | _ => .unnamed

/-- A dictionary of texts. Of equal names the last one counts; names ascend. -/
def texts : Reader (List (String × String)) := fun p n => do
  let (p, members) ← members "a map" p n
  members.foldlM (fun sorted (k, v) => do
    let name ← text "a string" p k
    let value ← text "a string" (Place.step p (stepOf k)) v
    return insert name value sorted) []
where
  insert (name value : String) : List (String × String) → List (String × String)
    | [] => [(name, value)]
    | (n, v) :: rest =>
      if name = n then (name, value) :: rest
      else if name < n then (name, value) :: (n, v) :: rest
      else (n, v) :: insert name value rest

mutual

/-- Whether a value can be read to its end. Aliases in it are not followed. -/
def isWhole : Node → Bool
  | .cut => false
  | .list _ items => areWhole items
  | .dict _ members => membersWhole members
  | _ => true

def areWhole : List Node → Bool
  | [] => true
  | n :: rest => isWhole n && areWhole rest

def membersWhole : List (Node × Node) → Bool
  | [] => true
  | (k, v) :: rest => isWhole k && isWhole v && membersWhole rest

end

/-- The members of a record by the names of its fields. Other members are passed over; a field may
stand only once. `read` reads the value of a field into the record so far. -/
def fields (expected : String) (names : List String) (start : α)
    (read : String → α → Reader α) (p : Place) (n : Node) : Reading (List String × α) := do
  let (inner, members) ← members expected p n
  members.foldlM (fun (seen, record) (k, v) => do
    let name ← text "field identifier" inner k
    let place := Place.step inner (stepOf k)
    if name ∈ names then
      if name ∈ seen then refuse inner (.duplicateField name)
      else return (seen ++ [name], ← read name record place v)
    else if isWhole v then return (seen, record)
    else throw .malformed) ([], start)

/-- Demands fields in the order of their names. -/
def demand (p : Place) (seen : List String) : List String → Reading Unit
  | [] => return
  | name :: rest => if name ∈ seen then demand p seen rest else refuse p (.missingField name)

/-- Any value, as JSON. The depth of the place bounds the recursion. -/
def json : Nat → Reader Json
  | 0, p, n => jsonScalar p n (fun _ => refuse p .nesting) fun _ => refuse p .nesting
  | fuel + 1, p, n => jsonScalar p n
    (fun items => do
      let p ← enter p
      let values ← items.zipIdx.mapM fun (n, i) => json fuel (Place.step p (.index i)) n
      return .list values)
    fun members => do
      let p ← enter p
      let pairs ← members.zipIdx.mapM fun ((k, v), i) => do
        let name ← text (if i = 0 then "a string key" else "a string") p k
        let value ← json fuel (Place.step p (stepOf k)) v
        return (name, value)
      return Json.ofMembers pairs
where
  /-- Tells the kinds of values apart; a tag of one's own makes a value nobody expects. -/
  jsonScalar (p : Place) (n : Node) (list : List Node → Reading Json)
      (dict : List (Node × Node) → Reading Json) : Reading Json := do
    let isOwn (tag : Option String) : Bool := (tag.bind (·.toList.head?)) == some '!'
    let own : Reading Json := refuse p (.mismatch (.kind .tagged "any valid JSON value"))
    match ← resolve p n with
    | .cut => throw .malformed
    | .void => return .null
    | .reference _ => return .null
    | .list tag items => if isOwn tag then own else list items
    | .dict tag members => if isOwn tag then own else dict members
    | .scalar s plain tag =>
      if isOwn tag then own
      else
        match Meaning.ofScalar s plain tag with
        | .error m => refuse p (.mismatch m)
        | .ok .null => return .null
        | .ok (.bool b) => return .bool b
        | .ok (.int n) => return .int n
        | .ok (.wide _) => refuse p .wideNumber
        | .ok (.float x) => return .float x
        | .ok (.infinite _) | .ok .notNumber => return .null
        | .ok (.text s) => return .text s

def anyJson : Reader Json :=
  json (deepest + 1)

/-- Reads a whole text. What is wrong with the part of a broken text that can be read counts before
the break. -/
def read (reader : Reader α) (s : String) : Except Fault α := do
  let d := Document.ofTokens (tokens s)
  let (a, _) ← (reader ⟨d, [], deepest⟩ d.root).run 0
  if d.sound then return a else throw .malformed

end Reader

end IncludeRules.Yaml
