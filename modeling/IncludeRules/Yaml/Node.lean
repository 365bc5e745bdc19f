import IncludeRules.Yaml.Tokens

/-! The values of a YAML text as a tree, as far as the text is sound. -/

namespace IncludeRules.Yaml

/-- A value as it is written. `cut` stands where the text stops being readable: what precedes it
can be looked at all the same. An alias names an anchored value by its number. -/
inductive Node where
  | scalar (text : String) (plain : Bool) (tag : Option String)
  | list (tag : Option String) (items : List Node)
  | dict (tag : Option String) (members : List (Node × Node))
  | reference (number : Nat)
  | void
  | cut
  deriving Inhabited

/-- An anchored value: its number, and its rank among all anchors. Numbers may be shared; the last
value with a number has it. -/
structure Anchored where
  number : Nat
  rank : Nat
  node : Node

/-- A text's first document. `sound` tells whether the whole text is readable and holds no other. -/
structure Document where
  root : Node
  anchored : List Anchored
  size : Nat
  sound : Bool

/-- What remains while the tree is built. `size` counts scalars, aliases and both ends of lists and
dictionaries; `names` gives the numbers of anchors. -/
structure Builder where
  rest : List Token
  names : List (String × Nat)
  anchored : List Anchored
  ranks : Nat
  size : Nat
  handles : List (List Char × List Char)

abbrev Building := StateM Builder

namespace Building

def peek : Building (Option Token) := do
  return (← get).rest.head?

def pass : Building Unit :=
  modify fun b => { b with rest := b.rest.tail }

def count : Building Unit :=
  modify fun b => { b with size := b.size + 1 }

/-- From here on nothing is readable. -/
def stop : Building Unit :=
  modify fun b => { b with rest := [] }

def cut : Building Node := do
  stop
  return .cut

/-- An absent scalar. -/
def absent : Building Node := do
  count
  return .scalar "" true none

/-- The number of a new anchor is the number of names before it, so that an anchor which is set
again leaves its next number to the anchor after it. -/
def newAnchor (name : List Char) : Building (Nat × Nat) := do
  let b ← get
  let number := b.names.length
  let names := (String.ofList name, number) :: b.names.filter (·.1 != .ofList name)
  set { b with names := names, ranks := b.ranks + 1 }
  return (number, b.ranks)

def keepAnchor (anchor : Option (Nat × Nat)) (node : Node) : Building Unit := do
  match anchor with
  | none => return
  | some (number, rank) =>
    modify fun b => { b with anchored := ⟨number, rank, node⟩ :: b.anchored }

/-- A tag in full, if its handle is known. -/
def fullTag? (handle suffix : List Char) : Building (Option String) := do
  if handle.isEmpty then return some (.ofList suffix)
  else
    return ((← get).handles.lookup handle).map fun target => .ofList (target ++ suffix)

/-- The properties before a value: a tag and an anchor, in either order. Gives nothing when a tag
has an unknown handle. -/
def properties : Building (Option (Option (List Char) × Option String)) := do
  let anchor? : Building (Option (List Char)) := do
    match ← peek with
    | some (.anchor name) =>
      pass
      return some name
    | _ => return none
  let tag? : Building (Option (List Char × List Char)) := do
    match ← peek with
    | some (.tag handle suffix) =>
      pass
      return some (handle, suffix)
    | _ => return none
  let before ← anchor?
  let tag ← tag?
  let anchor ← if before.isNone && tag.isSome then anchor? else pure before
  match tag with
  | none => return some (anchor, none)
  | some (handle, suffix) =>
    match ← fullTag? handle suffix with
    | none => return none
    | some full => return some (anchor, some full)

/-- Tokens after which nothing was written for an item or member. -/
def endsItem (indentless : Bool) : Token → Bool
  | .dash | .closeBlock => true
  | .key | .value => indentless
  | _ => false

def endsMember : Token → Bool
  | .key | .value | .closeBlock => true
  | _ => false

def isOneOf (ts : List Token) (t : Token) : Bool :=
  ts.contains t

mutual

/-- One value. In a block it may be a block; as a member's key or value it may be a list whose items
are not indented. -/
def node (block indentless : Bool) : Nat → Building Node
  | 0 => cut
  | fuel + 1 => do
    match ← peek with
    | some (.reference name) =>
      match (← get).names.lookup (.ofList name) with
      | none => cut
      | some number =>
        pass
        count
        return .reference number
    | _ =>
      match ← properties with
      | none => cut
      | some (anchor, tag) =>
        let begin_ : Building (Option (Nat × Nat)) := do
          count
          match anchor with
          | none => return none
          | some name => return some (← newAnchor name)
        let t ← peek
        if indentless && t == some .dash then
          let place ← begin_
          let value := Node.list tag (← looseItems fuel)
          keepAnchor place value
          return value
        else
          match t with
          | some (.scalar text plain) =>
            pass
            let place ← begin_
            let value := Node.scalar (.ofList text) plain (if tag = some "!" then none else tag)
            keepAnchor place value
            return value
          | some .openBracket =>
            pass
            let place ← begin_
            let value := Node.list tag (← flowItems true fuel)
            keepAnchor place value
            return value
          | some .openBrace =>
            pass
            let place ← begin_
            let value := Node.dict tag (← flowMembers true fuel)
            keepAnchor place value
            return value
          | some .openList =>
            if block then
              pass
              let place ← begin_
              let value := Node.list tag (← blockItems fuel)
              keepAnchor place value
              return value
            else cut
          | some .openDict =>
            if block then
              pass
              let place ← begin_
              let value := Node.dict tag (← blockMembers fuel)
              keepAnchor place value
              return value
            else cut
          | some _ =>
            if anchor.isSome || tag.isSome then
              let place ← begin_
              let value := Node.scalar "" true tag
              keepAnchor place value
              return value
            else cut
          | none => cut

/-- The items of a block list up to its end. -/
def blockItems : Nat → Building (List Node)
  | 0 => return [← cut]
  | fuel + 1 => do
    match ← peek with
    | some .dash =>
      pass
      let item ← match ← peek with
        | none => cut
        | some t => if endsItem false t then absent else node true false fuel
      return item :: (← blockItems fuel)
    | some .closeBlock =>
      pass
      count
      return []
    | _ => return [← cut]

/-- The items of a list that is not indented. -/
def looseItems : Nat → Building (List Node)
  | 0 => return [← cut]
  | fuel + 1 => do
    match ← peek with
    | some .dash =>
      pass
      let item ← match ← peek with
        | none => cut
        | some t => if endsItem true t then absent else node true false fuel
      return item :: (← looseItems fuel)
    | some _ =>
      count
      return []
    | none => return [← cut]

/-- The members of a block dictionary up to its end. -/
def blockMembers : Nat → Building (List (Node × Node))
  | 0 => return [(← cut, .cut)]
  | fuel + 1 => do
    match ← peek with
    | some .key =>
      pass
      let key ← match ← peek with
        | none => cut
        | some t => if endsMember t then absent else node true true fuel
      let value ← match ← peek with
        | none => cut
        | some .value =>
          pass
          match ← peek with
          | none => cut
          | some t => if endsMember t then absent else node true true fuel
        | some _ => absent
      return (key, value) :: (← blockMembers fuel)
    | some .closeBlock =>
      pass
      count
      return []
    | _ => return [(← cut, .cut)]

/-- The items of a list in brackets. A key among them makes a dictionary with one member. -/
def flowItems (first : Bool) : Nat → Building (List Node)
  | 0 => return [← cut]
  | fuel + 1 => do
    if (← peek) == some .closeBracket then
      pass
      count
      return []
    else
      let separated ← if first then pure true else
        if (← peek) == some .comma then
          pass
          pure true
        else pure false
      if !separated then return [← cut]
      else
        match ← peek with
        | some .closeBracket =>
          pass
          count
          return []
        | some .key =>
          pass
          count
          let member ← singleMember fuel
          count
          return .dict none [member] :: (← flowItems false fuel)
        | some _ =>
          let item ← node false false fuel
          return item :: (← flowItems false fuel)
        | none => return [← cut]

/-- The member of a dictionary that stands without braces in a list. An absent key takes the
indicator after it along. -/
def singleMember : Nat → Building (Node × Node)
  | 0 => return (← cut, .cut)
  | fuel + 1 => do
    let key ← match ← peek with
      | none => cut
      | some t =>
        if isOneOf [.value, .comma, .closeBracket] t then
          pass
          absent
        else node false false fuel
    let value ← match ← peek with
      | none => cut
      | some .value =>
        pass
        match ← peek with
        | none => cut
        | some t => if isOneOf [.comma, .closeBracket] t then absent else node false false fuel
      | some _ => absent
    return (key, value)

/-- The members of a dictionary in braces. -/
def flowMembers (first : Bool) : Nat → Building (List (Node × Node))
  | 0 => return [(← cut, .cut)]
  | fuel + 1 => do
    if (← peek) == some .closeBrace then
      pass
      count
      return []
    else
      let separated ← if first then pure true else
        if (← peek) == some .comma then
          pass
          pure true
        else pure false
      if !separated then return [(← cut, .cut)]
      else
        match ← peek with
        | some .closeBrace =>
          pass
          count
          return []
        | some .key =>
          pass
          let key ← match ← peek with
            | none => cut
            | some t =>
              if isOneOf [.value, .comma, .closeBrace] t then absent else node false false fuel
          let value ← match ← peek with
            | none => cut
            | some .value =>
              pass
              match ← peek with
              | none => cut
              | some t => if isOneOf [.comma, .closeBrace] t then absent else node false false fuel
            | some _ => absent
          return (key, value) :: (← flowMembers false fuel)
        | some _ =>
          let key ← node false false fuel
          let value ← match ← peek with
            | none => cut
            | some _ => absent
          return (key, value) :: (← flowMembers false fuel)
        | none => return [(← cut, .cut)]

end

/-- The handles that are known everywhere. -/
def standardHandles : List (List Char × List Char) :=
  [("!".toList, "!".toList), ("!!".toList, "tag:yaml.org,2002:".toList)]

/-- Reads directives; gives nothing when one is repeated or of a foreign version. -/
def directives : Nat → Bool → List (List Char × List Char) →
    Building (Option (List (List Char × List Char)))
  | 0, _, _ => return none
  | fuel + 1, versioned, own => do
    match ← peek with
    | some (.version major minor) =>
      if versioned || major != 1 || (minor != 1 && minor != 2) then return none
      else
        pass
        directives fuel true own
    | some (.tagHandle handle target) =>
      if (own.lookup handle).isSome then return none
      else
        pass
        directives fuel versioned (own ++ [(handle, target)])
    | _ => return some own

/-- The root of the first document. A text without one has a void root. -/
def root (fuel : Nat) : Building Node := do
  let isDirective : Token → Bool
    | .version _ _ | .tagHandle _ _ => true
    | _ => false
  match ← peek with
  | none => cut
  | some .textEnd => return .void
  | some t =>
    if isDirective t || t == .documentStart then
      match ← directives (fuel + 1) false [] with
      | none => cut
      | some own =>
        if (← peek) == some .documentStart then
          pass
          modify fun b => { b with handles := own ++ b.handles }
          match ← peek with
          | none => cut
          | some t =>
            if isDirective t || isOneOf [.documentStart, .documentEnd, .textEnd] t then absent
            else node true false fuel
        else cut
    else node true false fuel

end Building

/-- Whether nothing but marks of ends follows a document. -/
def endsSoundly (rest : List Token) : Bool :=
  rest.dropWhile (· == .documentEnd) == [.textEnd]

/-- Builds the first document of a text. Every two steps of building pass over a token. -/
def Document.ofTokens (ts : List Token) : Document :=
  let (root, b) := (Building.root (4 * ts.length + 4)).run
    ⟨ts, [], [], 0, 0, Building.standardHandles⟩
  ⟨root, b.anchored, b.size, endsSoundly b.rest⟩

/-- The value that an alias stands for: of all with its number the last one. -/
def Document.anchored? (d : Document) (number : Nat) : Option Node :=
  let same := d.anchored.filter (·.number == number)
  (same.foldl (fun (best : Option Anchored) a =>
    match best with
    | none => some a
    | some b => some (if b.rank < a.rank then a else b)) none).map (·.node)

end IncludeRules.Yaml
