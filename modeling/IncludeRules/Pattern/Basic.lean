import IncludeRules.Text.Blank

/-! Patterns for file names: question marks, stars and classes of characters. -/

namespace IncludeRules

/-- A member of a class: one character or all code points between two, ends included. -/
inductive Span where
  | one (c : Char)
  | range (low high : Char)
  deriving DecidableEq

/-- An item of a pattern. `tree` is the double star, which stands alone. -/
inductive Wildcard where
  | char (c : Char)
  | any
  | many
  | tree
  | oneOf (spans : List Span)
  | noneOf (spans : List Span)
  deriving DecidableEq

abbrev Pattern := List Wildcard

namespace Pattern

inductive Fault where
  | crowdedStars
  | crowdedTree
  | openClass
  deriving DecidableEq

/-- What is wrong with a pattern, and before which of its characters. -/
structure Error where
  fault : Fault
  position : Nat
  deriving DecidableEq

def Fault.message : Fault → String
  | .crowdedStars => "wildcards are either regular \x60*\x60 or recursive \x60**\x60"
  | .crowdedTree => "recursive wildcards must form a single path component"
  | .openClass => "invalid range pattern"

def Error.message (e : Error) : String :=
  "Pattern syntax error near position " ++ toString e.position ++ ": " ++ e.fault.message

def hasWildcard (s : List Char) : Bool :=
  s.any fun c => c == '*' || c == '?' || c == '['

/-- The members of a class. A hyphen between two characters makes a range. -/
def spans : List Char → List Span
  | a :: '-' :: b :: rest => .range a b :: spans rest
  | a :: rest => .one a :: spans rest
  | [] => []

/-- Splits what follows an opening bracket into the class and the rest. The first character of a
class is a member whatever it is, so a bracket there does not close it. -/
def takeClass? : List Char → Option (Wildcard × List Char)
  | '!' :: c :: rest =>
    if rest.contains ']' then
      some (.noneOf (spans (c :: rest.takeWhile (· != ']'))), (rest.dropWhile (· != ']')).tail)
    else none
  | c :: rest =>
    if c != '!' && rest.contains ']' then
      some (.oneOf (spans (c :: rest.takeWhile (· != ']'))), (rest.dropWhile (· != ']')).tail)
    else none
  | [] => none

/-- Reads one item of a pattern at `position`. Two stars are legal only as the whole pattern. -/
def takeWildcard (position : Nat) : List Char → Except Error (Option (Wildcard × List Char))
  | [] => .ok none
  | '?' :: rest => .ok (some (.any, rest))
  | '*' :: rest =>
    match (rest.takeWhile (· == '*')).length with
    | 0 => .ok (some (.many, rest))
    | 1 =>
      if position ≠ 0 then .error ⟨.crowdedTree, position - 1⟩
      else if rest.length ≠ 1 then .error ⟨.crowdedTree, 2⟩
      else .ok (some (.tree, []))
    | _ => .error ⟨.crowdedStars, position + 2⟩
  | '[' :: rest =>
    match takeClass? rest with
    | some item => .ok (some item)
    | none => .error ⟨.openClass, position⟩
  | c :: rest => .ok (some (.char c, rest))

theorem length_tail_dropWhile_lt (p : Char → Bool) (c : Char) (s : List Char) :
    (s.dropWhile p).tail.length < (c :: s).length := by
  have h := (List.dropWhile_suffix (l := s) p).length_le
  simp only [List.length_tail, List.length_cons]
  omega

theorem takeClass?_length {s rest : List Char} {w : Wildcard} (h : takeClass? s = some (w, rest)) :
    rest.length < s.length := by
  unfold takeClass? at h
  split at h
  · split at h <;> simp only [Option.some.injEq, Prod.mk.injEq, reduceCtorEq] at h
    rw [← h.2, List.length_cons]
    exact Nat.lt_succ_of_lt (length_tail_dropWhile_lt _ _ _)
  · split at h <;> simp only [Option.some.injEq, Prod.mk.injEq, reduceCtorEq] at h
    rw [← h.2]
    exact length_tail_dropWhile_lt _ _ _
  · cases h

theorem takeWildcard_length {n : Nat} {s rest : List Char} {w : Wildcard}
    (h : takeWildcard n s = .ok (some (w, rest))) : rest.length < s.length := by
  unfold takeWildcard at h
  split at h
  · cases h
  · cases h; simp
  · split at h
    · cases h; simp
    · split at h
      · cases h
      · split at h <;> cases h
        simp
    · cases h
  · split at h
    · rename_i hc
      cases h
      exact Nat.lt_succ_of_lt (takeClass?_length hc)
    · cases h
  · cases h; simp

def parseFrom (length : Nat) (s : List Char) : Except Error Pattern :=
  match h : takeWildcard (length - s.length) s with
  | .error e => .error e
  | .ok none => .ok []
  | .ok (some (w, rest)) =>
    have := takeWildcard_length h
    (w :: ·) <$> parseFrom length rest
termination_by s.length

def parse (s : List Char) : Except Error Pattern :=
  parseFrom s.length s

end Pattern

end IncludeRules
