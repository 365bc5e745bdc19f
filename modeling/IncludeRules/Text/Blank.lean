/-! Blank characters, and the words and trimmed forms of a text. -/

namespace IncludeRules.Text

/-- The Unicode property White_Space. -/
def isBlank (c : Char) : Bool :=
  (0x09 ≤ c.toNat && c.toNat ≤ 0x0D) || c.toNat == 0x20 || c.toNat == 0x85 || c.toNat == 0xA0 ||
    c.toNat == 0x1680 || (0x2000 ≤ c.toNat && c.toNat ≤ 0x200A) || c.toNat == 0x2028 ||
    c.toNat == 0x2029 || c.toNat == 0x202F || c.toNat == 0x205F || c.toNat == 0x3000

/-- The text without the longest end part whose characters all satisfy `p`. -/
def dropEndWhile (p : Char → Bool) : List Char → List Char
  | [] => []
  | c :: s =>
    match dropEndWhile p s with
    | [] => if p c then [] else [c]
    | t => c :: t

def trimEnd (s : List Char) : List Char :=
  dropEndWhile isBlank s

def trim (s : List Char) : List Char :=
  trimEnd (s.dropWhile isBlank)

/-- The longest blank-free pieces, in order. -/
def words (s : List Char) : List (List Char) :=
  (s.splitOnP isBlank).filter (!·.isEmpty)

/-- Whether `t` occurs in the text without a gap. -/
def contains (t : List Char) : List Char → Bool
  | [] => t.isEmpty
  | c :: s => t.isPrefixOf (c :: s) || contains t s

/-- The two parts around the last character satisfying `p`, which stays with the first part. -/
def splitAfterLast (p : Char → Bool) (s : List Char) : List Char × List Char :=
  let tail := (s.reverse.takeWhile (!p ·)).reverse
  (s.take (s.length - tail.length), tail)

end IncludeRules.Text
