import IncludeRules.Text.CaseTable

/-! Lower-case forms of texts, by the full mapping of the Unicode standard. -/

namespace IncludeRules.Text

/-- The lower-case form of a character outside a context. Dotted capital I is the one character
whose form has two. -/
def lowerChar (c : Char) : List Char :=
  if c.toNat < 0x80 then [c.toLower]
  else if c.toNat == 0x130 then ['i', Char.ofNat 0x307]
  else
    match lowerRuns.find? fun run =>
        run.first ≤ c.toNat && c.toNat ≤ run.last && (c.toNat - run.first) % run.step == 0 with
    | some run => [Char.ofNat (run.target + (c.toNat - run.first))]
    | none => [c]

/-- Whether the nearest character that counts for casing is cased. -/
def meetsCased (s : List Char) : Bool :=
  match s.dropWhile caseIgnorable.mem with
  | [] => false
  | c :: _ => cased.mem c

/-- `before` is what precedes, nearest character first. A capital sigma that ends a word has a
form of its own. -/
def lowerAfter (before : List Char) : List Char → List Char
  | [] => []
  | c :: s =>
    let form :=
      if c == 'Σ' then
        if meetsCased before && !meetsCased s then ['ς'] else ['σ']
      else lowerChar c
    form ++ lowerAfter (c :: before) s

def lower (s : List Char) : List Char :=
  lowerAfter [] s

end IncludeRules.Text
