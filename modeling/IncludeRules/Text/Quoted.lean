import IncludeRules.Octets
import IncludeRules.Text.VisibleTable

/-! Texts as they are quoted in messages. -/

namespace IncludeRules.Text

/-- The digits of a number in a base up to sixteen, without leading zeros. -/
def digits (base n : Nat) : List Char :=
  Nat.toDigits base n

/-- How one character is written between quotes: whatever could be missed by a reader is named by
its code point. -/
def quoteChar (c : Char) : List Char :=
  if c == '"' then ['\\', '"']
  else if c == '\\' then ['\\', '\\']
  else if c == '\n' then ['\\', 'n']
  else if c == '\r' then ['\\', 'r']
  else if c == '\t' then ['\\', 't']
  else if c.toNat == 0 then ['\\', '0']
  else if withoutForm.mem c then ['\\', 'u', '\x7b'] ++ digits 16 c.toNat ++ ['\x7d']
  else [c]

def quoted (s : String) : String :=
  .ofList ('"' :: s.toList.flatMap quoteChar ++ ['"'])

/-- An octet that belongs to no character, in base sixteen. -/
def quoteOctet (b : UInt8) : List Char :=
  let d := (digits 16 b.toNat).map Char.toUpper
  '\\' :: 'x' :: if d.length = 1 then '0' :: d else d

/-- `bound` is at least the number of octets. -/
def quoteOctets (bound : Nat) (b : Octets) : List Char :=
  match bound, b with
  | 0, _ | _, [] => []
  | n + 1, o :: rest =>
    match Octets.firstChar? (o :: rest) with
    | some (c, rest) => (if c = '\'' then ['\\', c] else quoteChar c) ++ quoteOctets n rest
    | none => quoteOctet o ++ quoteOctets n rest

/-- Octets that need not be a text, quoted; here single quotes are marked as well. -/
def quotedOctets (b : Octets) : String :=
  .ofList ('"' :: quoteOctets b.length b ++ ['"'])

end IncludeRules.Text
