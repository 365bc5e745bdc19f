import IncludeRules.Number.Shortest

/-! How binary numbers are written. -/

namespace IncludeRules.Binary64

def zeros (n : Nat) : String :=
  .ofList (List.replicate n '0')

/-- Digits with a point, never with an exponent. -/
def positional (digits : String) (scale : Int) : String :=
  let point : Int := digits.length + scale
  if 0 ≤ scale then digits ++ zeros scale.toNat ++ ".0"
  else if 0 < point then
    .ofList (digits.toList.take point.toNat) ++ "." ++ .ofList (digits.toList.drop point.toNat)
  else "0." ++ zeros (-point).toNat ++ digits

def scientific (digits : String) (scale : Int) : String :=
  let exponent := toString (digits.length + scale - 1)
  match digits.toList with
  | [] => ""
  | [d] => .ofList [d] ++ "e" ++ exponent
  | d :: rest => .ofList (d :: '.' :: rest) ++ "e" ++ exponent

def sign (x : Binary64) : String :=
  if x.negative then "-" else ""

def digitsAndScale (x : Binary64) : String × Int :=
  let d := x.shortest.trimZeros 20
  (toString d.coefficient, d.scale)

/-- The text in data files: positional for magnitudes from 10 ^ -5 up to 10 ^ 16. -/
def dataText (x : Binary64) : String :=
  let (digits, scale) := x.digitsAndScale
  let point : Int := digits.length + scale
  if x.mantissa = 0 then x.sign ++ "0.0"
  else if -5 < point ∧ point ≤ 16 then x.sign ++ positional digits scale
  else x.sign ++ scientific digits scale

/-- The text in messages: always positional. -/
def messageText (x : Binary64) : String :=
  let (digits, scale) := x.digitsAndScale
  x.sign ++ if x.mantissa = 0 then "0.0" else positional digits scale

end IncludeRules.Binary64
