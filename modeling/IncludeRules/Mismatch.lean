import IncludeRules.Text.Quoted

/-! Values of another kind than a reader expected. -/

namespace IncludeRules

/-- What was met. `wide` is a whole number beyond 64 bits, `tagged` a value with a tag of its
own. -/
inductive Found where
  | null
  | bool (b : Bool)
  | int (n : Int)
  | wide (n : Int)
  | float (text : String)
  | text (s : String)
  | list
  | object
  | tagged
  deriving DecidableEq

/-- The words for `null` differ between formats. -/
def Found.message (null : String) : Found → String
  | .null => null
  | .bool b => "boolean \x60" ++ (if b then "true" else "false") ++ "\x60"
  | .int n => "integer \x60" ++ toString n ++ "\x60"
  | .wide n => "integer \x60" ++ toString n ++ "\x60 as " ++ if n < 0 then "i128" else "u128"
  | .float t => "floating point \x60" ++ t ++ "\x60"
  | .text s => "string " ++ Text.quoted s
  | .list => "sequence"
  | .object => "map"
  | .tagged => "enum"

/-- A value of a wrong kind, or one of the right kind that is out of bounds. -/
inductive Mismatch where
  | kind (found : Found) (expected : String)
  | bounds (found : Found) (expected : String)
  deriving DecidableEq

def Mismatch.message (null : String) : Mismatch → String
  | .kind found expected => "invalid type: " ++ found.message null ++ ", expected " ++ expected
  | .bounds found expected => "invalid value: " ++ found.message null ++ ", expected " ++ expected

end IncludeRules
