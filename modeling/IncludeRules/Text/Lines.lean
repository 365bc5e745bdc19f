/-! The lines of a text. -/

namespace IncludeRules.Text

/-- A line that was ended by a line feed loses one carriage return before it. -/
def dropReturn (line : List Char) : List Char :=
  if line.getLast? = some '\r' then line.dropLast else line

/-- All pieces but the last were ended by a line feed; an empty last piece is no line. -/
def endedLines : List (List Char) → List (List Char)
  | [] => []
  | [last] => if last.isEmpty then [] else [last]
  | line :: rest => dropReturn line :: endedLines rest

def lines (s : List Char) : List (List Char) :=
  endedLines (s.splitOnP (· == '\n'))

end IncludeRules.Text
