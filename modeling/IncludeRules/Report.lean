import IncludeRules.Script.Basic

/-! What a run writes about itself. -/

namespace IncludeRules

/-- The texts for the two standard streams. -/
structure Report where
  output : String
  diagnostics : String
  deriving DecidableEq

/-- What a notice adds to the output. Files that are left alone are not worth a line. -/
def Notice.output : Notice → String
  | .updated path outcome =>
    if outcome = .unchanged then "" else path.display ++ ":0: " ++ outcome.name ++ "\n"
  | .printed text => text
  | .scanned .. | .saved _ | .unsaved _ => ""

/-- What a notice adds to the diagnostics. Scans are of interest to a verbose run only. -/
def Notice.diagnostics (verbose : Bool) : Notice → String
  | .scanned source headers =>
    if verbose then source ++ ": " ++ toString headers ++ " headers\n" else ""
  | .saved tape => "Recording saved to: " ++ tape.display ++ "\n"
  | .unsaved cause => "Warning: failed to write cassette: " ++ cause ++ "\n"
  | .updated .. | .printed _ => ""

def Report.ofNotices (verbose : Bool) (notices : List Notice) : Report where
  output := String.join (notices.map Notice.output)
  diagnostics := String.join (notices.map (Notice.diagnostics verbose))

end IncludeRules
