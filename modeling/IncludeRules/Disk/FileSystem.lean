import IncludeRules.Disk.Basic
import IncludeRules.Script.FileSystem

/-! Disks as file systems. -/

namespace IncludeRules.Disk

/-- A refusal as the text that scripts see. -/
def told {α : Type} (r : Except Refusal α) : Except String α :=
  r.mapError Refusal.message

def fileSystem : FileSystem (StateM Disk) where
  answer
    | .readText p => fun d => (.ok (told (d.readText p)), d)
    | .read p => fun d => (.ok (told (d.read p)), d)
    | .write p text => fun d =>
      let (r, d) := d.write p (.ofString text)
      (.ok (told r), d)
    | .present p => fun d => (.ok (d.present p), d)
    | .isDirectory p => fun d => (.ok (d.isDirectory p), d)
    | .entries p => fun d =>
      match d.names? p with
      | some names => (.ok (.ok names), d)
      | none => (.ok (.error (p.display ++ ": not a directory")), d)

end IncludeRules.Disk
