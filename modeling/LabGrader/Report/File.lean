import LabGrader.Error
import LabGrader.Report.Format

/-!
# Report files

A report is written as a whole, after the folder that it goes into was made.
-/

namespace LabGrader.Report

/-- Makes the folder of a report. A bare file name needs none. -/
def makeFolder (d : Folder) (p : Path) : Folder × Except GradingError Unit :=
  match p.parent? with
  | none => (d, .ok ())
  | some up =>
    if up.isEmpty then (d, .ok ())
    else match d.makeWay up with
      | (made, .ok ()) => (made, .ok ())
      | (made, .error cause) => (made, .error (.reportFolderNotMade up cause))

/-- Writes a report, with the folder as it is afterwards. -/
def write (d : Folder) (p : Path) (format : Format) (records : List Record) :
    Folder × Except GradingError Unit :=
  match makeFolder d p with
  | (made, .error e) => (made, .error e)
  | (made, .ok ()) =>
    match made.write p (Text.utf8 (render format records)) with
    | .error cause => (made, .error (.reportNotWritten p cause))
    | .ok written => (written, .ok ())

end LabGrader.Report
