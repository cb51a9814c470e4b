import LabGrader.Folder.Basic
import LabGrader.Folder.Pattern
import LabGrader.Json.Token

/-!
# Errors of a run

The causes for which a run ends early. The message of an error is a chain: what could not be done,
and then why.
-/

namespace LabGrader

inductive GradingError where
  | noKey
  | settingsUnreadable (file : Path) (cause : SystemError)
  | settingsMalformed (file : Path) (fault : Json.Fault)
  | sheetUnreadable (file : Path) (cause : SystemError)
  | sheetBlank (file : Path)
  | assignmentUnreadable (file : Path) (cause : SystemError)
  | assignmentBlank (file : Path)
  | badPattern (error : Pattern.Error)
  | badSearch (folder : Path) (error : Pattern.Error)
  | nothingFound (folder : Path)
  | breakdownFolderNotMade (folder : Path) (cause : SystemError)
  | submissionUnreadable (file : Path) (cause : SystemError)
  | breakdownNotWritten (file : Path) (cause : SystemError)
  | unknownFormat (name : Text)
  | reportFolderNotMade (folder : Path) (cause : SystemError)
  | reportNotWritten (file : Path) (cause : SystemError)
deriving DecidableEq

/-- The message about a blank assignment, whatever file it comes from. -/
def blankAssignment : Text := "The assignment description is empty".toList

namespace GradingError

/-- The cause that the operating system gives, if the error has one. -/
def systemError? : GradingError → Option SystemError
  | .settingsUnreadable _ cause => some cause
  | .sheetUnreadable _ cause => some cause
  | .assignmentUnreadable _ cause => some cause
  | .breakdownFolderNotMade _ cause => some cause
  | .submissionUnreadable _ cause => some cause
  | .breakdownNotWritten _ cause => some cause
  | .reportFolderNotMade _ cause => some cause
  | .reportNotWritten _ cause => some cause
  | _ => none

/-- What could not be done. -/
def headline : GradingError → Text
  | .noKey => "OPENAI_API_KEY must be set (OPENAI_ENDPOINT and OPENAI_MODEL are optional)".toList
  | .settingsUnreadable file _ => "Could not read config file ".toList ++ file.text
  | .settingsMalformed file _ => "Could not parse config file ".toList ++ file.text
  | .sheetUnreadable file _ => "Could not read scoring sheet ".toList ++ file.text
  | .sheetBlank file => "The scoring sheet ".toList ++ file.text ++ " is empty".toList
  | .assignmentUnreadable file _ => "Could not read assignment description ".toList ++ file.text
  | .assignmentBlank file => "Could not use assignment description ".toList ++ file.text
  | .badPattern _ => "Could not create glob".toList
  | .badSearch folder _ => "Could not search ".toList ++ folder.text ++ " for submissions".toList
  | .nothingFound folder => "No .java files found under ".toList ++ folder.text
  | .breakdownFolderNotMade folder _ => "Could not create breakdown folder ".toList ++ folder.text
  | .submissionUnreadable file _ => "Could not read submission ".toList ++ file.text
  | .breakdownNotWritten file _ => "Could not write breakdown ".toList ++ file.text
  | .unknownFormat name =>
    "Unknown report format \x60".toList ++ Text.lowercase name ++
      "\x60, expected csv, tsv or json".toList
  | .reportFolderNotMade folder _ => "Could not create ".toList ++ folder.text
  | .reportNotWritten file _ => "Something went wrong writing ".toList ++ file.text

/-- Why it could not be done. -/
def reasons (e : GradingError) : List Text :=
  match e with
  | .assignmentBlank _ => [blankAssignment]
  | .badPattern error => [error.message]
  | .badSearch _ error => [headline (.badPattern error), error.message]
  | e => e.systemError?.toList.map SystemError.message

def chain (e : GradingError) : List Text := e.headline :: e.reasons

def message (e : GradingError) : Text := Text.joinWith ": ".toList e.chain

end GradingError

end LabGrader
