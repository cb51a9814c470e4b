import LabGrader.CommandLine.Run

/-!
# The program

The outer layer of the program: it takes a picture of the working folder and of the places that its
arguments name, runs, prints, and makes the changes of the run. It has no network, so every question
to the judge is refused.
-/

namespace LabGrader.Program

def textOf (s : String) : Text := s.toList

def stringOf (t : Text) : String := String.ofList t

def stringAt (l : Location) : String := stringOf ('/' :: Text.joinWith ['/'] l)

def locationOf (s : String) : Location := ((textOf s).splitOn '/').filter fun name => !name.isEmpty

/-- What a picture shows: entries, and the uses that were refused while it was taken. -/
structure Picture where
  entries : List (Location × Entry) := []
  refused : List (Use × Location) := []

def Picture.append (p q : Picture) : Picture := ⟨p.entries ++ q.entries, p.refused ++ q.refused⟩

instance : Append Picture := ⟨Picture.append⟩

/-- Everything at a location and below it. -/
partial def picture (l : Location) : IO Picture := do
  let here : IO.FS.DirEntry := { root := stringAt l.dropLast, fileName := stringOf (l.getLastD []) }
  if ← here.path.isDir then
    let mut found : Picture := { entries := [(l, .directory)] }
    try
      for child in ← here.path.readDir do
        found := found ++ (← picture (l ++ [textOf child.fileName]))
    catch _ => found := found ++ { refused := [(.list, l)] }
    return found
  else
    try return { entries := [(l, .file (← IO.FS.readBinFile here.path).toList)] }
    catch _ => return { entries := [(l, .file [])], refused := [(.read, l)] }

/-- The working folder, with everything that the arguments name outside of it and with the
environment files around it. -/
def folder (arguments : List String) : IO Folder := do
  let working := locationOf (← IO.currentDir).toString
  let mut places := (List.range working.length).map fun n =>
    stringAt (working.take n ++ [EnvironmentFile.name])
  places := places ++ arguments
  let mut seen ← picture working
  for place in places do
    try
      let l := locationOf (← IO.FS.realPath place).toString
      if !working.isPrefixOf l then seen := seen ++ (← picture l)
    catch _ => continue
  let denied : SystemError := .other "Permission denied (os error 13)".toList
  let d : Folder := {
    working
    refusal? := fun use l => if seen.refused.contains (use, l) then some denied else none }
  return seen.entries.foldl (fun d x => if (d.entryAt? x.1).isSome then d else d.place x.1 x.2) d

/-- Makes on disk what a run has changed. -/
def store (before after : Folder) : IO Unit := do
  for (l, e) in after.entries do
    if before.entryAt? l ≠ some e then
      match e with
      | .directory => IO.FS.createDirAll (stringAt l)
      | .file content => IO.FS.writeBinFile (stringAt l) ⟨content.toArray⟩

def environment : IO Environment := do
  let mut found := []
  for name in Environment.names do
    if let some value ← IO.getEnv name then
      found := (textOf name, textOf value) :: found
  return Environment.ofList found

def setting (arguments : List String) : IO CommandLine.Setting := do
  let plain := (← IO.getEnv "NO_COLOR").isSome
  return {
    arguments := arguments.map textOf
    environment := ← environment
    folder := ← folder arguments
    colored := !plain && (← (← IO.getStdout).isTty)
    service := fun _ _ _ => none }

end LabGrader.Program

open LabGrader in
def main (arguments : List String) : IO UInt32 := do
  let s ← Program.setting arguments
  let r := CommandLine.run s
  for line in r.log do
    IO.println (Program.stringOf line)
  IO.print (Program.stringOf r.console.output)
  Program.store s.folder r.console.folder
  IO.eprint (Program.stringOf r.console.errors)
  return UInt32.ofNat r.code
