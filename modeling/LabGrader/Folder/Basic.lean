import LabGrader.Path
import LabGrader.Text.Utf8

/-!
# Folders

The files and folders that a program meets: a finite tree below the root, given by what stands at
each location, and the working folder that relative paths start from. The operations fail for the
causes that an operating system reports. Some of them lie in the tree; others, such as a lack of
permission, in what the system refuses.
-/

namespace LabGrader

/-- The names that lead from the root to a place. -/
abbrev Location := List Text

inductive Entry where
  | file (content : Bytes)
  | directory
deriving DecidableEq

inductive SystemError where
  | notFound
  | alreadyExists
  | notDirectory
  | isDirectory
  | nameTooLong
  | embeddedNul
  | invalidUtf8
  /-- a cause that does not lie in the tree, such as a full disk -/
  | other (reason : Text)
deriving DecidableEq

namespace SystemError

def message : SystemError → Text
  | .notFound => "No such file or directory (os error 2)".toList
  | .alreadyExists => "File exists (os error 17)".toList
  | .notDirectory => "Not a directory (os error 20)".toList
  | .isDirectory => "Is a directory (os error 21)".toList
  | .nameTooLong => "File name too long (os error 36)".toList
  | .embeddedNul => "file name contained an unexpected NUL byte".toList
  | .invalidUtf8 => "stream did not contain valid UTF-8".toList
  | .other reason => reason

end SystemError

/-- What is done at a place. -/
inductive Use where
  /-- going on from a directory -/
  | enter
  | list
  | read
  | write
  /-- making a directory -/
  | make
deriving DecidableEq

structure Folder where
  entries : List (Location × Entry) := []
  /-- where relative paths start -/
  working : Location := []
  /-- why the system refuses a use of a place, if it does, whatever stands there -/
  refusal? : Use → Location → Option SystemError := fun _ _ => none
deriving Inhabited

namespace Folder

/-- What stands at a location. The working folder is there, and so are those around it. -/
def entryAt? (d : Folder) (l : Location) : Option Entry :=
  if l <+: d.working then some .directory else d.entries.lookup l

def isDirectory (d : Folder) (l : Location) : Bool := d.entryAt? l = some .directory

/-- Puts an entry at a location, in place of what stood there. -/
def put (d : Folder) (l : Location) (e : Entry) : Folder :=
  { d with entries := d.entries.filter (fun x => x.1 ≠ l) ++ [(l, e)] }

/-- Longest name, in bytes, and longest path including its end mark. -/
def nameLimit : Nat := 255
def pathLimit : Nat := 4096

/-- Goes one piece further; only a directory can be left. An empty piece asks for nothing else, and
the root is its own parent. -/
def enter (d : Folder) (l : Location) (piece : Text) : Except SystemError Location :=
  match d.entryAt? l with
  | none => .error .notFound
  | some (.file _) => .error .notDirectory
  | some .directory =>
    if piece.isEmpty then .ok l
    else match d.refusal? .enter l with
      | some cause => .error cause
      | none =>
        if piece = ['.'] then .ok l
        else if piece = ['.', '.'] then .ok l.dropLast
        else if nameLimit < Text.byteCount piece then .error .nameTooLong
        else .ok (l ++ [piece])

/-- Checks that hold for a path as a whole. -/
def checkPath (p : Path) : Except SystemError Unit :=
  if p.text.any (· = '\x00') then .error .embeddedNul
  else if p.isEmpty then .error .notFound
  else if pathLimit ≤ Text.byteCount p.text then .error .nameTooLong
  else .ok ()

/-- Where a path starts. -/
def start (d : Folder) (p : Path) : Location := if p.isAbsolute then [] else d.working

/-- The location that a path leads to. The last piece need not exist; one that does not move still
asks for a directory. -/
def locate (d : Folder) (p : Path) : Except SystemError Location := do
  checkPath p
  p.pieces.foldlM d.enter (d.start p)

def isDirectoryPath (d : Folder) (p : Path) : Bool :=
  match d.locate p with
  | .ok l => d.isDirectory l
  | .error _ => false

def isFilePath (d : Folder) (p : Path) : Bool :=
  match d.locate p with
  | .ok l => (d.entryAt? l).any fun e => e ≠ .directory
  | .error _ => false

def readAt (d : Folder) (l : Location) : Except SystemError Bytes :=
  match d.entryAt? l with
  | none => .error .notFound
  | some e =>
    match d.refusal? .read l with
    | some cause => .error cause
    | none =>
      match e with
      | .directory => .error .isDirectory
      | .file content => .ok content

def read (d : Folder) (p : Path) : Except SystemError Bytes := do d.readAt (← d.locate p)

def readText (d : Folder) (p : Path) : Except SystemError Text := do
  match Text.ofUtf8? (← d.read p) with
  | none => .error .invalidUtf8
  | some t => .ok t

def writeAt (d : Folder) (l : Location) (content : Bytes) : Except SystemError Folder :=
  if d.isDirectory l then .error .isDirectory
  else match d.refusal? .write l with
    | some cause => .error cause
    | none => .ok (d.put l (.file content))

/-- Writes a file as a whole, or changes nothing. -/
def write (d : Folder) (p : Path) (content : Bytes) : Except SystemError Folder := do
  checkPath p
  let l ← p.pieces.dropLast.foldlM d.enter (d.start p)
  let last := p.pieces.getLastD []
  let target ← d.enter l last
  if Path.isIdle last || last = ['.', '.'] then .error .isDirectory
  else d.writeAt target content

/-- Writes a file unless there is a cause at that time, such as a full disk, that keeps it from being
written. -/
def writeUnless (d : Folder) (fault : Option SystemError) (p : Path) (content : Bytes) :
    Except SystemError Folder :=
  match fault with
  | some cause => .error cause
  | none => d.write p content

def makeDirectory (d : Folder) (p : Path) : Except SystemError Folder := do
  checkPath p
  let pieces := (p.pieces.reverse.dropWhile List.isEmpty).reverse
  let l ← pieces.foldlM d.enter (d.start p)
  match d.entryAt? l with
  | some _ => .error .alreadyExists
  | none =>
    match d.refusal? .make l with
    | some cause => .error cause
    | none => .ok (d.put l .directory)

/-- Makes a directory and those that lead to it, with the folder as it is afterwards. What was made
stays if the rest cannot be made. At most `fuel` steps up are tried. -/
def makeWayFrom : Nat → Folder → Path → Folder × Except SystemError Unit
  | 0, d, _ => (d, .error .notFound)
  | fuel + 1, d, p =>
    if p.isEmpty then (d, .ok ())
    else match d.makeDirectory p with
      | .ok made => (made, .ok ())
      | .error cause =>
        if cause = .notFound then
          match p.parent? with
          | none => (d, .error .notFound)
          | some up =>
            match makeWayFrom fuel d up with
            | (d, .error cause) => (d, .error cause)
            | (d, .ok ()) =>
              match d.makeDirectory p with
              | .ok made => (made, .ok ())
              | .error cause => (d, if d.isDirectoryPath p then .ok () else .error cause)
        else (d, if d.isDirectoryPath p then .ok () else .error cause)

/-- A parent is a shorter path, so the steps up are counted by the length. -/
def makeWay (d : Folder) (p : Path) : Folder × Except SystemError Unit :=
  makeWayFrom (p.text.length + 1) d p

def makeDirectories (d : Folder) (p : Path) : Except SystemError Folder :=
  match d.makeWay p with
  | (made, .ok ()) => .ok made
  | (_, .error cause) => .error cause

/-- Puts an entry at a location and directories on the way to it. -/
def place (d : Folder) (l : Location) (e : Entry) : Folder :=
  let ways := (List.range l.length).map fun n => l.take n
  let d := ways.foldl (fun d l => if (d.entryAt? l).isSome then d else d.put l .directory) d
  d.put l e

/-- A working folder like any other. -/
def workplace : Location := ["work".toList]

def empty : Folder := { working := workplace }

/-- The working folder with these files, and those among them that have absolute paths elsewhere. -/
def ofList (files : List (Path × Entry)) : Folder :=
  files.foldl
    (fun d x => d.place (d.start x.1 ++ x.1.pieces.filter fun piece => !Path.isIdle piece) x.2) empty

/-- The files in the working folder that are new or changed. -/
def changes (before after : Folder) : List (Location × Bytes) :=
  after.entries.filterMap fun (l, e) =>
    match e with
    | .directory => none
    | .file content =>
      if before.working.isPrefixOf l && before.entryAt? l ≠ some e then
        some (l.drop before.working.length, content)
      else none

end Folder

end LabGrader
