import LabGrader.Folder.Basic
import LabGrader.Settings.Basic
import LabGrader.Text.Alphanumeric
import LabGrader.Text.Lines

/-!
# Environment files

An environment file gives values to variables that are not set, one assignment on a line. Quotes may
run over several lines. Everything up to the first faulty line counts.
-/

namespace LabGrader.EnvironmentFile

def name : Text := ".env".toList

/-- A place in a line while its end is looked for. -/
inductive LinePlace where
  | plain
  | blank
  | escape
  | weak
  | weakEscape
  | strong
  | strongEscape
deriving DecidableEq

namespace LinePlace

/-- Where a character leads from outside of quotes. -/
def enter (c : Char) : LinePlace :=
  if c = '\\' then .escape
  else if c = '"' then .weak
  else if c = '\'' then .strong
  else .plain

/-- The next place; none where a comment starts. -/
def next? : LinePlace → Char → Option LinePlace
  | .plain, c => some (if Text.isBlank c && c ≠ '\n' && c ≠ '\r' then .blank else enter c)
  | .blank, c => if c = '#' then none else some (enter c)
  | .escape, _ => some .plain
  | .weak, c => some (if c = '\\' then .weakEscape else if c = '"' then .plain else .weak)
  | .weakEscape, _ => some .weak
  | .strong, c => some (if c = '\\' then .strongEscape else if c = '\'' then .plain else .strong)
  | .strongEscape, _ => some .strong

end LinePlace

/-- The row before a comment, and the place at its end; none if a comment ends it. -/
def scanRow (place : LinePlace) : Text → Text × Option LinePlace
  | [] => ([], some place)
  | c :: rest =>
    match place.next? c with
    | none => ([], none)
    | some next =>
      let (kept, last) := scanRow next rest
      (c :: kept, last)

/-- The lines of a file, with those that belong together in one. A line without an end is left out;
it is faulty. -/
def linesFrom (pending : Text) (place : LinePlace) : List Text → List Text
  | [] => []
  | row :: rest =>
    let buffer := pending ++ row
    if (Text.trimStart buffer).head? = some '#' then linesFrom [] .plain rest
    else match scanRow place row with
      | (kept, none) => (pending ++ kept) :: linesFrom [] .plain rest
      | (_, some next) =>
        if next = .plain then Text.chomp buffer :: linesFrom [] .plain rest
        else linesFrom buffer next rest

/-- A place in a value. Inside of weak quotes names are replaced, too. -/
inductive ValuePlace where
  | plain
  | weak
  | strong
  | ended
  | escape (quoted : Bool)
  | reference (quoted : Bool) (seen : Text)
  | braced (quoted : Bool) (seen : Text)

namespace ValuePlace

def outside (quoted : Bool) : ValuePlace := if quoted then .weak else .plain

/-- The next place and what the character adds to the value; none if it must not stand there. The
character that ends a reference is taken as it is. -/
def next? (value : Text → Text) : ValuePlace → Char → Option (ValuePlace × Text)
  | .ended, c => if c = ' ' ∨ c = '\t' then some (.ended, []) else none
  | .escape quoted, c =>
    if c = '\\' ∨ c = '\'' ∨ c = '"' ∨ c = '$' ∨ c = ' ' then some (outside quoted, [c])
    else if c = 'n' then some (outside quoted, ['\n'])
    else none
  | .strong, c => if c = '\'' then some (.plain, []) else some (.strong, [c])
  | .reference quoted seen, c =>
    if Text.isAlphanumeric c then some (.reference quoted (seen ++ [c]), [])
    else if c = '{' ∧ seen = [] then some (.braced quoted [], [])
    else if c = '$' then some (.reference quoted [], value seen)
    else some (outside quoted, value seen ++ [c])
  | .braced quoted seen, c =>
    if c = '}' then some (outside quoted, value seen) else some (.braced quoted (seen ++ [c]), [])
  | .weak, c =>
    if c = '$' then some (.reference true [], [])
    else if c = '"' then some (.plain, [])
    else if c = '\\' then some (.escape true, [])
    else some (.weak, [c])
  | .plain, c =>
    if c = '$' then some (.reference false [], [])
    else if c = '\'' then some (.strong, [])
    else if c = '"' then some (.weak, [])
    else if c = '\\' then some (.escape false, [])
    else if c = ' ' ∨ c = '\t' then some (.ended, [])
    else some (.plain, [c])

/-- What the end of the line adds to the value; none inside of quotes. -/
def finish? (value : Text → Text) : ValuePlace → Option Text
  | .plain => some []
  | .ended => some []
  | .escape quoted => if quoted then none else some []
  | .reference quoted seen => if quoted then none else some (value seen)
  | _ => none

end ValuePlace

/-- Reads a value; a comment may follow after a blank. -/
def readValue? (value : Text → Text) (place : ValuePlace) : Text → Option Text
  | [] => place.finish? value
  | c :: rest =>
    match place, c with
    | .ended, '#' => some []
    | _, _ =>
      match place.next? value c with
      | none => none
      | some (next, added) => (readValue? value next rest).map (added ++ ·)

def isKeyStart (c : Char) : Bool := c.isAlpha || c = '_'

def isKeyPart (c : Char) : Bool := c.isAlphanum || c = '_' || c = '.'

/-- A key and the text after it and after blanks. -/
def takeKey? (t : Text) : Option (Text × Text) :=
  if t.head?.any isKeyStart then
    some (t.takeWhile isKeyPart, Text.trimStart (t.dropWhile isKeyPart))
  else none

def takeEqual? : Text → Option Text
  | '=' :: rest => some (Text.trimStart rest)
  | _ => none

/-- The key of a line and the text of its value. The word `export` may stand before the key, or be
one itself. -/
def takeAssignment? (line : Text) : Option (Text × Text) := do
  let (key, rest) ← takeKey? line
  match takeEqual? rest with
  | some value => return (key, value)
  | none =>
    if key = "export".toList then
      let (key, rest) ← takeKey? rest
      return (key, ← takeEqual? rest)
    else none

/-- What a file has said so far: the variables it sets, and every value that it gives. -/
structure Reading where
  added : List (Text × Text) := []
  given : List (Text × Text) := []

namespace Reading

def environment (env : Environment) (r : Reading) : Environment :=
  fun key => (env key).or (r.added.lookup key)

def value (env : Environment) (r : Reading) (key : Text) : Text :=
  ((r.environment env key).or (r.given.lookup key)).getD []

def assign (env : Environment) (r : Reading) (key value : Text) : Reading :=
  { added := if (r.environment env key).isSome then r.added else (key, value) :: r.added
    given := (key, value) :: r.given }

end Reading

/-- Goes through lines up to the first faulty one. -/
def readLines (env : Environment) (r : Reading) : List Text → Reading
  | [] => r
  | line :: rest =>
    let line := Text.trim line
    if line.isEmpty || line.head? = some '#' then readLines env r rest
    else match takeAssignment? line with
      | none => r
      | some (key, written) =>
        if written.isEmpty || written.head? = some '#' then
          readLines env (r.assign env key []) rest
        else match readValue? (r.value env) .plain written with
          | none => r
          | some value => readLines env (r.assign env key value) rest

/-- The rows of a file up to the first one that is no text. -/
def readableRows (content : Bytes) : List Text :=
  let pieces := content.splitOn 10
  let rows := pieces.dropLast.map (· ++ [10]) ++ [pieces.getLastD []]
  (((rows.map Text.ofUtf8?).takeWhile Option.isSome).filterMap id).filter fun row => !row.isEmpty

def dropMark : List Text → List Text
  | ('\uFEFF' :: row) :: rest => row :: rest
  | rows => rows

/-- The place of the file in a folder, if it is there. -/
def lookIn (d : Folder) (l : Location) : Except SystemError (Option Location) :=
  match d.enter l name with
  | .error .notFound => .ok none
  | .error cause => .error cause
  | .ok here => .ok (if (d.entryAt? here).any (· ≠ .directory) then some here else none)

/-- The place of the file in the folder that the first `n` names of the working folder lead to, or
else in the nearest one around it. The search ends at a folder that cannot be looked into. -/
def find? (d : Folder) : Nat → Option Location
  | 0 => ((lookIn d []).toOption).join
  | n + 1 =>
    match lookIn d (d.working.take (n + 1)) with
    | .error _ => none
    | .ok (some here) => some here
    | .ok none => find? d n

/-- An environment completed by the file in the working folder or the nearest one around it, if there
is one. Variables that are set keep their values. -/
def complete (env : Environment) (d : Folder) : Environment :=
  match (find? d d.working.length).map d.readAt with
  | some (.ok content) =>
    (readLines env {} (linesFrom [] .plain (dropMark (readableRows content)))).environment env
  | _ => env

end LabGrader.EnvironmentFile
