import LabGrader.Folder.Basic
import LabGrader.Folder.Pattern

/-!
# Searching folders

Files are found by a pattern of pieces between slashes. A plain piece leads to one place and is
shown as it is written; a piece with wildcards leads to every name that it admits. The wildcards of
the folder that a search starts in count as well. What cannot be listed is passed over.
-/

namespace LabGrader.Folder

/-- A place on the way, and the path that shows how it was reached. -/
structure Stop where
  path : Path
  location : Location
deriving DecidableEq

namespace Stop

/-- The working folder, which is left out of the paths below it. -/
def origin (d : Folder) : Stop := ⟨⟨['.']⟩, d.working⟩

def root : Stop := ⟨⟨['/']⟩, []⟩

def isOrigin (s : Stop) : Bool := s.path.text = ['.']

def enter (s : Stop) (piece : Text) (l : Location) : Stop :=
  ⟨if s.isOrigin then ⟨piece⟩ else s.path.join piece, l⟩

def name (s : Stop) : Text := s.location.getLastD []

end Stop

/-- Follows a plain piece to a place that exists. -/
def follow (d : Folder) (s : Stop) (piece : Text) : Option Stop :=
  if s.isOrigin && piece.isEmpty then none
  else match d.enter s.location piece with
    | .error _ => none
    | .ok l => if (d.entryAt? l).isSome then some (s.enter piece l) else none

/-- Every place but the root where something stands. -/
def locations (d : Folder) : List Location :=
  (List.range d.working.length).map (fun n => d.working.take (n + 1)) ++ d.entries.map Prod.fst

/-- Whether the directories can be listed that some names lead through, from `l` on. -/
def lists (d : Folder) (l : Location) (names : List Text) : Bool :=
  (List.range names.length).all fun n => (d.refusal? .list (l ++ names.take n)).isNone

def children (d : Folder) (s : Stop) : List Stop :=
  d.locations.filterMap fun l =>
    match l.getLast? with
    | none => none
    | some name =>
      if l.dropLast = s.location && d.lists s.location [name] then some (s.enter name l) else none

/-- What stands in the folder of a stop at any depth. -/
def descendants (d : Folder) (s : Stop) : List Stop :=
  d.locations.filterMap fun l =>
    let names := l.drop s.location.length
    if s.location.isPrefixOf l && s.location ≠ l && d.lists s.location names then
      some (names.foldl (fun s name => s.enter name (s.location ++ [name])) s)
    else none

/-- The ways that a dotted pattern leads to the folder itself and to the one around it. -/
def dots (d : Folder) (s : Stop) (tokens : List Pattern.Token) : List Stop :=
  if tokens.head? ≠ some (.char '.') then []
  else [['.'], ['.', '.']].filterMap fun piece =>
    if Pattern.admits tokens piece && d.lists s.location [piece] then
      match d.enter s.location piece with
      | .ok l => some ⟨s.path.join piece, l⟩
      | .error _ => none
    else none

/-- The stops that the pieces of a pattern lead to. -/
def expand (d : Folder) : List (List Pattern.Token) → Stop → List Stop
  | [], s => [s]
  | [.anyFolders] :: [.anyFolders] :: rest, s => expand d ([.anyFolders] :: rest) s
  | [.anyFolders] :: tokens :: rest, s =>
    ((descendants d s).filter fun e =>
      Pattern.admits tokens e.name && (rest.isEmpty || d.isDirectory e.location)).flatMap
        fun e => expand d rest e
  | tokens :: rest, s =>
    match Pattern.literal? tokens with
    | some piece =>
      match follow d s piece with
      | none => []
      | some next => expand d rest next
    | none =>
      if d.isDirectory s.location then
        (((children d s).filter fun e =>
          Pattern.admits tokens e.name && (rest.isEmpty || d.isDirectory e.location)) ++
            dots d s tokens).flatMap fun e => expand d rest e
      else []

/-- The pieces of a pattern; one slash at the end adds none. -/
def patternPieces (pattern : Text) : List Text :=
  let pieces := pattern.splitOn '/'
  if pieces.getLast? = some [] then pieces.dropLast else pieces

/-- Where the pieces of a pattern start, and those that lead on. A slash in front makes an empty first
piece. -/
def outset (d : Folder) : List Text → Stop × List Text
  | [] :: pieces => (.root, pieces)
  | pieces => (.origin d, pieces)

/-- The files with an extension in a folder at any depth, in the order of their paths. -/
def filesWith (d : Folder) (extension : Text) (root : Path) :
    Except Pattern.Error (List Path) := do
  let pattern := ((root.join "**".toList).join ("*.".toList ++ extension)).text
  let _ ← Pattern.parse pattern
  let (start, pieces) := outset d (patternPieces pattern)
  let tokens ← pieces.mapM Pattern.parse
  let stops := if pattern.getLast? = some '/' then [] else expand d tokens start
  return ((stops.map Stop.path).filter d.isFilePath).mergeSort fun p q => (p.order q).isLE

end LabGrader.Folder
