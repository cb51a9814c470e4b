import LabGrader.Text.Basic

/-!
# Paths

A path is kept as it was written, since messages show it that way. Its pieces stand between
slashes; its components leave out empty pieces and dots that name the folder they stand in.
-/

namespace LabGrader

structure Path where
  text : Text
deriving DecidableEq, Inhabited

namespace Path

inductive Component where
  | root
  | current
  | parent
  | name (text : Text)
deriving DecidableEq

def ofString (s : String) : Path := ⟨s.toList⟩

def isEmpty (p : Path) : Bool := p.text.isEmpty

def isAbsolute (p : Path) : Bool := p.text.head? = some '/'

def pieces (p : Path) : List Text := p.text.splitOn '/'

/-- A piece that does not move: an empty one, or a dot. -/
def isIdle (piece : Text) : Bool := piece.isEmpty || piece = ['.']

def Component.ofPiece (piece : Text) : Component :=
  if piece = ['.', '.'] then .parent else .name piece

/-- A dot counts only as the very first piece. -/
def components (p : Path) : List Component :=
  let moves := (p.pieces.filter fun piece => !isIdle piece).map Component.ofPiece
  if p.isAbsolute then .root :: moves
  else if p.pieces.head? = some ['.'] then .current :: moves
  else moves

def fileName? (p : Path) : Option Text :=
  match p.components.getLast? with
  | some (.name n) => some n
  | _ => none

/-- The name before its last dot and the part after it; a dot in front starts no extension. -/
def splitName (name : Text) : Text × Option Text :=
  let (ending, rest) := (name.reverse.takeWhile (· ≠ '.'), name.reverse.dropWhile (· ≠ '.'))
  match rest with
  | '.' :: front => if front.isEmpty then (name, none) else (front.reverse, some ending.reverse)
  | _ => (name, none)

def stem? (p : Path) : Option Text := p.fileName?.map fun n => (splitName n).1

def extension? (p : Path) : Option Text := p.fileName?.bind fun n => (splitName n).2

def join (p : Path) (name : Text) : Path :=
  if name.head? = some '/' || p.isEmpty then ⟨name⟩
  else if p.text.getLast? = some '/' then ⟨p.text ++ name⟩
  else ⟨p.text ++ '/' :: name⟩

/-- Drops pieces that do not move from the end, the latest piece standing first. A dot that is all
there is stays. -/
def dropIdle : List Text → List Text
  | [] => []
  | [piece] => if piece.isEmpty then [] else [piece]
  | piece :: rest => if isIdle piece then dropIdle rest else piece :: rest

/-- The path without its last component; none for the empty path and the root. -/
def parent? (p : Path) : Option Path :=
  let (slash, inner) := if p.isAbsolute then (['/'], p.text.dropWhile (· = '/')) else ([], p.text)
  match dropIdle (inner.splitOn '/').reverse with
  | [] => none
  | [piece] => if p.isAbsolute && isIdle piece then none else some ⟨slash⟩
  | _ :: rest => some ⟨slash ++ Text.joinWith ['/'] (dropIdle rest).reverse⟩

namespace Component

def rank : Component → Nat
  | .root => 0
  | .current => 1
  | .parent => 2
  | .name _ => 3

def order : Component → Component → Ordering
  | .name a, .name b => Text.order a b
  | a, b => compare a.rank b.rank

end Component

/-- Component by component, a folder before what it holds. -/
def orderComponents : List Component → List Component → Ordering
  | [], [] => .eq
  | [], _ :: _ => .lt
  | _ :: _, [] => .gt
  | a :: s, b :: t => (a.order b).then (orderComponents s t)

def order (p q : Path) : Ordering := orderComponents p.components q.components

end Path

end LabGrader
