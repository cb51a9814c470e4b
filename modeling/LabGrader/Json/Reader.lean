import LabGrader.Json.Token

/-!
# Typed reading of JSON texts

A reader takes a value of its type off the front of a text. A structure is read from an object with
its fields in any order and other members among them, or from an array of its fields in order.
-/

namespace LabGrader.Json

abbrev Reader := StateT Text (Except Fault)

/-- The fault of a text that starts with a value of the wrong kind: `unwanted` if the value is in
order as far as a reader looks at it. -/
def mismatch (t : Text) : Fault :=
  let judge {α : Type} (r : Except Fault α) : Fault :=
    match r with
    | .error e => e
    | .ok _ => .unwanted
  match t with
  | [] => .cutShort
  | 'n' :: rest => judge (takeWord "ull".toList rest)
  | 't' :: rest => judge (takeWord "rue".toList rest)
  | 'f' :: rest => judge (takeWord "alse".toList rest)
  | '"' :: rest => judge (takeString [] .plain rest)
  | '-' :: rest => judge (Numeral.take true rest)
  | c :: _ =>
    if c.isDigit then judge (Numeral.take false t)
    else if c = '[' ∨ c = '{' then .unwanted
    else .malformed

def takeOpen (bracket : Char) : Reader Unit := fun t =>
  match skipSpace t with
  | [] => .error .cutShort
  | c :: rest => if c = bracket then .ok ((), rest) else .error (mismatch (c :: rest))

/-- Passes the bracket that closes an array or an object after its last part. -/
def takeClose (bracket : Char) : Reader Unit := fun t =>
  match skipSpace t with
  | [] => .error .cutShort
  | c :: rest => if c = bracket then .ok ((), rest) else .error .malformed

def textReader : Reader Text := fun t =>
  match skipSpace t with
  | '"' :: rest => takeString [] .plain rest
  | t => .error (mismatch t)

def numeralReader : Reader Numeral := fun t =>
  match skipSpace t with
  | '-' :: rest => Numeral.take true rest
  | t => if t.head?.any Char.isDigit then Numeral.take false t else .error (mismatch t)

def numberReader (f : BinaryFormat) : Reader Number := return (← numeralReader).toNumber f

/-- A whole number up to a limit. -/
def naturalReader (limit : Nat) : Reader Nat := do
  match ← numeralReader with
  | .whole n => if n ≤ limit then return n else throw .unwanted
  | _ => throw .unwanted

/-- A value, or `null`. -/
def optional {α : Type} (r : Reader α) : Reader (Option α) := fun t =>
  match skipSpace t with
  | 'n' :: rest =>
    match takeWord "ull".toList rest with
    | .error e => .error e
    | .ok rest => .ok (none, rest)
  | t => (some <$> r) t

/-- Whether an array goes on with another element, and the text at that element or at the closing
bracket. -/
def nextElement (first : Bool) : Reader Bool := fun t =>
  match skipSpace t with
  | [] => .error .cutShort
  | ']' :: rest => .ok (false, ']' :: rest)
  | ',' :: rest =>
    if first then .ok (true, ',' :: rest)
    else match skipSpace rest with
      | [] => .error .cutShort
      | ']' :: _ => .error .malformed
      | rest => .ok (true, rest)
  | rest => if first then .ok (true, rest) else .error .malformed

/-- Whether an object goes on with another member, and the text after the quote that opens its key
or at the closing bracket. -/
def nextMember (first : Bool) : Reader Bool := fun t =>
  let key (t : Text) : Except Fault (Bool × Text) :=
    match t with
    | [] => .error .cutShort
    | '"' :: rest => .ok (true, rest)
    | _ => .error .malformed
  match skipSpace t with
  | [] => .error .cutShort
  | '}' :: rest => .ok (false, '}' :: rest)
  | ',' :: rest => if first then .error .malformed else key (skipSpace rest)
  | rest => if first then key rest else .error .malformed

def takeColon : Reader Unit := fun t =>
  match skipSpace t with
  | [] => .error .cutShort
  | ':' :: rest => .ok ((), rest)
  | _ => .error .malformed

def keyReader : Reader Text := fun t => takeString [] .plain t

/-- The elements from here to the closing bracket; each takes at least one character. -/
def elements {α : Type} (r : Reader α) : Nat → Bool → Reader (List α)
  | 0, _ => throw .malformed
  | fuel + 1, first => do
    if ← nextElement first then
      let x ← r
      return x :: (← elements r fuel false)
    else return []

def listReader {α : Type} (r : Reader α) : Reader (List α) := do
  takeOpen '['
  let xs ← elements r ((← get).length + 1) true
  takeClose ']'
  return xs

/-- Members whose keys are data; of two with one key the later counts. -/
def members {α : Type} (r : Reader α) : Nat → Bool → Reader (List (Text × α))
  | 0, _ => throw .malformed
  | fuel + 1, first => do
    if ← nextMember first then
      let key ← keyReader
      takeColon
      let x ← r
      return (key, x) :: (← members r fuel false)
    else return []

def mapReader {α : Type} (r : Reader α) : Reader (List (Text × α)) := do
  takeOpen '{'
  let xs ← members r ((← get).length + 1) true
  takeClose '}'
  return xs

/-- Where a value that is passed over goes on: at a value, right after an opening bracket, or after
a value. -/
inductive PassPlace where
  | value
  | opened
  | after

/-- Passes a value by the grammar alone. `open` are the brackets around the place; every step takes
at least one character or ends. -/
def pass : Nat → PassPlace → List Char → Text → Except Fault Text
  | 0, _, _, _ => .error .malformed
  | fuel + 1, place, brackets, t =>
    let entry (brackets : List Char) (t : Text) : Except Fault Text :=
      if brackets.head? = some '{' then
        match skipSpace t with
        | [] => .error .cutShort
        | '"' :: rest => do
          let rest ← passString .plain rest
          let ((), rest) ← takeColon rest
          pass fuel .value brackets rest
        | _ => .error .malformed
      else pass fuel .value brackets t
    match place, brackets with
    | .value, _ =>
      match skipSpace t with
      | [] => .error .cutShort
      | 'n' :: rest => do pass fuel .after brackets (← takeWord "ull".toList rest)
      | 't' :: rest => do pass fuel .after brackets (← takeWord "rue".toList rest)
      | 'f' :: rest => do pass fuel .after brackets (← takeWord "alse".toList rest)
      | '"' :: rest => do pass fuel .after brackets (← passString .plain rest)
      | '-' :: rest => do pass fuel .after brackets (← Numeral.pass rest)
      | '[' :: rest => pass fuel .opened ('[' :: brackets) rest
      | '{' :: rest => pass fuel .opened ('{' :: brackets) rest
      | c :: rest =>
        if c.isDigit then do pass fuel .after brackets (← Numeral.pass (c :: rest))
        else .error .malformed
    | _, [] => .ok t
    | place, bracket :: outer =>
      match skipSpace t with
      | [] => .error .cutShort
      | c :: rest =>
        if c = (if bracket = '[' then ']' else '}') then pass fuel .after outer rest
        else match place with
          | .opened => entry brackets (c :: rest)
          | _ => if c = ',' then entry brackets rest else .error .malformed

def passValue : Reader Unit := fun t => do
  return ((), ← pass (2 * t.length + 2) .value [] t)

/-- A field of a structure that is read into `σ`. -/
structure Field (σ : Type) where
  name : Text
  /-- whether the field was read already -/
  isSet : σ → Bool
  read : σ → Reader σ
  /-- whether an array may end before the field -/
  mayEnd : Bool

/-- Fields in order, up to the end of the array. -/
def readArray {σ : Type} : List (Field σ) → Bool → σ → Reader σ
  | [], _, s => return s
  | field :: rest, first, s => do
    if ← nextElement first then readArray rest false (← field.read s)
    else if (field :: rest).all Field.mayEnd then return s
    else throw .unwanted

/-- Members in any order; a field may stand once, and what is no field is passed over. -/
def readObject {σ : Type} (fields : List (Field σ)) : Nat → Bool → σ → Reader σ
  | 0, _, _ => throw .malformed
  | fuel + 1, first, s => do
    if ← nextMember first then
      let key ← keyReader
      match fields.find? fun field => field.name = key with
      | none =>
        takeColon
        passValue
        readObject fields fuel false s
      | some field =>
        if field.isSet s then throw .unwanted
        takeColon
        readObject fields fuel false (← field.read s)
    else return s

/-- Reads a structure; `finish` says which fields must not be missing in an object. -/
def recordReader {σ α : Type} (fields : List (Field σ)) (start : σ) (finish : σ → Option α) :
    Reader α := fun t =>
  let finished (s : σ) : Reader α :=
    match finish s with
    | some x => pure x
    | none => throw .unwanted
  match skipSpace t with
  | '[' :: rest => (do
    let s ← readArray fields true start
    let x ← finished s
    takeClose ']'
    return x : Reader α) rest
  | '{' :: rest => (do
    let s ← readObject fields (rest.length + 1) true start
    let x ← finished s
    takeClose '}'
    return x : Reader α) rest
  | t => .error (mismatch t)

def parse {α : Type} (r : Reader α) (t : Text) : Except Fault α := do
  let (x, rest) ← r t
  if (skipSpace rest).isEmpty then .ok x else .error .malformed

end LabGrader.Json
