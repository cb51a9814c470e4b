import LabGrader.Text.Basic

/-!
# Name patterns

A pattern names files with wildcards: `?` is any character, `*` any characters, brackets hold a
choice of characters, and two stars that fill the space between slashes lead through any folders.
-/

namespace LabGrader.Pattern

inductive Problem where
  | tooManyStars
  | starsBesideText
  | openBracket
deriving DecidableEq

structure Error where
  position : Nat
  problem : Problem
deriving DecidableEq

def Problem.message : Problem → Text
  | .tooManyStars => "wildcards are either regular `*` or recursive `**`".toList
  | .starsBesideText => "recursive wildcards must form a single path component".toList
  | .openBracket => "invalid range pattern".toList

def Error.message (e : Error) : Text :=
  "Pattern syntax error near position ".toList ++ Text.ofNat e.position ++ ": ".toList ++
    e.problem.message

inductive Token where
  | char (c : Char)
  | anyChar
  | anyText
  | anyFolders
  /-- a character from one of the ranges, or from none of them -/
  | oneOf (ranges : List (Char × Char)) (negated : Bool)
deriving DecidableEq

/-- The ranges between brackets; a character alone is a range of one. -/
def ranges : Text → List (Char × Char)
  | a :: '-' :: b :: rest => (a, b) :: ranges rest
  | a :: rest => (a, a) :: ranges rest
  | [] => []

/-- A bracket expression after its opening bracket: what it admits, and the text after it. The first
character inside does not close it. -/
def takeBracket? (t : Text) : Option (Token × Text) :=
  let close (first : Text) (rest : Text) (negated : Bool) : Option (Token × Text) :=
    match rest.dropWhile (· ≠ ']') with
    | [] => none
    | _ :: after => some (.oneOf (ranges (first ++ rest.takeWhile (· ≠ ']'))) negated, after)
  match t with
  | '!' :: c :: rest => close [c] rest true
  | '!' :: [] => none
  | c :: rest => close [c] rest false
  | [] => none

/-- Reads tokens from position `i`; `slash` says whether a slash or nothing stands before. Every
token takes at least one character, so the length is fuel enough. -/
def parseFrom : Nat → Nat → Bool → Text → Except Error (List Token)
  | 0, _, _, _ => .ok []
  | _, _, _, [] => .ok []
  | fuel + 1, i, slash, c :: rest =>
    if c = '?' then do return .anyChar :: (← parseFrom fuel (i + 1) false rest)
    else if c = '*' then
      let stars := 1 + (rest.takeWhile (· = '*')).length
      let after := rest.dropWhile (· = '*')
      if 2 < stars then .error ⟨i + 2, .tooManyStars⟩
      else if stars = 1 then do return .anyText :: (← parseFrom fuel (i + 1) false after)
      else if !slash then .error ⟨i - 1, .starsBesideText⟩
      else match after with
        | [] => .ok [.anyFolders]
        | d :: after =>
          if d = '/' then do return .anyFolders :: (← parseFrom fuel (i + 3) true after)
          else .error ⟨i + 2, .starsBesideText⟩
    else if c = '[' then
      match takeBracket? rest with
      | none => .error ⟨i, .openBracket⟩
      | some (token, after) => do
        return token :: (← parseFrom fuel (i + 1 + (rest.length - after.length)) false after)
    else do return .char c :: (← parseFrom fuel (i + 1) (c = '/') rest)

def parse (t : Text) : Except Error (List Token) := parseFrom t.length 0 true t

namespace Token

def admits : Token → Char → Bool
  | .char d, c => c = d
  | .oneOf ranges negated, c => (ranges.any fun r => r.1 ≤ c && c ≤ r.2) != negated
  | _, _ => true

end Token

/-- The texts at the end of a text, the whole one first. -/
def suffixes : Text → List Text
  | [] => [[]]
  | c :: rest => (c :: rest) :: suffixes rest

/-- Whether a name as a whole is one of those that the tokens describe. -/
def admits : List Token → Text → Bool
  | [], name => name.isEmpty
  | .anyText :: rest, name => (suffixes name).any (admits rest)
  | .anyFolders :: rest, name => (suffixes name).any (admits rest)
  | token :: rest, c :: name => token.admits c && admits rest name
  | _ :: _, [] => false

/-- The text that tokens without wildcards spell. -/
def literal? : List Token → Option Text
  | [] => some []
  | .char c :: rest => (literal? rest).map (c :: ·)
  | _ :: _ => none

end LabGrader.Pattern
