import LabGrader.Json.Reader
import LabGrader.Json.Value
import LabGrader.Judge.Retry
import LabGrader.Settings.Basic

/-!
# Judges behind a chat service

A chat service is asked by a JSON text with two messages, the instructions and the prompt. Its reply
holds choices, of which the first counts, or the report of an error.
-/

namespace LabGrader.Chat

def address (a : Access) : Text := a.apiBase ++ "/chat/completions".toList

def authorization (a : Access) : Text := "Bearer ".toList ++ a.apiKey

def message (role : String) (content : Text) : Json.Value :=
  .object [("role".toList, .text role.toList), ("content".toList, .text content)]

/-- The question as it is sent. One choice is wanted; the service has a temperature of its own. -/
def question (a : Access) (instructions prompt : Text) : Json.Value :=
  .object <|
    [("messages".toList, .list [message "system" instructions, message "user" prompt]),
      ("model".toList, .text a.model), ("n".toList, .ofNat 1)] ++
    match a.temperature with
    | none => []
    | some x => [("temperature".toList, .ofNumber .binary32 x)]

structure Reply where
  status : Nat
  body : Text
deriving DecidableEq

/-- What has been read of a structure: the one value that is wanted, the fields that must not be
missing, and the other fields. -/
structure Draft (α : Type) where
  value : Option α := none
  required : List String := []
  others : List String := []

namespace Draft

variable {α : Type}

def wanted (name : String) (r : Json.Reader α) : Json.Field (Draft α) :=
  { name := name.toList, isSet := fun d => d.value.isSome, mayEnd := false
    read := fun d => return { d with value := some (← r) } }

/-- A field of which only the type matters. -/
def checked {β : Type} (name : String) (r : Json.Reader β) : Json.Field (Draft α) :=
  { name := name.toList, isSet := fun d => d.required.contains name, mayEnd := false
    read := fun d => do
      let _ ← r
      return { d with required := name :: d.required } }

/-- A field that may be missing. -/
def other {β : Type} (name : String) (r : Json.Reader β) : Json.Field (Draft α) :=
  { name := name.toList, isSet := fun d => d.others.contains name, mayEnd := false
    read := fun d => do
      let _ ← r
      return { d with others := name :: d.others } }

def finish (count : Nat) (d : Draft α) : Option α :=
  if d.required.length = count then d.value else none

end Draft

def wordReader (words : List String) : Json.Reader Text := do
  let t ← Json.textReader
  if words.any fun word => word.toList = t then return t else throw .unwanted

def wholeReader : Json.Reader Nat := Json.naturalReader (Nat.pow 2 32 - 1)

/-- The content of a message; it may be `null` or missing. -/
def messageReader : Json.Reader (Option Text) :=
  Json.recordReader
    [ Draft.wanted "content" (Json.optional Json.textReader),
      Draft.other "refusal" (Json.optional Json.textReader),
      Draft.other "tool_calls" Json.passValue,
      Draft.checked "role" (wordReader ["system", "user", "assistant", "tool", "function"]),
      Draft.other "function_call" Json.passValue,
      Draft.other "audio" Json.passValue ]
    {}
    fun d => Draft.finish 1 { d with value := some d.value.join }

def choiceReader : Json.Reader (Option Text) :=
  Json.recordReader
    [ Draft.checked "index" wholeReader,
      Draft.wanted "message" messageReader,
      Draft.other "finish_reason" (Json.optional
        (wordReader ["stop", "length", "tool_calls", "content_filter", "function_call"])),
      Draft.other "logprobs" Json.passValue ]
    {} (Draft.finish 1)

def choicesReader : Json.Reader (List (Option Text)) :=
  Json.recordReader
    [ Draft.checked "id" Json.textReader,
      Draft.wanted "choices" (Json.listReader choiceReader),
      Draft.checked "created" wholeReader,
      Draft.checked "model" Json.textReader,
      Draft.other "service_tier" (Json.optional (wordReader ["scale", "default"])),
      Draft.other "system_fingerprint" (Json.optional Json.textReader),
      Draft.checked "object" Json.textReader,
      Draft.other "usage" Json.passValue ]
    {} (Draft.finish 4)

structure ReportDraft where
  message : Option Text := none
  kind : Option (Option Text) := none
  parameter : Option (Option Text) := none
  code : Option (Option Text) := none

def reportReader : Json.Reader ServiceReport :=
  let text := Json.optional Json.textReader
  Json.recordReader
    [ { name := "message".toList, isSet := fun d => d.message.isSome, mayEnd := false
        read := fun d => return { d with message := some (← Json.textReader) } },
      { name := "type".toList, isSet := fun d => d.kind.isSome, mayEnd := false
        read := fun d => return { d with kind := some (← text) } },
      { name := "param".toList, isSet := fun d => d.parameter.isSome, mayEnd := false
        read := fun d => return { d with parameter := some (← text) } },
      { name := "code".toList, isSet := fun d => d.code.isSome, mayEnd := false
        read := fun d => return { d with code := some (← text) } } ]
    ({} : ReportDraft)
    fun d => return ⟨← d.message, d.kind.join, d.parameter.join, d.code.join⟩

/-- A report stands in an object of its own. -/
def wrappedReportReader : Json.Reader ServiceReport :=
  Json.recordReader [Draft.wanted "error" reportReader] {} (Draft.finish 0)

def isSuccess (status : Nat) : Bool := 200 ≤ status && status < 300

/-- The answer in a reply: the first choice without blanks around it, unless nothing is left. -/
def Reply.attempt (r : Reply) : Attempt :=
  if isSuccess r.status then
    match Json.parse choicesReader r.body with
    | .error _ => .failed (.request .unreadableReply)
    | .ok choices =>
      let answer := Text.trim ((choices.head?.join).getD [])
      if answer.isEmpty then .failed .emptyResponse else .answered answer
  else
    match Json.parse wrappedReportReader r.body with
    | .error _ => .failed (.request .unreadableReply)
    | .ok report => .failed (.request (.reported report))

/-- What asking comes to, given the reply to the question, or none if the service is not there. -/
def attempt (a : Access) (reply : Option Reply) : Attempt :=
  match reply with
  | none => .failed (.request (.unreachable (address a)))
  | some r => r.attempt

end LabGrader.Chat
