import LabGrader.Json.Reader
import LabGrader.Settings.Basic

/-!
# Layers of settings

A layer holds the settings that a file gives. Laid over settings it replaces what it names and
leaves the rest.
-/

namespace LabGrader

structure Layer where
  defaultModel : Option Text := none
  aliases : List (Text × Text) := []
  apiKey : Option Text := none
  temperature : Option Number := none
  apiBase : Option Text := none
  braceCost : Option Style.Cost := none
  boundaryCost : Option Style.Cost := none
  boundary : Option Text := none
  maxRetries : Option Nat := none
  timeoutSeconds : Option Nat := none
  concurrency : Option Nat := none
  breakdownFolder : Option Path := none
deriving DecidableEq

namespace Layer

structure CostDraft where
  per : Option Number := none
  most : Option Number := none

def costReader : Json.Reader Style.Cost :=
  let number := Json.numberReader .binary64
  Json.recordReader
    [ { name := "per".toList, isSet := fun d => d.per.isSome, mayEnd := false
        read := fun d => return { d with per := some (← number) } },
      { name := "max".toList, isSet := fun d => d.most.isSome, mayEnd := false
        read := fun d => return { d with most := some (← number) } } ]
    ({} : CostDraft)
    fun d => return ⟨← d.per, ← d.most⟩

/-- The costs of both rules, each of a type that says whether it may be `null`. -/
structure CostsDraft (α : Type) where
  braces : Option α := none
  boundary : Option α := none

def costsReader {α : Type} (cost : Json.Reader α) : Json.Reader (CostsDraft α) :=
  Json.recordReader
    [ { name := "brackets".toList, isSet := fun d => d.braces.isSome, mayEnd := true
        read := fun d => return { d with braces := some (← cost) } },
      { name := "new_lines".toList, isSet := fun d => d.boundary.isSome, mayEnd := true
        read := fun d => return { d with boundary := some (← cost) } } ]
    ({} : CostsDraft α) some

/-- Costs of which each may be missing and none may be `null`. -/
def fullCostsReader : Json.Reader Style.Costs := do
  let d ← costsReader costReader
  let standard : Style.Costs := {}
  return ⟨d.braces.getD standard.braces, d.boundary.getD standard.boundary⟩

/-- Keys by the service they are for; there is one service. -/
def keysReader : Json.Reader (Option Text) := do
  let key ← Json.recordReader
    [ { name := "openai".toList, isSet := Option.isSome, mayEnd := true
        read := fun _ => return some (← Json.optional Json.textReader) } ]
    (none : Option (Option Text)) some
  return key.join

structure Draft where
  defaultModel : Option (Option Text) := none
  aliases : Option (List (Text × Text)) := none
  keys : Option (Option Text) := none
  temperature : Option (Option Number) := none
  apiBase : Option (Option Text) := none
  costs : Option (Option (CostsDraft (Option Style.Cost))) := none
  boundary : Option (Option Text) := none
  maxRetries : Option (Option Nat) := none
  timeoutSeconds : Option (Option Nat) := none
  concurrency : Option (Option Nat) := none
  breakdownFolder : Option (Option Text) := none

def Draft.finish (d : Draft) : Layer :=
  { defaultModel := d.defaultModel.join
    aliases := (d.aliases.getD []).reverse
    apiKey := d.keys.join
    temperature := d.temperature.join
    apiBase := d.apiBase.join
    braceCost := d.costs.join.bind fun c => c.braces.join
    boundaryCost := d.costs.join.bind fun c => c.boundary.join
    boundary := d.boundary.join
    maxRetries := d.maxRetries.join
    timeoutSeconds := d.timeoutSeconds.join
    concurrency := d.concurrency.join
    breakdownFolder := d.breakdownFolder.join.map Path.mk }

def reader : Json.Reader Layer :=
  let text := Json.optional Json.textReader
  let natural (limit : Nat) := Json.optional (Json.naturalReader limit)
  Json.recordReader
    [ { name := "default_model".toList, isSet := fun d => d.defaultModel.isSome, mayEnd := true
        read := fun d => return { d with defaultModel := some (← text) } },
      { name := "model_map".toList, isSet := fun d => d.aliases.isSome, mayEnd := true
        read := fun d => return { d with aliases := some (← Json.mapReader Json.textReader) } },
      { name := "api_keys".toList, isSet := fun d => d.keys.isSome, mayEnd := true
        read := fun d => return { d with keys := some (← keysReader) } },
      { name := "default_temperature".toList, isSet := fun d => d.temperature.isSome, mayEnd := true
        read := fun d =>
          return { d with temperature := some (← Json.optional (Json.numberReader .binary32)) } },
      { name := "api_base".toList, isSet := fun d => d.apiBase.isSome, mayEnd := true
        read := fun d => return { d with apiBase := some (← text) } },
      { name := "format_scoring".toList, isSet := fun d => d.costs.isSome, mayEnd := true
        read := fun d => do
          let costs := Json.optional (costsReader (Json.optional costReader))
          return { d with costs := some (← costs) } },
      { name := "required_boundary_print".toList, isSet := fun d => d.boundary.isSome
        mayEnd := true
        read := fun d => return { d with boundary := some (← text) } },
      { name := "max_retries".toList, isSet := fun d => d.maxRetries.isSome, mayEnd := true
        read := fun d => return { d with maxRetries := some (← natural (Nat.pow 2 32 - 1)) } },
      { name := "timeout_secs".toList, isSet := fun d => d.timeoutSeconds.isSome, mayEnd := true
        read := fun d => return { d with timeoutSeconds := some (← natural (Nat.pow 2 64 - 1)) } },
      { name := "max_concurrency".toList, isSet := fun d => d.concurrency.isSome, mayEnd := true
        read := fun d => return { d with concurrency := some (← natural (Nat.pow 2 64 - 1)) } },
      { name := "grading_breakdown_folder".toList, isSet := fun d => d.breakdownFolder.isSome
        mayEnd := true
        read := fun d => return { d with breakdownFolder := some (← text) } } ]
    ({} : Draft) fun d => some d.finish

end Layer

namespace Settings

/-- The access that a layer's key opens if there is none yet; the rest comes from the environment.
-/
def accessUnder (env : Environment) (s : Settings) (l : Layer) : Option Access :=
  match s.access, l.apiKey with
  | some a, _ => some a
  | none, none => none
  | none, some key =>
    Access.ofEnvironment? fun name => if name = "OPENAI_API_KEY".toList then some key else env name

/-- Lays a layer over settings. The model is looked up among the aliases of all layers so far, also
when it is an earlier one. -/
def apply (env : Environment) (s : Settings) (l : Layer) : Settings :=
  let opened : Settings :=
    { s with aliases := l.aliases ++ s.aliases, access := accessUnder env s l }
  let modelled := match l.defaultModel.or (opened.access.map Access.model) with
    | some model => opened.setModel model
    | none => opened
  { modelled with
    access := modelled.access.map fun a =>
      { a with
        temperature := l.temperature.or a.temperature
        apiBase := l.apiBase.getD a.apiBase }
    costs :=
      ⟨l.braceCost.getD s.costs.braces, l.boundaryCost.getD s.costs.boundary⟩
    boundary := l.boundary.getD s.boundary
    retry := { s.retry with maxRetries := l.maxRetries.getD s.retry.maxRetries }
    timeout := (l.timeoutSeconds.map Duration.ofSeconds).getD s.timeout
    concurrency := l.concurrency.getD s.concurrency
    breakdownFolder := l.breakdownFolder.getD s.breakdownFolder }

end Settings

end LabGrader
