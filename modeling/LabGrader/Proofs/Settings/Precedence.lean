import LabGrader.Settings.Load

/-!
# Settings come from the first source that has them

The sources of a setting are the overrides of the run, the settings file, the environment, and a
default, in this order as far as they can give it. Laying them over each other from the last to the
first leaves what the first of them says, and nothing else shows.
-/

namespace LabGrader.Settings

/-- The value of the first source that has one. -/
def firstOf {α : Type} (sources : List (Option α)) : Option α := sources.findSome? id

/-- A text without the blanks around it, unless there is nothing else. -/
def written (t : Option Text) : Option Text := (t.map Text.trim).filter fun t => !t.isEmpty

/-- A count in a variable, as large as a word of the machine can hold. -/
def counted (t : Option Text) : Option Nat := t.bind (Text.readNatural? (Nat.pow 2 64 - 1))

/-- The model behind a name. It is looked up once: what is found may be the name of another. -/
def resolve (aliases : List (Text × Text)) (name : Text) : Text := (aliases.lookup name).getD name

/-- The settings in which each value is that of its first source. The layer is what the settings
file says; without one it is empty. -/
def settled (env : Environment) (l : Layer) (o : Overrides) : Settings :=
  { access :=
      (firstOf [written (env "OPENAI_API_KEY".toList), written l.apiKey]).map fun apiKey =>
        { apiKey
          apiBase := (firstOf [l.apiBase, written (env "OPENAI_ENDPOINT".toList)]).getD
            "https://api.openai.com/v1".toList
          model := resolve l.aliases <|
            (firstOf [o.model, l.defaultModel, written (env "OPENAI_MODEL".toList)]).getD
              "gpt-4o".toList
          temperature := firstOf [l.temperature,
            (written (env "OPENAI_TEMPERATURE".toList)).bind (Number.read? .binary32)] }
    costs :=
      { braces := (firstOf [l.braceCost]).getD ⟨.finite 1, .finite 5⟩
        boundary := (firstOf [l.boundaryCost]).getD ⟨.finite 5, .finite 5⟩ }
    boundary := (firstOf [l.boundary]).getD "System.out.println(\"\\n\\n\\n\");".toList
    retry := ⟨(firstOf [l.maxRetries]).getD 3, .ofSeconds 1, .ofSeconds 30⟩
    timeout := .ofSeconds <|
      (firstOf [l.timeoutSeconds, counted (env "AIGRADE_TIMEOUT_SECS".toList)]).getD 120
    concurrency :=
      (firstOf [o.concurrency, l.concurrency, counted (env "AIGRADE_CONCURRENCY".toList)]).getD 4
    aliases := l.aliases
    breakdownFolder :=
      (firstOf [o.breakdownFolder, l.breakdownFolder]).getD (.ofString "GradingBreakdowns") }

section Sources
variable {α : Type} (x : Option α) (sources : List (Option α)) (standard : α)

theorem firstOf_nil : firstOf ([] : List (Option α)) = none := rfl

theorem firstOf_cons : firstOf (x :: sources) = x.or (firstOf sources) := by
  cases x with
  | none => rfl
  | some a => rfl

theorem getD_firstOf_nil : (firstOf []).getD standard = standard := rfl

/-- Defaults may be filled in from the last source to the first. -/
theorem getD_firstOf_cons :
    (firstOf (x :: sources)).getD standard = x.getD ((firstOf sources).getD standard) := by
  cases x with
  | none => rfl
  | some a => rfl

end Sources

section Access
variable (env : Environment)

def accessWith (key : Text) : Access :=
  { apiBase := (written (env "OPENAI_ENDPOINT".toList)).getD Access.defaultBase
    apiKey := key
    model := (written (env "OPENAI_MODEL".toList)).getD Access.defaultModel
    temperature :=
      (written (env "OPENAI_TEMPERATURE".toList)).bind (Number.read? .binary32) }

theorem ofEnvironment?_eq :
    Access.ofEnvironment? env = (written (env "OPENAI_API_KEY".toList)).map (accessWith env) := rfl

/-- A key from elsewhere does not change what the environment says otherwise. -/
theorem ofEnvironment?_withKey (key : Text) :
    Access.ofEnvironment?
        (fun name => if name = "OPENAI_API_KEY".toList then some key else env name) =
      (written (some key)).map (accessWith env) := rfl

theorem accessUnder_ofEnvironment (l : Layer) :
    accessUnder env (ofEnvironment env) l =
      (firstOf [written (env "OPENAI_API_KEY".toList), written l.apiKey]).map (accessWith env) := by
  have haccess : (ofEnvironment env).access =
      (written (env "OPENAI_API_KEY".toList)).map (accessWith env) := ofEnvironment?_eq env
  unfold accessUnder
  rw [haccess]
  cases written (env "OPENAI_API_KEY".toList) with
  | some key => rfl
  | none =>
    cases l.apiKey with
    | none => rfl
    | some key =>
      refine (ofEnvironment?_withKey env key).trans ?_
      cases written (some key) with
      | none => rfl
      | some key => rfl

end Access

section Layers
variable (env : Environment) (s : Settings) (l : Layer) (o : Overrides)

/-- Settings after a layer. The name of the model is looked up, whoever gave it. -/
theorem apply_eq : s.apply env l =
    { access := (accessUnder env s l).map fun a =>
        { a with
          model := resolve (l.aliases ++ s.aliases) (l.defaultModel.getD a.model)
          temperature := l.temperature.or a.temperature
          apiBase := l.apiBase.getD a.apiBase }
      costs := ⟨l.braceCost.getD s.costs.braces, l.boundaryCost.getD s.costs.boundary⟩
      boundary := l.boundary.getD s.boundary
      retry := { s.retry with maxRetries := l.maxRetries.getD s.retry.maxRetries }
      timeout := (l.timeoutSeconds.map Duration.ofSeconds).getD s.timeout
      concurrency := l.concurrency.getD s.concurrency
      aliases := l.aliases ++ s.aliases
      breakdownFolder := l.breakdownFolder.getD s.breakdownFolder } := by
  unfold apply
  cases accessUnder env s l with
  | none =>
    cases l.defaultModel with
    | none => rfl
    | some model => rfl
  | some a =>
    cases l.defaultModel with
    | none => rfl
    | some model => rfl

theorem override_eq : s.override o =
    { s with
      access := s.access.map fun a =>
        { a with model := (o.model.map (resolve s.aliases)).getD a.model }
      concurrency := o.concurrency.getD s.concurrency
      breakdownFolder := o.breakdownFolder.getD s.breakdownFolder } := by
  unfold override
  cases o.model with
  | none => simp
  | some model => rfl

theorem apply_ofEnvironment_empty : (ofEnvironment env).apply env {} = ofEnvironment env := by
  have hunder : accessUnder env (ofEnvironment env) {} = (ofEnvironment env).access := by
    unfold accessUnder
    cases (ofEnvironment env).access with
    | none => rfl
    | some a => rfl
  rw [apply_eq, hunder]
  exact congrArg (fun access => { ofEnvironment env with access }) Option.map_id'

theorem override_apply_eq_settled :
    ((ofEnvironment env).apply env l).override o = settled env l o := by
  have hmodel : ∀ model, (o.model.map (resolve l.aliases)).getD
      (resolve l.aliases (l.defaultModel.getD model)) =
        resolve l.aliases (o.model.getD (l.defaultModel.getD model)) := by
    intro model
    rw [Option.getD_map]
  have htimeout : ∀ n, (l.timeoutSeconds.map Duration.ofSeconds).getD (.ofSeconds n) =
      .ofSeconds (l.timeoutSeconds.getD n) := by
    intro n
    rw [Option.getD_map]
  rw [override_eq, apply_eq, accessUnder_ofEnvironment]
  simp only [settled, getD_firstOf_cons, getD_firstOf_nil, Settings.mk.injEq]
  refine ⟨?_, rfl, rfl, rfl, htimeout _, rfl, List.append_nil _, rfl⟩
  rw [Option.map_map, Option.map_map]
  congr 1
  funext apiKey
  have haliases : l.aliases ++ (ofEnvironment env).aliases = l.aliases := List.append_nil _
  simp only [Function.comp_apply, accessWith, haliases, hmodel, firstOf_cons, firstOf_nil,
    Option.or_none]
  rfl

end Layers

/-- What an optional file gives. -/
def Gives (d : Folder) (file : Option Path) (l : Layer) : Prop :=
  match file with
  | none => l = {}
  | some p => Layer.read d p = .ok l

/-- Loading succeeds for every file that can be read, and the overrides of the run complete the
settings: each has the value of its first source, whatever the others say. The judge can be reached
exactly if the environment or the file has a key. -/
theorem load_override_precedence {d : Folder} {file : Option Path} {l : Layer} (h : Gives d file l)
    (env : Environment) (o : Overrides) :
    ∃ s, load env d file = .ok s ∧ s.override o = settled env l o ∧
      ((s.override o).access.isSome ↔
        (written (env "OPENAI_API_KEY".toList)).isSome ∨ (written l.apiKey).isSome) := by
  have hload : load env d file = .ok ((ofEnvironment env).apply env l) := by
    cases file with
    | none =>
      obtain rfl : l = {} := h
      rw [apply_ofEnvironment_empty]
      rfl
    | some p =>
      have hread : Layer.read d p = .ok l := h
      simp only [load, hread]
  have hsettled := override_apply_eq_settled env l o
  refine ⟨_, hload, hsettled, ?_⟩
  rw [hsettled]
  simp only [settled, Option.isSome_map, firstOf_cons, firstOf_nil, Option.or_none,
    Option.isSome_or, Bool.or_eq_true]

namespace Sample

/-- The key is blank, and the time limit is no number. -/
def environment : Environment :=
  .ofList [("OPENAI_API_KEY".toList, "  ".toList), ("OPENAI_MODEL".toList, "c".toList),
    ("OPENAI_ENDPOINT".toList, " http://h/v1 ".toList), ("AIGRADE_CONCURRENCY".toList, "7".toList),
    ("AIGRADE_TIMEOUT_SECS".toList, "1 s".toList)]

def folder : Folder :=
  .ofList [(.ofString "g.json", .file (Text.utf8
    ("\x7b\"model_map\": \x7b\"a\": \"b\", \"b\": \"a\"\x7d, ".toList ++
      "\"api_keys\": \x7b\"openai\": \" k \"\x7d, \"max_concurrency\": 2\x7d".toList)))]

def layer : Layer :=
  { aliases := [("b".toList, "a".toList), ("a".toList, "b".toList)]
    apiKey := some " k ".toList
    concurrency := some 2 }

end Sample

theorem load_override_precedence_crossed :
    Gives Sample.folder (some (.ofString "g.json")) Sample.layer ∧
    ∃ s, load Sample.environment Sample.folder (some (.ofString "g.json")) = .ok s ∧
      s.override { model := some "a".toList } =
        { access := some ⟨"http://h/v1".toList, "k".toList, "b".toList, none⟩
          concurrency := 2
          aliases := Sample.layer.aliases } := by
  have hread : (Layer.read Sample.folder (.ofString "g.json")).toOption = some Sample.layer := by
    decide +kernel
  have hgiven : Gives Sample.folder (some (.ofString "g.json")) Sample.layer := by
    cases h : Layer.read Sample.folder (.ofString "g.json") with
    | error e =>
      rw [h] at hread
      cases hread
    | ok l =>
      rw [h] at hread
      cases hread
      exact h
  obtain ⟨s, hload, hsettled, _⟩ :=
    load_override_precedence hgiven Sample.environment { model := some "a".toList }
  refine ⟨hgiven, s, hload, ?_⟩
  rw [hsettled]
  rfl

end LabGrader.Settings
