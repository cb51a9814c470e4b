import LabGrader.Proofs.Settings.Precedence
import Mathlib.Logic.Function.Iterate

/-!
# A layer that says nothing

An empty layer keeps every setting but the name of the model, which is looked up among the aliases
once more. So it changes nothing exactly if that name is no alias of another one. Where no alias
leads to an alias this is so after any history with a layer in it; along a chain of aliases every
empty layer goes one step further.
-/

namespace LabGrader.Settings

/-- What can be done to settings once they are there. -/
inductive Change where
  | layer (env : Environment) (l : Layer)
  | override (o : Overrides)

def change (s : Settings) : Change → Settings
  | .layer env l => s.apply env l
  | .override o => s.override o

def changed (s : Settings) (history : List Change) : Settings := history.foldl change s

def mapModel (f : Text → Text) (s : Settings) : Settings :=
  { s with access := s.access.map fun a => { a with model := f a.model } }

/-- The name of the model, if there is one, is no alias of another. -/
def Settled (s : Settings) : Prop := ∀ a ∈ s.access, resolve s.aliases a.model = a.model

/-- No alias leads to the alias of yet another name. -/
def Flat (aliases : List (Text × Text)) : Prop :=
  ∀ name, resolve aliases (resolve aliases name) = resolve aliases name

variable {env : Environment} {s start : Settings} {l : Layer} {history : List Change}

theorem accessUnder_empty (env : Environment) (s : Settings) :
    accessUnder env s {} = s.access := by
  unfold accessUnder
  cases s.access with
  | none => rfl
  | some a => rfl

/-- The model is looked up although the layer does not name one. -/
theorem apply_empty (env : Environment) (s : Settings) :
    s.apply env {} = s.mapModel (resolve s.aliases) := by
  rw [apply_eq, accessUnder_empty]
  rfl

theorem mapModel_id (s : Settings) : s.mapModel id = s := by
  unfold mapModel
  have hsame : s.access.map (fun a => { a with model := id a.model }) = s.access := Option.map_id'
  rw [hsame]

theorem mapModel_mapModel (f g : Text → Text) (s : Settings) :
    (s.mapModel f).mapModel g = s.mapModel (g ∘ f) := by
  unfold mapModel
  rw [Option.map_map]
  rfl

/-- Each of a row of empty layers goes one step along the chain of aliases. -/
theorem iterate_apply_empty (env : Environment) (s : Settings) (n : Nat) :
    (fun s => apply env s {})^[n] s = s.mapModel (resolve s.aliases)^[n] := by
  induction n with
  | zero => exact (mapModel_id s).symm
  | succ n ih =>
    rw [Function.iterate_succ_apply', ih, Function.iterate_succ']
    -- the aliases are the same at every step
    calc (s.mapModel (resolve s.aliases)^[n]).apply env {}
        = (s.mapModel (resolve s.aliases)^[n]).mapModel (resolve s.aliases) := apply_empty env _
      _ = s.mapModel (resolve s.aliases ∘ (resolve s.aliases)^[n]) := mapModel_mapModel _ _ s

theorem mapModel_eq_self_iff (f : Text → Text) :
    s.mapModel f = s ↔ ∀ a ∈ s.access, f a.model = a.model := by
  constructor
  · intro h a ha
    have haccess : (s.mapModel f).access = some { a with model := f a.model } := by
      simp only [mapModel, Option.mem_def.mp ha, Option.map_some]
    rw [h, Option.mem_def.mp ha] at haccess
    exact (congrArg Access.model (Option.some.inj haccess)).symm
  · intro h
    have hsame : s.access.map (fun a => { a with model := f a.model }) = s.access := by
      cases haccess : s.access with
      | none => rfl
      | some a => rw [Option.map_some, h a haccess]
    unfold mapModel
    rw [hsame]

theorem apply_empty_eq_iff : s.apply env {} = s ↔ s.Settled := by
  rw [apply_empty]
  exact mapModel_eq_self_iff _

theorem settled_ofEnvironment (env : Environment) : (ofEnvironment env).Settled :=
  fun _ _ => rfl

theorem settled_apply (hflat : Flat (s.apply env l).aliases) : (s.apply env l).Settled := by
  rw [apply_eq] at hflat ⊢
  intro a ha
  obtain ⟨b, -, rfl⟩ := Option.map_eq_some_iff.mp ha
  exact hflat _

theorem settled_override {o : Overrides} (hflat : Flat s.aliases) (h : s.Settled) :
    (s.override o).Settled := by
  rw [override_eq]
  intro a ha
  obtain ⟨b, hb, rfl⟩ := Option.map_eq_some_iff.mp ha
  cases o.model with
  | none => exact h b hb
  | some name => exact hflat name

theorem aliases_override (s : Settings) (o : Overrides) : (s.override o).aliases = s.aliases := by
  rw [override_eq]

/-- Whether the aliases are flat matters at the end only: until then they may chain. -/
theorem settled_changed (h : Flat start.aliases → start.Settled)
    (hflat : Flat (start.changed history).aliases) : (start.changed history).Settled := by
  induction history generalizing start with
  | nil => exact h hflat
  | cons c rest ih =>
    apply ih _ hflat
    intro hflat'
    cases c with
    | layer env l => exact settled_apply hflat'
    | override o =>
      have hstart : Flat start.aliases := aliases_override start o ▸ hflat'
      exact settled_override hstart (h hstart)

theorem settled_changed_of_layer (hmem : .layer env l ∈ history)
    (hflat : Flat (start.changed history).aliases) : (start.changed history).Settled := by
  obtain ⟨before, behind, rfl⟩ := List.append_of_mem hmem
  have hsplit : start.changed (before ++ .layer env l :: behind) =
      ((start.changed before).apply env l).changed behind := by
    simp only [changed, List.foldl_append, List.foldl_cons, change]
  rw [hsplit] at hflat ⊢
  exact settled_changed settled_apply hflat

/-- It is enough to look at the names that aliases stand for. -/
theorem flat_of_unchained {aliases : List (Text × Text)}
    (h : ∀ x ∈ aliases, aliases.lookup x.2 = none) : Flat aliases := by
  intro name
  cases hname : aliases.lookup name with
  | none =>
    have hself : resolve aliases name = name := by rw [resolve, hname, Option.getD_none]
    rw [hself, hself]
  | some target =>
    have hstep : resolve aliases name = target := by rw [resolve, hname, Option.getD_some]
    have hmem : (name, target) ∈ aliases := by
      obtain ⟨before, behind, hsplit, -⟩ := List.lookup_eq_some_iff.mp hname
      rw [hsplit]
      exact List.mem_append_right _ List.mem_cons_self
    rw [hstep, resolve, h _ hmem, Option.getD_none]

/-- Whatever has become of settings, a layer that says nothing moves the name of the model along its
chain of aliases and keeps all else. It changes nothing exactly if the name is no alias, as it is
where no alias leads to an alias and the name has been looked up: by an earlier layer, or because the
settings were made from an environment, which has no aliases. -/
theorem empty_layer_moves_model_only (start : Settings) (history : List Change)
    (env : Environment) :
    (∀ n, (fun s => apply env s {})^[n] (start.changed history) =
      (start.changed history).mapModel (resolve (start.changed history).aliases)^[n]) ∧
    ((start.changed history).apply env {} = start.changed history ↔
      (start.changed history).Settled) ∧
    (Flat (start.changed history).aliases →
      (start.Settled ∨ ∃ env' l, .layer env' l ∈ history) →
      (start.changed history).apply env {} = start.changed history) ∧
    ∀ env', (ofEnvironment env').Settled := by
  refine ⟨iterate_apply_empty env _, apply_empty_eq_iff, ?_, settled_ofEnvironment⟩
  intro hflat hlooked
  apply apply_empty_eq_iff.mpr
  rcases hlooked with hstart | ⟨env', l, hmem⟩
  · exact settled_changed (fun _ => hstart) hflat
  · exact settled_changed_of_layer hmem hflat

namespace Sample

def named : Settings := { access := some ⟨"http://h".toList, "k".toList, "a".toList, none⟩ }

/-- What the first alias stands for is an alias, too. -/
def chain : Layer :=
  { aliases := [("a".toList, "b".toList), ("b".toList, "c".toList)] }

def apart : Layer :=
  { aliases := [("a".toList, "b".toList), ("c".toList, "d".toList)] }

end Sample

theorem empty_layer_spares_looked_up_model :
    Flat (Sample.named.changed [.layer (fun _ => none) Sample.apart]).aliases ∧
    (Sample.named.changed [.layer (fun _ => none) Sample.apart]).access.map Access.model =
      some "b".toList ∧
    (Sample.named.changed [.layer (fun _ => none) Sample.apart]).apply (fun _ => none) {} =
      Sample.named.changed [.layer (fun _ => none) Sample.apart] := by
  have hflat : Flat (Sample.named.changed [.layer (fun _ => none) Sample.apart]).aliases :=
    flat_of_unchained (by decide)
  obtain ⟨-, -, hsame, -⟩ := empty_layer_moves_model_only Sample.named
    [.layer (fun _ => none) Sample.apart] (fun _ => none)
  exact ⟨hflat, by decide, hsame hflat (Or.inr ⟨_, _, List.mem_cons_self⟩)⟩

/-- A model whose name has just been looked up is replaced by a layer that says nothing. -/
theorem looked_up_model_replaced :
    (Sample.named.changed [.layer (fun _ => none) Sample.chain]).access.map Access.model =
      some "b".toList ∧
    ((Sample.named.changed [.layer (fun _ => none) Sample.chain]).apply
      (fun _ => none) {}).access.map Access.model = some "c".toList := by
  decide

end LabGrader.Settings
