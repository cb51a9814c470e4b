import LabGrader.Proofs.Json.Rejecting
import LabGrader.Report.Format

/-!
# Reports as JSON texts

A record is written with one member for each of its fields, an optional number only if there is one,
and it is read back field by field. The path is not written. Of a number that is not finite nothing is
left: an optional one is read as none, and a score makes the report unreadable.
-/

namespace LabGrader

namespace Record

open Json (Fills Reads ReadsBack ReadsMember Rejects)

def numbers (r : Record) : List Number :=
  r.score :: (r.modelScore.toList ++ r.deductions.toList)

/-- Every number is finite, and its decimal is read back as the same number. -/
def Legible (r : Record) : Prop := ∀ x ∈ r.numbers, x.isFinite = true ∧ ReadsBack .binary64 x

theorem mem_numbers_of_modelScore {r : Record} {x : Number} (hx : x ∈ r.modelScore) :
    x ∈ r.numbers := by
  simp [numbers, Option.mem_def.mp hx]

theorem mem_numbers_of_deductions {r : Record} {x : Number} (hx : x ∈ r.deductions) :
    x ∈ r.numbers := by
  simp [numbers, Option.mem_def.mp hx]

theorem Legible.modelScore {r : Record} (h : r.Legible) :
    ∀ x ∈ r.modelScore, x.isFinite = true ∧ ReadsBack .binary64 x :=
  fun x hx => h x (mem_numbers_of_modelScore hx)

theorem Legible.deductions {r : Record} (h : r.Legible) :
    ∀ x ∈ r.deductions, x.isFinite = true ∧ ReadsBack .binary64 x :=
  fun x hx => h x (mem_numbers_of_deductions hx)

/-- Every finite number is read back from its decimal as the same number. -/
def Faithful (r : Record) : Prop := ∀ x ∈ r.numbers, x.isFinite = true → ReadsBack .binary64 x

theorem Legible.faithful {r : Record} (h : r.Legible) : r.Faithful := fun x hx _ => (h x hx).2

/-- The record as it is read back. -/
def asRead (r : Record) : Record :=
  { r with
    modelScore := r.modelScore.filter Number.isFinite
    deductions := r.deductions.filter Number.isFinite
    path := none }

theorem Legible.asRead_eq {r : Record} (h : r.Legible) : r.asRead = { r with path := none } := by
  have hkeep {x : Option Number} (hx : ∀ y ∈ x, y.isFinite = true ∧ ReadsBack .binary64 y) :
      x.filter Number.isFinite = x := by
    cases x with
    | none => rfl
    | some y => exact Option.filter_eq_some_iff.mpr ⟨rfl, (hx y rfl).1⟩
  rw [asRead, hkeep h.modelScore, hkeep h.deductions]

section Fields
variable {r : Record}

def drafted (r : Record) : Draft where
  identity := some r.identity
  score := some r.score
  confidence := some r.confidence
  comments := some r.comments

theorem fills_name (r : Record) :
    Fills fields [("Name".toList, .text r.identity)] {} { identity := some r.identity } :=
  .cons rfl rfl ((Json.reads_text r.identity).store _) (.nil _)

theorem fills_required (h : r.Faithful) (hscore : r.score.isFinite = true) :
    Fills fields
      [("Name".toList, .text r.identity), ("Score".toList, .ofNumber .binary64 r.score),
        ("Confidence".toList, .text r.confidence), ("Comments".toList, .text r.comments)]
      {} r.drafted := by
  have hnumber := Json.reads_number hscore (h r.score List.mem_cons_self hscore)
  refine r.fills_name.append ?_
  refine .cons rfl rfl (hnumber.store _) ?_
  refine .cons rfl rfl ((Json.reads_text r.confidence).store _) ?_
  refine .cons rfl rfl ((Json.reads_text r.comments).store _) ?_
  exact .nil _

theorem reads_optional_number {x : Number}
    (h : x.isFinite = true → ReadsBack .binary64 x) :
    Reads (Json.optional (Json.numberReader .binary64)) (.ofNumber .binary64 x)
      (Option.guard Number.isFinite x) := by
  cases hx : x.isFinite with
  | true =>
    have hguard : Option.guard Number.isFinite x = some x := Option.guard_eq_some_iff.mpr ⟨rfl, hx⟩
    rw [hguard]
    exact Json.reads_optional hx (h hx)
  | false =>
    have hguard : Option.guard Number.isFinite x = none := Option.guard_eq_none_iff.mpr hx
    rw [Json.ofNumber_of_not_finite hx, hguard]
    exact Json.reads_null _

theorem fills_optional (put : Option (Option Number) → Draft) {key : String}
    {field : Json.Field Draft}
    (hfield : fields.find? (fun other => other.name = key.toList) = some field)
    (hunset : field.isSet (put none) = false)
    (hread : field.read (put none) =
      do return put (some (← Json.optional (Json.numberReader .binary64))))
    {x : Option Number} (hx : ∀ y ∈ x, y.isFinite = true → ReadsBack .binary64 y) :
    Fills fields (optionalMember key x) (put none)
      (put (x.map (Option.guard Number.isFinite))) := by
  cases x with
  | none => exact .nil _
  | some y =>
    have hnumber := (reads_optional_number (hx y rfl)).store fun z => put (some z)
    rw [← hread] at hnumber
    exact .cons hfield hunset hnumber (.nil _)

theorem fills_members (h : r.Faithful) (hscore : r.score.isFinite = true) :
    Fills fields r.members {}
      { r.drafted with
        modelScore := r.modelScore.map (Option.guard Number.isFinite)
        deductions := r.deductions.map (Option.guard Number.isFinite) } := by
  have hmodel : ∀ x ∈ r.modelScore, x.isFinite = true → ReadsBack .binary64 x :=
    fun x hx => h x (mem_numbers_of_modelScore hx)
  have htotal : ∀ x ∈ r.deductions, x.isFinite = true → ReadsBack .binary64 x :=
    fun x hx => h x (mem_numbers_of_deductions hx)
  have hscores : Fills fields (optionalMember "model_score" r.modelScore) r.drafted
      { r.drafted with modelScore := r.modelScore.map (Option.guard Number.isFinite) } :=
    fills_optional (fun x => { r.drafted with modelScore := x }) rfl rfl rfl hmodel
  have hdeductions : Fills fields (optionalMember "deductions" r.deductions)
      { r.drafted with modelScore := r.modelScore.map (Option.guard Number.isFinite) }
      { r.drafted with
        modelScore := r.modelScore.map (Option.guard Number.isFinite)
        deductions := r.deductions.map (Option.guard Number.isFinite) } :=
    fills_optional
      (fun x =>
        { r.drafted with
          modelScore := r.modelScore.map (Option.guard Number.isFinite), deductions := x })
      rfl rfl rfl htotal
  exact ((fills_required h hscore).append hscores).append hdeductions

theorem reads_asRead (h : r.Faithful) (hscore : r.score.isFinite = true) :
    Reads reader (.object r.members) r.asRead := by
  apply Json.reads_record (fills_members h hscore)
  unfold Draft.finish asRead
  cases r.modelScore <;> cases r.deductions <;> rfl

theorem reads_object (h : r.Legible) :
    Reads reader (.object r.members) { r with path := none } := by
  rw [← h.asRead_eq]
  exact reads_asRead h.faithful (h r.score List.mem_cons_self).1

theorem rejects_object (hscore : r.score.isFinite = false) :
    Rejects reader (.object r.members) := by
  have hmembers : r.members = [("Name".toList, .text r.identity)] ++ ("Score".toList, .null) ::
      ([("Confidence".toList, .text r.confidence), ("Comments".toList, .text r.comments)] ++
        optionalMember "model_score" r.modelScore ++ optionalMember "deductions" r.deductions) := by
    rw [members, Json.ofNumber_of_not_finite hscore]
    rfl
  rw [hmembers]
  exact Json.rejects_record r.fills_name rfl rfl ((Json.rejects_null _).store _) _ _

end Fields

section Keys

/-- The members of a record as they stand in a text. -/
def scalars (r : Record) : List (Text × (Text ⊕ Number)) :=
  let optional (key : String) (x : Option Number) : List (Text × (Text ⊕ Number)) :=
    (x.map fun x => (key.toList, .inr x)).toList
  [("Name".toList, .inl r.identity), ("Score".toList, .inr r.score),
    ("Confidence".toList, .inl r.confidence), ("Comments".toList, .inl r.comments)] ++
  optional "model_score" r.modelScore ++ optional "deductions" r.deductions

theorem readsMembers_optional (key : String) {x : Option Number}
    (hx : ∀ y ∈ x, y.isFinite = true ∧ ReadsBack .binary64 y) :
    List.Forall₂ (ReadsMember (Json.scalarReader .binary64)) (optionalMember key x)
      (x.map fun y => (key.toList, .inr y)).toList := by
  cases x with
  | none => exact .nil
  | some y =>
    obtain ⟨hfinite, hback⟩ := hx y rfl
    exact .cons ⟨rfl, Json.reads_scalar_number hfinite hback⟩ .nil

theorem reads_scalars {r : Record} (h : r.Legible) :
    Reads (Json.mapReader (Json.scalarReader .binary64)) (.object r.members) r.scalars := by
  obtain ⟨hfinite, hback⟩ := h r.score List.mem_cons_self
  apply Json.reads_map
  unfold members scalars
  refine List.rel_append (List.rel_append ?required ?score) ?deductions
  case required =>
    refine .cons ⟨rfl, Json.reads_scalar_text _ _⟩ ?_
    refine .cons ⟨rfl, Json.reads_scalar_number hfinite hback⟩ ?_
    refine .cons ⟨rfl, Json.reads_scalar_text _ _⟩ ?_
    exact .cons ⟨rfl, Json.reads_scalar_text _ _⟩ .nil
  case score => exact readsMembers_optional _ h.modelScore
  case deductions => exact readsMembers_optional _ h.deductions

theorem modelScore_mem_keys (r : Record) :
    "model_score".toList ∈ r.scalars.map Prod.fst ↔ r.modelScore.isSome = true := by
  unfold scalars
  cases r.modelScore <;> cases r.deductions <;> simp

theorem deductions_mem_keys (r : Record) :
    "deductions".toList ∈ r.scalars.map Prod.fst ↔ r.deductions.isSome = true := by
  unfold scalars
  cases r.modelScore <;> cases r.deductions <;> simp

end Keys

end Record

namespace Report

section RoundTrip
variable {α : Type} {records : List Record} {r : Json.Reader α} {f : Record → α}

theorem parse_render_json
    (h : ∀ record ∈ records, Json.Reads r (.object record.members) (f record)) :
    Json.parse (Json.listReader r) (render .json records) = .ok (records.map f) := by
  have hobjects : List.Forall₂ (fun ms x => Json.Reads r (.object ms) x)
      (records.map Record.members) (records.map f) := by
    rw [List.forall₂_map_left_iff, List.forall₂_map_right_iff]
    exact List.forall₂_same.mpr h
  have hparse := Json.parse_write (Json.reads_list hobjects) (some 0)
  rw [List.map_map] at hparse
  exact hparse

theorem parse_asRead (hfaithful : ∀ r ∈ records, r.Faithful)
    (hscore : ∀ r ∈ records, r.score.isFinite = true) :
    Json.parse Record.listReader (render .json records) = .ok (records.map Record.asRead) :=
  parse_render_json fun r hr => Record.reads_asRead (hfaithful r hr) (hscore r hr)

/-- One score that is not finite makes the whole report unreadable. -/
theorem parse_fails (hfaithful : ∀ r ∈ records, r.Faithful)
    (hscore : ∃ r ∈ records, r.score.isFinite = false) :
    ∃ e, Json.parse Record.listReader (render .json records) = .error e := by
  have hrejects : Json.Rejects Record.listReader
      (.list ((records.map Record.members).map .object)) := by
    apply Json.rejects_list
    · intro ms hms
      obtain ⟨r, hr, rfl⟩ := List.mem_map.mp hms
      cases hfinite : r.score.isFinite with
      | true => exact .inl ⟨_, Record.reads_asRead (hfaithful r hr) hfinite⟩
      | false => exact .inr (Record.rejects_object hfinite)
    · obtain ⟨r, hr, hinfinite⟩ := hscore
      exact ⟨_, List.mem_map_of_mem hr, Record.rejects_object hinfinite⟩
  have hparse := Json.parse_write_of_rejects hrejects (some 0)
  rw [List.map_map] at hparse
  exact hparse

end RoundTrip

/-- A report in JSON is read back as the records it was written from, in their order and but for
their paths. Of the optional numbers its objects hold just those that the records have. -/
theorem json_read_back (records : List Record)
    (hfinite : ∀ r ∈ records, ∀ x ∈ r.numbers, x.isFinite = true)
    (hback : ∀ r ∈ records, ∀ x ∈ r.numbers, Json.ReadsBack .binary64 x) :
    Json.parse Record.listReader (render .json records) =
        .ok (records.map fun r => { r with path := none }) ∧
      ∃ objects : List (List (Text × (Text ⊕ Number))),
        Json.parse (Json.listReader (Json.mapReader (Json.scalarReader .binary64)))
            (render .json records) = .ok objects ∧
          List.Forall₂
            (fun r object =>
              ("model_score".toList ∈ object.map Prod.fst ↔ r.modelScore.isSome = true) ∧
                ("deductions".toList ∈ object.map Prod.fst ↔ r.deductions.isSome = true))
            records objects := by
  have hlegible : ∀ r ∈ records, r.Legible := fun r hr x hx =>
    ⟨hfinite r hr x hx, hback r hr x hx⟩
  refine ⟨parse_render_json fun r hr => Record.reads_object (hlegible r hr),
    records.map Record.scalars,
    parse_render_json fun r hr => Record.reads_scalars (hlegible r hr), ?_⟩
  rw [List.forall₂_map_right_iff]
  exact List.forall₂_same.mpr fun r _ => ⟨r.modelScore_mem_keys, r.deductions_mem_keys⟩

/-- Records with and without the optional numbers, and with texts that have to be escaped. -/
def awkwardRecords : List Record :=
  [{ identity := "Jane \"J\" Doe\\".toList, score := .finite (mkRat 167 2), confidence := []
     comments := "two\r\nlines, \t\x01, \x7d]".toList, modelScore := some (.finite (mkRat 90 1))
     deductions := some (.finite (mkRat 13 2)), path := some ⟨"A.java".toList⟩ },
    { identity := [], score := .negativeZero, confidence := "ß 𝄞".toList
      comments := "\"model_score\": 1".toList
      deductions := some (.finite (mkRat 1000000000000000000000 1)) },
    { identity := "-1e9".toList, score := .finite (mkRat (-100) 1), confidence := "N/A".toList
      comments := "null".toList, modelScore := some (.finite (mkRat (-100) 1)) }]

theorem json_read_back_awkward :
    (∀ r ∈ awkwardRecords, ∀ x ∈ r.numbers, x.isFinite = true) ∧
      (∀ r ∈ awkwardRecords, ∀ x ∈ r.numbers, Json.ReadsBack .binary64 x) ∧
      Json.parse Record.listReader (render .json awkwardRecords) =
        .ok (awkwardRecords.map fun r => { r with path := none }) := by
  have hfinite : ∀ r ∈ awkwardRecords, ∀ x ∈ r.numbers, x.isFinite = true := by
    decide +kernel
  have hback : ∀ r ∈ awkwardRecords, ∀ x ∈ r.numbers, Json.ReadsBack .binary64 x := by
    decide +kernel
  exact ⟨hfinite, hback, (json_read_back awkwardRecords hfinite hback).1⟩

end Report

end LabGrader
