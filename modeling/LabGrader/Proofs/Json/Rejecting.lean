import LabGrader.Proofs.Json.Reading

/-!
# Values that readers do not take

Where a number has no decimal form, `null` is written. A reader of an optional number takes that for
no number, and a reader of a number fails on it. One member that is not read makes the object fail,
and one object the list.
-/

namespace LabGrader.Json

variable {α β σ : Type} {t space : Text}

/-- A reader fails on a value, wherever that stands. -/
def Rejects (r : Reader α) (v : Value) : Prop :=
  ∀ (layout : Option Nat) (space rest : Text), space.all isSpace = true → EndsNumber rest →
    ∃ e, r (space ++ v.write layout ++ rest) = .error e

theorem bind_of_error {a : Reader α} {e : Fault} (h : a t = .error e) (next : α → Reader β) :
    (a >>= next) t = .error e := by
  change (a t >>= fun p => next p.1 p.2) = .error e
  rw [h]
  rfl

theorem Rejects.store {r : Reader α} {v : Value} (h : Rejects r v) (g : α → β) :
    Rejects (do return g (← r)) v := by
  intro layout space rest hspace hrest
  obtain ⟨e, he⟩ := h layout space rest hspace hrest
  exact ⟨e, bind_of_error he _⟩

section Null

theorem skipSpace_null (hspace : space.all isSpace = true) (layout : Option Nat) (rest : Text) :
    skipSpace (space ++ Value.null.write layout ++ rest) = 'n' :: ("ull".toList ++ rest) := by
  rw [List.append_assoc, Value.write]
  exact skipSpace_cons_behind hspace rfl

theorem rejects_null (f : BinaryFormat) : Rejects (numberReader f) .null := by
  intro layout space rest hspace _
  have hread : numeralReader (space ++ Value.null.write layout ++ rest) =
      .error (mismatch ('n' :: ("ull".toList ++ rest))) := by
    unfold numeralReader
    rw [skipSpace_null hspace]
    rfl
  exact ⟨_, bind_of_error hread _⟩

theorem reads_null (r : Reader α) : Reads (optional r) .null none := by
  intro layout space rest hspace _
  unfold optional
  rw [skipSpace_null hspace]
  rfl

theorem ofNumber_of_not_finite {x : Number} (h : x.isFinite = false) (f : BinaryFormat) :
    Value.ofNumber f x = .null := by
  rw [Value.ofNumber, h]
  rfl

end Null

section Objects
variable {fields : List (Field σ)} {ms : List (Text × Value)} {s s' : σ} {key : Text} {v : Value}
  {field : Field σ}

theorem readObject_rejects (h : Fills fields ms s s')
    (hfield : fields.find? (fun field => field.name = key) = some field)
    (hunset : field.isSet s' = false) (hreject : Rejects (field.read s') v)
    (hspace : space.all isSpace = true) {fuel : Nat} (hfuel : ms.length < fuel) (first : Bool)
    (layout : Option Nat) (others : List (Text × Value)) (rest : Text) :
    ∃ e, readObject fields fuel first s
      (writeMembers layout first (ms ++ (key, v) :: others) ++ (space ++ '}' :: rest)) =
        .error e := by
  induction h generalizing fuel first with
  | nil s =>
    obtain ⟨fuel, rfl⟩ := Nat.exists_eq_succ_of_ne_zero (Nat.ne_of_gt hfuel)
    obtain ⟨gap, hgap, hmember⟩ :=
      readObject_member layout hfield hunset fuel first v others (space ++ '}' :: rest)
    obtain ⟨e, he⟩ := hreject layout gap _ hgap (endsNumber_writeMembers hspace layout others rest)
    exact ⟨e, by rw [List.nil_append, hmember, bind_of_error he]⟩
  | @cons key' v' ms field' s s₁ s₂ hfield' hunset' hread _ ih =>
    obtain ⟨fuel, rfl⟩ := Nat.exists_eq_succ_of_ne_zero (Nat.ne_of_gt (Nat.zero_lt_of_lt hfuel))
    have hshorter : ms.length < fuel := Nat.lt_of_succ_lt_succ hfuel
    obtain ⟨gap, hgap, hmember⟩ := readObject_member layout hfield' hunset' fuel first v'
      (ms ++ (key, v) :: others) (space ++ '}' :: rest)
    have hends := endsNumber_writeMembers hspace layout (ms ++ (key, v) :: others) rest
    rw [List.cons_append, hmember, bind_of_ok (hread layout gap _ hgap hends)]
    exact ih hunset hreject hshorter false

theorem rejects_record {start : σ} (h : Fills fields ms start s)
    (hfield : fields.find? (fun field => field.name = key) = some field)
    (hunset : field.isSet s = false) (hreject : Rejects (field.read s) v)
    (others : List (Text × Value)) (finish : σ → Option α) :
    Rejects (recordReader fields start finish) (.object (ms ++ (key, v) :: others)) := by
  intro layout space rest hspace _
  obtain ⟨inner, hinner, hwrite⟩ := exists_write_members layout (ms ++ (key, v) :: others)
  have hfuel : ms.length < (writeMembers (layout.map (· + 1)) true (ms ++ (key, v) :: others) ++
      (inner ++ '}' :: rest)).length + 1 := by
    have hall := length_lt_writeMembers (layout.map (· + 1)) true (ms ++ (key, v) :: others)
      (inner ++ '}' :: rest)
    rw [List.length_append] at hall
    omega
  obtain ⟨e, he⟩ := readObject_rejects h hfield hunset hreject hinner hfuel true
    (layout.map (· + 1)) others rest
  refine ⟨e, ?_⟩
  rw [hwrite]
  simp only [List.append_assoc, List.cons_append, List.nil_append] at he ⊢
  unfold recordReader
  rw [skipSpace_cons_behind hspace rfl]
  exact bind_of_error he _

end Objects

section Lists
variable {r : Reader α} {objects : List (List (Text × Value))}

theorem elements_rejects
    (h : ∀ ms ∈ objects, (∃ x, Reads r (.object ms) x) ∨ Rejects r (.object ms))
    (hsome : ∃ ms ∈ objects, Rejects r (.object ms)) (hspace : space.all isSpace = true)
    {fuel : Nat} (hfuel : objects.length < fuel) (first : Bool) (layout : Option Nat)
    (rest : Text) :
    ∃ e, elements r fuel first
      (writeItems layout first (objects.map .object) ++ (space ++ ']' :: rest)) = .error e := by
  induction objects generalizing fuel first with
  | nil =>
    obtain ⟨ms, hms, -⟩ := hsome
    cases hms
  | cons ms objects ih =>
    obtain ⟨fuel, rfl⟩ := Nat.exists_eq_succ_of_ne_zero (Nat.ne_of_gt (Nat.zero_lt_of_lt hfuel))
    have hshorter : objects.length < fuel := Nat.lt_of_succ_lt_succ hfuel
    have hends := endsNumber_writeItems hspace layout (objects.map .object) rest
    have hfails (hreject : Rejects r (.object ms)) : ∃ e, elements r (fuel + 1) first
        (writeItems layout first ((ms :: objects).map .object) ++ (space ++ ']' :: rest)) =
          .error e := by
      obtain ⟨e, he⟩ := hreject layout [] _ rfl hends
      exact ⟨e, by rw [List.map_cons, elements_item]; exact bind_of_error he _⟩
    rcases h ms List.mem_cons_self with ⟨x, hread⟩ | hreject
    · obtain ⟨bad, hbad, hreject⟩ := hsome
      rcases List.mem_cons.mp hbad with rfl | hbad
      · exact hfails hreject
      · obtain ⟨e, he⟩ := ih (fun ms hms => h ms (List.mem_cons_of_mem _ hms)) ⟨bad, hbad, hreject⟩
          hshorter false
        rw [List.map_cons, elements_item]
        exact ⟨e, by rw [bind_of_ok (hread.bare layout hends), bind_of_error he]⟩
    · exact hfails hreject

theorem rejects_list
    (h : ∀ ms ∈ objects, (∃ x, Reads r (.object ms) x) ∨ Rejects r (.object ms))
    (hsome : ∃ ms ∈ objects, Rejects r (.object ms)) :
    Rejects (listReader r) (.list (objects.map .object)) := by
  intro layout space rest hspace _
  obtain ⟨inner, hinner, hwrite⟩ := exists_write_list layout (objects.map .object)
  have hfuel := length_lt_writeItems (layout.map (· + 1)) true objects (inner ++ ']' :: rest)
  obtain ⟨e, he⟩ := elements_rejects h hsome hinner hfuel true (layout.map (· + 1)) rest
  refine ⟨e, ?_⟩
  rw [hwrite]
  simp only [List.append_assoc, List.cons_append, List.nil_append]
  unfold listReader
  rw [bind_of_ok (takeOpen_cons hspace rfl _), bind_of_ok (a := get) rfl]
  exact bind_of_error he _

theorem parse_write_of_rejects {v : Value} (h : Rejects r v) (layout : Option Nat) :
    ∃ e, parse r (v.write layout) = .error e := by
  obtain ⟨e, he⟩ := h layout [] [] rfl endsNumber_nil
  rw [List.nil_append, List.append_nil] at he
  refine ⟨e, ?_⟩
  unfold parse
  rw [he]
  rfl

end Lists

end LabGrader.Json
