import LabGrader.Proofs.Json.Tokens
import Mathlib.Data.List.Forall2

/-!
# Readers on written values

What a reader makes of a written value does not depend on where the value stands: it may have blanks
in front of it, and behind it whatever no number goes on with. Arrays and objects are read part by
part, since each part is followed by a comma, a blank or a bracket.
-/

namespace LabGrader.Json

variable {α β σ : Type} {t u space rest : Text} {c : Char}

/-- A reader takes a value off the front of its text, wherever that stands. -/
def Reads (r : Reader α) (v : Value) (x : α) : Prop :=
  ∀ (layout : Option Nat) (space rest : Text), space.all isSpace = true → EndsNumber rest →
    r (space ++ v.write layout ++ rest) = .ok (x, rest)

theorem Reads.bare {r : Reader α} {v : Value} {x : α} (h : Reads r v x) (layout : Option Nat)
    (hrest : EndsNumber rest) : r (v.write layout ++ rest) = .ok (x, rest) :=
  h layout [] rest rfl hrest

theorem bind_of_ok {a : Reader α} {x : α} (h : a t = .ok (x, u)) (next : α → Reader β) :
    (a >>= next) t = next x u := by
  change (a t >>= fun p => next p.1 p.2) = next x u
  rw [h]
  rfl

theorem map_of_ok {a : Reader α} {x : α} (h : a t = .ok (x, u)) (f : α → β) :
    (f <$> a) t = .ok (f x, u) := by
  change (a t >>= fun p => pure (f p.1, p.2)) = .ok (f x, u)
  rw [h]
  rfl

theorem Reads.store {r : Reader α} {v : Value} {x : α} (h : Reads r v x) (g : α → β) :
    Reads (do return g (← r)) v (g x) := by
  intro layout space rest hspace hrest
  rw [bind_of_ok (h layout space rest hspace hrest)]
  rfl

section Scalars

theorem skipSpace_cons_behind (hspace : space.all isSpace = true) (hc : isSpace c = false) :
    skipSpace (space ++ c :: t) = c :: t := by
  rw [skipSpace_append_of_all hspace, skipSpace_cons hc]

theorem reads_text (t : Text) : Reads textReader (.text t) t := by
  intro layout space rest hspace _
  have hquote : space ++ (Value.text t).write layout ++ rest =
      space ++ '"' :: (t.flatMap escape ++ '"' :: rest) := by
    simp [Value.write, quoted]
  rw [hquote]
  unfold textReader
  rw [skipSpace_cons_behind hspace rfl]
  exact takeString_flatMap_escape t [] rest

theorem numeralReader_minus (h : skipSpace t = '-' :: u) :
    numeralReader t = Numeral.take true u := by
  unfold numeralReader
  rw [h]
  rfl

theorem numeralReader_digit (h : skipSpace t = c :: u) (hc : c.isDigit = true) :
    numeralReader t = Numeral.take false (c :: u) := by
  unfold numeralReader
  rw [h]
  split
  · rename_i hminus
    cases hminus
    cases hc
  · simp [hc]

theorem numeralReader_starts {p : Numeral × Text} (h : numeralReader t = .ok p) :
    ∃ c u, skipSpace t = c :: u ∧ (c = '-' ∨ c.isDigit = true) := by
  unfold numeralReader at h
  split at h
  · exact ⟨'-', _, ‹_›, .inl rfl⟩
  · split at h
    · rename_i hdigit
      cases hskip : skipSpace t with
      | nil => simp [hskip] at hdigit
      | cons c u => exact ⟨c, u, rfl, .inr (by simpa [hskip] using hdigit)⟩
    · cases h

theorem skipSpace_of_numeral {p : Numeral × Text} (h : numeralReader t = .ok p)
    (hspace : space.all isSpace = true) (rest : Text) :
    skipSpace (space ++ t ++ rest) = skipSpace t ++ rest := by
  obtain ⟨c, u, hskip, -⟩ := numeralReader_starts h
  rw [List.append_assoc, skipSpace_append_of_all hspace, skipSpace_append (by simp [hskip])]

theorem numeralReader_append {n : Numeral} (h : numeralReader t = .ok (n, u))
    (hspace : space.all isSpace = true) (hrest : EndsNumber rest) :
    numeralReader (space ++ t ++ rest) = .ok (n, u ++ rest) := by
  obtain ⟨c, v, hskip, hstart⟩ := numeralReader_starts h
  have hskipped : skipSpace (space ++ t ++ rest) = c :: (v ++ rest) := by
    rw [skipSpace_of_numeral h hspace, hskip, List.cons_append]
  rcases hstart with rfl | hdigit
  · rw [numeralReader_minus hskip] at h
    rw [numeralReader_minus hskipped]
    exact Numeral.take_append hrest h
  · rw [numeralReader_digit hskip hdigit] at h
    rw [numeralReader_digit hskipped hdigit]
    exact Numeral.take_append hrest h

/-- Reading the written form of a number gives the number back. -/
def ReadsBack (f : BinaryFormat) (x : Number) : Prop :=
  numberReader f (x.write .json f) = .ok (x, [])

instance (f : BinaryFormat) (x : Number) : Decidable (ReadsBack f x) :=
  inferInstanceAs (Decidable (_ = _))

section Numbers
variable {f : BinaryFormat} {x : Number}

theorem exists_numeral_of_readsBack (h : ReadsBack f x) :
    ∃ n, numeralReader (x.write .json f) = .ok (n, []) ∧ n.toNumber f = x := by
  unfold ReadsBack numberReader at h
  cases hread : numeralReader (x.write .json f) with
  | error e =>
    change (numeralReader (x.write .json f) >>= fun p => _) = _ at h
    rw [hread] at h
    cases h
  | ok p =>
    obtain ⟨n, u⟩ := p
    rw [bind_of_ok hread] at h
    cases h
    exact ⟨n, rfl, rfl⟩

theorem write_ofNumber (hfinite : x.isFinite = true) (layout : Option Nat) :
    (Value.ofNumber f x).write layout = x.write .json f := by
  simp [Value.ofNumber, hfinite, Value.write]

theorem numberReader_of_numeral {n : Numeral} (h : numeralReader t = .ok (n, u))
    (hnumber : n.toNumber f = x) : numberReader f t = .ok (x, u) := by
  unfold numberReader
  rw [bind_of_ok h, hnumber]
  rfl

theorem reads_number (hfinite : x.isFinite = true) (h : ReadsBack f x) :
    Reads (numberReader f) (.ofNumber f x) x := by
  intro layout space rest hspace hrest
  obtain ⟨n, hread, hnumber⟩ := exists_numeral_of_readsBack h
  rw [write_ofNumber hfinite]
  exact numberReader_of_numeral (numeralReader_append hread hspace hrest) hnumber

theorem optional_of_head?_ne {r : Reader α} (h : (skipSpace t).head? ≠ some 'n') :
    optional r t = (some <$> r) (skipSpace t) := by
  unfold optional
  split
  · rename_i hn
    exact absurd (congrArg List.head? hn) h
  · rfl

theorem head?_ne_of_readsBack (hfinite : x.isFinite = true) (h : ReadsBack f x)
    (hspace : space.all isSpace = true) (hc : c ≠ '-' ∧ c.isDigit = false) (layout : Option Nat)
    (rest : Text) :
    (skipSpace (space ++ (Value.ofNumber f x).write layout ++ rest)).head? ≠ some c := by
  obtain ⟨n, hread, -⟩ := exists_numeral_of_readsBack h
  obtain ⟨d, u, hskip, hstart⟩ := numeralReader_starts hread
  rw [write_ofNumber hfinite, skipSpace_of_numeral hread hspace, hskip]
  intro hhead
  obtain rfl : d = c := by simpa using hhead
  rcases hstart with hminus | hdigit
  · exact hc.1 hminus
  · rw [hc.2] at hdigit
    cases hdigit

theorem reads_optional (hfinite : x.isFinite = true) (h : ReadsBack f x) :
    Reads (optional (numberReader f)) (.ofNumber f x) (some x) := by
  intro layout space rest hspace hrest
  have hnull := head?_ne_of_readsBack hfinite h hspace (by decide : 'n' ≠ '-' ∧ _) layout rest
  obtain ⟨n, hread, hnumber⟩ := exists_numeral_of_readsBack h
  have hagain : numeralReader (skipSpace (x.write .json f)) = .ok (n, []) := by
    unfold numeralReader at hread ⊢
    rwa [skipSpace_skipSpace]
  have hempty : ([] : Text).all isSpace = true := rfl
  have hnumeral := numeralReader_append hagain hempty hrest
  rw [optional_of_head?_ne hnull, write_ofNumber hfinite, skipSpace_of_numeral hread hspace]
  exact map_of_ok (numberReader_of_numeral hnumeral hnumber) some

end Numbers

end Scalars

section Layout

theorem endsNumber_nil : EndsNumber [] := by
  intro c hc
  cases hc

theorem endsNumber_cons (h : c ∈ [',', ']', '}', ' ', '\n', '\t', '\r']) (t : Text) :
    EndsNumber (c :: t) := by
  intro d hd
  obtain rfl : c = d := by simpa using hd
  simp only [List.mem_cons, List.not_mem_nil, or_false] at h
  rcases h with rfl | rfl | rfl | rfl | rfl | rfl | rfl <;> decide

theorem endsNumber_close (hspace : space.all isSpace = true) (hc : c = ']' ∨ c = '}')
    (t : Text) : EndsNumber (space ++ c :: t) := by
  cases space with
  | nil =>
    apply endsNumber_cons
    rcases hc with rfl | rfl <;> simp
  | cons d space =>
    have hd : isSpace d = true := List.all_eq_true.mp hspace d List.mem_cons_self
    apply endsNumber_cons
    simp only [isSpace, Bool.or_eq_true, decide_eq_true_eq] at hd
    rcases hd with ((rfl | rfl) | rfl) | rfl <;> simp

/-- What stands before a part is blank, but for the comma between two parts. -/
theorem exists_lead (first : Bool) (layout : Option Nat) :
    ∃ space : Text, space.all isSpace = true ∧
      lead first layout = (if first then [] else [',']) ++ space := by
  cases layout with
  | none => exact ⟨[], rfl, rfl⟩
  | some depth =>
    refine ⟨'\n' :: List.replicate (2 * depth) ' ', ?_, rfl⟩
    rw [List.all_cons, List.all_replicate]
    simp [isSpace]

theorem exists_colon (layout : Option Nat) :
    ∃ space : Text, space.all isSpace = true ∧
      (if layout.isSome then ": ".toList else [':']) = ':' :: space := by
  cases layout with
  | none => exact ⟨[], rfl, rfl⟩
  | some depth => exact ⟨[' '], rfl, rfl⟩

theorem takeOpen_cons (hspace : space.all isSpace = true) (hc : isSpace c = false) (t : Text) :
    takeOpen c (space ++ c :: t) = .ok ((), t) := by
  unfold takeOpen
  rw [skipSpace_cons_behind hspace hc]
  exact if_pos rfl

theorem takeClose_cons (hspace : space.all isSpace = true) (hc : isSpace c = false) (t : Text) :
    takeClose c (space ++ c :: t) = .ok ((), t) := by
  unfold takeClose
  rw [skipSpace_cons_behind hspace hc]
  exact if_pos rfl

theorem takeClose_bare (hc : isSpace c = false) (t : Text) : takeClose c (c :: t) = .ok ((), t) :=
  takeClose_cons (List.all_nil : ([] : Text).all isSpace = true) hc t

theorem takeColon_cons (t : Text) : takeColon (':' :: t) = .ok ((), t) := by
  unfold takeColon
  rw [skipSpace_cons rfl]
  rfl

theorem keyReader_cons (key t : Text) :
    keyReader (key.flatMap escape ++ '"' :: t) = .ok (key, t) :=
  takeString_flatMap_escape key [] t

theorem nextElement_close (hspace : space.all isSpace = true) (first : Bool) (t : Text) :
    nextElement first (space ++ ']' :: t) = .ok (false, ']' :: t) := by
  unfold nextElement
  rw [skipSpace_cons_behind hspace rfl]
  rfl

theorem nextMember_close (hspace : space.all isSpace = true) (first : Bool) (t : Text) :
    nextMember first (space ++ '}' :: t) = .ok (false, '}' :: t) := by
  unfold nextMember
  rw [skipSpace_cons_behind hspace rfl]
  rfl

theorem nextElement_lead (first : Bool) (layout : Option Nat) (t : Text) :
    nextElement first (lead first layout ++ '{' :: t) = .ok (true, '{' :: t) := by
  obtain ⟨space, hspace, hlead⟩ := exists_lead first layout
  rw [hlead]
  unfold nextElement
  cases first with
  | true =>
    simp only [if_true, List.nil_append]
    rw [skipSpace_cons_behind hspace rfl]
    rfl
  | false =>
    simp only [Bool.false_eq_true, if_false, List.cons_append, List.nil_append]
    rw [skipSpace_cons rfl]
    simp only [skipSpace_cons_behind hspace (rfl : isSpace '{' = false)]
    rfl

theorem nextMember_lead (first : Bool) (layout : Option Nat) (t : Text) :
    nextMember first (lead first layout ++ '"' :: t) = .ok (true, t) := by
  obtain ⟨space, hspace, hlead⟩ := exists_lead first layout
  rw [hlead]
  unfold nextMember
  cases first with
  | true =>
    simp only [if_true, List.nil_append]
    rw [skipSpace_cons_behind hspace rfl]
    rfl
  | false =>
    simp only [Bool.false_eq_true, if_false, List.cons_append, List.nil_append]
    rw [skipSpace_cons rfl]
    simp only [skipSpace_cons_behind hspace (rfl : isSpace '"' = false)]

end Layout

section Arrays
variable {r : Reader α} {layout : Option Nat}

theorem exists_write_object (layout : Option Nat) (ms : List (Text × Value)) :
    ∃ u, (Value.object ms).write layout = '{' :: u := by
  cases ms with
  | nil => exact ⟨['}'], by simp only [Value.write]; rfl⟩
  | cons m ms => exact ⟨_, by simp only [Value.write]; rfl⟩

theorem endsNumber_writeItems (hspace : space.all isSpace = true) (layout : Option Nat)
    (vs : List Value) (rest : Text) :
    EndsNumber (writeItems layout false vs ++ (space ++ ']' :: rest)) := by
  cases vs with
  | nil => exact endsNumber_close hspace (.inl rfl) rest
  | cons v vs =>
    simp only [writeItems, lead, Bool.false_eq_true, if_false, List.cons_append]
    exact endsNumber_cons (by simp) _

theorem elements_item (r : Reader α) (fuel : Nat) (first : Bool) (ms : List (Text × Value))
    (vs : List Value) (behind : Text) :
    elements r (fuel + 1) first (writeItems layout first (.object ms :: vs) ++ behind) =
      (do return (← r) :: (← elements r fuel false) : Reader (List α))
        ((Value.object ms).write layout ++ (writeItems layout false vs ++ behind)) := by
  obtain ⟨u, hu⟩ := exists_write_object layout ms
  have hfirst := nextElement_lead first layout (u ++ (writeItems layout false vs ++ behind))
  rw [← List.cons_append, ← hu] at hfirst
  conv_lhs => unfold elements
  simp only [writeItems, List.append_assoc]
  rw [bind_of_ok hfirst]
  rfl

theorem elements_writeItems {objects : List (List (Text × Value))} {xs : List α}
    (h : List.Forall₂ (fun ms x => Reads r (.object ms) x) objects xs)
    (hspace : space.all isSpace = true) {fuel : Nat} (hfuel : objects.length < fuel)
    (first : Bool) :
    elements r fuel first
        (writeItems layout first (objects.map .object) ++ (space ++ ']' :: rest)) =
      .ok (xs, ']' :: rest) := by
  induction h generalizing fuel first with
  | nil =>
    obtain ⟨fuel, rfl⟩ := Nat.exists_eq_succ_of_ne_zero (Nat.ne_of_gt hfuel)
    unfold elements
    simp only [List.map_nil, writeItems, List.nil_append]
    rw [bind_of_ok (nextElement_close hspace first rest)]
    rfl
  | @cons ms x objects xs hreads _ ih =>
    obtain ⟨fuel, rfl⟩ := Nat.exists_eq_succ_of_ne_zero (Nat.ne_of_gt (Nat.zero_lt_of_lt hfuel))
    have hshorter : objects.length < fuel := Nat.lt_of_succ_lt_succ hfuel
    have hends := endsNumber_writeItems hspace layout (objects.map .object) rest
    rw [List.map_cons, elements_item, bind_of_ok (hreads.bare layout hends),
      bind_of_ok (ih hshorter false)]
    rfl

theorem length_lt_writeItems (layout : Option Nat) (first : Bool)
    (objects : List (List (Text × Value))) (behind : Text) :
    objects.length < (writeItems layout first (objects.map .object) ++ behind).length + 1 := by
  induction objects generalizing first with
  | nil => exact Nat.succ_pos _
  | cons ms objects ih =>
    obtain ⟨u, hu⟩ := exists_write_object layout ms
    have hrest := ih false
    simp only [List.map_cons, writeItems, hu, List.length_append, List.length_cons] at hrest ⊢
    omega

theorem exists_write_list (layout : Option Nat) (vs : List Value) :
    ∃ space : Text, space.all isSpace = true ∧ (Value.list vs).write layout =
      '[' :: (writeItems (layout.map (· + 1)) true vs ++ (space ++ [']'])) := by
  cases vs with
  | nil => exact ⟨[], rfl, by simp only [Value.write, writeItems]; rfl⟩
  | cons v vs =>
    obtain ⟨space, hspace, hlead⟩ := exists_lead true layout
    refine ⟨space, hspace, ?_⟩
    simp only [Value.write, hlead, if_true, List.nil_append, List.cons_append, List.append_assoc]

theorem reads_list {objects : List (List (Text × Value))} {xs : List α}
    (h : List.Forall₂ (fun ms x => Reads r (.object ms) x) objects xs) :
    Reads (listReader r) (.list (objects.map .object)) xs := by
  intro layout space rest hspace _
  obtain ⟨inner, hinner, hwrite⟩ := exists_write_list layout (objects.map .object)
  have hfuel := length_lt_writeItems (layout.map (· + 1)) true objects (inner ++ ']' :: rest)
  rw [hwrite]
  simp only [List.append_assoc, List.cons_append, List.nil_append]
  unfold listReader
  rw [bind_of_ok (takeOpen_cons hspace rfl _)]
  rw [bind_of_ok (a := get) rfl, bind_of_ok (elements_writeItems h hinner hfuel true),
    bind_of_ok (takeClose_bare rfl rest)]
  rfl

end Arrays

section Objects
variable {layout : Option Nat} {fields : List (Field σ)} {ms : List (Text × Value)} {s s' : σ}

theorem endsNumber_writeMembers (hspace : space.all isSpace = true) (layout : Option Nat)
    (ms : List (Text × Value)) (rest : Text) :
    EndsNumber (writeMembers layout false ms ++ (space ++ '}' :: rest)) := by
  cases ms with
  | nil => exact endsNumber_close hspace (.inr rfl) rest
  | cons m ms =>
    simp only [writeMembers, lead, Bool.false_eq_true, if_false, List.cons_append]
    exact endsNumber_cons (by simp) _

theorem length_lt_writeMembers (layout : Option Nat) (first : Bool) (ms : List (Text × Value))
    (behind : Text) : ms.length < (writeMembers layout first ms ++ behind).length + 1 := by
  induction ms generalizing first with
  | nil => exact Nat.succ_pos _
  | cons m ms ih =>
    have hrest := ih false
    simp only [writeMembers, quoted, List.length_append, List.length_cons] at hrest ⊢
    omega

theorem exists_write_members (layout : Option Nat) (ms : List (Text × Value)) :
    ∃ space : Text, space.all isSpace = true ∧ (Value.object ms).write layout =
      '{' :: (writeMembers (layout.map (· + 1)) true ms ++ (space ++ ['}'])) := by
  cases ms with
  | nil => exact ⟨[], rfl, by simp only [Value.write, writeMembers]; rfl⟩
  | cons m ms =>
    obtain ⟨space, hspace, hlead⟩ := exists_lead true layout
    refine ⟨space, hspace, ?_⟩
    simp only [Value.write, hlead, if_true, List.nil_append, List.cons_append, List.append_assoc]

/-- A written member: what stands before its key, its key, a colon with blanks, and its value. -/
theorem exists_writeMembers_cons (layout : Option Nat) (first : Bool) (m : Text × Value)
    (ms : List (Text × Value)) :
    ∃ space : Text, space.all isSpace = true ∧ writeMembers layout first (m :: ms) =
      lead first layout ++ '"' :: (m.1.flatMap escape ++
        '"' :: ':' :: (space ++ m.2.write layout ++ writeMembers layout false ms)) := by
  obtain ⟨space, hspace, hcolon⟩ := exists_colon layout
  refine ⟨space, hspace, ?_⟩
  rw [writeMembers, hcolon]
  simp [quoted]

/-- Members that bring the fields of a structure from one state to another, each its own field that
was not set before. -/
inductive Fills (fields : List (Field σ)) : List (Text × Value) → σ → σ → Prop where
  | nil (s : σ) : Fills fields [] s s
  | cons {key : Text} {v : Value} {ms : List (Text × Value)} {field : Field σ} {s s₁ s₂ : σ}
      (hfield : fields.find? (fun field => field.name = key) = some field)
      (hunset : field.isSet s = false) (hread : Reads (field.read s) v s₁)
      (hrest : Fills fields ms s₁ s₂) : Fills fields ((key, v) :: ms) s s₂

theorem Fills.append {ms' : List (Text × Value)} {s₁ : σ} (h : Fills fields ms s s₁)
    (h' : Fills fields ms' s₁ s') : Fills fields (ms ++ ms') s s' := by
  induction h with
  | nil => exact h'
  | cons hfield hunset hread _ ih => exact .cons hfield hunset hread (ih h')

theorem readObject_member {key : Text} {field : Field σ} (layout : Option Nat)
    (hfield : fields.find? (fun field => field.name = key) = some field)
    (hunset : field.isSet s = false) (fuel : Nat) (first : Bool) (v : Value)
    (ms : List (Text × Value)) (behind : Text) :
    ∃ gap : Text, gap.all isSpace = true ∧
      readObject fields (fuel + 1) first s
          (writeMembers layout first ((key, v) :: ms) ++ behind) =
        (field.read s >>= readObject fields fuel false)
          (gap ++ v.write layout ++ (writeMembers layout false ms ++ behind)) := by
  obtain ⟨gap, hgap, hwrite⟩ := exists_writeMembers_cons layout first (key, v) ms
  refine ⟨gap, hgap, ?_⟩
  conv_lhs => unfold readObject
  rw [hwrite]
  simp only [List.append_assoc, List.cons_append]
  rw [bind_of_ok (nextMember_lead first layout _)]
  simp only [if_true]
  rw [bind_of_ok (keyReader_cons key _)]
  simp only [hfield, hunset, Bool.false_eq_true, if_false]
  rw [bind_of_ok (takeColon_cons _)]

theorem readObject_writeMembers (h : Fills fields ms s s') (hspace : space.all isSpace = true)
    {fuel : Nat} (hfuel : ms.length < fuel) (first : Bool) :
    readObject fields fuel first s (writeMembers layout first ms ++ (space ++ '}' :: rest)) =
      .ok (s', '}' :: rest) := by
  induction h generalizing fuel first with
  | nil s =>
    obtain ⟨fuel, rfl⟩ := Nat.exists_eq_succ_of_ne_zero (Nat.ne_of_gt hfuel)
    unfold readObject
    simp only [writeMembers, List.nil_append]
    rw [bind_of_ok (nextMember_close hspace first rest)]
    rfl
  | @cons key v ms field s s₁ s₂ hfield hunset hread _ ih =>
    obtain ⟨fuel, rfl⟩ := Nat.exists_eq_succ_of_ne_zero (Nat.ne_of_gt (Nat.zero_lt_of_lt hfuel))
    have hshorter : ms.length < fuel := Nat.lt_of_succ_lt_succ hfuel
    obtain ⟨gap, hgap, hmember⟩ :=
      readObject_member layout hfield hunset fuel first v ms (space ++ '}' :: rest)
    have hends := endsNumber_writeMembers hspace layout ms rest
    rw [hmember, bind_of_ok (hread layout gap _ hgap hends)]
    exact ih hshorter false

theorem reads_record {start : σ} {finish : σ → Option α} {x : α} (h : Fills fields ms start s)
    (hfinish : finish s = some x) : Reads (recordReader fields start finish) (.object ms) x := by
  intro layout space rest hspace _
  obtain ⟨inner, hinner, hwrite⟩ := exists_write_members layout ms
  have hfuel := length_lt_writeMembers (layout.map (· + 1)) true ms (inner ++ '}' :: rest)
  rw [hwrite]
  simp only [List.append_assoc, List.cons_append, List.nil_append]
  unfold recordReader
  rw [skipSpace_cons_behind hspace rfl]
  simp only
  rw [bind_of_ok (readObject_writeMembers h hinner hfuel true)]
  simp only [hfinish]
  rw [bind_of_ok (a := pure x) rfl, bind_of_ok (takeClose_bare rfl rest)]
  rfl

/-- A member with a key that is data, and what is read from it. -/
def ReadsMember (r : Reader α) (m : Text × Value) (y : Text × α) : Prop :=
  m.1 = y.1 ∧ Reads r m.2 y.2

theorem members_writeMembers {r : Reader α} {ys : List (Text × α)}
    (h : List.Forall₂ (ReadsMember r) ms ys) (hspace : space.all isSpace = true) {fuel : Nat}
    (hfuel : ms.length < fuel) (first : Bool) :
    members r fuel first (writeMembers layout first ms ++ (space ++ '}' :: rest)) =
      .ok (ys, '}' :: rest) := by
  induction h generalizing fuel first with
  | nil =>
    obtain ⟨fuel, rfl⟩ := Nat.exists_eq_succ_of_ne_zero (Nat.ne_of_gt hfuel)
    unfold members
    simp only [writeMembers, List.nil_append]
    rw [bind_of_ok (nextMember_close hspace first rest)]
    rfl
  | @cons m y ms ys hmember _ ih =>
    obtain ⟨fuel, rfl⟩ := Nat.exists_eq_succ_of_ne_zero (Nat.ne_of_gt (Nat.zero_lt_of_lt hfuel))
    have hshorter : ms.length < fuel := Nat.lt_of_succ_lt_succ hfuel
    obtain ⟨gap, hgap, hwrite⟩ := exists_writeMembers_cons layout first m ms
    have hvalue := hmember.2 layout gap _ hgap (endsNumber_writeMembers hspace layout ms rest)
    unfold members
    rw [hwrite]
    simp only [List.append_assoc, List.cons_append] at hvalue ⊢
    rw [bind_of_ok (nextMember_lead first layout _)]
    simp only [if_true]
    rw [bind_of_ok (keyReader_cons m.1 _), bind_of_ok (takeColon_cons _), bind_of_ok hvalue,
      bind_of_ok (ih hshorter false), hmember.1]
    rfl

theorem reads_map {r : Reader α} {ys : List (Text × α)}
    (h : List.Forall₂ (ReadsMember r) ms ys) : Reads (mapReader r) (.object ms) ys := by
  intro layout space rest hspace _
  obtain ⟨inner, hinner, hwrite⟩ := exists_write_members layout ms
  have hfuel := length_lt_writeMembers (layout.map (· + 1)) true ms (inner ++ '}' :: rest)
  rw [hwrite]
  simp only [List.append_assoc, List.cons_append, List.nil_append]
  unfold mapReader
  rw [bind_of_ok (takeOpen_cons hspace rfl _)]
  rw [bind_of_ok (a := get) rfl, bind_of_ok (members_writeMembers h hinner hfuel true),
    bind_of_ok (takeClose_bare rfl rest)]
  rfl

end Objects

section Whole

theorem parse_write {r : Reader α} {v : Value} {x : α} (h : Reads r v x) (layout : Option Nat) :
    parse r (v.write layout) = .ok x := by
  have hread := h.bare layout endsNumber_nil
  rw [List.append_nil] at hread
  unfold parse
  rw [hread]
  rfl

/-- Reads a text or a number. -/
def scalarReader (f : BinaryFormat) : Reader (Text ⊕ Number) := fun t =>
  if (skipSpace t).head? = some '"' then (Sum.inl <$> textReader) t
  else (Sum.inr <$> numberReader f) t

theorem reads_scalar_text (f : BinaryFormat) (t : Text) :
    Reads (scalarReader f) (.text t) (.inl t) := by
  intro layout space rest hspace hrest
  have hquote : (skipSpace (space ++ (Value.text t).write layout ++ rest)).head? = some '"' := by
    rw [List.append_assoc, skipSpace_append_of_all hspace]
    rfl
  unfold scalarReader
  rw [if_pos hquote]
  exact map_of_ok (reads_text t layout space rest hspace hrest) Sum.inl

theorem reads_scalar_number {f : BinaryFormat} {x : Number} (hfinite : x.isFinite = true)
    (h : ReadsBack f x) : Reads (scalarReader f) (.ofNumber f x) (.inr x) := by
  intro layout space rest hspace hrest
  have hquote := head?_ne_of_readsBack hfinite h hspace (by decide : '"' ≠ '-' ∧ _) layout rest
  unfold scalarReader
  rw [if_neg hquote]
  exact map_of_ok (reads_number hfinite h layout space rest hspace hrest) Sum.inr

end Whole

end LabGrader.Json
