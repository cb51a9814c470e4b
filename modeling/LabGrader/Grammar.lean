import LabGrader.Text.Basic

/-!
# Parsing expressions

An expression takes a piece off the front of a text, or fails. Nothing that has been taken is given
back: a repetition takes as often as it can, whatever has to come after it. Only an expression that
never succeeds without taking a character can be repeated, so every repetition ends.
-/

namespace LabGrader.Grammar

/-- The index is true for expressions that never succeed without taking a character. -/
inductive Expression : Bool → Type where
  | nothing : Expression false
  | character : Expression true
  | mark (m : Text) : Expression (!m.isEmpty)
  | andThen {a b : Bool} (first : Expression a) (second : Expression b) : Expression (a || b)
  | repeated (e : Expression true) : Expression false
  | absent {a : Bool} (e : Expression a) : Expression false

/-- What is left of a text. -/
structure Rest (advances : Bool) (t : Text) where
  text : Text
  fits : text.length + advances.toNat ≤ t.length

namespace Rest

def whole (t : Text) : Rest false t := ⟨t, Nat.le_refl _⟩

def behind {m t : Text} (h : m <+: t) : Rest (!m.isEmpty) t where
  text := t.drop m.length
  fits := by
    have htaken : (!m.isEmpty).toNat ≤ m.length := by
      cases m with
      | nil => exact Nat.le_refl 0
      | cons c m => exact Nat.le_add_left 1 m.length
    obtain ⟨rest, rfl⟩ := h
    rw [List.drop_left, List.length_append]
    omega

def weaken {a : Bool} {t : Text} (r : Rest a t) : Rest false t :=
  ⟨r.text, Nat.le_trans (Nat.le_add_right _ _) r.fits⟩

def trans {a b : Bool} {t : Text} (r : Rest a t) (r' : Rest b r.text) : Rest (a || b) t where
  text := r'.text
  fits := by
    have hor : (a || b).toNat ≤ a.toNat + b.toNat := by cases a <;> cases b <;> decide
    have hr := r.fits
    have hr' := r'.fits
    omega

end Rest

def exhaust (take? : (t : Text) → Option (Rest true t)) (t : Text) : Rest false t :=
  match take? t with
  | none => .whole t
  | some r => (r.trans (exhaust take? r.text)).weaken
termination_by t.length
decreasing_by exact r.fits

namespace Expression

def take? : {a : Bool} → Expression a → (t : Text) → Option (Rest a t)
  | _, .nothing, t => some (.whole t)
  | _, .character, [] => none
  | _, .character, _ :: t => some ⟨t, Nat.le_refl _⟩
  | _, .mark m, t =>
    if h : m <+: t then some (.behind h) else none
  | _, .andThen first second, t => do
    let r ← first.take? t
    let r' ← second.take? r.text
    return r.trans r'
  | _, .repeated e, t => some (exhaust e.take? t)
  | _, .absent e, t => if (e.take? t).isSome then none else some (.whole t)

def rest? {a : Bool} (e : Expression a) (t : Text) : Option Text := (e.take? t).map Rest.text

/-- Takes the text up to a mark, or all of it if there is none. -/
def upTo (m : Text) : Expression false := .repeated (.andThen (.absent (.mark m)) .character)

section Equations
variable {a b : Bool} {m : Text} (t : Text)

@[simp] theorem rest?_nothing : nothing.rest? t = some t := rfl

@[simp] theorem rest?_character_nil : character.rest? [] = none := rfl

@[simp] theorem rest?_character_cons (c : Char) : character.rest? (c :: t) = some t := rfl

theorem rest?_mark (m : Text) :
    (mark m).rest? t = if m <+: t then some (t.drop m.length) else none := by
  unfold rest? take?
  split <;> rfl

theorem rest?_mark_append (m t : Text) : (mark m).rest? (m ++ t) = some t := by
  rw [rest?_mark, if_pos (List.prefix_append m t), List.drop_left]

theorem rest?_mark_nil (hm : m ≠ []) : (mark m).rest? [] = none := by
  rw [rest?_mark, if_neg]
  exact fun h => hm (List.prefix_nil.mp h)

theorem rest?_andThen (first : Expression a) (second : Expression b) :
    (first.andThen second).rest? t = (first.rest? t).bind second.rest? := by
  unfold rest?
  rw [take?]
  cases first.take? t with
  | none => rfl
  | some r =>
    change Option.map Rest.text ((second.take? r.text).bind fun r' => some (r.trans r')) =
      (second.take? r.text).map Rest.text
    cases second.take? r.text <;> rfl

theorem rest?_absent (e : Expression a) :
    e.absent.rest? t = if (e.rest? t).isSome then none else some t := by
  simp only [rest?, take?, Option.isSome_map]
  split <;> rfl

theorem rest?_absent_mark (m : Text) :
    (mark m).absent.rest? t = if m <+: t then none else some t := by
  rw [rest?_absent, rest?_mark]
  split <;> rfl

theorem rest?_repeated_of_none {e : Expression true} (h : e.rest? t = none) :
    e.repeated.rest? t = some t := by
  have htake : e.take? t = none := Option.map_eq_none_iff.mp h
  rw [rest?, take?, exhaust, htake]
  rfl

theorem rest?_repeated_of_some {e : Expression true} {rest : Text} (h : e.rest? t = some rest) :
    e.repeated.rest? t = e.repeated.rest? rest := by
  obtain ⟨r, htake, rfl⟩ := Option.map_eq_some_iff.mp h
  rw [rest?, take?, exhaust, htake]
  rfl

theorem rest?_repeated_character : character.repeated.rest? t = some [] := by
  induction t with
  | nil => exact rest?_repeated_of_none [] rest?_character_nil
  | cons c t ih => rw [rest?_repeated_of_some (c :: t) (rest?_character_cons t c), ih]

variable {t}

/-- Nothing more is passed over where the mark stands. -/
theorem rest?_upTo_at (h : m <+: t) : (upTo m).rest? t = some t := by
  apply rest?_repeated_of_none
  rw [rest?_andThen, rest?_absent_mark, if_pos h]
  rfl

theorem rest?_upTo_cons {c : Char} (h : ¬ m <+: c :: t) :
    (upTo m).rest? (c :: t) = (upTo m).rest? t := by
  apply rest?_repeated_of_some
  rw [rest?_andThen, rest?_absent_mark, if_neg h]
  exact rest?_character_cons t c

theorem rest?_upTo_nil (m : Text) : (upTo m).rest? [] = some [] := by
  by_cases h : m <+: []
  · exact rest?_upTo_at h
  · apply rest?_repeated_of_none
    rw [rest?_andThen, rest?_absent_mark, if_neg h]
    exact rest?_character_nil

end Equations

end Expression

/-- A rule takes a text apart and gives back what its middle part has taken. -/
structure Rule where
  {a b c : Bool}
  front : Expression a
  middle : Expression b
  back : Expression c

namespace Rule

/-- What the rule gives back, and what it leaves of the text. -/
def take? (r : Rule) (t : Text) : Option (Text × Text) := do
  let start ← r.front.rest? t
  let stop ← r.middle.rest? start
  let rest ← r.back.rest? stop
  return (start.take (start.length - stop.length), rest)

/-- A rule has to take the whole text. -/
def read? (r : Rule) (t : Text) : Option Text :=
  match r.take? t with
  | some (found, []) => some found
  | _ => none

end Rule

end LabGrader.Grammar
