import LabGrader.Assignment
import LabGrader.Proofs.Submission.Partition
import LabGrader.Proofs.Submission.Rendering

/-!
# Fences of questions

The code of a question stands in a fence, which is closed again if the question is cut. Fences can be
counted part by part, since none reaches over a character that it does not have. A cut behind the
opening leaves it and the new closing; one in front of it leaves a closing without an opening.
-/

namespace LabGrader.Submission

/-- At how many places of a text a mark stands. -/
def occurrences (mark t : Text) : Nat := t.tails.countP fun back => mark.isPrefixOf back

def tick : Char := '\x60'

def tag : Text := "java".toList

/-- There are two fences, one with the tag of the code, and the other, without it, at the end. -/
structure Fenced (t : Text) : Prop where
  fences : occurrences fence t = 2
  tagged : occurrences (fence ++ tag) t = 1
  closed : fence <:+ t

section Occurrences
variable {mark word a t : Text} {c : Char}

theorem occurrences_nil (h : mark ≠ []) : occurrences mark [] = 0 := by
  cases mark with
  | nil => exact absurd rfl h
  | cons d mark => rfl

theorem occurrences_cons (mark : Text) (c : Char) (t : Text) :
    occurrences mark (c :: t) = occurrences mark t + if mark <+: c :: t then 1 else 0 := by
  rw [occurrences, List.tails, List.countP_cons]
  simp only [List.isPrefixOf_iff_prefix]
  rfl

theorem occurrences_cons_of_ne (h : mark.head? ≠ some c) (hmark : mark ≠ []) (t : Text) :
    occurrences mark (c :: t) = occurrences mark t := by
  rw [occurrences_cons, if_neg, Nat.add_zero]
  intro hprefix
  obtain ⟨d, mark, rfl⟩ := List.exists_cons_of_ne_nil hmark
  obtain ⟨rfl, -⟩ := List.cons_prefix_cons.mp hprefix
  exact h rfl

/-- No mark reaches over a character that it does not have. -/
theorem occurrences_append_cons (hc : c ∉ mark) (hmark : mark ≠ []) (a t : Text) :
    occurrences mark (a ++ c :: t) = occurrences mark a + occurrences mark t := by
  induction a with
  | nil =>
    rw [List.nil_append, occurrences_nil hmark, Nat.zero_add, occurrences_cons_of_ne _ hmark]
    exact fun hhead => hc (List.mem_of_mem_head? hhead)
  | cons d a ih =>
    have hfront : mark <+: d :: (a ++ c :: t) ↔ mark <+: d :: a := by
      constructor
      · intro h
        have hlength : mark.length ≤ (d :: a).length := by
          by_contra hlong
          have hreach : d :: a ++ [c] <+: d :: (a ++ c :: t) := ⟨t, by simp⟩
          have hover : d :: a ++ [c] <+: mark := by
            apply List.prefix_of_prefix_length_le hreach h
            simp only [List.length_append, List.length_cons, List.length_nil] at hlong ⊢
            omega
          exact hc (hover.mem (by simp))
        exact List.prefix_of_prefix_length_le h ⟨c :: t, rfl⟩ hlength
      · exact fun h => h.trans ⟨c :: t, rfl⟩
    rw [List.cons_append, occurrences_cons, occurrences_cons, ih, if_congr hfront rfl rfl]
    omega

theorem fence_eq : fence = [tick, tick, tick] := rfl

theorem fence_append_ne_nil (word : Text) : fence ++ word ≠ [] := List.cons_ne_nil _ _

theorem occurrences_append_of_notMem (h : tick ∉ a) (word t : Text) :
    occurrences (fence ++ word) (a ++ t) = occurrences (fence ++ word) t := by
  induction a with
  | nil => rfl
  | cons c a ih =>
    rw [List.mem_cons, not_or] at h
    have hhead : (fence ++ word).head? ≠ some c := fun hc => h.1 (Option.some.inj hc)
    rw [List.cons_append, occurrences_cons_of_ne hhead (fence_append_ne_nil word), ih h.2]

/-- Behind a fence that does not go on, only that fence counts. -/
theorem occurrences_fence_append (h : t.head? ≠ some tick) (word : Text) :
    occurrences (fence ++ word) (fence ++ t) =
      occurrences (fence ++ word) t + if word <+: t then 1 else 0 := by
  have hlast : ¬ fence ++ word <+: tick :: t := by
    intro hprefix
    obtain ⟨back, hback⟩ := (List.cons_prefix_cons.mp hprefix).2
    exact h (hback ▸ rfl)
  have hmiddle : ¬ fence ++ word <+: tick :: tick :: t := by
    intro hprefix
    obtain ⟨back, hback⟩ := (List.cons_prefix_cons.mp (List.cons_prefix_cons.mp hprefix).2).2
    exact h (hback ▸ rfl)
  have hfirst : fence ++ word <+: tick :: tick :: tick :: t ↔ word <+: t :=
    List.prefix_append_right_inj fence
  change occurrences (fence ++ word) (tick :: tick :: tick :: t) = _
  rw [occurrences_cons, occurrences_cons, occurrences_cons, if_neg hlast, if_neg hmiddle,
    if_congr hfirst rfl rfl, Nat.add_zero]

theorem occurrences_eq_zero_of_length_lt (h : t.length < mark.length) : occurrences mark t = 0 := by
  apply List.countP_eq_zero.mpr
  intro back hback hmark
  have hlong := (List.isPrefixOf_iff_prefix.mp hmark).length_le
  have hshort := ((List.mem_tails back t).mp hback).length_le
  omega

theorem occurrences_take_of_lt (h : tick ∉ a) {n : Nat} (hn : n < (a ++ fence).length)
    (word t : Text) : occurrences (fence ++ word) ((a ++ (fence ++ t)).take n) = 0 := by
  have hshort : (fence.take (n - a.length)).length < (fence ++ word).length := by
    simp only [fence_eq, List.length_append, List.length_take, List.length_cons] at hn ⊢
    omega
  rw [← List.append_assoc, List.take_append_of_le_length (Nat.le_of_lt hn), List.take_append,
    occurrences_append_of_notMem (fun hmem => h (List.mem_of_mem_take hmem))]
  exact occurrences_eq_zero_of_length_lt hshort

end Occurrences

section Blocks
variable {word front block : Text}

theorem occurrences_block (hfront : tick ∉ front) (hblock : tick ∉ block) (hne : block ≠ [])
    (hword : word <+: block) :
    occurrences (fence ++ word) (front ++ (fence ++ (block ++ fence))) =
      1 + occurrences (fence ++ word) fence := by
  have hhead : (block ++ fence).head? ≠ some tick := by
    rw [List.head?_append_of_ne_nil _ hne]
    exact fun h => hblock (List.mem_of_mem_head? h)
  rw [occurrences_append_of_notMem hfront, occurrences_fence_append hhead,
    occurrences_append_of_notMem hblock, if_pos (hword.trans (List.prefix_append block fence)),
    Nat.add_comm]

/-- The first fence of a cut text counts if it and the word behind it are left. -/
theorem occurrences_take_block (hfront : tick ∉ front) (hblock : tick ∉ block) (hne : block ≠ [])
    (hword : word <+: block) {n : Nat}
    (hn : n < (front ++ (fence ++ (block ++ fence))).length) :
    occurrences (fence ++ word) ((front ++ (fence ++ (block ++ fence))).take n) =
      if (front ++ fence ++ word).length ≤ n then 1 else 0 := by
  by_cases hopened : (front ++ fence).length ≤ n
  · obtain ⟨k, rfl⟩ := Nat.exists_eq_add_of_le hopened
    have hk : k < (block ++ fence).length := by
      simp only [List.length_append] at hn ⊢
      omega
    have hhead : ((block ++ fence).take k).head? ≠ some tick := by
      rw [List.head?_take, List.head?_append_of_ne_nil _ hne]
      split
      · exact (Option.some_ne_none tick).symm
      · exact fun h => hblock (List.mem_of_mem_head? h)
    have hcount : occurrences (fence ++ word) ((block ++ fence).take k) = 0 :=
      occurrences_take_of_lt hblock hk word []
    have hleft : word <+: (block ++ fence).take k ↔
        (front ++ fence ++ word).length ≤ (front ++ fence).length + k := by
      rw [List.prefix_take_iff, and_iff_right (hword.trans (List.prefix_append block fence)),
        List.length_append, Nat.add_le_add_iff_left]
    rw [← List.append_assoc, List.take_length_add_append, List.append_assoc,
      occurrences_append_of_notMem hfront, occurrences_fence_append hhead, hcount, Nat.zero_add,
      if_congr hleft rfl rfl]
  · have hlong : ¬ (front ++ fence ++ word).length ≤ n := by
      rw [List.length_append]
      omega
    rw [if_neg hlong]
    exact occurrences_take_of_lt hfront (Nat.lt_of_not_le hopened) word _

end Blocks

section Message

/-- What stands in front of the fence of the code. -/
def Parts.heading (p : Parts) : Text := headerLabel ++ (p.header ++ "\n\n**CODE:**\n".toList)

/-- What stands in the fence. -/
def Parts.block (p : Parts) : Text := tag ++ '\n' :: p.code

variable {p : Parts} {word mark text : Text}

theorem Parts.render_eq_blocks (p : Parts) :
    p.render = p.heading ++ (fence ++ (p.block ++ fence)) := by
  simp only [p.render_eq, heading, block, List.append_assoc]
  rfl

theorem user_of_le (h : text.length ≤ Prompt.limit) : Prompt.user text = text := by
  rw [Prompt.user, List.take_of_length_le h]
  exact if_pos rfl

theorem user_of_lt (h : Prompt.limit < text.length) :
    Prompt.user text = text.take Prompt.limit ++
      (if (text.take Prompt.limit).getLast? = some '\n' then [] else ['\n']) ++ fence := by
  rw [Prompt.user, if_neg]
  · rfl
  · rw [List.length_take]
    omega

theorem fence_suffix_user (p : Parts) : fence <:+ Prompt.user p.render := by
  rcases Nat.lt_or_ge Prompt.limit p.render.length with hlong | hshort
  · rw [user_of_lt hlong]
    exact List.suffix_append _ fence
  · rw [user_of_le hshort, p.render_eq_blocks, ← List.append_assoc, ← List.append_assoc]
    exact List.suffix_append _ fence

theorem occurrences_closing (hline : '\n' ∉ mark) (hmark : mark ≠ []) (kept : Text) :
    occurrences mark (kept ++ (if kept.getLast? = some '\n' then [] else ['\n']) ++ fence) =
      occurrences mark kept + occurrences mark fence := by
  split
  · rename_i hlast
    obtain ⟨kept, rfl⟩ := List.getLast?_eq_some_iff.mp hlast
    rw [List.append_nil, List.append_assoc, occurrences_append_cons hline hmark kept [],
      occurrences_nil hmark, Nat.add_zero]
    exact occurrences_append_cons hline hmark kept fence
  · rw [List.append_assoc]
    exact occurrences_append_cons hline hmark kept fence

theorem occurrences_user (hheading : tick ∉ p.heading) (hblock : tick ∉ p.block)
    (hword : word <+: p.block) (hline : '\n' ∉ fence ++ word) :
    occurrences (fence ++ word) (Prompt.user p.render) =
      (if (p.heading ++ fence ++ word).length ≤ Prompt.limit then 1 else 0) +
        occurrences (fence ++ word) fence := by
  have hne : p.block ≠ [] := List.cons_ne_nil _ _
  rcases Nat.lt_or_ge Prompt.limit p.render.length with hlong | hshort
  · rw [user_of_lt hlong, occurrences_closing hline (fence_append_ne_nil word)]
    rw [p.render_eq_blocks] at hlong ⊢
    rw [occurrences_take_block hheading hblock hne hword hlong]
  · rw [user_of_le hshort, p.render_eq_blocks, occurrences_block hheading hblock hne hword, if_pos]
    have hlength := hword.length_le
    simp only [p.render_eq_blocks, List.length_append] at hshort ⊢
    omega

theorem tick_notMem_heading (h : tick ∉ text) : tick ∉ (normalize text).heading := by
  have hgist : tick ∉ gist (normalize text).header := by
    rw [header_eq, gist_cleanHeader]
    intro hmem
    apply h
    rw [← preamble_append_code text]
    exact List.mem_append_left _ (List.mem_of_mem_filter hmem)
  have hheader : tick ∉ (normalize text).header := fun hmem =>
    hgist (List.mem_filter.mpr ⟨hmem, rfl⟩)
  simp only [Parts.heading, List.mem_append, not_or]
  exact ⟨by decide, hheader, by decide⟩

theorem tick_notMem_block (h : tick ∉ text) : tick ∉ (normalize text).block := by
  have hcode : tick ∉ (normalize text).code := by
    intro hmem
    apply h
    rw [← preamble_append_code text]
    exact List.mem_append_right _ hmem
  simp only [Parts.block, List.mem_append, List.mem_cons, not_or]
  exact ⟨by decide, by decide, hcode⟩

/-- What a header keeps stands in front of the fence; all of a text does that has no mark of code. -/
theorem length_gist_le_heading (h : ∀ mark ∈ codeMarks, ¬ mark <:+: text) :
    (gist text).length ≤ (normalize text).heading.length := by
  have hcode : (normalize text).code = [] := by
    apply (code_eq_nil_iff text).mpr
    rintro a b rfl hbetween
    obtain ⟨mark, hmem, hmark⟩ := hbetween.marked
    have hline : Text.firstLine b <:+: a ++ b :=
      (List.takeWhile_prefix _).isInfix.trans (List.suffix_append a b).isInfix
    exact h mark hmem ((hmark.isInfix.trans (Text.trim_isInfix _)).trans hline)
  have hpreamble : preamble text = text := by
    have happend := preamble_append_code text
    rwa [hcode, List.append_nil] at happend
  calc (gist text).length
      = (gist (normalize text).header).length := by rw [header_eq, gist_cleanHeader, hpreamble]
    _ ≤ (normalize text).header.length := List.length_filter_le _ _
    _ ≤ (normalize text).heading.length := by
        simp only [Parts.heading, List.length_append]
        omega

theorem occurrences_fence_user (h : tick ∉ text) :
    occurrences fence (Prompt.user (normalize text).render) =
      if ((normalize text).heading ++ fence).length ≤ Prompt.limit then 2 else 1 := by
  have huser := occurrences_user (tick_notMem_heading h) (tick_notMem_block h) List.nil_prefix
    (by decide)
  have hone : occurrences fence fence = 1 := rfl
  rw [List.append_nil, List.append_nil, hone] at huser
  rw [huser]
  split
  · rfl
  · rfl

theorem occurrences_tag_user (h : tick ∉ text) :
    occurrences (fence ++ tag) (Prompt.user (normalize text).render) =
      if ((normalize text).heading ++ fence ++ tag).length ≤ Prompt.limit then 1 else 0 := by
  have hnone : occurrences (fence ++ tag) fence = 0 := rfl
  rw [occurrences_user (tick_notMem_heading h) (tick_notMem_block h) (List.prefix_append tag _)
    (by decide), hnone, Nat.add_zero]

theorem fenced_user_of_le (h : tick ∉ text)
    (hroom : ((normalize text).heading ++ fence ++ tag).length ≤ Prompt.limit) :
    Fenced (Prompt.user (normalize text).render) := by
  refine ⟨?_, ?_, fence_suffix_user _⟩
  · rw [occurrences_fence_user h, if_pos]
    rw [List.length_append] at hroom
    exact (Nat.le_add_right _ _).trans hroom
  · rw [occurrences_tag_user h, if_pos hroom]

theorem not_fenced_user_of_lt (h : tick ∉ text)
    (hlong : Prompt.limit < ((normalize text).heading ++ fence ++ tag).length) :
    ¬ Fenced (Prompt.user (normalize text).render) := by
  intro hfenced
  have htagged := hfenced.tagged
  rw [occurrences_tag_user h, if_neg (Nat.not_le_of_lt hlong)] at htagged
  cases htagged

/-- A submission without a tick is asked about with a closed fence at the end of the message. The
fence that this one closes is there, with its tag, exactly if the header leaves room for both below
the limit; behind a longer header the closing fence opens one. -/
theorem user_fenced_iff (h : tick ∉ text) :
    fence <:+ Prompt.user (normalize text).render ∧
    occurrences fence (Prompt.user (normalize text).render) =
      (if ((normalize text).heading ++ fence).length ≤ Prompt.limit then 2 else 1) ∧
    occurrences (fence ++ tag) (Prompt.user (normalize text).render) =
      (if ((normalize text).heading ++ fence ++ tag).length ≤ Prompt.limit then 1 else 0) ∧
    (Fenced (Prompt.user (normalize text).render) ↔
      ((normalize text).heading ++ fence ++ tag).length ≤ Prompt.limit) := by
  refine ⟨fence_suffix_user _, occurrences_fence_user h, occurrences_tag_user h, ?_⟩
  constructor
  · intro hfenced
    by_contra hlong
    exact not_fenced_user_of_lt h (Nat.lt_of_not_le hlong) hfenced
  · exact fenced_user_of_le h

theorem user_fenced_iff_short :
    tick ∉ "// Ada\npublic class A \x7b\x7d".toList ∧
    Fenced (Prompt.user (normalize "// Ada\npublic class A \x7b\x7d".toList).render) := by
  have htick : tick ∉ "// Ada\npublic class A \x7b\x7d".toList := by decide +kernel
  exact ⟨htick, (user_fenced_iff htick).2.2.2.mpr (by decide +kernel)⟩

theorem le_length_heading_replicate (n : Nat) :
    n ≤ (normalize (List.replicate n 'x')).heading.length := by
  have hother : codeMarks.all (fun mark => mark.any (· ≠ 'x')) = true := rfl
  have hmarks : ∀ mark ∈ codeMarks, ¬ mark <:+: List.replicate n 'x' := by
    intro mark hmark hinside
    obtain ⟨c, hc, hne⟩ := List.any_eq_true.mp (List.all_eq_true.mp hother mark hmark)
    exact of_decide_eq_true hne (List.eq_of_mem_replicate (hinside.mem hc))
  have hgist : gist (List.replicate n 'x') = List.replicate n 'x' := List.filter_replicate_of_pos rfl
  have hlength := length_gist_le_heading hmarks
  rwa [hgist, List.length_replicate] at hlength

theorem header_without_room :
    tick ∉ List.replicate Prompt.limit 'x' ∧
    ¬ Fenced (Prompt.user (normalize (List.replicate Prompt.limit 'x')).render) := by
  have htick : tick ∉ List.replicate Prompt.limit 'x' := by
    intro hmem
    exact absurd (List.eq_of_mem_replicate hmem) (by decide)
  refine ⟨htick, not_fenced_user_of_lt htick ?_⟩
  have hlong := le_length_heading_replicate Prompt.limit
  have hfence : fence.length = 3 := rfl
  rw [List.length_append, List.length_append, hfence]
  omega

end Message

end LabGrader.Submission
