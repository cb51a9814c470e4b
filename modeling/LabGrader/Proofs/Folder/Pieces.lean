import LabGrader.Proofs.Folder.Home
import Mathlib.Data.List.Induction
import Mathlib.Data.List.TakeWhile

/-!
# Paths from their pieces

A path that is joined from pieces leads where the pieces lead one after the other, and has their
components. If nothing stands before its first piece, that piece must move, as a path that starts
with a slash or a dot is another one.
-/

namespace LabGrader

namespace Path

variable {p : Path} {piece name : Text} {pieces rest : List Text}

theorem of_mem_pieces (h : piece ∈ p.pieces) : '/' ∉ piece ∧ piece ⊆ p.text := by
  obtain ⟨t⟩ := p
  unfold Path.pieces at h
  induction t generalizing piece with
  | nil =>
    rw [List.splitOn_nil, List.mem_singleton] at h
    subst h
    simp
  | cons c rest ih =>
    rw [List.splitOn_cons_eq_if_modifyHead] at h
    split at h
    · rcases List.mem_cons.mp h with rfl | h
      · simp
      · exact ⟨(ih h).1, List.Subset.trans (ih h).2 (List.subset_cons_self c rest)⟩
    · rename_i hc
      -- the character goes to the first piece of the rest
      cases hsplit : rest.splitOn '/' with
      | nil => exact absurd hsplit (List.splitOn_ne_nil _ _)
      | cons first others =>
        rw [hsplit, List.modifyHead_cons] at h
        rcases List.mem_cons.mp h with rfl | h
        · have hfirst := ih (hsplit ▸ List.mem_cons_self)
          refine ⟨?_, List.cons_subset_cons c hfirst.2⟩
          rw [List.mem_cons, not_or]
          exact ⟨fun hslash => hc (beq_iff_eq.mpr hslash.symm), hfirst.1⟩
        · have hpiece := ih (hsplit ▸ List.mem_cons_of_mem first h)
          exact ⟨hpiece.1, List.Subset.trans hpiece.2 (List.subset_cons_self c rest)⟩

theorem mem_pieces_of_mem_homePieces (h : piece ∈ p.homePieces) : piece ∈ p.pieces := by
  unfold homePieces at h
  split at h
  · cases h
  · split at h
    · exact List.dropLast_subset _ h
    · exact h

theorem homePieces_join_nil (p : Path) : (p.join []).homePieces = p.homePieces := by
  obtain ⟨t⟩ := p
  by_cases hempty : t = []
  · simp [join, isEmpty, homePieces, hempty]
  · by_cases hlast : t.getLast? = some '/'
    · simp [join, isEmpty, hempty, hlast]
    · have hjoin : Path.join ⟨t⟩ [] = ⟨t ++ ['/']⟩ := by simp [join, isEmpty, hempty, hlast]
      rw [hjoin, homePieces_append_slash]
      simp [homePieces, hempty, hlast]

theorem homePieces_join (p : Path) (h : '/' ∉ name) (hne : name ≠ []) :
    (p.join name).homePieces = p.homePieces ++ [name] := by
  have hpieces := pieces_join p h
  have htext : (p.join name).text ≠ [] := by
    intro hempty
    have hlast : (p.join name).pieces.getLast? = some [] := by
      rw [Path.pieces, hempty]
      rfl
    rw [hpieces, List.getLast?_concat] at hlast
    exact hne (Option.some.inj hlast)
  rcases pieces_eq_homePieces htext with heq | heq
  · rw [← heq, hpieces]
  · rw [hpieces] at heq
    exact absurd (List.append_inj' heq rfl).2 (by simpa using hne)

theorem prefix_join (p : Path) (h : '/' ∉ name) : p.text <+: (p.join name).text := by
  by_cases hempty : p.text = []
  · rw [hempty]
    exact List.nil_prefix
  · have hfirst : ¬ (name.head? = some '/' || p.isEmpty) = true := by
      simp [isEmpty, hempty, head?_ne_slash h]
    rw [join, if_neg hfirst]
    split <;> exact List.prefix_append _ _

/-- The path that leads on from `p` along some pieces, each joined to what stands before it. -/
def joinAll (p : Path) (pieces : List Text) : Path := pieces.foldl join p

theorem joinAll_concat (p : Path) (pieces : List Text) (piece : Text) :
    p.joinAll (pieces ++ [piece]) = (p.joinAll pieces).join piece := by
  rw [joinAll, List.foldl_append]
  rfl

theorem prefix_joinAll (p : Path) (h : ∀ piece ∈ pieces, '/' ∉ piece) :
    p.text <+: (p.joinAll pieces).text := by
  induction pieces using List.reverseRecOn with
  | nil => exact List.prefix_refl _
  | append_singleton front last ih =>
    rw [joinAll_concat]
    exact (ih fun piece hpiece => h piece (List.mem_append_left _ hpiece)).trans
      (prefix_join _ (h last (by simp)))

theorem isAbsolute_joinAll (p : Path) (h : ∀ piece ∈ pieces, '/' ∉ piece) :
    (p.joinAll pieces).isAbsolute = p.isAbsolute := by
  induction pieces using List.reverseRecOn with
  | nil => rfl
  | append_singleton front last ih =>
    rw [joinAll_concat, isAbsolute_join _ (h last (by simp))]
    exact ih fun piece hpiece => h piece (List.mem_append_left _ hpiece)

theorem filter_joinAll (p : Path) (h : ∀ piece ∈ pieces, '/' ∉ piece) :
    (p.joinAll pieces).pieces.filter (fun piece => !isIdle piece) =
      p.pieces.filter (fun piece => !isIdle piece) ++
        pieces.filter fun piece => !isIdle piece := by
  induction pieces using List.reverseRecOn with
  | nil => exact (List.append_nil _).symm
  | append_singleton front last ih =>
    have hlast : '/' ∉ last := h last (by simp)
    rw [joinAll_concat, pieces_join _ hlast, List.filter_append, filter_homePieces,
      ih fun piece hpiece => h piece (List.mem_append_left _ hpiece), List.filter_append,
      List.append_assoc]

theorem head?_pieces_joinAll (hp : p.text ≠ []) (h : ∀ piece ∈ pieces, '/' ∉ piece) :
    (p.joinAll pieces).pieces.head? = p.pieces.head? := by
  induction pieces using List.reverseRecOn with
  | nil => rfl
  | append_singleton front last ih =>
    have hfront : ∀ piece ∈ front, '/' ∉ piece := fun piece hpiece =>
      h piece (List.mem_append_left _ hpiece)
    have htext : (p.joinAll front).text ≠ [] := fun hempty =>
      hp (List.prefix_nil.mp (hempty ▸ prefix_joinAll p hfront))
    rw [joinAll_concat, head?_pieces_join htext (h last (by simp)), ih hfront]

/-- Pieces between slashes that lead on from `base`, which is the root or nothing. Behind nothing the
first of them moves. -/
structure IsTrail (base : Path) (pieces : List Text) : Prop where
  noSlash : ∀ piece ∈ pieces, '/' ∉ piece
  moves : base = ⟨['/']⟩ ∨ base = ⟨[]⟩ ∧ ∀ piece ∈ pieces.head?, isIdle piece = false

namespace IsTrail

variable {base : Path}

theorem of_append (h : IsTrail base (pieces ++ rest)) : IsTrail base pieces where
  noSlash piece hpiece := h.noSlash piece (List.mem_append_left rest hpiece)
  moves := h.moves.imp_right fun ⟨hbase, hmoves⟩ => ⟨hbase, fun piece hpiece => by
    refine hmoves piece ?_
    rw [List.head?_append, hpiece]
    rfl⟩

theorem joinAll_cons (h : IsTrail ⟨[]⟩ (piece :: rest)) :
    joinAll ⟨[]⟩ (piece :: rest) = joinAll ⟨piece⟩ rest ∧ piece ≠ [] ∧ piece ≠ ['.'] := by
  have hmoves : isIdle piece = false := by
    rcases h.moves with hroot | ⟨-, hmoves⟩
    · cases hroot
    · exact hmoves piece rfl
  refine ⟨?_, ?_, ?_⟩
  · rw [joinAll, List.foldl_cons]
    simp [join, isEmpty, joinAll]
  · rintro rfl
    cases hmoves
  · rintro rfl
    cases hmoves

/-- The path of a trail starts as the trail does. -/
theorem head?_pieces (h : IsTrail ⟨[]⟩ (piece :: rest)) :
    (joinAll ⟨[]⟩ (piece :: rest)).pieces.head? = some piece := by
  obtain ⟨hjoin, hpiece, -⟩ := h.joinAll_cons
  rw [hjoin, head?_pieces_joinAll hpiece fun q hq => h.noSlash q (List.mem_cons_of_mem _ hq),
    pieces_of_noSlash (h.noSlash piece List.mem_cons_self)]
  rfl

theorem text_eq_nil_iff (h : IsTrail base pieces) :
    (base.joinAll pieces).text = [] ↔ base.text = [] ∧ pieces = [] := by
  constructor
  · intro hempty
    refine ⟨List.prefix_nil.mp (hempty ▸ prefix_joinAll base h.noSlash), ?_⟩
    rcases h.moves with rfl | ⟨rfl, -⟩
    · have hprefix := prefix_joinAll ⟨['/']⟩ h.noSlash
      rw [hempty] at hprefix
      cases List.prefix_nil.mp hprefix
    · cases pieces with
      | nil => rfl
      | cons piece rest =>
        have hhead := h.head?_pieces
        rw [Path.pieces, hempty] at hhead
        exact absurd (Option.some.inj hhead).symm h.joinAll_cons.2.1
  · rintro ⟨hbase, rfl⟩
    exact hbase

theorem text_ne_dot (h : IsTrail base pieces) : (base.joinAll pieces).text ≠ ['.'] := by
  intro htext
  have hpieces : (base.joinAll pieces).pieces = [['.']] := by
    rw [Path.pieces, htext]
    rfl
  rcases h.moves with rfl | ⟨rfl, -⟩
  · have habsolute := isAbsolute_joinAll ⟨['/']⟩ h.noSlash
    rw [isAbsolute, htext] at habsolute
    cases habsolute
  · cases pieces with
    | nil => cases htext
    | cons piece rest =>
      have hhead := h.head?_pieces
      rw [hpieces] at hhead
      exact h.joinAll_cons.2.2 (Option.some.inj hhead).symm

theorem components_joinAll (h : IsTrail base pieces) :
    (base.joinAll pieces).components =
      base.components ++ (pieces.filter fun piece => !isIdle piece).map Component.ofPiece := by
  rw [components, filter_joinAll base h.noSlash, isAbsolute_joinAll base h.noSlash]
  rcases h.moves with rfl | ⟨rfl, -⟩
  · rfl
  · have hdot : (joinAll ⟨[]⟩ pieces).pieces.head? ≠ some ['.'] := by
      cases pieces with
      | nil =>
        intro hhead
        cases hhead
      | cons piece rest =>
        rw [h.head?_pieces]
        exact fun hpiece => h.joinAll_cons.2.2 (Option.some.inj hpiece)
    rw [if_neg hdot]
    rfl

end IsTrail

end Path

namespace Folder

open LabGrader.Path

variable {d : Folder} {l x : Location} {p : Path} {piece : Text} {pieces : List Text}

theorem Home.join (h : d.Home p x) (hslash : '/' ∉ piece) (henter : d.enter x piece = .ok l)
    (hl : d.isDirectory l = true) : d.Home (p.join piece) l := by
  have hstart := start_join d p hslash
  by_cases hempty : piece = []
  · subst piece
    rw [enter_nil h.directory] at henter
    cases henter
    exact ⟨by rw [homePieces_join_nil, hstart, h.walk], hl⟩
  · refine ⟨?_, hl⟩
    rw [homePieces_join p hslash hempty, hstart, List.foldlM_append, h.walk]
    exact walk_singleton.trans henter

/-- Where pieces lead on to a directory, the path with them is a home for files. -/
theorem Home.joinAll (h : d.Home p x) (hslash : ∀ piece ∈ pieces, '/' ∉ piece)
    (hwalk : pieces.foldlM d.enter x = .ok l) (hl : d.isDirectory l = true) :
    d.Home (p.joinAll pieces) l := by
  induction pieces using List.reverseRecOn generalizing l with
  | nil =>
    cases hwalk
    exact h
  | append_singleton front last ih =>
    obtain ⟨y, hfront, henter⟩ := walk_concat hwalk
    have hhome := ih (fun piece hpiece => hslash piece (List.mem_append_left _ hpiece)) hfront
      (isDirectory_of_enter henter)
    rw [joinAll_concat]
    exact hhome.join (hslash last (by simp)) henter hl

end Folder

end LabGrader
