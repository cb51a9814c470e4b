import LabGrader.Folder.Search
import LabGrader.Proofs.Folder.Pattern
import LabGrader.Proofs.Folder.Pieces
import Mathlib.Data.List.Basic

/-!
# The way of a search

A search follows the plain pieces of its pattern from the root or from the working folder to the
folder that they lead to, and from there it goes to all that is below. Dots in front of a relative
path leave it where it starts, and the stops on its way do not show them.
-/

namespace LabGrader

namespace Path

variable {root : Path} {names : List Text}

/-- The root for an absolute path, and nothing for another one. -/
def base (root : Path) : Path := if root.isAbsolute then ⟨['/']⟩ else ⟨[]⟩

/-- The pieces of a path that a search follows: a slash in front is where it starts. -/
def lead (root : Path) : List Text :=
  if root.isAbsolute then root.homePieces.tail else root.homePieces

/-- The pieces of a path that a search shows. -/
def trail (root : Path) : List Text :=
  if root.isAbsolute then root.lead else root.lead.dropWhile (· = ['.'])

theorem head?_pieces_eq_nil_iff (hne : root.text ≠ []) :
    root.pieces.head? = some [] ↔ root.isAbsolute = true := by
  obtain ⟨t⟩ := root
  cases t with
  | nil => exact absurd rfl hne
  | cons c t =>
    have hsplit : pieces ⟨c :: t⟩ =
        if c == '/' then [] :: t.splitOn '/' else (t.splitOn '/').modifyHead (c :: ·) :=
      List.splitOn_cons_eq_if_modifyHead ..
    rw [hsplit, isAbsolute]
    by_cases hc : c = '/'
    · simp [hc]
    · cases hrest : t.splitOn '/' with
      | nil => exact absurd hrest (List.splitOn_ne_nil _ _)
      | cons first others => simp [hc]

theorem homePieces_eq (hne : root.text ≠ []) :
    root.homePieces = if root.isAbsolute then [] :: root.lead else root.lead := by
  unfold lead
  split
  · rename_i habsolute
    have hhead := (head?_pieces_eq_nil_iff hne).mpr habsolute
    rw [← head?_homePieces hne] at hhead
    exact (List.cons_head?_tail hhead).symm
  · rfl

theorem exists_dots (root : Path) :
    ∃ dots, (∀ piece ∈ dots, root.isAbsolute = false ∧ piece = ['.']) ∧
      root.lead = dots ++ root.trail := by
  by_cases habsolute : root.isAbsolute = true
  · exact ⟨[], by simp, by rw [trail, if_pos habsolute, List.nil_append]⟩
  · refine ⟨root.lead.takeWhile (· = ['.']), ?_, ?_⟩
    · intro piece hpiece
      exact ⟨by simpa using habsolute, by simpa using List.mem_takeWhile_imp hpiece⟩
    · rw [trail, if_neg habsolute, List.takeWhile_append_dropWhile]

theorem mem_pieces_of_mem_lead {piece : Text} (h : piece ∈ root.lead) : piece ∈ root.pieces := by
  unfold lead at h
  split at h
  · exact mem_pieces_of_mem_homePieces (List.mem_of_mem_tail h)
  · exact mem_pieces_of_mem_homePieces h

theorem mem_pieces_of_mem_trail {piece : Text} (h : piece ∈ root.trail) : piece ∈ root.pieces := by
  unfold trail at h
  split at h
  · exact mem_pieces_of_mem_lead h
  · exact mem_pieces_of_mem_lead ((List.dropWhile_sublist _).subset h)

/-- A search does not follow an empty piece from the working folder. -/
def Led (root : Path) : Prop := root.isAbsolute = false → root.trail.head? ≠ some []

instance (root : Path) : Decidable root.Led := inferInstanceAs (Decidable (_ → _))

theorem isTrail_append (hled : root.Led) (hnames : ∀ name ∈ names, IsFileName name) :
    IsTrail root.base (root.trail ++ names) where
  noSlash piece hpiece := by
    rcases List.mem_append.mp hpiece with h | h
    · exact (of_mem_pieces (mem_pieces_of_mem_trail h)).1
    · exact (hnames piece h).noSlash
  moves := by
    by_cases habsolute : root.isAbsolute = true
    · exact Or.inl (if_pos habsolute)
    · refine Or.inr ⟨if_neg habsolute, ?_⟩
      intro piece hpiece
      cases htrail : root.trail with
      | nil =>
        rw [htrail] at hpiece
        exact (hnames piece (List.mem_of_mem_head? hpiece)).notIdle
      | cons first rest =>
        have hempty : first ≠ [] := by simpa [htrail] using hled (by simpa using habsolute)
        have hdot := List.head?_dropWhile_not (· = ['.']) root.lead
        rw [trail, if_neg habsolute] at htrail
        rw [trail, if_neg habsolute, htrail] at hpiece
        rw [htrail] at hdot
        cases hpiece
        simpa [isIdle] using And.intro hempty (by simpa using hdot)

theorem filter_trail (hne : root.text ≠ []) :
    root.trail.filter (fun piece => !isIdle piece) =
      root.pieces.filter fun piece => !isIdle piece := by
  obtain ⟨dots, hdots, hsplit⟩ := exists_dots root
  have hnone : dots.filter (fun piece => !isIdle piece) = [] := by
    apply List.filter_eq_nil_iff.mpr
    intro piece hpiece
    simp [(hdots piece hpiece).2, isIdle]
  have hlead : root.lead.filter (fun piece => !isIdle piece) =
      root.trail.filter fun piece => !isIdle piece := by
    rw [hsplit, List.filter_append, hnone, List.nil_append]
  rw [← filter_homePieces, homePieces_eq hne, ← hlead]
  split
  · rfl
  · rfl

end Path

namespace Folder

open LabGrader.Path

variable {d : Folder} {s : Stop} {l x : Location} {piece extension : Text}
  {pieces rest names : List Text} {base root : Path}

/-- The stop at which a path is shown, and a dot for nothing. -/
def Stop.reached (p : Path) (l : Location) : Stop := ⟨if p.isEmpty then ⟨['.']⟩ else p, l⟩

theorem Stop.isOrigin_reached (h : IsTrail base pieces) :
    (Stop.reached (base.joinAll pieces) l).isOrigin = (base.joinAll pieces).isEmpty := by
  unfold isOrigin reached
  split
  · rename_i hempty
    simp [hempty]
  · rename_i hempty
    simp [hempty, h.text_ne_dot]

theorem Stop.enter_reached (h : IsTrail base (pieces ++ [piece])) (x : Location) :
    (Stop.reached (base.joinAll pieces) l).enter piece x =
      .reached (base.joinAll (pieces ++ [piece])) x := by
  have hnext : (base.joinAll (pieces ++ [piece])).isEmpty = false := by
    simp [Path.isEmpty, h.text_eq_nil_iff]
  rw [enter, isOrigin_reached h.of_append, reached, reached, hnext, joinAll_concat]
  split
  · rename_i hempty
    simp [join, hempty]
  · rfl

/-- The stop that some names lead to from another one. -/
def Stop.below (s : Stop) (names : List Text) : Stop :=
  names.foldl (fun s name => s.enter name (s.location ++ [name])) s

theorem Stop.location_below (s : Stop) (names : List Text) :
    (s.below names).location = s.location ++ names := by
  unfold below
  induction names generalizing s with
  | nil => simp
  | cons name rest ih =>
    rw [List.foldl_cons, ih]
    simp [enter]

theorem Stop.below_reached (h : IsTrail base (pieces ++ names)) :
    (Stop.reached (base.joinAll pieces) l).below names =
      .reached (base.joinAll (pieces ++ names)) (l ++ names) := by
  unfold below
  induction names generalizing pieces l with
  | nil => simp
  | cons name rest ih =>
    have hrest : IsTrail base (pieces ++ [name] ++ rest) := by rwa [List.append_assoc]
    have hlocation : (reached (base.joinAll pieces) l).location = l := rfl
    rw [List.foldl_cons, enter_reached hrest.of_append, hlocation, ih hrest]
    simp

theorem follow_reached (h : IsTrail base (pieces ++ [piece])) (henter : d.enter l piece = .ok x)
    (hx : d.isDirectory x = true) :
    follow d (.reached (base.joinAll pieces) l) piece =
      some (.reached (base.joinAll (pieces ++ [piece])) x) := by
  have hsome : (d.entryAt? x).isSome = true := by rw [isDirectory_iff.mp hx]; rfl
  have hstart : ((Stop.reached (base.joinAll pieces) l).isOrigin && piece.isEmpty) = false := by
    rw [Stop.isOrigin_reached h.of_append]
    by_contra hboth
    rw [Bool.not_eq_false, Bool.and_eq_true, List.isEmpty_iff, Path.isEmpty,
      List.isEmpty_iff] at hboth
    obtain ⟨hnothing, rfl⟩ := hboth
    obtain ⟨hbase, rfl⟩ := h.of_append.text_eq_nil_iff.mp hnothing
    rcases h.moves with rfl | ⟨-, hmoves⟩
    · cases hbase
    · cases hmoves [] rfl
  have hlocation : (Stop.reached (base.joinAll pieces) l).location = l := rfl
  rw [follow, hstart, hlocation, henter]
  simp only [Bool.false_eq_true, if_false, hsome, if_true]
  rw [Stop.enter_reached h]

theorem follow_walk (h : IsTrail base (pieces ++ rest)) (hwalk : rest.foldlM d.enter l = .ok x)
    (hx : d.isDirectory x = true) :
    rest.foldlM (follow d) (.reached (base.joinAll pieces) l) =
      some (.reached (base.joinAll (pieces ++ rest)) x) := by
  induction rest generalizing pieces l with
  | nil =>
    cases hwalk
    simp
  | cons piece rest ih =>
    have hrest : IsTrail base (pieces ++ [piece] ++ rest) := by rwa [List.append_assoc]
    obtain ⟨y, henter, hbehind⟩ := walk_cons hwalk
    rw [List.foldlM_cons, follow_reached hrest.of_append henter (isDirectory_of_walk hbehind hx)]
    change rest.foldlM (follow d) (.reached (base.joinAll (pieces ++ [piece])) y) = _
    rw [ih hrest hbehind]
    simp

/-- Where the search of a folder starts. -/
def Stop.first (d : Folder) (root : Path) : Stop := .reached root.base (d.start root)

theorem Stop.first_of_relative (h : root.isAbsolute = false) : Stop.first d root = .origin d := by
  rw [first, Path.base, h, start_of_relative h]
  rfl

theorem outset_homePieces (d : Folder) (hne : root.text ≠ []) (more : List Text) :
    outset d (root.homePieces ++ more) = (Stop.first d root, root.lead ++ more) := by
  have hpieces := homePieces_eq hne
  by_cases habsolute : root.isAbsolute = true
  · rw [if_pos habsolute] at hpieces
    rw [hpieces, List.cons_append, outset, Stop.first, Path.base, Folder.start, if_pos habsolute,
      if_pos habsolute]
    rfl
  · have hfirst : Stop.first d root = .origin d := Stop.first_of_relative (by simpa using habsolute)
    rw [if_neg habsolute] at hpieces
    obtain ⟨piece, others, hhome⟩ := List.exists_cons_of_ne_nil (homePieces_ne_nil hne)
    have hpiece : piece ≠ [] := by
      rintro rfl
      apply habsolute
      rw [← head?_pieces_eq_nil_iff hne, ← head?_homePieces hne, hhome]
      rfl
    rw [← hpieces, hhome, List.cons_append, outset, hfirst]
    exact fun _ hcons => hpiece (List.cons.inj hcons).1

theorem home_base (d : Folder) (root : Path) : d.Home root.base (d.start root) := by
  unfold Path.base Folder.start
  split
  · have hroot : d.isDirectory [] = true := isDirectory_above List.nil_prefix
    exact ⟨walk_singleton.trans (enter_nil hroot), hroot⟩
  · exact ⟨rfl, isDirectory_above (List.prefix_refl _)⟩

theorem enter_dot (h : d.enter l ['.'] = .ok x) : x = l := by
  rw [enter_of_isDirectory (isDirectory_of_enter h)] at h
  cases hrefusal : d.refusal? .enter l with
  | some cause =>
    rw [hrefusal] at h
    cases h
  | none =>
    rw [hrefusal] at h
    exact (Except.ok.inj h).symm

/-- Dots in front neither move nor show. -/
theorem follow_dots {dots : List Text}
    (hdots : ∀ piece ∈ dots, root.isAbsolute = false ∧ piece = ['.'])
    (hwalk : dots.foldlM d.enter (d.start root) = .ok x) :
    x = d.start root ∧ dots.foldlM (follow d) (.first d root) = some (.first d root) := by
  induction dots with
  | nil =>
    cases hwalk
    exact ⟨rfl, rfl⟩
  | cons dot others ih =>
    obtain ⟨hrelative, rfl⟩ := hdots dot List.mem_cons_self
    obtain ⟨y, henter, hrest⟩ := walk_cons hwalk
    obtain rfl := enter_dot henter
    obtain ⟨hend, hothers⟩ :=
      ih (fun piece hpiece => hdots piece (List.mem_cons_of_mem _ hpiece)) hrest
    refine ⟨hend, ?_⟩
    have hfirst : Stop.first d root = .origin d := Stop.first_of_relative hrelative
    have hthere : (d.entryAt? d.working).isSome = true := by
      rw [isDirectory_iff.mp (isDirectory_above (List.prefix_refl _))]
      rfl
    have hfollow : follow d (.origin d) ['.'] = some (.origin d) := by
      rw [start_of_relative hrelative] at henter
      have hlocation : (Stop.origin d).location = d.working := rfl
      rw [follow, hlocation, henter]
      simp only [hthere]
      rfl
    rw [hfirst] at hothers ⊢
    rw [List.foldlM_cons, hfollow]
    exact hothers

theorem Home.follow_eq (h : d.Home root l) (hne : root.text ≠ []) (hled : root.Led) :
    root.trail.foldlM d.enter (d.start root) = .ok l ∧
      root.lead.foldlM (follow d) (.first d root) =
        some (.reached (root.base.joinAll root.trail) l) := by
  obtain ⟨dots, hdots, hsplit⟩ := exists_dots root
  have hlead : root.lead.foldlM d.enter (d.start root) = .ok l := by
    have hwalk := h.walk
    rw [homePieces_eq hne] at hwalk
    split at hwalk
    · obtain ⟨x, hfirst, hrest⟩ := walk_cons hwalk
      rw [enter_nil (isDirectory_of_enter hfirst)] at hfirst
      cases hfirst
      exact hrest
    · exact hwalk
  rw [hsplit] at hlead
  have hends : IsTrail root.base (root.trail ++ []) := isTrail_append hled (by simp)
  have hstarts : IsTrail root.base ([] ++ root.trail) := by simpa using hends
  obtain ⟨y, hfront, htrail⟩ := walk_of_append hlead
  obtain ⟨rfl, hfollow⟩ := follow_dots hdots hfront
  refine ⟨htrail, ?_⟩
  rw [hsplit, List.foldlM_append, hfollow]
  exact follow_walk hstarts htrail h.directory

theorem chars_ne_anyFolders (t : Text) : t.map Pattern.Token.char ≠ [.anyFolders] := by
  cases t <;> simp

theorem expand_chars (t : Text) (rest : List (List Pattern.Token)) (s : Stop) :
    expand d (t.map .char :: rest) s = ((follow d s t).map (expand d rest)).getD [] := by
  rw [expand]
  · simp only [Pattern.literal?_chars]
    cases follow d s t <;> rfl
  · exact fun _ h => absurd h (chars_ne_anyFolders t)
  · exact fun _ _ h => absurd h (chars_ne_anyFolders t)

theorem expand_literal (texts : List Text) (rest : List (List Pattern.Token)) (s : Stop) :
    expand d (texts.map (List.map .char) ++ rest) s =
      ((texts.foldlM (follow d) s).map (expand d rest)).getD [] := by
  induction texts generalizing s with
  | nil => rfl
  | cons t texts ih =>
    rw [List.map_cons, List.cons_append, expand_chars, List.foldlM_cons]
    cases follow d s t with
    | none => rfl
    | some next => exact ih next

theorem expand_below (tokens : List Pattern.Token) (htokens : tokens ≠ [.anyFolders]) (s : Stop) :
    expand d [[.anyFolders], tokens] s =
      (descendants d s).filter fun e => Pattern.admits tokens e.name := by
  have hend : (fun e => expand d [] e) = fun e => [e] := by
    funext e
    rw [expand]
  rw [expand, hend, List.flatMap_singleton']
  · simp
  · exact htokens

/-- What a search adds to the path of a folder: any folders, and a name with the extension. -/
def anyNamed (extension : Text) : Text := '/' :: '*' :: '*' :: '/' :: '*' :: '.' :: extension

/-- What a name with an extension is matched against. -/
def named (extension : Text) : List Pattern.Token := .anyText :: ('.' :: extension).map .char

theorem exists_front (hne : root.text ≠ []) (extension : Text) :
    ∃ front, ((root.join "**".toList).join ("*.".toList ++ extension)).text =
        front ++ anyNamed extension ∧
      Path.pieces ⟨front⟩ = root.homePieces ∧ front ⊆ root.text := by
  obtain ⟨t⟩ := root
  have hempty : t ≠ [] := hne
  by_cases hlast : t.getLast? = some '/'
  · obtain ⟨front, rfl⟩ := List.getLast?_eq_some_iff.mp hlast
    refine ⟨front, ?_, (homePieces_append_slash front).symm, List.subset_append_left front _⟩
    simp [join, Path.isEmpty, anyNamed]
  · refine ⟨t, ?_, ?_, List.Subset.refl t⟩
    · simp [join, Path.isEmpty, hempty, hlast, anyNamed]
    · simp [homePieces, hempty, hlast]

theorem getLast?_anyNamed (hslash : '/' ∉ extension) (front : Text) :
    (front ++ anyNamed extension).getLast? ≠ some '/' := by
  have hbehind : front ++ anyNamed extension =
      (front ++ ['/', '*', '*', '/', '*']) ++ '.' :: extension := by simp [anyNamed]
  rw [hbehind, List.getLast?_append_of_ne_nil _ (List.cons_ne_nil _ _)]
  intro hlast
  have hmem : '/' ∈ '.' :: extension := List.mem_of_mem_getLast? hlast
  exact hslash (by simpa using hmem)

theorem patternPieces_anyNamed (hslash : '/' ∉ extension) (front : Text) :
    patternPieces (front ++ anyNamed extension) =
      Path.pieces ⟨front⟩ ++ [['*', '*'], '*' :: '.' :: extension] := by
  have hlast : '/' ∉ '*' :: '.' :: extension := by simpa using hslash
  have hstars : (['*', '*'] ++ '/' :: '*' :: '.' :: extension).splitOn '/' =
      [['*', '*'], '*' :: '.' :: extension] := by
    rw [List.splitOn_append_cons_self, List.splitOn_eq_singleton hlast]
    rfl
  have hsplit : (front ++ anyNamed extension).splitOn '/' =
      Path.pieces ⟨front⟩ ++ [['*', '*'], '*' :: '.' :: extension] := by
    rw [anyNamed, List.splitOn_append_cons_self]
    exact congrArg _ hstars
  rw [patternPieces, hsplit]
  simp

theorem mapM_ok {α β ε : Type} {f : α → Except ε β} {g : α → β} {items : List α}
    (h : ∀ a ∈ items, f a = .ok (g a)) : items.mapM f = .ok (items.map g) := by
  induction items with
  | nil => rfl
  | cons a rest ih =>
    rw [List.mapM_cons, h a List.mem_cons_self, ih fun b hb => h b (List.mem_cons_of_mem a hb)]
    rfl

theorem mapM_parse_lead (hplain : Pattern.Plain root.text) (hextension : Pattern.Plain extension) :
    (root.lead ++ [['*', '*'], '*' :: '.' :: extension]).mapM Pattern.parse =
      .ok (root.lead.map (List.map .char) ++ [[.anyFolders], named extension]) := by
  have hdot : Pattern.Plain ('.' :: extension) := Pattern.plain_cons.mpr ⟨by decide, hextension⟩
  have hliteral : root.lead.mapM Pattern.parse = .ok (root.lead.map (List.map .char)) := by
    apply mapM_ok
    intro piece hpiece
    exact Pattern.parse_plain (hplain.mono (of_mem_pieces (mem_pieces_of_mem_lead hpiece)).2)
  rw [List.mapM_append, hliteral, List.mapM_cons, List.mapM_cons, Pattern.parse_stars,
    Pattern.parse_star hdot]
  rfl

end Folder

end LabGrader
