import LabGrader.Folder.Basic

/-!
# Files kept in one directory

What a write does when its path is a file name in a directory that can be reached. Such a write
touches that one file, and whether it is refused depends on nothing but the path and what stands at
the file's own place. A directory that is there, or has just been made, is such a home.
-/

namespace LabGrader

namespace Path

/-- The pieces on the way to a file in the folder `p`. -/
def homePieces (p : Path) : List Text :=
  if p.text = [] then []
  else if p.text.getLast? = some '/' then p.pieces.dropLast
  else p.pieces

/-- A name that stands for a file in a folder and leads nowhere else. -/
structure IsFileName (name : Text) : Prop where
  noSlash : '/' ∉ name
  notIdle : isIdle name = false
  notUp : name ≠ ['.', '.']

instance (name : Text) : Decidable (IsFileName name) :=
  decidable_of_iff ('/' ∉ name ∧ isIdle name = false ∧ name ≠ ['.', '.'])
    ⟨fun ⟨hslash, hidle, hup⟩ => ⟨hslash, hidle, hup⟩, fun h => ⟨h.noSlash, h.notIdle, h.notUp⟩⟩

theorem IsFileName.isEmpty_eq_false {name : Text} (h : IsFileName name) : name.isEmpty = false := by
  cases name with
  | nil => cases h.notIdle
  | cons => rfl

theorem IsFileName.ne_dot {name : Text} (h : IsFileName name) : name ≠ ['.'] := by
  rintro rfl
  cases h.notIdle

theorem head?_ne_slash {name : Text} (h : '/' ∉ name) : name.head? ≠ some '/' := by
  intro hhead
  exact h (List.mem_of_mem_head? hhead)

theorem pieces_of_noSlash {name : Text} (h : '/' ∉ name) : pieces ⟨name⟩ = [name] :=
  List.splitOn_eq_singleton h

theorem pieces_append_slash (front name : Text) :
    pieces ⟨front ++ '/' :: name⟩ = pieces ⟨front⟩ ++ pieces ⟨name⟩ :=
  List.splitOn_append_cons_self front name

theorem homePieces_append_slash (front : Text) :
    homePieces ⟨front ++ ['/']⟩ = pieces ⟨front⟩ := by
  have hpieces : pieces ⟨front ++ ['/']⟩ = pieces ⟨front⟩ ++ [[]] :=
    pieces_append_slash front []
  simp [homePieces, hpieces]

/-- Only a slash at the end makes a difference, by an empty piece. -/
theorem pieces_eq_homePieces {p : Path} (h : p.text ≠ []) :
    p.pieces = p.homePieces ∨ p.pieces = p.homePieces ++ [[]] := by
  obtain ⟨t⟩ := p
  by_cases hlast : t.getLast? = some '/'
  · obtain ⟨front, rfl⟩ := List.getLast?_eq_some_iff.mp hlast
    rw [homePieces_append_slash]
    exact Or.inr (pieces_append_slash front [])
  · have hne : t ≠ [] := h
    simp [homePieces, hne, hlast]

theorem head?_homePieces {p : Path} (h : p.text ≠ []) : p.homePieces.head? = p.pieces.head? := by
  rcases pieces_eq_homePieces h with heq | heq
  · rw [heq]
  · cases hhome : p.homePieces with
    | cons => rw [heq, hhome]; rfl
    | nil =>
      have hjoin : ['/'].intercalate p.pieces = p.text := List.intercalate_splitOn '/'
      rw [heq, hhome] at hjoin
      exact absurd hjoin.symm h

theorem homePieces_ne_nil {p : Path} (h : p.text ≠ []) : p.homePieces ≠ [] := by
  intro hnil
  have hhead := head?_homePieces h
  rw [hnil] at hhead
  exact List.splitOn_ne_nil _ _ (List.head?_eq_none_iff.mp hhead.symm)

theorem filter_homePieces (p : Path) :
    p.homePieces.filter (fun piece => !isIdle piece) =
      p.pieces.filter fun piece => !isIdle piece := by
  by_cases hp : p.text = []
  · simp [homePieces, pieces, hp, isIdle]
  · rcases pieces_eq_homePieces hp with heq | heq
    · rw [heq]
    · simp [heq, isIdle]

theorem pieces_join (p : Path) {name : Text} (h : '/' ∉ name) :
    (p.join name).pieces = p.homePieces ++ [name] := by
  have hname := pieces_of_noSlash h
  have hhead : ¬ (name.head? = some '/') := head?_ne_slash h
  obtain ⟨t⟩ := p
  by_cases hempty : t = []
  · subst t
    simpa [join, isEmpty, homePieces] using hname
  · by_cases hlast : t.getLast? = some '/'
    · obtain ⟨front, rfl⟩ := List.getLast?_eq_some_iff.mp hlast
      have hjoin : (Path.join ⟨front ++ ['/']⟩ name).pieces = pieces ⟨front ++ '/' :: name⟩ := by
        simp [join, isEmpty, hhead]
      rw [hjoin, homePieces_append_slash, pieces_append_slash, hname]
    · have hjoin : (Path.join ⟨t⟩ name).pieces = pieces ⟨t ++ '/' :: name⟩ := by
        simp [join, isEmpty, hhead, hempty, hlast]
      rw [hjoin, pieces_append_slash, hname]
      simp [homePieces, hempty, hlast]

theorem isAbsolute_join (p : Path) {name : Text} (h : '/' ∉ name) :
    (p.join name).isAbsolute = p.isAbsolute := by
  have hhead : ¬ (name.head? = some '/') := head?_ne_slash h
  obtain ⟨t⟩ := p
  cases t with
  | nil => simp [join, isAbsolute, isEmpty, hhead]
  | cons c t =>
    simp only [join, hhead, isEmpty, List.isEmpty_cons, decide_false, Bool.or_false,
      Bool.false_eq_true, if_false]
    split <;> rfl

theorem head?_pieces_join {p : Path} (hp : p.text ≠ []) {name : Text} (h : '/' ∉ name) :
    (p.join name).pieces.head? = p.pieces.head? := by
  rw [pieces_join p h, ← head?_homePieces hp]
  obtain ⟨first, rest, hhome⟩ := List.exists_cons_of_ne_nil (homePieces_ne_nil hp)
  rw [hhome]
  rfl

theorem startsDot_join (p : Path) {name : Text} (h : IsFileName name) :
    (p.join name).pieces.head? = some ['.'] ↔ p.pieces.head? = some ['.'] := by
  by_cases hp : p.text = []
  · rw [pieces_join p h.noSlash]
    obtain ⟨t⟩ := p
    subst hp
    simp [homePieces, pieces, h.ne_dot]
  · rw [head?_pieces_join hp h.noSlash]

theorem components_join (p : Path) {name : Text} (h : IsFileName name) :
    (p.join name).components = p.components ++ [.name name] := by
  have hmoves : ((p.join name).pieces.filter fun piece => !isIdle piece).map Component.ofPiece =
      (p.pieces.filter fun piece => !isIdle piece).map Component.ofPiece ++ [.name name] := by
    have hlast : Component.ofPiece name = .name name := if_neg h.notUp
    rw [pieces_join p h.noSlash, List.filter_append, filter_homePieces, List.map_append]
    simp [h.notIdle, hlast]
  simp only [components, hmoves, isAbsolute_join p h.noSlash, startsDot_join p h]
  split
  · rfl
  · split <;> rfl

end Path

namespace Folder

open LabGrader.Path

variable {d d' : Folder} {l x : Location} {p : Path} {name : Text}

theorem isDirectory_iff : d.isDirectory l = true ↔ d.entryAt? l = some .directory := by
  simp [isDirectory]

/-- The working folder is a directory, and so are those around it. -/
theorem isDirectory_above (h : l <+: d.working) : d.isDirectory l = true :=
  isDirectory_iff.mpr (if_pos h)

theorem not_prefix_of_not_isDirectory (h : d.isDirectory l = false) : ¬ l <+: d.working := by
  intro hprefix
  rw [isDirectory_above hprefix] at h
  cases h

theorem not_prefix_of_entryAt?_eq_none (h : d.entryAt? l = none) : ¬ l <+: d.working := by
  apply not_prefix_of_not_isDirectory
  simp [isDirectory, h]

theorem lookup_filter_ne {entries : List (Location × Entry)} (h : x ≠ l) :
    (entries.filter fun e => e.1 ≠ l).lookup x = entries.lookup x := by
  induction entries with
  | nil => rfl
  | cons e rest ih =>
    obtain ⟨k, v⟩ := e
    by_cases hk : k = l
    · subst k
      have hx : (x == l) = false := beq_eq_false_iff_ne.mpr h
      simpa [List.lookup_cons, hx] using ih
    · simp only [List.filter_cons, hk, ne_eq, not_false_eq_true, decide_true, if_true,
        List.lookup_cons]
      rw [ih]

theorem lookup_filter_self {entries : List (Location × Entry)} :
    (entries.filter fun e => e.1 ≠ l).lookup l = none := by
  apply List.lookup_eq_none_iff.mpr
  intro e he
  have hne : e.1 ≠ l := of_decide_eq_true (List.mem_filter.mp he).2
  exact bne_iff_ne.mpr hne.symm

theorem entryAt?_put (d : Folder) {l : Location} (hl : ¬ l <+: d.working) (e : Entry)
    (x : Location) : (d.put l e).entryAt? x = if x = l then some e else d.entryAt? x := by
  by_cases hx : x = l
  · subst x
    simp only [entryAt?, put, if_neg hl, List.lookup_append, lookup_filter_self]
    simp
  · have hne : (x == l) = false := beq_eq_false_iff_ne.mpr hx
    simp only [entryAt?, put, List.lookup_append, lookup_filter_ne hx, if_neg hx]
    simp [List.lookup_cons, hne]

theorem isDirectory_put_file (h : d.isDirectory l = false) (content : Bytes) (x : Location) :
    (d.put l (.file content)).isDirectory x = d.isDirectory x := by
  simp only [isDirectory, entryAt?_put d (not_prefix_of_not_isDirectory h)]
  by_cases hx : x = l
  · subst x
    simpa [isDirectory] using h
  · simp [hx]

theorem isDirectory_put_directory (hl : ¬ l <+: d.working) (x : Location)
    (h : d.isDirectory x = true) : (d.put l .directory).isDirectory x = true := by
  rw [isDirectory_iff] at h ⊢
  rw [entryAt?_put d hl, h]
  split <;> rfl

/-- Every way that leads somewhere in `d` leads there in `d'`: paths start at the same place, the same
is refused, and the directories are still there. -/
structure Keeps (d d' : Folder) : Prop where
  isDirectory : ∀ x, d.isDirectory x = true → d'.isDirectory x = true
  working : d'.working = d.working
  refusal? : d'.refusal? = d.refusal?

theorem Keeps.start (h : d.Keeps d') (p : Path) : d'.start p = d.start p := by
  rw [Folder.start, Folder.start, h.working]

theorem keeps_put_directory (hl : ¬ l <+: d.working) : d.Keeps (d.put l .directory) :=
  ⟨isDirectory_put_directory hl, rfl, rfl⟩

theorem isDirectory_of_enter {piece : Text} (h : d.enter l piece = .ok x) :
    d.isDirectory l = true := by
  unfold enter at h
  rw [isDirectory_iff]
  split at h <;> simp_all

theorem enter_of_isDirectory {piece : Text} (h : d.isDirectory l = true) :
    d.enter l piece =
      if piece.isEmpty then .ok l
      else match d.refusal? .enter l with
        | some cause => .error cause
        | none =>
          if piece = ['.'] then .ok l
          else if piece = ['.', '.'] then .ok l.dropLast
          else if nameLimit < Text.byteCount piece then .error .nameTooLong
          else .ok (l ++ [piece]) := by
  rw [isDirectory_iff] at h
  cases hrefusal : d.refusal? .enter l <;> simp only [enter, h, hrefusal]

theorem walk_of_append {front back : List Text} (h : (front ++ back).foldlM d.enter x = .ok l) :
    ∃ y, front.foldlM d.enter x = .ok y ∧ back.foldlM d.enter y = .ok l := by
  rw [List.foldlM_append] at h
  cases hfront : front.foldlM d.enter x with
  | error cause =>
    rw [hfront] at h
    cases h
  | ok y =>
    rw [hfront] at h
    exact ⟨y, rfl, h⟩

theorem walk_singleton {piece : Text} : [piece].foldlM d.enter x = d.enter x piece := by
  rw [List.foldlM_cons]
  exact bind_pure _

theorem walk_cons {piece : Text} {pieces : List Text}
    (h : (piece :: pieces).foldlM d.enter x = .ok l) :
    ∃ y, d.enter x piece = .ok y ∧ pieces.foldlM d.enter y = .ok l := by
  have hparts : ([piece] ++ pieces).foldlM d.enter x = .ok l := h
  obtain ⟨y, hfirst, hrest⟩ := walk_of_append hparts
  exact ⟨y, walk_singleton ▸ hfirst, hrest⟩

theorem walk_concat {piece : Text} {pieces : List Text}
    (h : (pieces ++ [piece]).foldlM d.enter x = .ok l) :
    ∃ y, pieces.foldlM d.enter x = .ok y ∧ d.enter y piece = .ok l := by
  obtain ⟨y, hfront, hlast⟩ := walk_of_append h
  exact ⟨y, hfront, walk_singleton ▸ hlast⟩

theorem enter_mono (hkeeps : d.Keeps d') {piece : Text} (h : d.enter l piece = .ok x) :
    d'.enter l piece = .ok x := by
  have hl := isDirectory_of_enter h
  rw [enter_of_isDirectory hl] at h
  rw [enter_of_isDirectory (hkeeps.isDirectory l hl), hkeeps.refusal?, h]

theorem walk_mono (hkeeps : d.Keeps d') {pieces : List Text}
    (h : pieces.foldlM d.enter l = .ok x) : pieces.foldlM d'.enter l = .ok x := by
  induction pieces generalizing l with
  | nil => exact h
  | cons piece rest ih =>
    obtain ⟨y, hfirst, hrest⟩ := walk_cons h
    rw [List.foldlM_cons, enter_mono hkeeps hfirst]
    exact ih hrest

/-- Files in the folder `p` lie in the directory `l`. -/
structure Home (d : Folder) (p : Path) (l : Location) : Prop where
  walk : p.homePieces.foldlM d.enter (d.start p) = .ok l
  directory : d.isDirectory l = true

theorem Home.mono (hkeeps : d.Keeps d') (h : d.Home p l) : d'.Home p l :=
  ⟨hkeeps.start p ▸ walk_mono hkeeps h.walk, hkeeps.isDirectory l h.directory⟩

theorem start_of_relative (h : p.isAbsolute = false) : d.start p = d.working := by
  rw [start, h]
  rfl

theorem start_join (d : Folder) (p : Path) (h : '/' ∉ name) :
    d.start (p.join name) = d.start p := by
  rw [start, start, isAbsolute_join p h]

/-- What is wrong with the path of a file in the directory `l`, whatever files are there. -/
def nameFault? (d : Folder) (p : Path) (l : Location) (name : Text) : Option SystemError :=
  match checkPath (p.join name) with
  | .error cause => some cause
  | .ok () =>
    match d.refusal? .enter l with
    | some cause => some cause
    | none => if nameLimit < Text.byteCount name then some .nameTooLong else none

/-- Why a file in the directory `l` cannot be written, if it cannot. -/
def writeFault? (d : Folder) (p : Path) (l : Location) (name : Text) : Option SystemError :=
  match d.nameFault? p l name with
  | some cause => some cause
  | none =>
    if d.isDirectory (l ++ [name]) then some .isDirectory else d.refusal? .write (l ++ [name])

theorem enter_name (hl : d.isDirectory l = true) (hname : IsFileName name) :
    d.enter l name =
      match d.refusal? .enter l with
      | some cause => .error cause
      | none =>
        if nameLimit < Text.byteCount name then .error .nameTooLong else .ok (l ++ [name]) := by
  rw [enter_of_isDirectory hl]
  simp only [hname.isEmpty_eq_false, hname.ne_dot, hname.notUp, Bool.false_eq_true, if_false]

theorem Home.locate_eq (h : d.Home p l) (hname : IsFileName name) :
    d.locate (p.join name) =
      match d.nameFault? p l name with
      | some cause => .error cause
      | none => .ok (l ++ [name]) := by
  simp only [locate, nameFault?, start_join d p hname.noSlash, pieces_join p hname.noSlash,
    List.foldlM_append, h.walk, List.foldlM_cons, List.foldlM_nil, bind_pure]
  cases checkPath (p.join name) with
  | error cause => rfl
  | ok u =>
    change d.enter l name = _
    rw [enter_name h.directory hname]
    cases d.refusal? .enter l with
    | some cause => rfl
    | none => by_cases hlong : nameLimit < Text.byteCount name <;> simp [hlong]

theorem Home.write_eq (h : d.Home p l) (hname : IsFileName name) (content : Bytes) :
    d.write (p.join name) content =
      match d.writeFault? p l name with
      | some cause => .error cause
      | none => .ok (d.put (l ++ [name]) (.file content)) := by
  simp only [write, writeFault?, nameFault?, start_join d p hname.noSlash,
    pieces_join p hname.noSlash, List.dropLast_concat, h.walk, List.getLastD_concat, hname.notIdle,
    hname.notUp, decide_false, Bool.or_false, Bool.false_eq_true, if_false]
  cases checkPath (p.join name) with
  | error cause => rfl
  | ok u =>
    change (d.enter l name).bind (d.writeAt · content) = _
    rw [enter_name h.directory hname]
    cases d.refusal? .enter l with
    | some cause => rfl
    | none =>
      by_cases hlong : nameLimit < Text.byteCount name
      · simp [hlong, Except.bind]
      · simp only [hlong, if_false, Except.bind, writeAt]
        split
        · rfl
        · cases d.refusal? .write (l ++ [name]) <;> rfl

theorem Home.eq_put_of_write (h : d.Home p l) (hname : IsFileName name) {content : Bytes}
    (hwrite : d.write (p.join name) content = .ok d') :
    d' = d.put (l ++ [name]) (.file content) := by
  rw [h.write_eq hname] at hwrite
  cases hfault : d.writeFault? p l name with
  | some cause =>
    rw [hfault] at hwrite
    cases hwrite
  | none =>
    rw [hfault] at hwrite
    exact (Except.ok.inj hwrite).symm

/-- Steps that all stay where they start end there. -/
theorem foldlM_stays {m : Type → Type} [Monad m] [LawfulMonad m] {α β : Type} {f : β → α → m β}
    {b : β} {steps : List α} (h : ∀ a ∈ steps, f b a = pure b) : steps.foldlM f b = pure b := by
  induction steps with
  | nil => rfl
  | cons a rest ih =>
    rw [List.foldlM_cons, h a List.mem_cons_self, pure_bind]
    exact ih fun a' ha' => h a' (List.mem_cons_of_mem a ha')

theorem enter_nil (h : d.isDirectory l = true) : d.enter l [] = .ok l := by
  rw [enter_of_isDirectory h]
  rfl

theorem walk_append_idle {pieces idle : List Text} (hidle : ∀ piece ∈ idle, piece = [])
    (h : pieces.foldlM d.enter x = .ok l) (hl : d.isDirectory l = true) :
    (pieces ++ idle).foldlM d.enter x = .ok l := by
  have hstay : ∀ piece ∈ idle, d.enter l piece = .ok l := by
    intro piece hpiece
    rw [hidle piece hpiece, enter_nil hl]
  rw [List.foldlM_append, h]
  exact foldlM_stays hstay

/-- Only directories lead to one. -/
theorem isDirectory_of_walk {pieces : List Text} (h : pieces.foldlM d.enter x = .ok l)
    (hl : d.isDirectory l = true) : d.isDirectory x = true := by
  cases pieces with
  | nil =>
    cases h
    exact hl
  | cons piece rest =>
    obtain ⟨y, hfirst, -⟩ := walk_cons h
    exact isDirectory_of_enter hfirst

theorem makeDirectory_spec (h : d.makeDirectory p = .ok d') :
    checkPath p = .ok () ∧
    ∃ l, (p.pieces.reverse.dropWhile List.isEmpty).reverse.foldlM d.enter (d.start p) = .ok l ∧
      d.entryAt? l = none ∧ d' = d.put l .directory := by
  unfold makeDirectory at h
  cases hcheck : checkPath p with
  | error cause => simp [hcheck, bind, Except.bind] at h
  | ok u =>
    cases hwalk :
        (p.pieces.reverse.dropWhile List.isEmpty).reverse.foldlM d.enter (d.start p) with
    | error cause => simp [hcheck, hwalk, bind, Except.bind] at h
    | ok l =>
      simp only [hcheck, hwalk, bind, Except.bind] at h
      split at h
      · cases h
      · rename_i hnone
        split at h
        · cases h
        · cases h
          exact ⟨rfl, l, rfl, hnone, rfl⟩

theorem text_ne_nil_of_isEmpty (h : p.isEmpty = false) : p.text ≠ [] := by
  simpa [Path.isEmpty] using h

theorem locate_iff :
    d.locate p = .ok l ↔ checkPath p = .ok () ∧ p.pieces.foldlM d.enter (d.start p) = .ok l := by
  unfold locate
  cases checkPath p with
  | error cause => simp [bind, Except.bind]
  | ok u => simp [bind, Except.bind]

theorem home_of_locate (hp : p.text ≠ []) (h : d.locate p = .ok l) (hl : d.isDirectory l = true) :
    d.Home p l := by
  obtain ⟨-, hwalk⟩ := locate_iff.mp h
  rcases pieces_eq_homePieces hp with hpieces | hpieces
  · exact ⟨hpieces ▸ hwalk, hl⟩
  · rw [hpieces] at hwalk
    obtain ⟨y, hhome, henter⟩ := walk_concat hwalk
    rw [enter_nil (isDirectory_of_enter henter)] at henter
    cases henter
    exact ⟨hhome, hl⟩

theorem home_of_isDirectoryPath (hp : p.isEmpty = false) (h : d.isDirectoryPath p = true) :
    ∃ l, d.Home p l := by
  unfold isDirectoryPath at h
  split at h
  · rename_i l hlocate
    exact ⟨l, home_of_locate (text_ne_nil_of_isEmpty hp) hlocate h⟩
  · cases h

/-- Dropping the empty pieces at the end drops them whether or not there is one more. -/
theorem dropWhile_homePieces (hp : p.isEmpty = false) :
    p.pieces.reverse.dropWhile List.isEmpty = p.homePieces.reverse.dropWhile List.isEmpty := by
  rcases pieces_eq_homePieces (text_ne_nil_of_isEmpty hp) with hpieces | hpieces
  · rw [hpieces]
  · rw [hpieces, List.reverse_append]
    rfl

theorem walk_of_dropEmpty {pieces : List Text}
    (h : (pieces.reverse.dropWhile List.isEmpty).reverse.foldlM d.enter x = .ok l)
    (hl : d.isDirectory l = true) : pieces.foldlM d.enter x = .ok l := by
  have hsplit : pieces = (pieces.reverse.dropWhile List.isEmpty).reverse ++
      (pieces.reverse.takeWhile List.isEmpty).reverse := by
    rw [← List.reverse_append, List.takeWhile_append_dropWhile, List.reverse_reverse]
  rw [hsplit]
  refine walk_append_idle ?_ h hl
  intro piece hpiece
  have hmem := List.mem_reverse.mp hpiece
  exact List.isEmpty_iff.mp (List.all_eq_true.mp List.all_takeWhile piece hmem)

theorem walk_of_makeDirectory (h : d.makeDirectory p = .ok d') :
    ∃ l, ¬ l <+: d.working ∧ d.entryAt? l = none ∧ d' = d.put l .directory ∧
      d'.isDirectory l = true ∧
      (p.pieces.reverse.dropWhile List.isEmpty).reverse.foldlM d'.enter (d'.start p) = .ok l := by
  obtain ⟨_, l, hwalk, hnone, rfl⟩ := makeDirectory_spec h
  have hl := not_prefix_of_entryAt?_eq_none hnone
  have hdir : (d.put l .directory).isDirectory l = true := by
    rw [isDirectory_iff, entryAt?_put d hl, if_pos rfl]
  exact ⟨l, hl, hnone, rfl, hdir, walk_mono (keeps_put_directory hl) hwalk⟩

theorem home_of_makeDirectory (hp : p.isEmpty = false) (h : d.makeDirectory p = .ok d') :
    ∃ l, d'.Home p l := by
  obtain ⟨l, _, _, _, hdir, hway⟩ := walk_of_makeDirectory h
  rw [dropWhile_homePieces hp] at hway
  exact ⟨l, walk_of_dropEmpty hway hdir, hdir⟩

end Folder

end LabGrader
