import LabGrader.Proofs.Folder.Limits
import LabGrader.Proofs.Folder.Stops
import LabGrader.Proofs.Path.Order
import Mathlib.Data.List.Nodup

/-!
# What a search finds

In a folder whose path has no wildcards, a search finds the files with its extension at any depth,
each of them once and in the order of their paths, as far as the system lets it see them. A path with
wildcards is another pattern, and the files below it can be missed. So they are below a path with a
doubled slash right behind dots in front, since the empty piece is not followed from the working
folder.
-/

namespace LabGrader

namespace Path

variable {root : Path} {names : List Text}

/-- The path that is shown for what some names lead to from the folder `root`. -/
def shown (root : Path) (names : List Text) : Path := root.base.joinAll (root.trail ++ names)

theorem filter_current (root : Path) :
    root.components.filter (· ≠ .current) =
      root.base.components ++
        (root.pieces.filter fun piece => !isIdle piece).map Component.ofPiece := by
  have hmoves : ∀ moves : List Text, (moves.map Component.ofPiece).filter (· ≠ .current) =
      moves.map Component.ofPiece := by
    intro moves
    apply List.filter_eq_self.mpr
    intro component hcomponent
    obtain ⟨piece, -, rfl⟩ := List.mem_map.mp hcomponent
    unfold Component.ofPiece
    split <;> rfl
  unfold components base
  split
  · exact (List.filter_cons_of_pos (by simp)).trans (congrArg _ (hmoves _))
  · split
    · exact (List.filter_cons_of_neg (by simp)).trans (hmoves _)
    · exact hmoves _

theorem components_shown (hne : root.text ≠ []) (hled : root.Led)
    (hnames : ∀ name ∈ names, IsFileName name) :
    (root.shown names).components =
      root.components.filter (· ≠ .current) ++ names.map .name := by
  have hmoving : names.filter (fun piece => !isIdle piece) = names := by
    apply List.filter_eq_self.mpr
    intro name hname
    rw [(hnames name hname).notIdle]
    rfl
  have hplain : names.map Component.ofPiece = names.map .name := by
    apply List.map_congr_left
    intro name hname
    exact if_neg (hnames name hname).notUp
  rw [shown, (isTrail_append hled hnames).components_joinAll, List.filter_append, filter_trail hne,
    hmoving, List.map_append, hplain, filter_current root, List.append_assoc]

theorem mem_joinAll {p : Path} {pieces : List Text} {c : Char} (h : c ∈ (p.joinAll pieces).text) :
    c ∈ p.text ∨ c = '/' ∨ ∃ piece ∈ pieces, c ∈ piece := by
  induction pieces using List.reverseRecOn with
  | nil => exact Or.inl h
  | append_singleton front last ih =>
    rw [joinAll_concat] at h
    rcases Folder.mem_join h with hfront | hslash | hlast
    · exact (ih hfront).imp_right (Or.imp_right fun ⟨piece, hpiece, hc⟩ =>
        ⟨piece, List.mem_append_left _ hpiece, hc⟩)
    · exact Or.inr (Or.inl hslash)
    · exact Or.inr (Or.inr ⟨last, by simp, hlast⟩)

theorem noZero_shown (hroot : '\x00' ∉ root.text) (hnames : ∀ name ∈ names, '\x00' ∉ name) :
    '\x00' ∉ (root.shown names).text := by
  intro hzero
  rcases mem_joinAll hzero with hbase | hslash | ⟨piece, hpiece, hmem⟩
  · unfold base at hbase
    split at hbase
    · revert hbase
      decide
    · cases hbase
  · revert hslash
    decide
  · rcases List.mem_append.mp hpiece with htrail | hname
    · exact hroot ((of_mem_pieces (mem_pieces_of_mem_trail htrail)).2 hmem)
    · exact hnames piece hname hmem

theorem pieces_joinAll {p : Path} (hnames : ∀ name ∈ names, IsFileName name) (hne : names ≠ []) :
    (p.joinAll names).pieces = p.homePieces ++ names := by
  have hhome : ∀ front : List Text, (∀ name ∈ front, IsFileName name) →
      (p.joinAll front).homePieces = p.homePieces ++ front := by
    intro front hfront
    induction front using List.reverseRecOn with
    | nil => exact (List.append_nil _).symm
    | append_singleton front last ih =>
      have hlast : IsFileName last := hfront last (by simp)
      have hempty : last ≠ [] := by
        rintro rfl
        cases hlast.notIdle
      rw [joinAll_concat, homePieces_join _ hlast.noSlash hempty,
        ih fun name hname => hfront name (List.mem_append_left _ hname), List.append_assoc]
  obtain ⟨front, last, rfl⟩ := (List.eq_nil_or_concat' names).resolve_left hne
  rw [joinAll_concat, pieces_join _ (hnames last (by simp)).noSlash,
    hhome front fun name hname => hnames name (List.mem_append_left _ hname), List.append_assoc]

end Path

namespace Folder

open LabGrader.Path

variable {d : Folder} {s : Stop} {l x : Location} {extension : Text} {names : List Text} {root : Path}

/-- One thing stands at a location, under names that are allowed, and in a directory. -/
structure IsTree (d : Folder) : Prop where
  nodup : d.locations.Nodup
  isFileName : ∀ l ∈ d.locations, ∀ name ∈ l,
    IsFileName name ∧ '\x00' ∉ name ∧ Text.byteCount name ≤ nameLimit
  closed : ∀ l ∈ d.locations, d.isDirectory l.dropLast = true

instance (d : Folder) : Decidable d.IsTree :=
  decidable_of_iff (d.locations.Nodup ∧
      (∀ l ∈ d.locations, ∀ name ∈ l,
        IsFileName name ∧ '\x00' ∉ name ∧ Text.byteCount name ≤ nameLimit) ∧
      ∀ l ∈ d.locations, d.isDirectory l.dropLast = true)
    ⟨fun ⟨hnodup, hname, hclosed⟩ => ⟨hnodup, hname, hclosed⟩,
      fun h => ⟨h.nodup, h.isFileName, h.closed⟩⟩

/-- Some names lead from a location to a file, and the last of them ends in an extension. -/
def HasFile (d : Folder) (extension : Text) (l : Location) (names : List Text) : Prop :=
  '.' :: extension <:+ names.getLastD [] ∧ ∃ content, d.entryAt? (l ++ names) = some (.file content)

/-- The system does not refuse a use of the directories that some names lead through from `l` on. -/
def Opens (d : Folder) (use : Use) (l : Location) (names : List Text) : Prop :=
  ∀ front, front <+: names → front ≠ names → d.refusal? use (l ++ front) = none

/-- The file that some names lead to from the folder `root` at `l` can be seen: the directories on
the way can be listed and entered, and its path is not longer than the system allows. -/
structure Visible (d : Folder) (root : Path) (l : Location) (names : List Text) : Prop where
  listed : d.Opens .list l names
  entered : d.Opens .enter l names
  short : Text.byteCount (root.shown names).text < pathLimit

theorem mem_locations_of_entryAt? {e : Entry} (hl : l ≠ []) (h : d.entryAt? l = some e) :
    l ∈ d.locations := by
  unfold locations
  by_cases hprefix : l <+: d.working
  · refine List.mem_append_left _ (List.mem_map.mpr ⟨l.length - 1, ?_, ?_⟩)
    · have hle := hprefix.length_le
      have hpos := List.length_pos_iff.mpr hl
      exact List.mem_range.mpr (by omega)
    · rw [Nat.sub_add_cancel (List.length_pos_iff.mpr hl)]
      exact (List.prefix_iff_eq_take.mp hprefix).symm
  · rw [entryAt?, if_neg hprefix] at h
    obtain ⟨front, back, hentries, -⟩ := List.lookup_eq_some_iff.mp h
    refine List.mem_append_right _ ?_
    rw [hentries]
    simp

theorem HasFile.ne_nil (h : d.HasFile extension l names) : names ≠ [] := by
  rintro rfl
  exact absurd (List.suffix_nil.mp h.1) (List.cons_ne_nil _ _)

theorem HasFile.mem_locations (h : d.HasFile extension l names) : l ++ names ∈ d.locations := by
  obtain ⟨content, hfile⟩ := h.2
  exact mem_locations_of_entryAt? (by simp [h.ne_nil]) hfile

theorem IsTree.isFileName_below (hd : d.IsTree) (hmem : l ++ names ∈ d.locations) :
    ∀ name ∈ names, IsFileName name := fun name hname =>
  (hd.isFileName _ hmem name (List.mem_append_right l hname)).1

theorem IsTree.noZero_below (hd : d.IsTree) (hmem : l ++ names ∈ d.locations) :
    ∀ name ∈ names, '\x00' ∉ name := fun name hname =>
  (hd.isFileName _ hmem name (List.mem_append_right l hname)).2.1

theorem opens_nil (use : Use) : d.Opens use l [] := fun _ hfront hne =>
  absurd (List.prefix_nil.mp hfront) hne

theorem opens_concat {use : Use} {front : List Text} {name : Text} :
    d.Opens use l (front ++ [name]) ↔
      d.Opens use l front ∧ d.refusal? use (l ++ front) = none := by
  constructor
  · intro h
    refine ⟨fun before hbefore hne => h before (hbefore.trans (List.prefix_append _ _)) ?_,
      h front (List.prefix_append _ _) (by simp)⟩
    rintro rfl
    have hlength := hbefore.length_le
    rw [List.length_append] at hlength
    exact absurd hlength (Nat.not_succ_le_self _)
  · rintro ⟨hfront, hlast⟩ before hbefore hne
    rcases List.prefix_concat_iff.mp hbefore with rfl | hshorter
    · exact absurd rfl hne
    · by_cases hall : before = front
      · rw [hall]
        exact hlast
      · exact hfront before hshorter hall

theorem enter_name_iff {name : Text} (hname : IsFileName name)
    (hlong : Text.byteCount name ≤ nameLimit) (hdir : d.isDirectory l = true) :
    d.enter l name = .ok x ↔ x = l ++ [name] ∧ d.refusal? .enter l = none := by
  rw [enter_name hdir hname]
  cases d.refusal? .enter l <;> simp [Nat.not_lt.mpr hlong, eq_comm]


/-- In a tree, names lead to the place that they name, as far as its directories can be entered. -/
theorem IsTree.walk_iff (hd : d.IsTree) (hmem : l ++ names ∈ d.locations) :
    names.foldlM d.enter l = .ok x ↔ x = l ++ names ∧ d.Opens .enter l names := by
  -- from the end, since the tree is closed under leaving out the last name
  induction names using List.reverseRecOn generalizing x with
  | nil =>
    rw [List.foldlM_nil, List.append_nil]
    exact ⟨fun h => ⟨(Except.ok.inj h).symm, opens_nil _⟩, fun h => congrArg _ h.1.symm⟩
  | append_singleton front name ih =>
    obtain ⟨hname, -, hlong⟩ := hd.isFileName _ hmem name (by simp)
    have hdir : d.isDirectory (l ++ front) = true := by
      have hclosed := hd.closed _ hmem
      rwa [← List.append_assoc, List.dropLast_concat] at hclosed
    have hfront : ∀ {y}, front.foldlM d.enter l = .ok y ↔
        y = l ++ front ∧ d.Opens .enter l front := by
      intro y
      by_cases hnil : l ++ front = []
      · obtain ⟨rfl, rfl⟩ := List.append_eq_nil_iff.mp hnil
        exact ⟨fun h => ⟨(Except.ok.inj h).symm, opens_nil _⟩,
          fun h => congrArg Except.ok h.1.symm⟩
      · exact ih (mem_locations_of_entryAt? hnil (isDirectory_iff.mp hdir))
    rw [opens_concat, ← List.append_assoc]
    constructor
    · intro h
      obtain ⟨y, hwalk, hlast⟩ := walk_concat h
      obtain ⟨rfl, hopens⟩ := hfront.mp hwalk
      obtain ⟨hx, hallowed⟩ := (enter_name_iff hname hlong hdir).mp hlast
      exact ⟨hx, hopens, hallowed⟩
    · rintro ⟨hx, hopens, hallowed⟩
      rw [List.foldlM_append, hfront.mpr ⟨rfl, hopens⟩]
      exact walk_singleton.trans ((enter_name_iff hname hlong hdir).mpr ⟨hx, hallowed⟩)

theorem lists_iff : d.lists l names = true ↔ d.Opens .list l names := by
  rw [lists, List.all_eq_true]
  constructor
  · intro h front hfront hne
    have hlt : front.length < names.length :=
      Nat.lt_of_le_of_ne hfront.length_le fun hlength => hne (hfront.eq_of_length hlength)
    have htake := h front.length (List.mem_range.mpr hlt)
    rw [← List.prefix_iff_eq_take.mp hfront] at htake
    exact Option.isNone_iff_eq_none.mp htake
  · intro h n hn
    have hlt := List.mem_range.mp hn
    refine Option.isNone_iff_eq_none.mpr (h _ (List.take_prefix n names) fun hall => ?_)
    have hlength := congrArg List.length hall
    rw [List.length_take] at hlength
    omega

def Stop.isAbove (s : Stop) (x : Location) : Bool := s.location.isPrefixOf x && s.location ≠ x

theorem Stop.isAbove_iff : s.isAbove x = true ↔ ∃ names, names ≠ [] ∧ x = s.location ++ names := by
  rw [isAbove, Bool.and_eq_true_iff, List.isPrefixOf_iff_prefix, decide_eq_true_eq]
  constructor
  · rintro ⟨⟨names, rfl⟩, hne⟩
    refine ⟨names, ?_, rfl⟩
    rintro rfl
    exact hne (List.append_nil _).symm
  · rintro ⟨names, hne, rfl⟩
    exact ⟨List.prefix_append _ _, by simpa using hne⟩

/-- Whether a search below a stop comes to a place. -/
def comesTo (d : Folder) (s : Stop) (x : Location) : Bool :=
  s.isAbove x && d.lists s.location (x.drop s.location.length)

def within (d : Folder) (s : Stop) : List Location := d.locations.filter (d.comesTo s)

theorem descendants_eq (d : Folder) (s : Stop) :
    descendants d s = (d.within s).map fun x => s.below (x.drop s.location.length) := by
  unfold descendants within
  induction d.locations with
  | nil => rfl
  | cons x rest ih =>
    by_cases hin : d.comesTo s x = true
    · rw [List.filter_cons_of_pos hin, List.map_cons, ← ih]
      exact List.filterMap_cons_some (if_pos hin)
    · rw [List.filter_cons_of_neg hin, ← ih]
      exact List.filterMap_cons_none (if_neg hin)

theorem mem_within : x ∈ d.within s ↔
    ∃ names, names ≠ [] ∧ s.location ++ names ∈ d.locations ∧ d.Opens .list s.location names ∧
      x = s.location ++ names := by
  rw [within, List.mem_filter, comesTo, Bool.and_eq_true, Stop.isAbove_iff, lists_iff]
  constructor
  · rintro ⟨hmem, ⟨names, hne, rfl⟩, hlists⟩
    rw [List.drop_left] at hlists
    exact ⟨names, hne, hmem, hlists, rfl⟩
  · rintro ⟨names, hne, hmem, hlists, rfl⟩
    rw [List.drop_left]
    exact ⟨hmem, ⟨names, hne, rfl⟩, hlists⟩

theorem mem_descendants {e : Stop} :
    e ∈ descendants d s ↔
      ∃ names, names ≠ [] ∧ s.location ++ names ∈ d.locations ∧ d.Opens .list s.location names ∧
        e = s.below names := by
  rw [descendants_eq, List.mem_map]
  constructor
  · rintro ⟨x, hx, rfl⟩
    obtain ⟨names, hne, hmem, hlists, rfl⟩ := mem_within.mp hx
    exact ⟨names, hne, hmem, hlists, by rw [List.drop_left]⟩
  · rintro ⟨names, hne, hmem, hlists, rfl⟩
    exact ⟨_, mem_within.mpr ⟨names, hne, hmem, hlists, rfl⟩, by rw [List.drop_left]⟩

theorem IsTree.nodup_descendants (hd : d.IsTree) (s : Stop) :
    ((descendants d s).map Stop.location).Nodup := by
  have hself : (descendants d s).map Stop.location = d.within s := by
    rw [descendants_eq, List.map_map]
    refine (List.map_congr_left ?_).trans (List.map_id _)
    intro x hx
    obtain ⟨names, -, -, -, rfl⟩ := mem_within.mp hx
    simp [Stop.location_below]
  rw [hself]
  exact hd.nodup.filter _

/-- The stops that a search below a stop comes to. -/
def found (d : Folder) (extension : Text) (s : Stop) : List Stop :=
  (descendants d s).filter fun e => Pattern.admits (named extension) e.name

theorem mem_found (hd : d.IsTree) (hled : root.Led) {e : Stop} :
    e ∈ found d extension (.reached (root.base.joinAll root.trail) l) ↔
      ∃ names, names ≠ [] ∧ l ++ names ∈ d.locations ∧ d.Opens .list l names ∧
        '.' :: extension <:+ names.getLastD [] ∧ e = .reached (root.shown names) (l ++ names) := by
  have hbelow : ∀ {names}, l ++ names ∈ d.locations →
      (Stop.reached (root.base.joinAll root.trail) l).below names =
        .reached (root.shown names) (l ++ names) :=
    fun hmem => Stop.below_reached (isTrail_append hled (hd.isFileName_below hmem))
  have hname : ∀ {names : List Text}, names ≠ [] →
      (Stop.reached (root.shown names) (l ++ names)).name = names.getLastD [] := by
    intro names hne
    change (l ++ names).getLastD [] = names.getLastD []
    rw [List.getLastD_eq_getLast?, List.getLastD_eq_getLast?, List.getLast?_append_of_ne_nil _ hne]
  rw [found, List.mem_filter, mem_descendants]
  constructor
  · rintro ⟨⟨names, hne, hmem, hlists, rfl⟩, hadmits⟩
    rw [hbelow hmem] at hadmits ⊢
    rw [hname hne] at hadmits
    exact ⟨names, hne, hmem, hlists, Pattern.admits_star.mp hadmits, rfl⟩
  · rintro ⟨names, hne, hmem, hlists, hsuffix, rfl⟩
    refine ⟨⟨names, hne, hmem, hlists, (hbelow hmem).symm⟩, ?_⟩
    rw [hname hne]
    exact Pattern.admits_star.mpr hsuffix

theorem path_reached (hled : root.Led) (hd : d.IsTree) (hne : names ≠ [])
    (hmem : l ++ names ∈ d.locations) (x : Location) :
    (Stop.reached (root.shown names) x).path = root.shown names := by
  have htext : (root.shown names).text ≠ [] := by
    rw [shown, ne_eq, (isTrail_append hled (hd.isFileName_below hmem)).text_eq_nil_iff]
    simp [hne]
  simp [Stop.reached, Path.isEmpty, htext]

/-- Components tell apart what is found, since they end in its names. -/
theorem nodup_components_found (hd : d.IsTree) (hne : root.text ≠ []) (hled : root.Led) :
    (((found d extension (.reached (root.base.joinAll root.trail) l)).map Stop.path).map
      components).Nodup := by
  have hnodup : ((found d extension (.reached (root.base.joinAll root.trail) l)).map
      Stop.location).Nodup :=
    (hd.nodup_descendants _).sublist (List.filter_sublist.map _)
  rw [List.map_map]
  refine List.Nodup.map_on ?_ (hnodup.of_map _)
  intro e he e' he' hsame
  obtain ⟨names, hnames, hmem, -, -, rfl⟩ := (mem_found hd hled).mp he
  obtain ⟨names', hnames', hmem', -, -, rfl⟩ := (mem_found hd hled).mp he'
  rw [Function.comp_apply, Function.comp_apply, path_reached hled hd hnames hmem,
    path_reached hled hd hnames' hmem', components_shown hne hled (hd.isFileName_below hmem),
    components_shown hne hled (hd.isFileName_below hmem'), List.append_cancel_left_eq] at hsame
  rw [(List.map_inj_right fun _ _ => Component.name.inj).mp hsame]

theorem filesWith_eq (h : d.Home root l) (hne : root.text ≠ []) (hplain : Pattern.Plain root.text)
    (hled : root.Led) (hextension : Pattern.Plain extension) (hslash : '/' ∉ extension) :
    d.filesWith extension root =
      .ok ((((found d extension (.reached (root.base.joinAll root.trail) l)).map Stop.path).filter
        d.isFilePath).mergeSort fun p q => (p.order q).isLE) := by
  obtain ⟨front, hpattern, hfront, hsub⟩ := exists_front hne extension
  have hdot : Pattern.Plain ('.' :: extension) := Pattern.plain_cons.mpr ⟨by decide, hextension⟩
  have hwhole := Pattern.parse_below (hplain.mono hsub) hdot
  have houtset : outset d (patternPieces (front ++ anyNamed extension)) =
      (.first d root, root.lead ++ [['*', '*'], '*' :: '.' :: extension]) := by
    rw [patternPieces_anyNamed hslash, hfront, outset_homePieces d hne]
  have hpieces := mapM_parse_lead hplain hextension
  have hlast := getLast?_anyNamed hslash front
  have hstops : expand d (root.lead.map (List.map .char) ++ [[.anyFolders], named extension])
      (.first d root) = found d extension (.reached (root.base.joinAll root.trail) l) := by
    rw [expand_literal, (h.follow_eq hne hled).2]
    exact expand_below _ (by simp [named]) _
  unfold filesWith
  simp only [hpattern, houtset, hpieces, hlast, bind, Except.bind, if_false, hstops]
  rw [anyNamed, hwhole]
  rfl

theorem isFilePath_iff {p : Path} :
    d.isFilePath p = true ↔ ∃ x content, d.locate p = .ok x ∧ d.entryAt? x = some (.file content) := by
  unfold isFilePath
  cases d.locate p with
  | error cause => simp
  | ok x =>
    cases hentry : d.entryAt? x with
    | none => simp [hentry]
    | some e => cases e <;> simp [hentry]

/-- The path that is shown for a place leads there, if the system lets it. -/
theorem locate_shown (hd : d.IsTree) (h : d.Home root l) (hne : root.text ≠ [])
    (hzero : '\x00' ∉ root.text) (hled : root.Led) (hnames : names ≠ [])
    (hmem : l ++ names ∈ d.locations) :
    d.locate (root.shown names) = .ok x ↔
      x = l ++ names ∧ d.Opens .enter l names ∧
        Text.byteCount (root.shown names).text < pathLimit := by
  have htrail := isTrail_append hled (hd.isFileName_below hmem)
  have hshort : checkPath (root.shown names) = .ok () ↔
      Text.byteCount (root.shown names).text < pathLimit := by
    rw [checkPath_eq_ok_iff]
    refine ⟨fun h => h.2.2, fun h => ⟨noZero_shown hzero (hd.noZero_below hmem), ?_, h⟩⟩
    rw [shown, ne_eq, htrail.text_eq_nil_iff]
    simp [hnames]
  have hhome : d.Home (root.base.joinAll root.trail) l :=
    (home_base d root).joinAll htrail.of_append.noSlash (h.follow_eq hne hled).1 h.directory
  have hsplit : root.shown names = (root.base.joinAll root.trail).joinAll names := by
    rw [shown, joinAll, List.foldl_append]
    rfl
  have hwalk : (root.shown names).pieces.foldlM d.enter (d.start (root.shown names)) =
      names.foldlM d.enter l := by
    have hstart : d.start (root.shown names) = d.start (root.base.joinAll root.trail) := by
      rw [hsplit, start, start, isAbsolute_joinAll _ fun name hname =>
        (hd.isFileName_below hmem name hname).noSlash]
    rw [hstart, hsplit, pieces_joinAll (hd.isFileName_below hmem) hnames, List.foldlM_append,
      hhome.walk]
    rfl
  rw [locate_iff, hshort, hwalk, hd.walk_iff hmem]
  constructor
  · rintro ⟨hbytes, hx, hopens⟩
    exact ⟨hx, hopens, hbytes⟩
  · rintro ⟨hx, hopens, hbytes⟩
    exact ⟨hbytes, hx, hopens⟩

/-- In a folder whose path has no wildcards, a search finds the files at any depth whose names end
in the extension and that can be seen, each of them once and in the order of their paths. Each path
leads to its file. Where nothing is refused, only a path that is too long hides a file. -/
theorem search_exact (hd : d.IsTree) (hroot : d.locate root = .ok l) (hl : d.isDirectory l = true)
    (hplain : Pattern.Plain root.text) (hled : root.Led)
    (hextension : Pattern.Plain extension) (hslash : '/' ∉ extension) :
    ∃ files, d.filesWith extension root = .ok files ∧
      files.Pairwise (fun p q => p.order q = .lt) ∧
      (∀ p, p ∈ files ↔
        ∃ names, d.HasFile extension l names ∧ d.Visible root l names ∧ p = root.shown names) ∧
      ∀ names, d.HasFile extension l names → d.Visible root l names →
        (root.shown names).components =
          root.components.filter (· ≠ .current) ++ names.map .name ∧
        d.locate (root.shown names) = .ok (l ++ names) := by
  obtain ⟨hzero, hne, -⟩ := checkPath_eq_ok_iff.mp (locate_iff.mp hroot).1
  have hhome := home_of_locate hne hroot hl
  have hlocate : ∀ {names x}, names ≠ [] → l ++ names ∈ d.locations →
      (d.locate (root.shown names) = .ok x ↔ x = l ++ names ∧ d.Opens .enter l names ∧
        Text.byteCount (root.shown names).text < pathLimit) :=
    fun hnames hmem => locate_shown hd hhome hne hzero hled hnames hmem
  refine ⟨_, filesWith_eq hhome hne hplain hled hextension hslash, pairwise_mergeSort
    ((nodup_components_found hd hne hled).sublist (List.filter_sublist.map _)), ?_, ?_⟩
  · intro p
    rw [List.mem_mergeSort, List.mem_filter, isFilePath_iff, List.mem_map]
    constructor
    · rintro ⟨⟨e, he, rfl⟩, x, content, hpath, hfile⟩
      obtain ⟨names, hnames, hmem, hlisted, hsuffix, rfl⟩ := (mem_found hd hled).mp he
      rw [path_reached hled hd hnames hmem] at hpath ⊢
      obtain ⟨rfl, hentered, hshort⟩ := (hlocate hnames hmem).mp hpath
      exact ⟨names, ⟨hsuffix, content, hfile⟩, ⟨hlisted, hentered, hshort⟩, rfl⟩
    · rintro ⟨names, hfile, hvisible, rfl⟩
      obtain ⟨content, hcontent⟩ := hfile.2
      have hmem := hfile.mem_locations
      refine ⟨⟨_, (mem_found hd hled).mpr
        ⟨names, hfile.ne_nil, hmem, hvisible.listed, hfile.1, rfl⟩,
        path_reached hled hd hfile.ne_nil hmem _⟩, l ++ names, content, ?_, hcontent⟩
      exact (hlocate hfile.ne_nil hmem).mpr ⟨rfl, hvisible.entered, hvisible.short⟩
  · intro names hfile hvisible
    have hmem := hfile.mem_locations
    exact ⟨components_shown hne hled (hd.isFileName_below hmem),
      (hlocate hfile.ne_nil hmem).mpr ⟨rfl, hvisible.entered, hvisible.short⟩⟩

/-- A folder with one submission in the working folder. -/
def handedIn (name : Text) : Folder where
  working := workplace
  entries := [(workplace ++ [name], .directory), (workplace ++ [name, "A.java".toList], .file [])]

theorem search_exact_lab :
    ∃ files, (handedIn "lab".toList).filesWith "java".toList ⟨"/work/../work/lab/".toList⟩ =
        .ok files ∧
      ⟨"/work/../work/lab/A.java".toList⟩ ∈ files := by
  have htree : (handedIn "lab".toList).IsTree := by decide
  have hroot : (handedIn "lab".toList).locate ⟨"/work/../work/lab/".toList⟩ =
      .ok (workplace ++ ["lab".toList]) := by decide
  have hextension : Pattern.Plain "java".toList := by decide
  have hfile : (handedIn "lab".toList).HasFile "java".toList (workplace ++ ["lab".toList])
      ["A.java".toList] := ⟨by decide, [], by decide⟩
  have hvisible : (handedIn "lab".toList).Visible ⟨"/work/../work/lab/".toList⟩
      (workplace ++ ["lab".toList]) ["A.java".toList] :=
    ⟨fun _ _ _ => rfl, fun _ _ _ => rfl, by decide⟩
  obtain ⟨files, hfiles, -, hmem, -⟩ :=
    search_exact htree hroot (by decide) (by decide) (by decide) hextension (by decide)
  exact ⟨files, hfiles, (hmem _).mpr ⟨_, hfile, hvisible, by decide⟩⟩

/-- The brackets in the name of a folder are read as a choice of characters. -/
theorem bracketed_folder_missed :
    (handedIn "lab[1]".toList).IsTree ∧
      (handedIn "lab[1]".toList).locate ⟨"lab[1]".toList⟩ = .ok (workplace ++ ["lab[1]".toList]) ∧
      (handedIn "lab[1]".toList).isDirectory (workplace ++ ["lab[1]".toList]) = true ∧
      (handedIn "lab[1]".toList).HasFile "java".toList (workplace ++ ["lab[1]".toList])
        ["A.java".toList] ∧
      (handedIn "lab[1]".toList).Visible ⟨"lab[1]".toList⟩ (workplace ++ ["lab[1]".toList])
        ["A.java".toList] ∧
      (handedIn "lab[1]".toList).filesWith "java".toList ⟨"lab[1]".toList⟩ = .ok [] := by
  refine ⟨by decide, by decide, by decide, ⟨by decide, [], by decide⟩, ?_, by decide +kernel⟩
  exact ⟨fun _ _ _ => rfl, fun _ _ _ => rfl, by decide⟩

end Folder

end LabGrader
