import Mathlib.Tactic
import SuiteLint.Folder
import SuiteLint.Proofs.TreePaths

/-!
# What is visited on a walk through a folder

A walk can be asked for things of some kinds only. What is asked for is handed on in two ways: a
file leaves out what is not wanted, while a folder is walked as a whole and what is not wanted is
then taken out. Both come to the same, so a walk for some kinds is the whole walk without the
other kinds (`Folder.walk_eq_only`).

Of the whole walk it remains to say what is visited and in which order. Two test cases of a file
may have the same name, and then they look the same as things, so we give each thing a *place*: the
names of the folders on the way to it, the name of its file or folder, and its number in the file
if it is a test case or keyword. What there is to visit is then said place by place
(`Folder.Holds`), for a whole tree at once, and the walk is seen to visit every place once
(`Folder.mem_placed_iff`, `Folder.pairwise_placed`).
-/

namespace SuiteLint

open Entry

namespace Folder

/-! ### Wanted things -/

namespace Walk

variable (kinds : List ThingKind)

theorem only_append (a b : Walk) :
    (a.append b).only kinds = (a.only kinds).append (b.only kinds) := by
  simp only [only, append, List.filter_append]

/-- If no kinds are named, everything is wanted. -/
theorem only_nil (walk : Walk) : walk.only [] = walk := by
  simp [only, wanted]

end Walk

theorem filter_singleton (kinds : List ThingKind) (thing : Thing) :
    [thing].filter (fun thing => wanted kinds thing.kind) =
      if wanted kinds thing.kind then [thing] else [] := by
  rw [List.filter_cons, List.filter_nil]

theorem filter_blockThings (kinds : List ThingKind) (document : Document) (kind : BlockKind) :
    (document.blockThings kind).filter (fun thing => wanted kinds thing.kind) =
      if wanted kinds (.block kind) then document.blockThings kind else [] := by
  unfold Document.blockThings
  rw [List.filter_map]
  split
  next hwanted => simp [Function.comp_def, hwanted]
  next hwanted => simp [Function.comp_def, hwanted]

/-- A file leaves out what is not wanted. -/
theorem filter_walk (kinds : List ThingKind) (document : Document) :
    (document.walk []).filter (fun thing => wanted kinds thing.kind) = document.walk kinds := by
  have hall : document.walk [] = document.blockThings .test ++ document.blockThings .keyword := rfl
  rw [hall, List.filter_append, filter_blockThings, filter_blockThings]
  rfl

theorem walkEntry_eq_only (tree : FileTree) (kinds : List ThingKind) (path : Text)
    (entry : Entry) :
    walkEntry tree kinds path entry = (walkEntry tree [] path entry).only kinds := by
  cases entry with
  | folder name entries =>
    have hfolder := filter_singleton kinds (thing (Path.stem (Path.join path name))
      (Path.join path name))
    rw [walkEntry, walkEntry, Walk.only_nil]
    refine Eq.trans (congrArg (Walk.append · _) ?_) (Walk.only_append kinds _ _).symm
    exact congrArg (Walk.mk · []) hfolder.symm
  | file name content =>
    rw [walkEntry, walkEntry]
    split
    · refine congrArg (Walk.mk · []) ?_
      change _ = List.filter _ ([_] ++ Document.walk _ [])
      rw [List.filter_append, filter_singleton, filter_walk]
    · rfl

theorem walkEntries_eq_only (tree : FileTree) (kinds : List ThingKind) (path : Text)
    (entries : List Entry) :
    walkEntries tree kinds path entries = (walkEntries tree [] path entries).only kinds := by
  induction entries with
  | nil =>
    rw [walkEntries, walkEntries]
    rfl
  | cons entry entries ih =>
    rw [walkEntries, walkEntries, Walk.only_append, ← walkEntry_eq_only, ← ih]

/-- **A walk for some kinds is the whole walk without the others.** -/
theorem walk_eq_only (tree : FileTree) (kinds : List ThingKind) (path : Text)
    (entries : List Entry) :
    walk tree kinds path entries = (walk tree [] path entries).only kinds := by
  rw [walk, walk, Walk.only_append, ← walkEntries_eq_only]
  rfl

end Folder

/-! ### Entries below a folder -/

/-- An entry lies below entries: it is one of them, or lies below a folder among them. The names
are those of the folders on the way, the outermost first. -/
inductive Entry.Below : List Entry → List Text → Entry → Prop
  | here {entries : List Entry} {entry : Entry} : entry ∈ entries → Below entries [] entry
  | deeper {entries inside : List Entry} {outer : Text} {folders : List Text} {entry : Entry} :
    folder outer inside ∈ entries → Below inside folders entry →
    Below entries (outer :: folders) entry

theorem Entry.Below.mono {entries others : List Entry} {folders : List Text} {entry : Entry}
    (h : Below entries folders entry) (hsub : entries ⊆ others) : Below others folders entry := by
  cases h with
  | here hmem => exact .here (hsub hmem)
  | deeper hmem hbelow => exact .deeper (hsub hmem) hbelow

theorem Entry.Below.liesBelow {entries : List Entry} {folders : List Text} {name : Text}
    {content : Content} (h : Below entries folders (.file name content)) :
    LiesBelow entries folders name content := by
  generalize hentry : Entry.file name content = entry at h
  induction h with
  | here hmem => exact .here (hentry ▸ hmem)
  | deeper hmem _ ih => exact .deeper hmem (ih hentry)

/-! ### Places -/

/-- Where something is below a folder. -/
structure Place where
  /-- The folders on the way, the outermost first. -/
  folders : List Text
  /-- The name of the file or folder. -/
  name : Text
  /-- The number among the test cases or among the keywords of the file, from 0 on; nothing, if
  this is the file or folder itself. -/
  part : Option (BlockKind × Nat) := none
  deriving DecidableEq, Repr

namespace Place

/-- The way to the file or folder. -/
def route (place : Place) : List Text := place.folders ++ [place.name]

/-- The place, seen from further out. -/
def under (folders : List Text) (place : Place) : Place :=
  { place with folders := folders ++ place.folders }

/-- One place is a folder on the way to the other, or the file that the other is a part of. -/
def Contains (p q : Place) : Prop :=
  p.part = none ∧ (p.route <+: q.folders ∨ p.route = q.route ∧ q.part ≠ none)

/-- One place comes before the other: it contains it, or both are in the same file and it is a
test case and the other is a keyword. -/
def Precedes (p q : Place) : Prop :=
  p.Contains q ∨
    p.route = q.route ∧ ∃ i j, p.part = some (.test, i) ∧ q.part = some (.keyword, j)

/-- The way to what comes before goes along the way to what comes after. -/
theorem Precedes.isPrefix {p q : Place} (h : p.Precedes q) : p.route <+: q.route := by
  rcases h with ⟨-, hfolders | ⟨hroute, -⟩⟩ | ⟨hroute, -⟩
  · exact hfolders.trans (List.prefix_append _ _)
  · exact hroute ▸ List.prefix_rfl
  · exact hroute ▸ List.prefix_rfl

theorem route_ne_nil (place : Place) : place.route ≠ [] := by
  simp [route]

/-- Nothing comes before itself. -/
theorem Precedes.ne {p q : Place} (h : p.Precedes q) : p ≠ q := by
  rintro rfl
  rcases h with ⟨hpart, hfolders | ⟨-, hsome⟩⟩ | ⟨-, i, j, htest, hkeyword⟩
  · have := hfolders.length_le
    simp [route] at this
  · exact hsome hpart
  · cases htest.symm.trans hkeyword

theorem under_mk (folders : List Text) (name : Text) (part : Option (BlockKind × Nat)) :
    under folders ⟨[], name, part⟩ = ⟨folders, name, part⟩ := by
  rw [under, List.append_nil]

theorem under_injective (folders : List Text) : Function.Injective (under folders) := by
  rintro ⟨folders', name, part⟩ ⟨folders'', name', part'⟩ h
  obtain ⟨hfolders, rfl, rfl⟩ := Place.mk.inj h
  obtain rfl : folders' = folders'' := List.append_cancel_left hfolders
  rfl

theorem route_under (folders : List Text) (place : Place) :
    (place.under folders).route = folders ++ place.route :=
  List.append_assoc _ _ _

/-- It does not matter from where it is seen which of two places comes first. -/
theorem precedes_under {folders : List Text} {p q : Place} :
    (p.under folders).Precedes (q.under folders) ↔ p.Precedes q := by
  unfold Precedes Contains
  rw [route_under, route_under, List.append_cancel_left_eq]
  change (p.part = none ∧ (folders ++ p.route <+: folders ++ q.folders ∨ _)) ∨ _ ↔ _
  rw [List.prefix_append_right_inj]
  rfl

end Place

namespace Folder

/-! ### What there is to visit -/

/-- A file that is a member of its folder has one of two extensions, and is no initialization
file. -/
def IsListed (name : Text) : Prop :=
  ((".txt" : Text) <:+ name ∨ (".robot" : Text) <:+ name) ∧
    name ≠ "__init__.txt" ∧ name ≠ "__init__.robot"

theorem isMember_iff {name : Text} : isMember name = true ↔ IsListed name := by
  unfold isMember IsListed
  rw [Bool.and_eq_true, Bool.or_eq_true, Text.endsWith, Text.endsWith,
    List.isSuffixOf_iff_suffix, List.isSuffixOf_iff_suffix]
  refine and_congr_right fun _ => ?_
  rw [Bool.not_eq_true', ← Bool.not_eq_true, List.contains_iff_mem, initNames, List.mem_cons,
    List.mem_singleton, not_or, and_comm]

/-- **What there is to visit below a folder, and where**: every folder at any depth, every file
that is a member of its folder, and every test case and keyword of such a file. -/
inductive Holds (tree : FileTree) (path : Text) (entries : List Entry) : Place → Thing → Prop
  | folder {folders : List Text} {name : Text} {inside : List Entry} :
    Below entries folders (.folder name inside) →
    Holds tree path entries ⟨folders, name, none⟩
      ⟨.suiteFolder, Path.stem (Path.below path folders name), Path.below path folders name⟩
  | file {folders : List Text} {name : Text} {content : Content} :
    Below entries folders (.file name content) → IsListed name →
    Holds tree path entries ⟨folders, name, none⟩
      (Document.load tree (Path.below path folders name)).1.thing
  | block {folders : List Text} {name : Text} {content : Content} {kind : BlockKind} {i : Nat}
    {block : Block} :
    Below entries folders (.file name content) → IsListed name →
    ((Document.load tree (Path.below path folders name)).1.blocks kind)[i]? = some block →
    Holds tree path entries ⟨folders, name, some (kind, i)⟩
      ⟨.block kind, block.name, (Document.load tree (Path.below path folders name)).1.path⟩

/-! ### The walk with places -/

/-- The test cases or keywords of a document with their places. -/
def placedBlocks (name : Text) (document : Document) (kind : BlockKind) : List (Place × Thing) :=
  (document.blocks kind).zipIdx.map fun (block, i) =>
    (⟨[], name, some (kind, i)⟩, ⟨.block kind, block.name, document.path⟩)

/-- What is visited for an entry itself: a folder, or a file with its test cases and keywords. -/
def placedOwn (tree : FileTree) (path : Text) : Entry → List (Place × Thing)
  | .folder name _ =>
    [(⟨[], name, none⟩, thing (Path.stem (Path.join path name)) (Path.join path name))]
  | .file name _ =>
    if isMember name then
      let document := (Document.load tree (Path.join path name)).1
      (⟨[], name, none⟩, document.thing) ::
        (placedBlocks name document .test ++ placedBlocks name document .keyword)
    else []

/-- Places seen from a folder further out. -/
def seenFrom (outer : Text) (visits : List (Place × Thing)) : List (Place × Thing) :=
  visits.map fun visit => (visit.1.under [outer], visit.2)

mutual

/-- What is visited for an entry, with places. -/
def placedEntry (tree : FileTree) (path : Text) : Entry → List (Place × Thing)
  | .folder name entries =>
    placedOwn tree path (.folder name entries) ++
      seenFrom name (placed tree (Path.join path name) entries)
  | .file name content => placedOwn tree path (.file name content)

/-- What is visited for entries, with places. -/
def placed (tree : FileTree) (path : Text) : List Entry → List (Place × Thing)
  | [] => []
  | entry :: entries => placedEntry tree path entry ++ placed tree path entries

end

theorem map_snd_placedBlocks (name : Text) (document : Document) (kind : BlockKind) :
    (placedBlocks name document kind).map Prod.snd = document.blockThings kind := by
  have hblocks := List.zipIdx_map_fst 0 (document.blocks kind)
  unfold placedBlocks Document.blockThings
  rw [← hblocks, List.map_map, List.map_map, hblocks]
  rfl

theorem map_snd_seenFrom (outer : Text) (visits : List (Place × Thing)) :
    (seenFrom outer visits).map Prod.snd = visits.map Prod.snd := by
  unfold seenFrom
  rw [List.map_map]
  rfl

mutual

theorem things_walkEntry (tree : FileTree) (path : Text) : ∀ entry : Entry,
    (walkEntry tree [] path entry).things = (placedEntry tree path entry).map Prod.snd
  | .folder name entries => by
    rw [walkEntry, placedEntry, List.map_append, map_snd_seenFrom, Walk.only_nil,
      ← things_walkEntries]
    rfl
  | .file name content => by
    rw [walkEntry, placedEntry, placedOwn]
    split
    · rw [List.map_cons, List.map_append, map_snd_placedBlocks, map_snd_placedBlocks]
      rfl
    · rfl

theorem things_walkEntries (tree : FileTree) (path : Text) : ∀ entries : List Entry,
    (walkEntries tree [] path entries).things = (placed tree path entries).map Prod.snd
  | [] => by
    rw [walkEntries, placed]
    rfl
  | entry :: entries => by
    rw [walkEntries, placed, List.map_append, ← things_walkEntry, ← things_walkEntries]
    rfl

end

/-- A walk visits the things that have places. -/
theorem things_walk (tree : FileTree) (path : Text) (entries : List Entry) :
    (walk tree [] path entries).things = (placed tree path entries).map Prod.snd :=
  things_walkEntries tree path entries

/-! ### Every place is visited -/

theorem mem_placedBlocks {name : Text} {document : Document} {kind : BlockKind}
    {visit : Place × Thing} :
    visit ∈ placedBlocks name document kind ↔
      ∃ i block, (document.blocks kind)[i]? = some block ∧
        visit = (⟨[], name, some (kind, i)⟩, ⟨.block kind, block.name, document.path⟩) := by
  unfold placedBlocks
  rw [List.mem_map]
  constructor
  · rintro ⟨⟨block, i⟩, hmem, rfl⟩
    exact ⟨i, block, List.mk_mem_zipIdx_iff_getElem?.mp hmem, rfl⟩
  · rintro ⟨i, block, hblock, rfl⟩
    exact ⟨(block, i), List.mk_mem_zipIdx_iff_getElem?.mpr hblock, rfl⟩

/-- What is visited for a file. -/
theorem mem_placedOwn_file {tree : FileTree} {path name : Text} {content : Content}
    {visit : Place × Thing} :
    visit ∈ placedOwn tree path (.file name content) ↔
      IsListed name ∧
        (visit = (⟨[], name, none⟩, (Document.load tree (Path.join path name)).1.thing) ∨
          ∃ kind, visit ∈ placedBlocks name (Document.load tree (Path.join path name)).1 kind) := by
  rw [placedOwn, ← isMember_iff]
  split
  next hmember =>
    rw [List.mem_cons, List.mem_append]
    refine (and_iff_right hmember).symm.trans (and_congr_right fun _ => or_congr_right ?_)
    constructor
    · rintro (htest | hkeyword)
      · exact ⟨.test, htest⟩
      · exact ⟨.keyword, hkeyword⟩
    · rintro ⟨_ | _, hmem⟩
      · exact .inl hmem
      · exact .inr hmem
  next hmember => simp [hmember]

mutual

theorem below_of_mem_placedEntry {tree : FileTree} {visit : Place × Thing} :
    ∀ (entry : Entry) {path : Text}, visit ∈ placedEntry tree path entry →
      ∃ folders inner own, Below [entry] folders inner ∧
        own ∈ placedOwn tree (folders.foldl Path.join path) inner ∧
        visit = (own.1.under folders, own.2)
  | .folder name entries, path, hmem => by
    rw [placedEntry, List.mem_append] at hmem
    rcases hmem with hown | hinside
    · exact ⟨[], _, visit, .here List.mem_cons_self, hown, rfl⟩
    · obtain ⟨within, hwithin, rfl⟩ := List.mem_map.mp hinside
      obtain ⟨folders, inner, own, hbelow, hown, rfl⟩ := below_of_mem_placed entries hwithin
      exact ⟨name :: folders, inner, own, .deeper List.mem_cons_self hbelow, hown, rfl⟩
  | .file name content, path, hmem => by
    rw [placedEntry] at hmem
    exact ⟨[], _, visit, .here List.mem_cons_self, hmem, rfl⟩

theorem below_of_mem_placed {tree : FileTree} {visit : Place × Thing} :
    ∀ (entries : List Entry) {path : Text}, visit ∈ placed tree path entries →
      ∃ folders inner own, Below entries folders inner ∧
        own ∈ placedOwn tree (folders.foldl Path.join path) inner ∧
        visit = (own.1.under folders, own.2)
  | [], path, hmem => by
    rw [placed] at hmem
    cases hmem
  | entry :: entries, path, hmem => by
    rw [placed, List.mem_append] at hmem
    rcases hmem with hfirst | hrest
    · obtain ⟨folders, inner, own, hbelow, hown⟩ := below_of_mem_placedEntry entry hfirst
      exact ⟨folders, inner, own, hbelow.mono (by simp), hown⟩
    · obtain ⟨folders, inner, own, hbelow, hown⟩ := below_of_mem_placed entries hrest
      exact ⟨folders, inner, own, hbelow.mono (List.subset_cons_self entry entries), hown⟩

end

theorem placed_eq_flatMap (tree : FileTree) (path : Text) (entries : List Entry) :
    placed tree path entries = entries.flatMap (placedEntry tree path) := by
  induction entries with
  | nil => rw [placed, List.flatMap_nil]
  | cons entry entries ih => rw [placed, List.flatMap_cons, ih]

theorem placedOwn_subset (tree : FileTree) (path : Text) (entry : Entry) :
    placedOwn tree path entry ⊆ placedEntry tree path entry := by
  cases entry with
  | folder name entries =>
    rw [placedEntry]
    exact List.subset_append_left _ _
  | file name content =>
    rw [placedEntry]
    exact List.Subset.refl _

theorem mem_placed_of_below {tree : FileTree} {path : Text} {entries : List Entry}
    {folders : List Text} {entry : Entry} {place : Place} {thing : Thing}
    (hbelow : Below entries folders entry)
    (hown : (place, thing) ∈ placedOwn tree (folders.foldl Path.join path) entry) :
    (place.under folders, thing) ∈ placed tree path entries := by
  induction hbelow generalizing path with
  | @here entries entry hmem =>
    rw [placed_eq_flatMap]
    exact List.mem_flatMap.mpr ⟨entry, hmem, placedOwn_subset tree path entry hown⟩
  | deeper hmem _ ih =>
    rw [placed_eq_flatMap]
    refine List.mem_flatMap.mpr ⟨_, hmem, ?_⟩
    rw [placedEntry]
    exact List.mem_append_right _ (List.mem_map.mpr ⟨_, ih hown, rfl⟩)

/-- **The walk visits every place, and nothing else.** -/
theorem mem_placed_iff {tree : FileTree} {path : Text} {entries : List Entry} {place : Place}
    {thing : Thing} :
    (place, thing) ∈ placed tree path entries ↔ Holds tree path entries place thing := by
  constructor
  · intro hmem
    obtain ⟨folders, entry, own, hbelow, hown, hvisit⟩ := below_of_mem_placed entries hmem
    obtain ⟨rfl, rfl⟩ := Prod.mk.inj hvisit
    cases entry with
    | folder name inside =>
      rw [List.mem_singleton.mp hown, Place.under_mk]
      exact .folder hbelow
    | file name content =>
      obtain ⟨hlisted, rfl | ⟨kind, hmem⟩⟩ := mem_placedOwn_file.mp hown
      · rw [Place.under_mk]
        exact .file hbelow hlisted
      · obtain ⟨i, block, hblock, rfl⟩ := mem_placedBlocks.mp hmem
        rw [Place.under_mk]
        exact .block hbelow hlisted hblock
  · intro hholds
    cases hholds with
    | folder hbelow =>
      rw [← Place.under_mk]
      exact mem_placed_of_below hbelow List.mem_cons_self
    | file hbelow hlisted =>
      rw [← Place.under_mk]
      exact mem_placed_of_below hbelow (mem_placedOwn_file.mpr ⟨hlisted, .inl rfl⟩)
    | @block folders name content kind i block hbelow hlisted hblock =>
      rw [← Place.under_mk]
      refine mem_placed_of_below hbelow (mem_placedOwn_file.mpr ⟨hlisted, .inr ⟨kind, ?_⟩⟩)
      exact mem_placedBlocks.mpr ⟨i, block, hblock, rfl⟩

/-! ### No place is visited twice or too early -/

/-- The place may be visited before the other: it is not the same, and the other does not come
before it. -/
def MayLead (p q : Place) : Prop := p ≠ q ∧ ¬q.Precedes p

/-- Places that begin with different names have nothing to do with each other. -/
theorem mayLead_of_head_ne {p q : Place} (h : p.route.head? ≠ q.route.head?) : MayLead p q := by
  refine ⟨fun heq => h (heq ▸ rfl), fun hprecedes => h ?_⟩
  obtain ⟨rest, hrest⟩ := hprecedes.isPrefix
  rw [← hrest, List.head?_append_of_ne_nil _ q.route_ne_nil]

theorem mayLead_under {folders : List Text} {p q : Place} :
    MayLead (p.under folders) (q.under folders) ↔ MayLead p q := by
  unfold MayLead
  rw [Place.precedes_under, (Place.under_injective folders).ne_iff]

theorem map_fst_placedBlocks (name : Text) (document : Document) (kind : BlockKind) :
    (placedBlocks name document kind).map Prod.fst =
      (List.range (document.blocks kind).length).map fun i => ⟨[], name, some (kind, i)⟩ := by
  have hindices := List.zipIdx_map_snd 0 (document.blocks kind)
  unfold placedBlocks
  rw [List.range_eq_range', ← hindices, List.map_map, List.map_map]
  rfl

theorem pairwise_numbers (name : Text) (kind : BlockKind) (n : Nat) :
    ((List.range n).map fun i => (⟨[], name, some (kind, i)⟩ : Place)).Pairwise MayLead := by
  refine List.pairwise_map.mpr (List.nodup_range.imp fun {i j} hne => ⟨?_, ?_⟩)
  · simpa using hne
  · rintro (⟨hnone, -⟩ | ⟨-, _, _, htest, hkeyword⟩)
    · cases hnone
    · cases htest
      cases hkeyword

/-- Of a file, the file itself is visited first, and then its test cases and its keywords. -/
theorem pairwise_placedOwn (tree : FileTree) (path : Text) (entry : Entry) :
    ((placedOwn tree path entry).map Prod.fst).Pairwise MayLead := by
  cases entry with
  | folder name entries => exact List.pairwise_singleton _ _
  | file name content =>
    rw [placedOwn]
    split
    · rw [List.map_cons, List.map_append, map_fst_placedBlocks, map_fst_placedBlocks]
      refine List.pairwise_cons.mpr ⟨?_, List.pairwise_append.mpr
        ⟨pairwise_numbers name .test _, pairwise_numbers name .keyword _, ?_⟩⟩
      · intro q hq
        have hpart : q.part ≠ none := by
          rcases List.mem_append.mp hq with hq | hq
          · obtain ⟨i, -, rfl⟩ := List.mem_map.mp hq
            exact Option.some_ne_none _
          · obtain ⟨i, -, rfl⟩ := List.mem_map.mp hq
            exact Option.some_ne_none _
        refine ⟨fun heq => hpart (heq ▸ rfl), ?_⟩
        rintro (⟨hnone, -⟩ | ⟨-, i, j, -, hsome⟩)
        · exact hpart hnone
        · cases hsome
      · intro p hp q hq
        obtain ⟨i, -, rfl⟩ := List.mem_map.mp hp
        obtain ⟨j, -, rfl⟩ := List.mem_map.mp hq
        simp [MayLead, Place.Precedes, Place.Contains]
    · exact .nil

theorem head?_of_mem_placedOwn {tree : FileTree} {path : Text} {entry : Entry}
    {visit : Place × Thing} (h : visit ∈ placedOwn tree path entry) :
    visit.1.route.head? = some entry.name := by
  cases entry with
  | folder name entries =>
    rw [List.mem_singleton.mp h]
    rfl
  | file name content =>
    obtain ⟨-, rfl | ⟨kind, hmem⟩⟩ := mem_placedOwn_file.mp h
    · rfl
    · obtain ⟨i, block, -, rfl⟩ := mem_placedBlocks.mp hmem
      rfl

/-- The way to what is visited for an entry begins with the entry. -/
theorem head?_of_mem_placedEntry {tree : FileTree} {path : Text} {entry : Entry}
    {visit : Place × Thing} (h : visit ∈ placedEntry tree path entry) :
    visit.1.route.head? = some entry.name := by
  cases entry with
  | folder name entries =>
    rw [placedEntry, List.mem_append] at h
    rcases h with hown | hinside
    · exact head?_of_mem_placedOwn hown
    · obtain ⟨within, -, rfl⟩ := List.mem_map.mp hinside
      rfl
  | file name content =>
    rw [placedEntry] at h
    exact head?_of_mem_placedOwn h

/-- A folder is visited before what is in it. -/
theorem mayLead_folder (name : Text) (p : Place) : MayLead ⟨[], name, none⟩ (p.under [name]) := by
  have hlength : (p.under [name]).route.length > [name].length := by
    simp [Place.under, Place.route]
  refine ⟨fun heq => ?_, fun hprecedes => ?_⟩
  · rw [← heq] at hlength
    exact absurd hlength (by simp [Place.route])
  · exact absurd hprecedes.isPrefix.length_le (Nat.not_le_of_gt hlength)

mutual

theorem pairwise_placedEntry (tree : FileTree) : ∀ (path : Text) (entry : Entry),
    Proper [entry] → ((placedEntry tree path entry).map Prod.fst).Pairwise MayLead
  | path, .folder name entries, hproper => by
    have hinside := pairwise_placed tree (Path.join path name) entries
      (hproper.inside List.mem_cons_self)
    rw [placedEntry, List.map_append]
    refine List.pairwise_cons.mpr ⟨?_, ?_⟩
    · intro q hq
      obtain ⟨visit, hvisit, rfl⟩ := List.mem_map.mp hq
      obtain ⟨within, -, rfl⟩ := List.mem_map.mp hvisit
      exact mayLead_folder name within.1
    · change ((seenFrom name _).map Prod.fst).Pairwise MayLead
      unfold seenFrom
      rw [List.map_map, List.pairwise_map]
      refine (List.pairwise_map.mp hinside).imp fun hlead => ?_
      exact mayLead_under.mpr hlead
  | path, .file name content, _ => by
    rw [placedEntry]
    exact pairwise_placedOwn tree path _

theorem pairwise_placed (tree : FileTree) : ∀ (path : Text) (entries : List Entry),
    Proper entries → ((placed tree path entries).map Prod.fst).Pairwise MayLead
  | path, [], _ => by
    rw [placed]
    exact .nil
  | path, entry :: entries, hproper => by
    have hfirst := pairwise_placedEntry tree path entry (hproper.sublist (by simp))
    have hrest := pairwise_placed tree path entries
      (hproper.sublist (List.sublist_cons_self entry entries))
    rw [placed, List.map_append]
    refine List.pairwise_append.mpr ⟨hfirst, hrest, fun p hp q hq => ?_⟩
    obtain ⟨visit, hvisit, rfl⟩ := List.mem_map.mp hp
    obtain ⟨visit', hvisit', rfl⟩ := List.mem_map.mp hq
    rw [placed_eq_flatMap] at hvisit'
    obtain ⟨other, hother, hvisit'⟩ := List.mem_flatMap.mp hvisit'
    refine mayLead_of_head_ne ?_
    rw [head?_of_mem_placedEntry hvisit, head?_of_mem_placedEntry hvisit']
    have hnames := (List.pairwise_cons.mp hproper.distinct).1 other hother
    exact fun heq => hnames (Option.some.inj heq)

end

/-- **What a walk visits.** A walk for some kinds visits what the whole walk visits of these kinds,
in the same order. The whole walk visits every folder, file, test case and keyword that there is
to visit, each once, what contains others before them, and the test cases of a file before its
keywords. If the path leads to the folder, the files are those that lie below it. -/
theorem walk_visits (tree : FileTree) (path : Text) {entries : List Entry}
    (hproper : Proper entries) :
    (∀ kinds, kinds ≠ [] →
      (walk tree kinds path entries).things =
        (walk tree [] path entries).things.filter fun thing => thing.kind ∈ kinds) ∧
    (∃ visits : List (Place × Thing),
      (walk tree [] path entries).things = visits.map Prod.snd ∧
      (visits.map Prod.fst).Nodup ∧
      (∀ place thing, (place, thing) ∈ visits ↔ Holds tree path entries place thing) ∧
      ∀ {i j : Nat} {v w : Place × Thing}, visits[i]? = some v → visits[j]? = some w →
        v.1.Precedes w.1 → i < j) ∧
    ∀ {outer : Text}, tree.lookup path = .ok (.folder outer entries) →
      ∀ {folders : List Text} {name : Text} {content : Content},
        Below entries folders (.file name content) →
          tree.content (Path.below path folders name) = .ok content := by
  have hpairwise := pairwise_placed tree path entries hproper
  refine ⟨fun kinds hkinds => ?_, ⟨placed tree path entries, things_walk tree path entries, ?_,
    fun _ _ => mem_placed_iff, ?_⟩, ?_⟩
  · rw [walk_eq_only]
    refine List.filter_congr fun thing _ => ?_
    rw [wanted, List.isEmpty_eq_false_iff.mpr hkinds, Bool.false_or]
    exact Bool.eq_iff_iff.mpr (by simp)
  · exact hpairwise.imp And.left
  · intro i j v w hv hw hprecedes
    obtain ⟨hi, rfl⟩ := List.getElem?_eq_some_iff.mp hv
    obtain ⟨hj, rfl⟩ := List.getElem?_eq_some_iff.mp hw
    rcases Nat.lt_trichotomy i j with hlt | rfl | hgt
    · exact hlt
    · exact absurd rfl hprecedes.ne
    · have hlead := List.pairwise_iff_getElem.mp (List.pairwise_map.mp hpairwise) j i hj hi hgt
      exact absurd hprecedes hlead.2
  · intro outer hlookup folders name content hbelow
    rw [FileTree.content, FileTree.lookup_below hlookup hproper hbelow.liesBelow]

/-- A folder with a folder in it. There, next to an initialization file and a file of another kind,
is a suite with two test cases of the same name and a keyword. -/
def suiteTree : FileTree where
  entries := [
    .folder "x" [
      .file "__init__.robot" { bytes := [] },
      .file "b.robot" { bytes := [42, 84, 101, 115, 116, 32, 99, 97, 115, 101, 10, 65, 10, 65, 10,
        42, 75, 101, 121, 119, 111, 114, 100, 10, 66] },
      .file "c.py" { bytes := [] }],
    .file "y.txt" { bytes := [] }]
  workingFolder := []

theorem proper_suiteTree : Proper suiteTree.entries := by
  refine .intro (by decide) (by decide) fun name inside hx => ?_
  obtain ⟨-, rfl⟩ : name = "x" ∧ inside = _ := by simpa [suiteTree] using hx
  exact .intro (by decide) (by decide) fun name inside hnone => by simp at hnone

/-- Both test cases of the suite are visited, and what is neither listed nor a folder is not. -/
theorem walk_visits_suiteTree :
    let things (kinds : List ThingKind) := (walk suiteTree kinds "/" suiteTree.entries).things
    things [.block .test] = [⟨.block .test, "A", "/x/b.robot"⟩, ⟨.block .test, "A", "/x/b.robot"⟩] ∧
      (things []).length = 6 ∧
      ∃ visits : List (Place × Thing), things [] = visits.map Prod.snd ∧
        (visits.map Prod.fst).Nodup ∧
        (⟨[("x" : Text)], "b.robot", some (.test, 1)⟩, ⟨.block .test, "A", "/x/b.robot"⟩) ∈
          visits := by
  intro things
  obtain ⟨hkinds, ⟨visits, hthings, hnodup, hholds, -⟩, -⟩ :=
    walk_visits suiteTree "/" proper_suiteTree
  refine ⟨?_, by decide +kernel, visits, hthings, hnodup, (hholds _ _).mpr ?_⟩
  · refine (hkinds _ (List.cons_ne_nil _ _)).trans ?_
    decide +kernel
  · have hbelow : Below suiteTree.entries [("x" : Text)] (.file "b.robot"
        { bytes := [42, 84, 101, 115, 116, 32, 99, 97, 115, 101, 10, 65, 10, 65, 10, 42, 75, 101,
          121, 119, 111, 114, 100, 10, 66] }) :=
      .deeper List.mem_cons_self (.here (List.mem_cons_of_mem _ List.mem_cons_self))
    have hlisted : IsListed "b.robot" := isMember_iff.mp (by decide)
    have hblock : ((Document.load suiteTree (Path.below "/" [("x" : Text)] "b.robot")).1.blocks
        .test)[1]? = some { kind := .test, name := "A", line := 3, rows := [] } := by decide +kernel
    exact .block hbelow hlisted hblock

end Folder

end SuiteLint
