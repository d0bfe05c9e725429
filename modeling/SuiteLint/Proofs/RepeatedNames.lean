import Mathlib.Data.Finset.Card
import Mathlib.Data.Finset.Dedup
import Mathlib.Data.List.Forall2
import Mathlib.Tactic
import SuiteLint.Proofs.Placement
import SuiteLint.Proofs.Separators

/-!
# Which repeated names are reported

Keywords are compared by name, and so are test cases: without spaces and underscores, and in
small letters. The check goes through all of them, from whichever tables they come, and keeps the
names that it has met. What it reports can be said without this list. A block is reported if
there is one before it with the same name (`hasEqualBefore`), since what has been met at any time
are the names of the blocks before (`repeatedAfter_eq`).

Counting is another matter. It is not told by which blocks are reported, but by which are not:
each name is met for the first time once (`length_repeatedAfter_add`).

In a file, blocks stand in the order of their lines, whatever the tables are
(`Document.blocks_sorted`), so that a block before another one is one on an earlier line.
-/

namespace SuiteLint

/-! ### Elements that repeat a key -/

section Keys

variable {α : Type} {key : α → Text}

/-- Whether an element at a position of a list has the same key as one before it. -/
def hasEqualBefore (key : α → Text) (items : List α) : α × Nat → Bool
  | (item, i) => (items.take i).any (key · = key item)

/-- **What has been met are the keys of the elements before.** From there on, those elements are
found that have an equal one before them. -/
theorem repeatedAfter_eq {seen : List Text} (before after : List α)
    (hseen : ∀ k, k ∈ seen ↔ k ∈ before.map key) :
    repeatedAfter key seen after =
      ((after.zipIdx before.length).filter (hasEqualBefore key (before ++ after))).map
        Prod.fst := by
  induction after generalizing seen before with
  | nil => rfl
  | cons item after ih =>
    have hnext : ∀ k, k ∈ key item :: seen ↔ k ∈ (before ++ [item]).map key := by
      intro k
      simp [hseen, or_comm]
    have hrest := ih (before ++ [item]) hnext
    rw [List.length_append, List.length_singleton, List.append_assoc, List.singleton_append]
      at hrest
    have hmet : seen.contains (key item) =
        hasEqualBefore key (before ++ item :: after) (item, before.length) := by
      rw [hasEqualBefore, List.take_left, Bool.eq_iff_iff, List.contains_iff_mem, hseen]
      simp
    rw [repeatedAfter, List.zipIdx_cons, List.filter_cons, hmet, hrest]
    split
    · rw [List.map_cons]
    · rfl

/-- **Each key is met for the first time once**, unless it has been met already. -/
theorem length_repeatedAfter_add (key : α → Text) (seen : List Text) (items : List α) :
    (repeatedAfter key seen items).length + (seen ++ items.map key).toFinset.card =
      items.length + seen.toFinset.card := by
  induction items generalizing seen with
  | nil => simp [repeatedAfter]
  | cons item items ih =>
    have hrest := ih (key item :: seen)
    have hsame : (seen ++ (item :: items).map key).toFinset =
        (key item :: seen ++ items.map key).toFinset := by
      ext k
      simp
    rw [repeatedAfter, hsame, List.length_cons]
    by_cases hmet : key item ∈ seen
    · rw [if_pos (List.contains_iff_mem.mpr hmet), List.length_cons]
      rw [List.toFinset_cons, Finset.insert_eq_of_mem (List.mem_toFinset.mpr hmet)] at hrest
      omega
    · have hnew : (key item :: seen).toFinset.card = seen.toFinset.card + 1 := by
        rw [List.toFinset_cons, Finset.card_insert_of_notMem (mt List.mem_toFinset.mp hmet)]
      rw [if_neg (mt List.contains_iff_mem.mp hmet)]
      omega

end Keys

/-! ### Names of blocks -/

/-- A name becomes another one when spaces and underscores are put in or taken out. -/
inductive Respells (name : Text) : Text → Prop
  /-- Nothing need be done. -/
  | same : Respells name name
  /-- A space or underscore is put in. -/
  | put {before after : Text} {c : Char} (hc : c = ' ' ∨ c = '_') :
      Respells name (before ++ after) → Respells name (before ++ c :: after)
  /-- A space or underscore is taken out. -/
  | take {before after : Text} {c : Char} (hc : c = ' ' ∨ c = '_') :
      Respells name (before ++ c :: after) → Respells name (before ++ after)

/-- Spaces and underscores do not count. -/
theorem normalizeName_put (before after : Text) {c : Char} (hc : c = ' ' ∨ c = '_') :
    normalizeName (before ++ c :: after) = normalizeName (before ++ after) := by
  have hbare : Text.without '_' (Text.without ' ' (c :: after)) =
      Text.without '_' (Text.without ' ' after) := by
    rcases hc with rfl | rfl <;> simp [Text.without]
  unfold normalizeName
  simp only [Text.without, List.filter_append] at hbare ⊢
  rw [hbare]

theorem Respells.normalizeName_eq {name other : Text} (h : Respells name other) :
    normalizeName other = normalizeName name := by
  induction h with
  | same => rfl
  | put hc _ ih => rw [normalizeName_put _ _ hc, ih]
  | take hc _ ih => rw [← normalizeName_put _ _ hc, ih]

namespace Block

/-- The name of a block as it is compared with others. -/
def comparedName (block : Block) : Text := normalizeName block.name

/-- A block on the same line whose name differs in spaces and underscores only. -/
def RespelledAs (block other : Block) : Prop :=
  other.line = block.line ∧ Respells block.name other.name

/-- The remark on a block that repeats a name. -/
def repeatRemark (block : Block) : BlockKind → Remark
  | .test => { line := block.line, message := "Duplicate testcase name '" ++ block.name ++ "'" }
  | .keyword => { line := block.line, message := "Duplicate keyword name '" ++ block.name ++ "'" }

end Block

/-- The check on repeated names of test cases, or of keywords. -/
def SuiteCheck.duplicates : BlockKind → SuiteCheck
  | .test => .duplicateTests
  | .keyword => .duplicateKeywords

/-- The place that a remark points to. -/
def Remark.place (remark : Remark) : Int × Int := (remark.line, remark.char)

theorem Block.place_repeatRemark (block : Block) (kind : BlockKind) :
    (block.repeatRemark kind).place = (block.line, 0) := by
  cases kind <;> rfl

theorem SuiteCheck.duplicates_apply (kind : BlockKind) (document : Document) :
    (duplicates kind).apply document =
      .ok ((repeatedBlocks (document.blocks kind)).map (·.repeatRemark kind)) := by
  cases kind <;> rfl

/-- Reports point to the lines of blocks, and to no place within them. -/
theorem SuiteCheck.map_place_duplicates (kind : BlockKind) (document : Document) :
    ((duplicates kind).apply document).map (·.map Remark.place) =
      .ok (((repeatedBlocks (document.blocks kind)).map Block.line).map fun line => (line, 0)) := by
  rw [duplicates_apply, List.map_map]
  change Except.ok (List.map Remark.place _) = _
  rw [List.map_map]
  exact congrArg Except.ok (List.map_congr_left fun block _ => block.place_repeatRemark kind)

/-- Where names are repeated is told by where the blocks are and by how their names compare. -/
theorem map_line_repeatedBlocks {blocks others : List Block}
    (h : List.Forall₂ Block.RespelledAs blocks others) :
    (repeatedBlocks others).map Block.line = (repeatedBlocks blocks).map Block.line := by
  let outline (block : Block) : Text × Int := (block.comparedName, block.line)
  have houtline : others.map outline = blocks.map outline := by
    induction h with
    | nil => rfl
    | cons hblock _ ih =>
      obtain ⟨hline, hname⟩ := hblock
      rw [List.map_cons, List.map_cons, ih]
      exact congrArg (· :: _) (Prod.ext hname.normalizeName_eq hline)
  have hlines (blocks : List Block) : (repeatedBlocks blocks).map Block.line =
      (repeatedAfter Prod.fst [] (blocks.map outline)).map Prod.snd := by
    rw [repeatedAfter_map (fun _ => rfl), List.map_map]
    rfl
  rw [hlines, houtline, hlines]

theorem Mark.line_of_name? {mark : Mark} {line : Int} (h : mark.name? = some line) :
    mark.line = line := by
  cases mark with
  | name => exact Option.some.inj h
  | _ => cases h

namespace Document

/-- Whatever is loaded from a file are the tables of some lines. -/
theorem exists_tables_load (tree : FileTree) (path : Text) :
    ∃ lines, (load tree path).1.tables = tablesOf (rowsFrom 1 lines) := by
  rcases hcontent : tree.content path with obstacle | content
  · refine ⟨[], ?_⟩
    rw [load, read, hcontent]
    rfl
  · rcases hsource : Utf8.decode content.bytes with malformed | source
    · rw [load_of_malformed hcontent hsource]
      exact ⟨[], rfl⟩
    · rw [load, read_eq_of_decode hcontent hsource]
      exact ⟨_, rfl⟩

/-- **The blocks of a file stand in the order of their lines**, whatever tables they are in. -/
theorem blocks_sorted (tree : FileTree) (path : Text) (kind : BlockKind) :
    ((load tree path).1.blocks kind).Pairwise fun a b => a.line < b.line := by
  obtain ⟨lines, htables⟩ := exists_tables_load tree path
  generalize (load tree path).1 = document at htables ⊢
  have hmarks : document.marks.Pairwise Mark.Precedes := by
    have hsorted := rowsFrom_sorted 1 lines
    obtain ⟨groups, hleaves, hmarks⟩ := marks_tablesOf (fun _ => cells_of_mem_rowsFrom) hsorted
    rw [marks, htables, hmarks]
    exact Mark.pairwise_flatten hleaves (hsorted.sublist (List.dropWhile_sublist _))
  have hall : (document.allBlocks.map Block.line).Pairwise (· < ·) := by
    rw [← filterMap_name]
    refine hmarks.filterMap Mark.name? ?_
    rintro a b (hlt | ⟨kept, rfl, rfl⟩) m hm n hn
    · rwa [Mark.line_of_name? hm, Mark.line_of_name? hn] at hlt
    · cases hn
  have hsub : (document.blocks kind).Sublist document.allBlocks :=
    List.filter_sublist.flatMap Table.blocks
  exact (List.pairwise_map.mp hall).sublist hsub

/-- **Repeated names are reported exactly.** What is reported are the blocks, once each and in
order, that have one before them with the same name, spaces, underscores and letter case aside.
So the first one of a name is not reported, and the reports and the different names are together
as many as the blocks. Spaces and underscores do not matter to where reports point. In a file,
the blocks before another one are those on earlier lines, and reports come in the order of their
lines. -/
theorem reports_repeatedNames (kind : BlockKind) (document : Document) :
    let blocks := document.blocks kind
    let repeated := blocks.zipIdx.filter (hasEqualBefore Block.comparedName blocks)
    (SuiteCheck.duplicates kind).apply document =
        .ok (repeated.map fun placed => placed.1.repeatRemark kind) ∧
      (∀ i block, blocks[i]? = some block →
        (∀ earlier ∈ blocks.take i, earlier.comparedName ≠ block.comparedName) →
        (block, i) ∉ repeated) ∧
      repeated.length + (blocks.map Block.comparedName).dedup.length = blocks.length ∧
      (∀ other : Document, List.Forall₂ Block.RespelledAs blocks (other.blocks kind) →
        ((SuiteCheck.duplicates kind).apply other).map (·.map Remark.place) =
          ((SuiteCheck.duplicates kind).apply document).map (·.map Remark.place)) ∧
      ∀ tree path, document = (load tree path).1 →
        (blocks.Pairwise fun a b => a.line < b.line) ∧
        (repeated.map fun placed => placed.1.line).Pairwise (· < ·) := by
  intro blocks repeated
  have hrepeated : repeatedBlocks blocks = repeated.map Prod.fst :=
    repeatedAfter_eq [] blocks fun _ => Iff.rfl
  refine ⟨?_, ?_, ?_, ?_, ?_⟩
  · rw [SuiteCheck.duplicates_apply, hrepeated, List.map_map]
    rfl
  · intro i block _ hfirst hmem
    obtain ⟨earlier, hearlier, hsame⟩ := List.any_eq_true.mp (List.mem_filter.mp hmem).2
    exact hfirst earlier hearlier (of_decide_eq_true hsame)
  · have hcount := length_repeatedAfter_add Block.comparedName [] blocks
    have hlength : (repeatedBlocks blocks).length = repeated.length := by
      rw [hrepeated, List.length_map]
    rw [List.nil_append, List.card_toFinset] at hcount
    rw [← hlength]
    exact hcount
  · intro other hother
    rw [SuiteCheck.map_place_duplicates, SuiteCheck.map_place_duplicates,
      map_line_repeatedBlocks hother]
  · rintro tree path rfl
    have hsorted := blocks_sorted tree path kind
    have hsub : (repeated.map Prod.fst).Sublist blocks := by
      rw [← List.zipIdx_map_fst 0 blocks]
      exact List.filter_sublist.map Prod.fst
    have hreported := hsorted.sublist hsub
    rw [List.pairwise_map] at hreported
    exact ⟨hsorted, List.pairwise_map.mpr hreported⟩

/-- A folder with two files. In each of them there is a table of test cases between two tables of
keywords, and the names in the one differ from those in the other in a space or underscore. -/
def namesakes : FileTree where
  entries := [
    .file "a.robot" { bytes :=
      [42, 75, 101, 121, 119, 111, 114, 100, 115, 10, 68, 111, 32, 73, 116, 10, 79, 116, 104,
      101, 114, 10, 42, 84, 101, 115, 116, 32, 99, 97, 115, 101, 10, 68, 111, 73, 116, 10, 42,
      75, 101, 121, 119, 111, 114, 100, 115, 10, 100, 111, 95, 105, 116] },
    .file "b.robot" { bytes :=
      [42, 75, 101, 121, 119, 111, 114, 100, 115, 10, 68, 111, 73, 116, 10, 79, 116, 104, 101,
      114, 10, 42, 84, 101, 115, 116, 32, 99, 97, 115, 101, 10, 68, 111, 73, 116, 10, 42, 75,
      101, 121, 119, 111, 114, 100, 115, 10, 100, 95, 111, 95, 105, 116] }]
  workingFolder := []

/-- The last keyword repeats the name of the first one. The test case of this name is of no
concern, and the report is on the same line for both files. -/
theorem reports_repeatedNames_namesakes :
    let document := (load namesakes "a.robot").1
    let other := (load namesakes "b.robot").1
    List.Forall₂ Block.RespelledAs (document.blocks .keyword) (other.blocks .keyword) ∧
      (SuiteCheck.duplicates .keyword).apply document =
        .ok [{ line := 7, message := "Duplicate keyword name 'do_it'" }] ∧
      ((document.blocks .keyword).map Block.comparedName).dedup.length = 2 ∧
      ((SuiteCheck.duplicates .keyword).apply other).map (·.map Remark.place) = .ok [(7, 0)] ∧
      (document.blocks .keyword).Pairwise fun a b => a.line < b.line := by
  intro document other
  have hblocks : document.blocks .keyword = [⟨.keyword, 2, "Do It", []⟩, ⟨.keyword, 3, "Other", []⟩,
      ⟨.keyword, 7, "do_it", []⟩] := by decide +kernel
  have hothers : other.blocks .keyword = [⟨.keyword, 2, "DoIt", []⟩, ⟨.keyword, 3, "Other", []⟩,
      ⟨.keyword, 7, "d_o_it", []⟩] := by decide +kernel
  have hrespelled : List.Forall₂ Block.RespelledAs (document.blocks .keyword)
      (other.blocks .keyword) := by
    have hspace : Respells ("Do" ++ ' ' :: "It") ("Do" ++ "It") := .take (.inl rfl) .same
    have hscore : Respells ("d" ++ "o_it") ("d" ++ '_' :: "o_it") := .put (.inr rfl) .same
    rw [hblocks, hothers]
    exact .cons ⟨rfl, hspace⟩ (.cons ⟨rfl, .same⟩ (.cons ⟨rfl, hscore⟩ .nil))
  have hrepeated : (document.blocks .keyword).zipIdx.filter
      (hasEqualBefore Block.comparedName (document.blocks .keyword)) =
        [(⟨.keyword, 7, "do_it", []⟩, 2)] := by
    rw [hblocks]
    decide +kernel
  obtain ⟨happly, -, hcount, hplaces, hsorted⟩ := reports_repeatedNames .keyword document
  rw [hrepeated] at happly hcount
  have hdistinct : 1 + ((document.blocks .keyword).map Block.comparedName).dedup.length = 3 :=
    hcount.trans (by rw [hblocks]; rfl)
  refine ⟨hrespelled, happly, by omega, ?_, (hsorted namesakes "a.robot" rfl).1⟩
  rw [hplaces other hrespelled, happly]
  rfl

end Document

end SuiteLint
