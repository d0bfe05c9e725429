import Mathlib.Tactic
import SuiteLint.Check.Suite
import SuiteLint.Proofs.Placement
import SuiteLint.Proofs.TableNames

/-!
# Tables of no known kind

A table of no known kind is kept, but nothing in it is looked at, so it had better be reported.
The check that does so does not ask for the kind: it compares the name with its own list of
names. A heading begins a table, and its name has no newlines in it
(`Document.map_begun_tablesOf`, `Document.newline_not_mem_headingName`), so what is known about
names applies to the tables of a file.

It turns out that the check knows one noun too many. A table called cases is of no known kind,
and nothing is said about it (`Document.invalidTable_of_unknown`).
-/

namespace SuiteLint

/-! ### Names in headings -/

namespace Pattern

theorem newline_not_mem_dropLast {text : Text} (h : hasInnerNewline text = false) :
    '\n' ∉ text.dropLast := by
  induction text with
  | nil => exact List.not_mem_nil
  | cons c rest ih =>
    cases rest with
    | nil => exact List.not_mem_nil
    | cons d rest =>
      rw [hasInnerNewline, Bool.or_eq_false_iff] at h
      have hc : c ≠ '\n' := by simpa using h.1
      rw [List.dropLast_cons_cons, List.mem_cons, not_or]
      exact ⟨hc.symm, ih h.2⟩

theorem newline_not_mem_dropFinalNewline {text : Text} (h : hasInnerNewline text = false) :
    '\n' ∉ dropFinalNewline text := by
  have hinner := newline_not_mem_dropLast h
  rw [dropFinalNewline]
  split
  · exact hinner
  next hend =>
    intro hmem
    obtain rfl | ⟨init, last, rfl⟩ := List.eq_nil_or_concat text
    · cases hmem
    · rw [List.concat_eq_append, List.dropLast_concat] at hinner
      rw [List.concat_eq_append] at hmem hend
      obtain rfl : '\n' = last := by simpa [hinner] using hmem
      exact hend (List.isSuffixOf_iff_suffix.mpr (List.suffix_append init _))

/-- A heading has one part, the name, and no newline in it. -/
theorem parts_of_heading {text : Text} {found : Match} (h : heading? text = some found) :
    ∃ name, found.parts = [some name] ∧ '\n' ∉ name := by
  unfold heading? at h
  simp only at h
  split at h
  · cases h
  next hline =>
    obtain rfl := Option.some.inj h
    rw [Bool.or_eq_true, not_or, Bool.not_eq_true, Bool.not_eq_true] at hline
    refine ⟨_, rfl, fun hmem => newline_not_mem_dropFinalNewline hline.2 ?_⟩
    exact List.mem_reverse.mp ((List.dropWhile_sublist _).subset (List.mem_reverse.mp hmem))

end Pattern

/-- The table as its heading has begun it. -/
def Table.begun (table : Table) : Table :=
  { table with rows := [], comments := [], blocks := [] }

theorem Table.begun_append (table : Table) (row : Row) :
    (table.append row).begun = table.begun := by
  unfold append
  repeat' split
  all_goals rfl

namespace Document

theorem newline_not_mem_headingName {row : Row} {name : Text} (h : headingName? row = some name) :
    '\n' ∉ name := by
  unfold headingName? at h
  split at h
  · cases h
  · split at h
    next found hfound =>
      obtain ⟨part, hparts, hpart⟩ := Pattern.parts_of_heading hfound
      rw [hparts] at h
      obtain rfl : part = name := Option.some.inj h
      exact hpart
    next => cases h

/-! ### Tables and their headings -/

/-- The table that a row begins, if it is a heading. -/
def headingTable? (row : Row) : Option Table := (headingName? row).map (startTable row)

theorem map_begun_tablesFrom (current : Table) (rows : List Row) :
    (tablesFrom current rows).map Table.begun = current.begun :: rows.filterMap headingTable? := by
  induction rows generalizing current with
  | nil => rfl
  | cons row rows ih =>
    rw [tablesFrom]
    cases hname : headingName? row with
    | some name =>
      have htable : headingTable? row = some (startTable row name) := by
        rw [headingTable?, hname, Option.map_some]
      rw [List.filterMap_cons_some htable, List.map_cons, ih]
      rfl
    | none =>
      have htable : headingTable? row = none := by rw [headingTable?, hname, Option.map_none]
      rw [List.filterMap_cons_none htable, ih, Table.begun_append]

/-- **A table begins at each heading**, and at no other row. -/
theorem map_begun_tablesOf (rows : List Row) :
    (tablesOf rows).map Table.begun = rows.filterMap headingTable? := by
  rw [tablesOf, List.map_tail, map_begun_tablesFrom, List.tail_cons]

theorem exists_heading {rows : List Row} {table : Table} (h : table ∈ tablesOf rows) :
    ∃ row ∈ rows, ∃ name, headingName? row = some name ∧ table.begun = startTable row name := by
  have hbegun : table.begun ∈ rows.filterMap headingTable? := by
    rw [← map_begun_tablesOf]
    exact List.mem_map_of_mem h
  obtain ⟨row, hrow, htable⟩ := List.mem_filterMap.mp hbegun
  obtain ⟨name, hname, hstart⟩ := Option.map_eq_some_iff.mp htable
  exact ⟨row, hrow, name, hname, hstart.symm⟩

/-- The headings of a file stand one below the other. -/
theorem tablesOf_sorted {rows : List Row} (h : rows.Pairwise fun a b => a.line < b.line) :
    (tablesOf rows).Pairwise fun a b => a.line < b.line := by
  have hbegun : ((tablesOf rows).map Table.begun).Pairwise fun a b => a.line < b.line := by
    rw [map_begun_tablesOf]
    refine List.Pairwise.filterMap headingTable? ?_ h
    intro a b hlines table htable other hother
    obtain ⟨name, -, rfl⟩ := Option.map_eq_some_iff.mp htable
    obtain ⟨name', -, rfl⟩ := Option.map_eq_some_iff.mp hother
    exact hlines
  rw [List.pairwise_map] at hbegun
  exact hbegun

theorem filter_line_eq {tables : List Table} (h : tables.Pairwise fun a b => a.line < b.line)
    {table : Table} (hmem : table ∈ tables) : tables.filter (·.line = table.line) = [table] := by
  obtain ⟨before, after, rfl⟩ := List.append_of_mem hmem
  obtain ⟨-, hafter, hbefore⟩ := List.pairwise_append.mp h
  have hbefore' : before.filter (·.line = table.line) = [] := by
    refine List.filter_eq_nil_iff.mpr fun other hother => ?_
    simpa using (hbefore other hother table List.mem_cons_self).ne
  have hafter' : after.filter (·.line = table.line) = [] := by
    refine List.filter_eq_nil_iff.mpr fun other hother => ?_
    simpa using (List.rel_of_pairwise_cons hafter hother).ne'
  rw [List.filter_append, hbefore', List.filter_cons_of_pos (by simp), hafter', List.nil_append]

end Document

/-! ### Tables that nobody knows -/

/-- A table is called cases, or a case. -/
def Table.IsCalledCases (table : Table) : Prop :=
  ∃ name, table.name = some name ∧ Pattern.IsNoun "case" name

namespace Document

/-- What is said about a table with an unknown name. -/
def unknownName (table : Table) : Remark :=
  { line := table.line, message := "Unknown table name '" ++ table.title ++ "'" }

/-- An unknown table has a name that tables can have if it is called cases. -/
theorem hasKnownName_iff {rows : List Row} {table : Table} (h : table ∈ tablesOf rows) :
    table.kind = .unknown ∧ table.hasKnownName = true ↔ table.IsCalledCases := by
  obtain ⟨row, -, name, hname, hbegun⟩ := exists_heading h
  have hkind : table.kind = TableKind.ofName (some name) := congrArg Table.kind hbegun
  have htitle : table.name = some name := congrArg Table.name hbegun
  have hknown : table.hasKnownName = Pattern.tableName.begins name := by
    rw [Table.hasKnownName, Table.title, htitle, Option.getD_some]
  rw [hkind, hknown, TableKind.ofName_eq_unknown_iff, and_comm,
    Pattern.begins_tableName_iff (newline_not_mem_headingName hname),
    Pattern.isTableName_and_unlike_iff, Table.IsCalledCases, htitle]
  simp only [Option.some.injEq, exists_eq_left']

/-- What is said at the line of a table, where the tables stand one below the other. -/
theorem invalidTable_at_line (document : Document)
    (h : document.tables.Pairwise fun a b => a.line < b.line) :
    ∃ remarks, SuiteCheck.invalidTable.apply document = .ok remarks ∧
      ∀ table ∈ document.tables, remarks.filter (·.line = table.line) =
        if table.hasKnownName then [] else [unknownName table] := by
  refine ⟨(document.tables.filter (!·.hasKnownName)).map unknownName, rfl, fun table hmem => ?_⟩
  have hline : (fun remark : Remark => decide (remark.line = table.line)) ∘ unknownName =
      fun other => decide (other.line = table.line) := rfl
  rw [List.filter_map, hline, List.filter_comm, filter_line_eq h hmem]
  cases hknown : table.hasKnownName <;> simp [hknown]

/-- **Which tables of no known kind are reported**: all of them, once each and at their lines,
except those that are called cases, about which nothing is said. So none is missed exactly if
there is no heading of that name. -/
theorem invalidTable_of_unknown {bytes : Bytes} {source : Text}
    (h : Utf8.decode bytes = .ok source) (name path : Text) :
    ∃ document remarks, ofBytes name path bytes = .ok document ∧
      SuiteCheck.invalidTable.apply document = .ok remarks ∧
      (∀ table ∈ document.tables, table.kind = .unknown → ¬table.IsCalledCases →
        remarks.filter (·.line = table.line) = [unknownName table]) ∧
      (∀ table ∈ document.tables, table.IsCalledCases →
        table.kind = .unknown ∧ remarks.filter (·.line = table.line) = []) ∧
      ((∀ table ∈ document.tables, table.kind = .unknown → unknownName table ∈ remarks) ↔
        ∀ table ∈ document.tables, ¬table.IsCalledCases) := by
  have hdocument := ofBytes_of_decode h name path
  have hsorted := tablesOf_sorted (rowsFrom_sorted 1 (Text.fullLines source))
  generalize hrows : rowsFrom 1 (Text.fullLines source) = rows at hdocument hsorted
  obtain ⟨remarks, hverdict, hremarks⟩ :=
    invalidTable_at_line ⟨name, path, some source, tablesOf rows⟩ hsorted
  have hreported : ∀ table ∈ tablesOf rows, table.kind = .unknown → ¬table.IsCalledCases →
      remarks.filter (·.line = table.line) = [unknownName table] := by
    intro table htable hkind hcases
    rw [hremarks table htable, if_neg]
    exact fun hknown => hcases ((hasKnownName_iff htable).mp ⟨hkind, hknown⟩)
  have hmissed : ∀ table ∈ tablesOf rows, table.IsCalledCases → table.kind = .unknown ∧
      remarks.filter (·.line = table.line) = [] := by
    intro table htable hcases
    obtain ⟨hkind, hknown⟩ := (hasKnownName_iff htable).mpr hcases
    exact ⟨hkind, by rw [hremarks table htable, if_pos hknown]⟩
  refine ⟨_, remarks, hdocument, hverdict, hreported, hmissed, ?_, ?_⟩
  · intro hall table htable hcases
    obtain ⟨hkind, hnothing⟩ := hmissed table htable hcases
    refine List.filter_eq_nil_iff.mp hnothing _ (hall table htable hkind) ?_
    exact decide_eq_true rfl
  · intro hnone table htable hkind
    have hsaid : unknownName table ∈ remarks.filter (·.line = table.line) := by
      rw [hreported table htable hkind (hnone table htable)]
      exact List.mem_singleton_self _
    exact List.mem_of_mem_filter hsaid

/-- A file of two headings. -/
def casesFile : Bytes := [42, 67, 97, 115, 101, 115, 10, 42, 98, 111, 103, 117, 115]

/-- The tables of the file. -/
def casesTables : List Table := [
  { kind := .unknown, line := 1, name := some "Cases", header := some "*Cases" },
  { kind := .unknown, line := 2, name := some "bogus", header := some "*bogus" }]

/-- Both tables are of no known kind, but only the second one is reported. -/
theorem invalidTable_of_unknown_cases :
    Utf8.decode casesFile = .ok "*Cases\n*bogus" ∧
      ∃ document remarks, ofBytes "a" "/a.robot" casesFile = .ok document ∧
        document.tables = casesTables ∧
        SuiteCheck.invalidTable.apply document = .ok remarks ∧
        remarks.filter (·.line = 1) = [] ∧
        remarks.filter (·.line = 2) =
          [{ line := 2, message := "Unknown table name 'bogus'" }] := by
  have hdecode : Utf8.decode casesFile = .ok "*Cases\n*bogus" := by rfl
  have hread : ofBytes "a" "/a.robot" casesFile =
      .ok ⟨"a", "/a.robot", some "*Cases\n*bogus", casesTables⟩ := by decide +kernel
  obtain ⟨document, remarks, hdocument, hverdict, hreported, hmissed, -⟩ :=
    invalidTable_of_unknown hdecode "a" "/a.robot"
  obtain rfl := Except.ok.inj (hdocument.symm.trans hread)
  refine ⟨hdecode, _, remarks, hdocument, rfl, hverdict, ?_, ?_⟩
  · exact (hmissed _ List.mem_cons_self ⟨"Cases", rfl, by decide⟩).2
  · refine hreported _ (List.mem_cons_of_mem _ List.mem_cons_self) rfl ?_
    rintro ⟨name, hname, hcase⟩
    obtain rfl := Option.some.inj hname
    exact absurd hcase (by decide)

end Document

end SuiteLint
