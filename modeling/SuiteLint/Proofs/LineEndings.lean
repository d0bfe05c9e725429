import Mathlib.Tactic
import SuiteLint.Proofs.Safety
import SuiteLint.Proofs.Trace
import SuiteLint.Proofs.TwoReadings

/-!
# Lines that end in a carriage return and a newline

A file may end its lines in a newline, or in a carriage return and a newline. Nothing
translates the one into the other, so a carriage return stays at the end of its line and all
checks are given it. This is about what they make of it.

To the rows of a file it is one more blank at the end of a line, and not kept. So the tables
are the same (`Document.load_withReturns`), and so is whatever is looked for in them. Of the
checks on the text, those that count lines count newlines, of which there are as many as
before. This leaves the length of lines: each line but the last is longer by one character
(`sourceLines_withReturns`), so that one that was just short enough is too long.

A rule may give up, and then no more is reported. What is done is therefore the trace up to
the first fault (`Event.untilFault`), and this is what is compared.
-/

namespace SuiteLint

open SuiteLint.Action

/-! ### Carriage returns in bytes and in texts -/

/-- The bytes with a carriage return before each newline. -/
def Utf8.withReturns (bytes : Bytes) : Bytes :=
  bytes.flatMap fun byte => if byte = 10 then [13, 10] else [byte]

/-- The text with a carriage return before each newline. -/
def Text.withReturns (text : Text) : Text :=
  text.flatMap fun c => if c = '\n' then ['\r', '\n'] else [c]

namespace Text

theorem withReturns_newline (rest : Text) :
    withReturns ('\n' :: rest) = '\r' :: '\n' :: withReturns rest := rfl

theorem withReturns_cons {c : Char} (h : c ≠ '\n') (rest : Text) :
    withReturns (c :: rest) = c :: withReturns rest := by
  rw [withReturns, List.flatMap_cons, if_neg h]
  rfl

theorem withReturns_append (text text' : Text) :
    withReturns (text ++ text') = withReturns text ++ withReturns text' :=
  List.flatMap_append

end Text

namespace Utf8

theorem withReturns_append (bytes bytes' : Bytes) :
    withReturns (bytes ++ bytes') = withReturns bytes ++ withReturns bytes' :=
  List.flatMap_append

theorem withReturns_of_not_mem {code : Bytes} (h : 10 ∉ code) : withReturns code = code := by
  have hsame : ∀ byte ∈ code, (if byte = 10 then [13, 10] else [byte]) = [byte] :=
    fun byte hbyte => if_neg (ne_of_mem_of_not_mem hbyte h)
  rw [withReturns, List.flatMap_congr hsame]
  exact List.flatMap_singleton' code

theorem Encodes.withReturns {bytes : Bytes} {text : Text} (h : Encodes bytes text) :
    Encodes (withReturns bytes) (Text.withReturns text) := by
  induction h with
  | nil => exact .nil
  | @cons code rest c text hcode _ ih =>
    rw [withReturns_append]
    rcases hcode.newline with ⟨rfl, rfl⟩ | ⟨hbytes, hchar⟩
    · have hreturn : Code [13] '\r' := .one (by decide)
      have hpair : Utf8.withReturns [10] = [13] ++ [10] := rfl
      rw [Text.withReturns_newline, hpair, List.append_assoc]
      exact .cons hreturn (.cons hcode ih)
    · rw [Text.withReturns_cons hchar, withReturns_of_not_mem hbytes]
      exact .cons hcode ih

/-- A byte in front that is no carriage return was there before. -/
theorem eq_cons_of_withReturns {bytes rest : Bytes} {byte : UInt8} (hbyte : byte ≠ 13)
    (h : withReturns bytes = byte :: rest) :
    ∃ others, bytes = byte :: others ∧ withReturns others = rest := by
  rcases bytes with _ | ⟨first, others⟩
  · cases h
  · rw [withReturns, List.flatMap_cons] at h
    split at h
    · exact absurd (List.cons_eq_cons.mp h).1.symm hbyte
    · obtain ⟨rfl, hrest⟩ := List.cons_eq_cons.mp h
      exact ⟨others, rfl, hrest⟩

theorem dropMark_withReturns (bytes : Bytes) :
    dropMark (withReturns bytes) = withReturns (dropMark bytes) := by
  fun_cases dropMark bytes with
  | case1 rest => rfl
  | case2 bytes hmark =>
    -- a mark would have been there before
    generalize hreturned : withReturns bytes = returned
    fun_cases dropMark returned with
    | case1 rest =>
      obtain ⟨second, rfl, hsecond⟩ := eq_cons_of_withReturns (by decide) hreturned
      obtain ⟨third, rfl, hthird⟩ := eq_cons_of_withReturns (by decide) hsecond
      obtain ⟨others, rfl, -⟩ := eq_cons_of_withReturns (by decide) hthird
      exact absurd rfl (hmark others)
    | case2 => rfl

theorem decode_withReturns {bytes : Bytes} {source : Text} (h : decode bytes = .ok source) :
    decode (withReturns bytes) = .ok (Text.withReturns source) := by
  rw [decode, dropMark_withReturns]
  exact decodeFrom_of_encodes (encodes_of_decodeFrom h).withReturns 0

end Utf8

/-! ### Lines -/

namespace Text

/-- The ending comes after all that is put in front of the first line. -/
theorem endEach_modifyHead (ending : Text) (c : Char) (lines : List Text) :
    endEach ending (lines.modifyHead (c :: ·)) = (endEach ending lines).modifyHead (c :: ·) := by
  rcases lines with _ | ⟨line, _ | ⟨next, lines⟩⟩ <;> rfl

theorem length_endEach (ending : Text) (lines : List Text) :
    (endEach ending lines).length = lines.length := by
  induction lines using endEach.induct with
  | case1 => rfl
  | case2 last => rfl
  | case3 line lines hne ih =>
    rw [endEach_cons ending line hne, List.length_cons, ih, List.length_cons]

theorem endEach_nil (lines : List Text) : endEach [] lines = lines := by
  induction lines using endEach.induct with
  | case1 => rfl
  | case2 last => rfl
  | case3 line lines hne ih => rw [endEach_cons [] line hne, ih, List.append_nil]

end Text

/-- **A carriage return stands at the end of each line but the last.** -/
theorem sourceLines_withReturns (source : Text) :
    sourceLines (Text.withReturns source) = Text.endEach "\r" (sourceLines source) := by
  induction source with
  | nil => rfl
  | cons c rest ih =>
    by_cases hc : c = '\n'
    · subst hc
      rw [Text.withReturns_newline, sourceLines_cons (by decide), sourceLines_newline,
        sourceLines_newline, ih, Text.endEach_cons _ _ (sourceLines_ne_nil rest)]
      rfl
    · rw [Text.withReturns_cons hc, sourceLines_cons hc, sourceLines_cons hc, ih,
        Text.endEach_modifyHead]

/-- What is kept of lines does not tell how they end. -/
theorem Document.rowsFrom_withReturns (first : Int) (source : Text) :
    rowsFrom first (Text.fullLines (Text.withReturns source)) =
      rowsFrom first (Text.fullLines source) := by
  have hblank : ∀ c ∈ ['\r'], Text.isBlank c = true := List.forall_mem_singleton.mpr rfl
  rw [rowsFrom_fullLines, rowsFrom_fullLines, sourceLines_withReturns]
  exact rowsFrom_congr (Row.map_clean_endEach hblank (sourceLines source)) first

/-- **The documents differ in nothing but their text.** -/
theorem Document.load_withReturns {tree tree' : FileTree} {path source : Text}
    {content content' : Content} (hcontent : tree.content path = .ok content)
    (hcontent' : tree'.content path = .ok content')
    (hsource : Utf8.decode content.bytes = .ok source)
    (hbytes : content'.bytes = Utf8.withReturns content.bytes)
    (hfolder : tree'.workingFolder = tree.workingFolder) :
    ∃ document : Document, document.IsRead ∧ document.source = some source ∧
      document.path = tree.absolute path ∧ load tree path = (document, []) ∧
      load tree' path = ({ document with source := some (Text.withReturns source) }, []) := by
  obtain ⟨document, hread, hisRead⟩ := read_of_decode hcontent hsource
  have hread' := read_eq_of_decode hcontent' (hbytes ▸ Utf8.decode_withReturns hsource)
  have hpath : tree'.absolute path = tree.absolute path := by
    unfold FileTree.absolute FileTree.workingPath
    rw [hfolder]
  rw [rowsFrom_withReturns, hpath] at hread'
  obtain rfl := Except.ok.inj ((read_eq_of_decode hcontent hsource).symm.trans hread)
  refine ⟨_, hisRead, rfl, rfl, ?_, ?_⟩
  · rw [load, hread]
  · rw [load, hread']

/-! ### The text -/

namespace Text

theorem blankEnd_append_of_blank (text : Text) {ending : Text}
    (h : ∀ c ∈ ending, isBlank c = true) : blankEnd (text ++ ending) = blankEnd text ++ ending := by
  have hreverse : ∀ c ∈ ending.reverse, isBlank c = true := fun c hc => h c (List.mem_reverse.mp hc)
  rw [blankEnd, List.reverse_append, List.takeWhile_append_of_pos hreverse, List.reverse_append,
    List.reverse_reverse]
  rfl

theorem blankEnd_append_of_not_blank (text : Text) {c : Char} (h : ¬isBlank c = true) :
    blankEnd (text ++ [c]) = [] := by
  rw [blankEnd, List.reverse_append, List.reverse_singleton, List.singleton_append,
    List.takeWhile_cons_of_neg h]
  rfl

/-- The blanks at the end are those that were there, with carriage returns. -/
theorem blankEnd_withReturns (text : Text) :
    blankEnd (withReturns text) = withReturns (blankEnd text) := by
  induction text using List.reverseRecOn with
  | nil => rfl
  | append_singleton text c ih =>
    rw [withReturns_append]
    by_cases hc : isBlank c = true
    · have hone : ∀ d ∈ [c], isBlank d = true := by simpa using hc
      have hblank : ∀ d ∈ withReturns [c], isBlank d = true := by
        rw [withReturns, List.flatMap_singleton]
        split
        · exact List.forall_mem_cons.mpr ⟨rfl, List.forall_mem_singleton.mpr rfl⟩
        · exact hone
      rw [blankEnd_append_of_blank _ hblank, blankEnd_append_of_blank _ hone, ih,
        withReturns_append]
    · have hnewline : c ≠ '\n' := by
        rintro rfl
        exact hc rfl
      rw [withReturns_cons hnewline, blankEnd_append_of_not_blank _ hc]
      exact blankEnd_append_of_not_blank _ hc

theorem count_newline_withReturns (text : Text) :
    (withReturns text).count '\n' = text.count '\n' := by
  induction text with
  | nil => rfl
  | cons c rest ih =>
    by_cases hc : c = '\n'
    · subst hc
      rw [withReturns_newline, List.count_cons_of_ne (by decide), List.count_cons_self, ih,
        List.count_cons_self]
    · rw [withReturns_cons hc, List.count_cons_of_ne hc, ih, List.count_cons_of_ne hc]

end Text

theorem length_sourceLines_withReturns (source : Text) :
    (sourceLines (Text.withReturns source)).length = (sourceLines source).length := by
  rw [sourceLines_withReturns, Text.length_endEach]

theorem blankEndRemarks_withReturns (limit : Int) (source : Text) :
    blankEndRemarks limit (Text.withReturns source) = blankEndRemarks limit source := by
  unfold blankEndRemarks
  rw [Text.blankEnd_withReturns, Text.count_newline_withReturns, length_sourceLines_withReturns]

theorem lengthRemarks_withReturns (limit : Int) (source : Text) :
    lengthRemarks limit (Text.withReturns source) = lengthRemarks limit source := by
  unfold lengthRemarks
  rw [length_sourceLines_withReturns]

/-- The remark on a line that is too long. -/
def longRemark (limit : Int) (line : Nat) : Remark :=
  { line, char := limit,
    message := "Line is too long (exceeds " ++ Text.ofInt limit ++ " characters)" }

/-- Whether a line with a number is longer than a limit once each line but the last has `extra`
characters more. -/
def Text.exceeds (limit : Int) (extra last : Nat) (numbered : Text × Nat) : Bool :=
  limit < numbered.1.length + (if numbered.2 = last then 0 else extra : Nat)

/-- The numbers of the lines, from 1 on, that are longer than a limit once each line but the last
has `extra` characters more. -/
def Text.overlong (limit : Int) (extra : Nat) (lines : List Text) : List Nat :=
  ((lines.zipIdx 1).filter (exceeds limit extra lines.length)).map Prod.snd

theorem Text.succ_mem_overlong {limit : Int} {extra i : Nat} {lines : List Text} {line : Text}
    (h : lines[i]? = some line) :
    i + 1 ∈ overlong limit extra lines ↔
      limit < line.length + (if i + 1 = lines.length then 0 else extra : Nat) := by
  simp [overlong, exceeds, List.mk_mem_zipIdx_iff_le_and_getElem?_sub, h]

/-- A line is remarked on if it is too long with its ending, which the last one does not have. -/
theorem longLines_endEach {limit : Int} {ending : Text} {lines : List Text} {first last : Nat}
    (h : first + lines.length = last + 1) :
    longLines limit first (Text.endEach ending lines) =
      ((lines.zipIdx first).filter (Text.exceeds limit ending.length last)).map
        fun numbered => longRemark limit numbered.2 := by
  induction lines using Text.endEach.induct generalizing first with
  | case1 => rfl
  | case2 line =>
    obtain rfl : first = last := Nat.succ.inj h
    rw [Text.endEach, longLines, List.zipIdx_singleton]
    by_cases hlong : limit < line.length <;> simp [Text.exceeds, longLines, longRemark, hlong]
  | case3 line lines hne ih =>
    have hlast : first ≠ last := by
      have := List.length_pos_of_ne_nil hne
      rw [List.length_cons] at h
      omega
    have hrest : first + 1 + lines.length = last + 1 := by
      rw [List.length_cons] at h
      omega
    have hhead : Text.exceeds limit ending.length last (line, first) =
        decide (((line ++ ending).length : Int) > limit) := by
      simp [Text.exceeds, hlast]
    rw [Text.endEach_cons ending line hne, longLines, ← Nat.cast_succ, ih hrest, List.zipIdx_cons,
      List.filter_cons, hhead]
    by_cases hlong : ((line ++ ending).length : Int) > limit
    · rw [if_pos hlong, if_pos (decide_eq_true hlong)]
      rfl
    · rw [if_neg hlong, if_neg (by simpa using hlong)]

/-- **What is said about the length of lines**, with a carriage return at each line but the
last and without. -/
theorem longLines_sourceLines (limit : Int) (source : Text) :
    longLines limit 1 (sourceLines source) =
        (Text.overlong limit 0 (sourceLines source)).map (longRemark limit) ∧
      longLines limit 1 (sourceLines (Text.withReturns source)) =
        (Text.overlong limit 1 (sourceLines source)).map (longRemark limit) := by
  have hlines (ending : Text) :
      longLines limit 1 (Text.endEach ending (sourceLines source)) =
        (Text.overlong limit ending.length (sourceLines source)).map (longRemark limit) := by
    rw [Text.overlong, List.map_map]
    exact longLines_endEach (Nat.add_comm 1 _)
  constructor
  · have hplain := hlines []
    rwa [Text.endEach_nil] at hplain
  · rw [sourceLines_withReturns]
    exact hlines "\r"

/-! ### The trace up to the first fault -/

namespace Event

/-- The fault that an event is, if it is one. -/
def fault? : Event → Option Fault
  | givingUp fault => some fault
  | _ => none

/-- The events up to the first fault. -/
def untilFault : List Event → List Event
  | [] => []
  | event :: events => if event.fault? = none then event :: untilFault events else [event]

/-- Whether an event is a finding of the rule of a name. -/
def isBy (name : Text) : Event → Bool
  | finding rule _ _ => rule.name = name
  | _ => false

/-- The events that are no findings of the rule of a name. -/
def apartFrom (name : Text) (events : List Event) : List Event :=
  events.filter fun event => !event.isBy name

/-- The reports of the rule of a name. -/
def reportsBy (name : Text) (events : List Event) : List Report :=
  (reports events).filter fun report => report.rule = name

/-- Nothing is done after a fault. -/
theorem forEach_untilFault (events : List Event) :
    forEach perform (untilFault events) = forEach perform events := by
  induction events with
  | nil => rfl
  | cons event events ih =>
    cases event with
    | givingUp fault => rfl
    | _ => exact congrArg (fun rest => andThen _ fun _ => rest) ih

theorem untilFault_sublist (events : List Event) : (untilFault events).Sublist events := by
  induction events with
  | nil => exact .slnil
  | cons event events ih =>
    rw [untilFault]
    split
    · exact ih.cons_cons event
    · exact (List.nil_sublist events).cons_cons event

theorem untilFault_append {events : List Event} (h : ∀ event ∈ events, event.fault? = none)
    (events' : List Event) : untilFault (events ++ events') = events ++ untilFault events' := by
  induction events with
  | nil => rfl
  | cons event events ih =>
    obtain ⟨hevent, hevents⟩ := List.forall_mem_cons.mp h
    rw [List.cons_append, untilFault, if_pos hevent, ih hevents, List.cons_append]

theorem apartFrom_append (name : Text) (events events' : List Event) :
    apartFrom name (events ++ events') = apartFrom name events ++ apartFrom name events' :=
  List.filter_append events events'

theorem apartFrom_untilFault (name : Text) (events : List Event) :
    apartFrom name (untilFault events) = untilFault (apartFrom name events) := by
  induction events with
  | nil => rfl
  | cons event events ih =>
    cases event with
    | finding rule path remark =>
      change apartFrom name (finding rule path remark :: untilFault events) = _
      rw [apartFrom, apartFrom, List.filter_cons, List.filter_cons]
      split
      · exact congrArg _ ih
      · exact ih
    | givingUp fault => rfl
    | _ => exact congrArg _ ih

end Event

/-! ### Verdicts -/

/-- As far as the length of lines is concerned, a rule is what it is called: either it is the
general rule on it, with the given limit, or it has neither the name of that rule, letter case
aside, nor its check. -/
structure Rule.MindsLength (limit : Int) (rule : Rule) : Prop where
  /-- The rule of the name is the rule on the length of lines. -/
  named : rule.folded = "linetoolong" → rule.name = "LineTooLong" ∧ rule.scope = .general ∧
    rule.check = .general (.lineLength limit)
  /-- No other rule has its check. -/
  others : rule.check.name = "LineTooLong" → rule.folded = "linetoolong"

theorem Rule.MindsLength.of_name {limit : Int} {rule : Rule} (h : rule.MindsLength limit)
    (hname : rule.name = "LineTooLong") :
    rule.scope = .general ∧ rule.check = .general (.lineLength limit) := by
  refine (h.named ?_).2
  rw [folded, hname]
  rfl

/-- Asking for rules does not change this. -/
theorem Rule.MindsLength.settle {limit : Int} {rules : Registry}
    (h : ∀ rule ∈ rules, rule.MindsLength limit) (made : List Text) (scope : Scope) :
    ∀ rule ∈ rules.settle made scope, rule.MindsLength limit := by
  intro rule hrule
  obtain ⟨place, hplace, rfl⟩ := List.mem_map.mp hrule
  obtain ⟨origin, horigin, hfolded, hchosen⟩ := Registry.exists_chosen_eq hplace made scope
  rw [hchosen]
  refine ⟨fun hname => ?_, (h origin horigin).others⟩
  obtain ⟨hname', -, hcheck⟩ := (h origin horigin).named hname
  exact ⟨hname', ((h place hplace).named (hfolded.symm.trans hname)).2.1, hcheck⟩

section

variable {document : Document} {source : Text}

theorem GeneralCheck.apply_withReturns (hsource : document.source = some source)
    {check : GeneralCheck} (h : check.name ≠ "LineTooLong") :
    check.apply { document with source := some (Text.withReturns source) } =
      check.apply document := by
  cases check with
  | lineLength limit => exact absurd rfl h
  | blankEnd limit =>
    rw [apply, apply, Document.inSource, Document.inSource, hsource]
    exact congrArg Except.ok (blankEndRemarks_withReturns limit source)
  | fileLength limit =>
    rw [apply, apply, Document.inSource, Document.inSource, hsource]
    exact congrArg Except.ok (lengthRemarks_withReturns limit source)
  | _ => rfl

/-- **No other check is aware of carriage returns.** -/
theorem Check.onDocument_withReturns (hsource : document.source = some source) {check : Check}
    (h : check.name ≠ "LineTooLong") :
    check.onDocument { document with source := some (Text.withReturns source) } =
      check.onDocument document := by
  cases check with
  | suite check => cases check <;> rfl
  | resource check => cases check <;> rfl
  | general check => exact GeneralCheck.apply_withReturns hsource h
  | test | keyword => rfl

/-- What a rule is applied to, with another text of the document. -/
def Subject.reread (source : Text) : Subject → Subject
  | .document d => .document { d with source := some source }
  | .block d b => .block { d with source := some source } b

/-- The rounds of a document with another text. -/
theorem Document.rounds_reread (document : Document) (source : Text) :
    ({ document with source := some source } : Document).rounds =
      document.rounds.map fun round => (round.1, round.2.reread source) := by
  change [_] ++ (if document.isSuite then _ else _) ++ _ = _
  unfold rounds
  split <;> simp only [List.map_append, List.map_cons, List.map_map, List.map_nil] <;> rfl

/-- What is said about blocks does not depend on the text at all. -/
theorem Check.onBlock_reread (check : Check) (document : Document) (source : Text)
    (block : Block) :
    check.onBlock { document with source := some source } block =
      check.onBlock document block := by
  cases check <;> rfl

/-- Whatever is said about the length of lines is a finding of the rule on it. -/
theorem Round.apartFrom_events (hsource : document.source = some source) {limit : Int}
    {rules : Registry} (hrules : ∀ rule ∈ rules, rule.MindsLength limit) (path : Text)
    {round : Round} (hround : round ∈ document.rounds) :
    Event.apartFrom "LineTooLong" (Round.events rules path
        (round.1, round.2.reread (Text.withReturns source))) =
      Event.apartFrom "LineTooLong" (round.events rules path) := by
  have hverdict {rule : Rule} (hrule : rule.MindsLength limit) : Event.apartFrom "LineTooLong"
      (Event.ofVerdict path (rule, rule.check.on (round.2.reread (Text.withReturns source)))) =
        Event.apartFrom "LineTooLong" (Event.ofVerdict path (rule, rule.check.on round.2)) := by
    rcases Document.cases_of_mem_rounds hround with ⟨-, hsubject⟩ | ⟨kind, block, -, rfl⟩
    · rw [hsubject]
      change Event.apartFrom _ (Event.ofVerdict path (rule, rule.check.onDocument _)) =
        Event.apartFrom _ (Event.ofVerdict path (rule, rule.check.onDocument document))
      by_cases hname : rule.check.name = "LineTooLong"
      · obtain ⟨hname, -, hcheck⟩ := hrule.named (hrule.others hname)
        have hnone (remarks : List Remark) : Event.apartFrom "LineTooLong"
            (remarks.map (Event.finding rule path)) = [] := by
          simp [Event.apartFrom, Event.isBy, hname]
        rw [hcheck, Check.onDocument, Check.onDocument, GeneralCheck.apply, GeneralCheck.apply,
          Document.inSource, Document.inSource, hsource]
        exact (hnone _).trans (hnone _).symm
      · rw [Check.onDocument_withReturns hsource hname]
    · change Event.apartFrom _ (Event.ofVerdict path (rule, rule.check.onBlock _ block)) = _
      rw [Check.onBlock_reread]
      rfl
  rw [Round.events, Round.events, Round.applications, Round.applications, List.flatMap_map,
    List.flatMap_map]
  refine congrArg (Event.asking round.1 :: ·) ?_
  rw [List.filter_flatMap, List.filter_flatMap]
  refine List.flatMap_congr fun rule hrule => hverdict (hrules rule ?_)
  exact (Registry.mem_of_mem_active hrule).1

end

/-! ### Reports on the length of lines -/

/-- A rule makes its reports in its own name. -/
theorem Rule.rule_of_mem_reports {rule : Rule} {path : Text} {verdict : Verdict}
    {report : Report} (h : report ∈ rule.reports path verdict) : report.rule = rule.name := by
  cases verdict with
  | error fault => cases h
  | ok remarks =>
    obtain ⟨remark, -, rfl⟩ := List.mem_map.mp h
    rfl

/-- So the reports in some name are those of the rules of that name. -/
theorem Rule.filter_flatMap_reports (name path : Text) (verdict : Rule → Verdict)
    (rules : List Rule) :
    (rules.flatMap fun rule => rule.reports path (verdict rule)).filter
        (fun report => report.rule = name) =
      (rules.filter fun rule => rule.name = name).flatMap fun rule =>
        rule.reports path (verdict rule) := by
  induction rules with
  | nil => rfl
  | cons rule rules ih =>
    rw [List.flatMap_cons, List.filter_append, ih]
    by_cases hname : rule.name = name
    · have hall : ∀ report ∈ rule.reports path (verdict rule),
          decide (report.rule = name) = true :=
        fun report hreport => decide_eq_true ((rule_of_mem_reports hreport).trans hname)
      rw [List.filter_eq_self.mpr hall, List.filter_cons_of_pos (by simpa using hname),
        List.flatMap_cons]
    · have hnone : ∀ report ∈ rule.reports path (verdict rule),
          ¬decide (report.rule = name) = true :=
        fun report hreport hcon =>
          hname ((rule_of_mem_reports hreport).symm.trans (of_decide_eq_true hcon))
      rw [List.filter_eq_nil_iff.mpr hnone, List.filter_cons_of_neg (by simpa using hname),
        List.nil_append]

/-- The reports in some name in a round. -/
theorem Round.reportsBy_events (name path : Text) (rules : Registry) (round : Round) :
    Event.reportsBy name (round.events rules path) =
      ((rules.active round.1).filter fun rule : Rule => rule.name = name).flatMap fun rule =>
        rule.reports path (rule.check.on round.2) := by
  rw [Event.reportsBy, reports_events, applications, List.flatMap_map,
    Rule.filter_flatMap_reports]

theorem Event.reportsBy_append (name : Text) (events events' : List Event) :
    reportsBy name (events ++ events') = reportsBy name events ++ reportsBy name events' := by
  rw [reportsBy, reports, List.filterMap_append, List.filter_append]
  rfl

/-- The first round is the one of the general rules, and there is no other one of them. -/
theorem Document.rounds_eq_cons (document : Document) :
    ∃ later, document.rounds = (.general, .document document) :: later ∧
      ∀ round ∈ later, round.1 ≠ .general := by
  refine ⟨_, rfl, fun round hround => ?_⟩
  have hblocks {scope : Scope} (hscope : scope ≠ .general) {blocks : List Block}
      (h : round ∈ blocks.map fun block => (scope, .block document block)) :
      round.1 ≠ .general := by
    obtain ⟨block, -, rfl⟩ := List.mem_map.mp h
    exact hscope
  rcases List.mem_append.mp hround with hfile | hkeyword
  · split at hfile
    · rcases List.mem_cons.mp hfile with rfl | htest
      · exact nofun
      · exact hblocks (by decide) htest
    · rw [List.mem_singleton.mp hfile]
      exact nofun
  · exact hblocks (by decide) hkeyword

namespace Registry

/-- The rules on the length of lines that are applied. -/
def lengthRules (rules : Registry) : List Rule :=
  rules.filter fun rule => rule.active && rule.name = "LineTooLong"

variable {rules : Registry} {limit : Int}

theorem filter_active_general (hrules : ∀ rule ∈ rules, rule.MindsLength limit) :
    (rules.active .general).filter (fun rule : Rule => rule.name = "LineTooLong") =
      rules.lengthRules := by
  rw [active, ofScope, List.filter_filter, List.filter_filter, lengthRules]
  refine List.filter_congr fun rule hrule => ?_
  by_cases hname : rule.name = "LineTooLong"
  · have hscope := ((hrules rule hrule).of_name hname).1
    rw [decide_eq_true hname, decide_eq_true hscope, Bool.true_and, Bool.and_true]
  · rw [decide_eq_false hname, Bool.false_and, Bool.false_and, Bool.and_false]

/-- No general rule gives up on a document that could be read. -/
theorem fault?_of_general (hrules : ∀ rule ∈ rules, rule.scope = .general →
      rule.check.scope = .general) {document : Document} (hread : document.IsRead) {path : Text}
    {event : Event} (h : event ∈ Round.events rules path (.general, .document document)) :
    event.fault? = none := by
  rcases List.mem_cons.mp h with rfl | h
  · rfl
  · obtain ⟨application, happlication, hevent⟩ := List.mem_flatMap.mp h
    obtain ⟨rule, hactive, rfl⟩ := List.mem_map.mp happlication
    obtain ⟨hrule, hscope⟩ := mem_of_mem_active hactive
    have hcheck := hrules rule hrule hscope
    change event ∈ Event.ofVerdict path (rule, rule.check.onDocument document) at hevent
    cases hkind : rule.check with
    | general check =>
      obtain ⟨remarks, hremarks⟩ := hread.apply_general check
      rw [hkind, Check.onDocument, hremarks] at hevent
      obtain ⟨remark, -, rfl⟩ := List.mem_map.mp hevent
      rfl
    | suite | resource | test | keyword =>
      rw [hkind] at hcheck
      cases hcheck

/-- What rules on the length of lines report if lines have `extra` characters more. -/
def lengthReports (rules : Registry) (path : Text) (limit : Int) (extra : Nat)
    (lines : List Text) : List Report :=
  rules.lengthRules.flatMap fun rule =>
    (Text.overlong limit extra lines).map fun i => rule.report path (longRemark limit i)

theorem exists_mem_lengthReports {rules : Registry} (hrules : rules.lengthRules ≠ [])
    {path : Text} {limit : Int} {extra i : Nat} {lines : List Text} {line : Text}
    (hline : lines[i]? = some line) :
    (∃ report ∈ rules.lengthReports path limit extra lines, report.line = (i + 1 : Nat)) ↔
      limit < line.length + (if i + 1 = lines.length then 0 else extra : Nat) := by
  rw [← Text.succ_mem_overlong hline]
  constructor
  · rintro ⟨report, hreport, hnumber⟩
    obtain ⟨rule, -, hreport⟩ := List.mem_flatMap.mp hreport
    obtain ⟨number, hlong, rfl⟩ := List.mem_map.mp hreport
    have heq : number = i + 1 := Int.ofNat.inj hnumber
    exact heq ▸ hlong
  · intro hlong
    obtain ⟨rule, hrule⟩ := List.exists_mem_of_ne_nil _ hrules
    exact ⟨_, List.mem_flatMap.mpr ⟨rule, hrule, List.mem_map.mpr ⟨i + 1, hlong, rfl⟩⟩, rfl⟩

end Registry

namespace Session

section

variable {session : Session} {limit : Int}

/-- **Whatever rules become, rounds say the same** about both texts of a document, but for the
length of lines. -/
theorem apartFrom_trace {document : Document} {source : Text}
    (hsource : document.source = some source) (path : Text) {rounds : List Round}
    (hrounds : ∀ round ∈ rounds, round ∈ document.rounds)
    (hrules : ∀ rule ∈ session.rules, rule.MindsLength limit) :
    Event.apartFrom "LineTooLong" (session.trace ((rounds.map fun round =>
        (round.1, round.2.reread (Text.withReturns source))).map (.playing path))) =
      Event.apartFrom "LineTooLong" (session.trace (rounds.map (.playing path))) := by
  induction rounds generalizing session with
  | nil => rfl
  | cons round rounds ih =>
    obtain ⟨hround, hrounds⟩ := List.forall_mem_cons.mp hrounds
    have hasked : ∀ rule ∈ (session.asked round.1).rules, rule.MindsLength limit :=
      Rule.MindsLength.settle hrules session.made round.1
    rw [List.map_cons, List.map_cons, List.map_cons, trace, trace, Event.apartFrom_append,
      Event.apartFrom_append]
    exact congrArg₂ _ (Round.apartFrom_events hsource hasked path hround)
      (ih hrounds hasked)

/-- In rounds of other scopes, nothing is reported about the length of lines. -/
theorem reportsBy_trace_eq_nil (path : Text) {rounds : List Round}
    (hrounds : ∀ round ∈ rounds, round.1 ≠ .general)
    (hrules : ∀ rule ∈ session.rules, rule.MindsLength limit) :
    Event.reportsBy "LineTooLong" (session.trace (rounds.map (.playing path))) = [] := by
  induction rounds generalizing session with
  | nil => rfl
  | cons round rounds ih =>
    obtain ⟨hround, hrounds⟩ := List.forall_mem_cons.mp hrounds
    have hasked : ∀ rule ∈ (session.asked round.1).rules, rule.MindsLength limit :=
      Rule.MindsLength.settle hrules session.made round.1
    have hnone : ((session.asked round.1).rules.active round.1).filter
        (fun rule : Rule => rule.name = "LineTooLong") = [] := by
      refine List.filter_eq_nil_iff.mpr fun rule hactive hname => ?_
      obtain ⟨hrule, hscope⟩ := Registry.mem_of_mem_active hactive
      have hgeneral := ((hasked rule hrule).of_name (of_decide_eq_true hname)).1
      exact hround (hscope.symm.trans hgeneral)
    rw [List.map_cons, trace, Event.reportsBy_append, Step.events, Round.reportsBy_events, hnone]
    exact ih hrounds hasked

/-- **The rules on the length of lines have their say before any rule gives up.** -/
theorem reportsBy_untilFault
    (hgeneral : ∀ rule ∈ (session.asked .general).rules, rule.scope = .general →
      rule.check.scope = .general)
    (hlimit : ∀ rule ∈ (session.asked .general).rules, rule.MindsLength limit)
    {document : Document} (hread : document.IsRead) (path complaint : Text) :
    Event.reportsBy "LineTooLong" (Event.untilFault (session.trace (.opening path ::
        .complaint complaint :: document.rounds.map (.playing document.path)))) =
      (session.asked .general).rules.lengthRules.flatMap fun rule =>
        rule.reports document.path (rule.check.onDocument document) := by
  obtain ⟨later, hrounds, hlater⟩ := document.rounds_eq_cons
  have hfirst : session.trace (.opening path :: .complaint complaint ::
      document.rounds.map (.playing document.path)) =
        .opening path :: .complaint complaint ::
          (Round.events (session.asked .general).rules document.path
              (.general, .document document) ++
            (session.asked .general).trace (later.map (.playing document.path))) := by
    rw [hrounds]
    rfl
  have hnone : Event.reportsBy "LineTooLong" (Event.untilFault ((session.asked .general).trace
      (later.map (.playing document.path)))) = [] := by
    have hall := reportsBy_trace_eq_nil document.path hlater hlimit
    refine List.eq_nil_of_sublist_nil (hall ▸ ?_)
    exact ((Event.untilFault_sublist _).filterMap _).filter _
  rw [hfirst]
  change Event.reportsBy _ (Event.untilFault (Round.events _ _ _ ++ _)) = _
  rw [Event.untilFault_append fun event => Registry.fault?_of_general hgeneral hread,
    Event.reportsBy_append, hnone, List.append_nil, Round.reportsBy_events,
    Registry.filter_active_general hlimit]
  rfl

/-- What is reported about the length of lines when a file is linted. -/
theorem reportsBy_eventsOf {tree : FileTree} {path source complaint : Text}
    {document : Document} (haccepts : session.accepts path = true)
    (hload : Document.load tree path = (document, complaint)) (hread : document.IsRead)
    (hsource : document.source = some source)
    (hgeneral : ∀ rule ∈ (session.asked .general).rules, rule.scope = .general →
      rule.check.scope = .general)
    (hlimit : ∀ rule ∈ (session.asked .general).rules, rule.MindsLength limit)
    {extra : Nat} {lines : List Text} (hlong : longLines limit 1 (sourceLines source) =
      (Text.overlong limit extra lines).map (longRemark limit)) :
    Event.reportsBy "LineTooLong" (Event.untilFault (eventsOf tree session path)) =
      (session.asked .general).rules.lengthReports document.path limit extra lines := by
  rw [eventsOf, if_pos haccepts, fileSteps, hload, reportsBy_untilFault hgeneral hlimit hread]
  refine List.flatMap_congr fun rule hrule => ?_
  obtain ⟨hmem, hrule⟩ := List.mem_filter.mp hrule
  have hname := of_decide_eq_true (Bool.and_eq_true_iff.mp hrule).2
  rw [((hlimit rule hmem).of_name hname).2, Check.onDocument, GeneralCheck.apply,
    Document.inSource, hsource]
  change (longLines limit 1 (sourceLines source)).map (rule.report document.path) = _
  rw [hlong, List.map_map]
  rfl

end

/-- **Carriage returns matter to the length of lines only.** Suppose that two files under the
same path differ in that one has a carriage return before each newline, and that the file
without can be decoded. Then linting one does the same as linting the other, up to the first
fault, but for the findings about long lines. These are about the lines that are longer
than the limit, where in the one file each line but the last counts one character more. So
lines of exactly as many characters as allowed, but for the last line, are found too.

The rules may be any, as long as those on files in general have checks for such, and the one on
the length of lines is what it is called. -/
theorem lintFile_withReturns {tree tree' : FileTree} {path source : Text}
    {content content' : Content} (hcontent : tree.content path = .ok content)
    (hcontent' : tree'.content path = .ok content')
    (hsource : Utf8.decode content.bytes = .ok source)
    (hbytes : content'.bytes = Utf8.withReturns content.bytes)
    (hfolder : tree'.workingFolder = tree.workingFolder) (session : Session) {limit : Int}
    (hgeneral : ∀ rule ∈ (session.asked .general).rules, rule.scope = .general →
      rule.check.scope = .general)
    (hlimit : ∀ rule ∈ (session.asked .general).rules, rule.MindsLength limit) :
    let rules := (session.asked .general).rules
    let made (tree : FileTree) := Event.untilFault (eventsOf tree session path)
    let pieces := sourceLines source
    let flags (tree : FileTree) (i : Nat) : Prop :=
      ∃ report ∈ Event.reportsBy "LineTooLong" (made tree), report.line = (i + 1 : Nat)
    (∀ tree, lintFile tree path session = forEach Event.perform (made tree) session) ∧
    Event.apartFrom "LineTooLong" (made tree') = Event.apartFrom "LineTooLong" (made tree) ∧
    (session.accepts path = true →
      Event.reportsBy "LineTooLong" (made tree) =
        rules.lengthReports (tree.absolute path) limit 0 pieces ∧
      Event.reportsBy "LineTooLong" (made tree') =
        rules.lengthReports (tree.absolute path) limit 1 pieces ∧
      (rules.lengthRules ≠ [] → ∀ i piece, pieces[i]? = some piece →
        (flags tree' i ↔
          limit < piece.length + (if i + 1 = pieces.length then 0 else 1 : Nat)) ∧
        (flags tree' i ↔
          flags tree i ∨ (i + 1 ≠ pieces.length ∧ (piece.length : Int) = limit)))) := by
  intro rules made pieces flags
  obtain ⟨document, hread, htext, hpath, hload, hload'⟩ :=
    Document.load_withReturns hcontent hcontent' hsource hbytes hfolder
  have hread' : Document.IsRead { document with source := some (Text.withReturns source) } :=
    ⟨Option.some_ne_none _, hread.cells, hread.kinds⟩
  have hperform (tree : FileTree) :
      lintFile tree path session = forEach Event.perform (made tree) session := by
    rw [lintFile_eq_events, Event.forEach_untilFault]
  refine ⟨hperform, ?_, fun haccepts => ?_⟩
  · rw [Event.apartFrom_untilFault, Event.apartFrom_untilFault, eventsOf, eventsOf]
    split
    · rw [fileSteps, fileSteps, hload, hload']
      refine congrArg (fun rest => Event.untilFault (.opening path :: .complaint [] :: rest)) ?_
      obtain ⟨later, hrounds, -⟩ := document.rounds_eq_cons
      have hround : (.general, .document document) ∈ document.rounds := by simp [hrounds]
      have hlater : ∀ round ∈ later, round ∈ document.rounds := fun round hmem => by
        simp [hrounds, hmem]
      rw [Document.rounds_reread, hrounds, List.map_cons, List.map_cons, List.map_cons]
      change Event.apartFrom _ (Round.events _ _ _ ++ _) =
        Event.apartFrom _ (Round.events _ _ _ ++ _)
      rw [Event.apartFrom_append, Event.apartFrom_append]
      exact congrArg₂ _ (Round.apartFrom_events htext hlimit document.path hround)
        (apartFrom_trace htext document.path hlater hlimit)
    · rfl
  · obtain ⟨hlong, hlong'⟩ := longLines_sourceLines limit source
    have hreports : Event.reportsBy "LineTooLong" (made tree) =
        rules.lengthReports (tree.absolute path) limit 0 pieces := by
      rw [← hpath]
      exact reportsBy_eventsOf haccepts hload hread htext hgeneral hlimit hlong
    have hreports' : Event.reportsBy "LineTooLong" (made tree') =
        rules.lengthReports (tree.absolute path) limit 1 pieces := by
      rw [← hpath]
      exact reportsBy_eventsOf haccepts hload' hread' rfl hgeneral hlimit hlong'
    refine ⟨hreports, hreports', fun hrules i piece hpiece => ?_⟩
    have hflags : flags tree i ↔
        limit < piece.length + (if i + 1 = pieces.length then 0 else 0 : Nat) := by
      rw [← Registry.exists_mem_lengthReports hrules hpiece, ← hreports]
    have hflags' : flags tree' i ↔
        limit < piece.length + (if i + 1 = pieces.length then 0 else 1 : Nat) := by
      rw [← Registry.exists_mem_lengthReports hrules hpiece, ← hreports']
    refine ⟨hflags', ?_⟩
    rw [hflags, hflags']
    split <;> omega

/-- The folder with a suite of one test case, where the first line of the suite ends in a
carriage return. -/
def returnedTree : FileTree where
  entries := [.file "a.robot"
    { bytes := [42, 84, 101, 115, 116, 32, 99, 97, 115, 101, 13, 10, 84] }]
  workingFolder := []

/-- With at most ten characters to a line the first line is now too long. The last steps of the
test case, of which there are none, end both runs. -/
theorem lintFile_withReturns_returnedTree :
    let session : Session :=
      { rules := .tuned { lineLength := 10, mostTestSteps := -1 } Registry.standingSeverity }
    let made (tree : FileTree) := Event.untilFault (eventsOf tree session "a.robot")
    Event.apartFrom "LineTooLong" (made returnedTree) =
        Event.apartFrom "LineTooLong" (made smallTree) ∧
      Event.reportsBy "LineTooLong" (made smallTree) = [] ∧
      (Event.reportsBy "LineTooLong" (made returnedTree)).map Report.line = [1] := by
  intro session made
  have hcontent : smallTree.content "a.robot" =
      .ok { bytes := [42, 84, 101, 115, 116, 32, 99, 97, 115, 101, 10, 84] } := by rfl
  have hcontent' : returnedTree.content "a.robot" =
      .ok { bytes := [42, 84, 101, 115, 116, 32, 99, 97, 115, 101, 13, 10, 84] } := by rfl
  have hsource : Utf8.decode [42, 84, 101, 115, 116, 32, 99, 97, 115, 101, 10, 84] =
      .ok "*Test case\nT" := by rfl
  have hrules : (session.asked .general).rules = session.rules :=
    rules_asked_of_coherent (Registry.coherent_tuned _ _) .general
  have hgeneral : ∀ rule ∈ session.rules, rule.scope = .general →
      rule.check.scope = .general := by decide +kernel
  have hnamed : ∀ rule ∈ session.rules, rule.folded = "linetoolong" →
      rule.name = "LineTooLong" ∧ rule.scope = .general ∧
        rule.check = .general (.lineLength 10) := by decide +kernel
  have hothers : ∀ rule ∈ session.rules, rule.check.name = "LineTooLong" →
      rule.folded = "linetoolong" := by decide +kernel
  have hlimit : ∀ rule ∈ session.rules, rule.MindsLength 10 :=
    fun rule hrule => ⟨hnamed rule hrule, hothers rule hrule⟩
  obtain ⟨-, hapart, hlong⟩ :=
    lintFile_withReturns hcontent hcontent' hsource (by decide) rfl session
      (hrules ▸ hgeneral) (hrules ▸ hlimit)
  obtain ⟨hreports, hreports', -⟩ := hlong rfl
  rw [hrules] at hreports hreports'
  refine ⟨hapart, ?_, ?_⟩
  · rw [hreports]
    decide +kernel
  · rw [hreports']
    decide +kernel

end Session

end SuiteLint
