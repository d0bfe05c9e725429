import Mathlib.Tactic
import SuiteLint.Proofs.Linting
import SuiteLint.Proofs.TreePaths
import SuiteLint.Session.Arguments

/-!
# How often the files below a folder are linted

Linting a folder looks into all folders below it, whether or not that was asked for.
Recursively, each folder is looked into twice, once from the folder above it and once
more on its own account, and so are the folders in it each time. A file that lies
below `d` folders is therefore linted `2 ^ d` times (`Session.count_filesUnder`).

Which files are linted depends on their extension alone, and can be told before the
first one is looked at (`Session.forEach_lintFile`).
-/

namespace SuiteLint

namespace Session

open SuiteLint.Action Entry

/-! ### The files that are listed -/

theorem mem_ownFiles {path file : Text} {entries : List Entry} :
    file ∈ ownFiles path entries ↔
      ∃ name content, Entry.file name content ∈ entries ∧ isLinted name = true ∧
        file = Path.join path name := by
  unfold ownFiles
  constructor
  · intro hmem
    obtain ⟨entry, hentry, rfl⟩ := List.mem_map.mp hmem
    obtain ⟨hentry, hlinted⟩ := List.mem_filter.mp hentry
    cases entry with
    | file name content =>
      refine ⟨name, content, hentry, ?_, rfl⟩
      simpa [isFolder, Entry.name] using hlinted
    | folder name entries => simp [isFolder] at hlinted
  · rintro ⟨name, content, hentry, hlinted, rfl⟩
    refine List.mem_map.mpr ⟨_, List.mem_filter.mpr ⟨hentry, ?_⟩, rfl⟩
    simpa [isFolder, Entry.name] using hlinted

theorem filesBelow_append (again : Bool) (path : Text) (before after : List Entry) :
    filesBelow again path (before ++ after) =
      filesBelow again path before ++ filesBelow again path after := by
  induction before with
  | nil => rw [List.nil_append, filesBelow, List.nil_append]
  | cons entry before ih => rw [List.cons_append, filesBelow, filesBelow, ih, List.append_assoc]

mutual

/-- Only files below a folder are listed for it. -/
theorem liesBelow_of_mem_filesUnder {again : Bool} {path file : Text} :
    ∀ entry : Entry, file ∈ filesUnder again path entry →
      ∃ folders name content, LiesBelow entry.entries folders name content ∧
        isLinted name = true ∧ file = Path.below path folders name
  | .file _ _, hmem => by
    rw [filesUnder] at hmem
    cases hmem
  | .folder outer entries, hmem => by
    have hcases : file ∈ ownFiles path entries ∨ file ∈ filesBelow again path entries := by
      rw [filesUnder] at hmem
      cases again <;> simp_all
    rcases hcases with hown | hbelow
    · obtain ⟨name, content, hentry, hlinted, rfl⟩ := mem_ownFiles.mp hown
      exact ⟨[], name, content, .here hentry, hlinted, rfl⟩
    · obtain ⟨inner, inside, folders, name, content, hentry, hlies, hlinted, rfl⟩ :=
        liesBelow_of_mem_filesBelow entries hbelow
      exact ⟨inner :: folders, name, content, .deeper hentry hlies, hlinted, rfl⟩

/-- Only files below the folders among entries are listed for those folders. -/
theorem liesBelow_of_mem_filesBelow {again : Bool} {path file : Text} :
    ∀ entries : List Entry, file ∈ filesBelow again path entries →
      ∃ outer inside folders name content, Entry.folder outer inside ∈ entries ∧
        LiesBelow inside folders name content ∧ isLinted name = true ∧
        file = Path.below path (outer :: folders) name
  | [], hmem => by
    rw [filesBelow] at hmem
    cases hmem
  | entry :: entries, hmem => by
    rw [filesBelow, List.mem_append] at hmem
    rcases hmem with hfirst | hrest
    · obtain ⟨folders, name, content, hlies, hlinted, rfl⟩ :=
        liesBelow_of_mem_filesUnder entry hfirst
      cases entry with
      | file _ _ => cases hlies <;> contradiction
      | folder outer inside =>
        exact ⟨outer, inside, folders, name, content, List.mem_cons_self, hlies, hlinted, rfl⟩
    · obtain ⟨outer, inside, folders, name, content, hentry, hlies⟩ :=
        liesBelow_of_mem_filesBelow entries hrest
      exact ⟨outer, inside, folders, name, content, List.mem_cons_of_mem _ hentry, hlies⟩

end

/-! ### How often a file is listed -/

theorem nodup_ownFiles {entries : List Entry} (hproper : Proper entries) (path : Text) :
    (ownFiles path entries).Nodup := by
  refine List.pairwise_map.mpr (List.Pairwise.imp_of_mem ?_ (hproper.distinct.filter _))
  intro d e hd he hne hcon
  have hd := hproper.isName (List.mem_filter.mp hd).1
  have he := hproper.isName (List.mem_filter.mp he).1
  exact hne (Path.join_injective hd he hcon)

theorem count_ownFiles {entries : List Entry} {name : Text} {content : Content}
    (hproper : Proper entries) (hmem : Entry.file name content ∈ entries) (path : Text) :
    (ownFiles path entries).count (Path.join path name) = if isLinted name then 1 else 0 := by
  split
  next hlinted =>
    refine List.count_eq_one_of_mem (nodup_ownFiles hproper path) ?_
    exact mem_ownFiles.mpr ⟨name, content, hmem, hlinted, rfl⟩
  next hlinted =>
    refine List.count_eq_zero.mpr fun hcon => ?_
    obtain ⟨other, content', hother, hlinted', hjoin⟩ := mem_ownFiles.mp hcon
    obtain rfl : name = other :=
      Path.join_injective (hproper.isName hmem) (hproper.isName hother) hjoin
    exact hlinted hlinted'

/-- A file that lies below a folder is listed only for that folder. -/
theorem exists_folder_of_mem_filesBelow {again : Bool} {path name : Text} {entries : List Entry}
    {folders : List Text} (hproper : Proper entries)
    (hfolders : ∀ folder ∈ folders, Path.IsName folder) (hname : Path.IsName name)
    (hmem : Path.below path folders name ∈ filesBelow again path entries) :
    ∃ outer inside, Entry.folder outer inside ∈ entries ∧ folders.head? = some outer := by
  obtain ⟨outer, inside, folders', name', content, hentry, hlies, -, hpath⟩ :=
    liesBelow_of_mem_filesBelow entries hmem
  obtain ⟨hfolders', hname'⟩ := (LiesBelow.deeper hentry hlies).names hproper
  obtain ⟨rfl, -⟩ := Path.below_injective hfolders hname hfolders' hname' hpath
  exact ⟨outer, inside, hentry, rfl⟩

/-- Two counts of a folder: its own files, and the files in the folders in it. -/
theorem count_filesUnder_folder (again : Bool) (path outer file : Text) (entries : List Entry) :
    (filesUnder again path (.folder outer entries)).count file =
      (ownFiles path entries).count file +
        (if again then 2 else 1) * (filesBelow again path entries).count file := by
  rw [filesUnder, List.count_append, List.count_append]
  cases again
  · simp
  · simp
    omega

/-- Only the folder that a file lies below lists it. -/
theorem count_filesBelow {entries inside : List Entry} {outer name : Text} {folders : List Text}
    {content : Content} (hproper : Proper entries) (hmem : Entry.folder outer inside ∈ entries)
    (hbelow : LiesBelow inside folders name content) (again : Bool) (path : Text) :
    (filesBelow again path entries).count (Path.below path (outer :: folders) name) =
      (filesUnder again (Path.join path outer) (.folder outer inside)).count
        (Path.below (Path.join path outer) folders name) := by
  obtain ⟨hfolders, hname⟩ := (LiesBelow.deeper hmem hbelow).names hproper
  obtain ⟨before, after, rfl⟩ := List.append_of_mem hmem
  -- the entries before and after have other names
  have hothers : ∀ others : List Entry, others.Sublist (before ++ .folder outer inside :: after) →
      (∀ entry ∈ others, entry.name ≠ outer) →
      (filesBelow again path others).count (Path.below path (outer :: folders) name) = 0 := by
    intro others hsub hne
    refine List.count_eq_zero.mpr fun hcon => ?_
    obtain ⟨outer', inside', hentry, houter⟩ :=
      exists_folder_of_mem_filesBelow (hproper.sublist hsub) hfolders hname hcon
    cases houter
    exact hne _ hentry rfl
  obtain ⟨-, hafter, hbefore⟩ := List.pairwise_append.mp hproper.distinct
  rw [filesBelow_append, filesBelow, List.count_append, List.count_append,
    hothers before (List.sublist_append_left _ _) fun entry hentry =>
      hbefore entry hentry _ List.mem_cons_self,
    hothers after (by simp) fun entry hentry =>
      ((List.pairwise_cons.mp hafter).1 entry hentry).symm]
  simp [Entry.name, Path.below]

/-- **A file is listed once, and recursively twice as often for each folder it lies
below.** -/
theorem count_filesUnder {entries : List Entry} {folders : List Text} {name : Text}
    {content : Content} (hbelow : LiesBelow entries folders name content)
    (hproper : Proper entries) (again : Bool) (path outer : Text) :
    (filesUnder again path (.folder outer entries)).count (Path.below path folders name) =
      if isLinted name then (if again then 2 else 1) ^ folders.length else 0 := by
  -- a file in the folder itself is one of its own, and any other lies below one folder in it
  induction hbelow generalizing path outer with
  | @here entries name content hmem =>
    obtain ⟨-, hname⟩ := (LiesBelow.here hmem).names hproper
    have hbelow : Path.below path [] name ∉ filesBelow again path entries := by
      intro hcon
      obtain ⟨_, _, _, hhead⟩ := exists_folder_of_mem_filesBelow hproper (by simp) hname hcon
      cases hhead
    rw [count_filesUnder_folder, List.count_eq_zero.mpr hbelow]
    simpa [Path.below] using count_ownFiles hproper hmem path
  | @deeper entries inside inner name folders content hmem hbelow ih =>
    obtain ⟨hfolders, hname⟩ := (LiesBelow.deeper hmem hbelow).names hproper
    have hown : Path.below path (inner :: folders) name ∉ ownFiles path entries := by
      intro hcon
      obtain ⟨other, content', hother, -, hpath⟩ := mem_ownFiles.mp hcon
      have h : inner :: folders = [] :=
        (Path.below_injective hfolders hname (by simp) (hproper.isName hother) hpath).1
      cases h
    rw [count_filesUnder_folder, List.count_eq_zero.mpr hown,
      count_filesBelow hproper hmem hbelow, ih (hproper.inside hmem), List.length_cons, pow_succ']
    split <;> simp

/-! ### Which files are linted -/

/-- Lints what a path leads to, after some extensions were asked for. -/
def lintAsked (tree : FileTree) (asked : List Text) (path : Text) : Action Unit := do
  forEach addExtension asked
  lintPath tree path

/-- A file that is linted by its name: it has one of three extensions, and if extensions
were asked for, one of those. The former may be written in capitals, the latter is taken
literally but for dots. -/
def Eligible (asked : List Text) (name : Text) : Prop :=
  Text.lower (Path.extension name) ∈ [(".robot" : Text), ".txt", ".tsv"] ∧
    (asked ≠ [] → (Path.extension name).drop 1 ∈ asked.map (Text.without '.'))

instance (asked : List Text) (name : Text) : Decidable (Eligible asked name) :=
  inferInstanceAs (Decidable (_ ∧ _))

theorem forEach_addExtension (asked : List Text) (session : Session) :
    forEach addExtension asked session =
      ⟨[], [], { session with extensions := session.extensions ++ asked.map (Text.without '.') },
        .ok ()⟩ := by
  induction asked generalizing session with
  | nil => simp [forEach, done]
  | cons extension asked ih =>
    rw [forEach, andThen_of_ok rfl, ih]
    simp

theorem isLinted_iff {name : Text} :
    isLinted name = true ↔
      Text.lower (Path.extension name) ∈ [(".robot" : Text), ".txt", ".tsv"] := by
  simp [isLinted, or_assoc]

/-- Files in different folders are accepted alike. -/
theorem accepts_below {session : Session} {asked : List Text} {name : Text}
    (hasked : session.extensions = asked.map (Text.without '.')) (hname : Path.IsName name)
    (path : Text) (folders : List Text) :
    session.accepts (Path.below path folders name) = true ↔
      (asked ≠ [] → (Path.extension name).drop 1 ∈ asked.map (Text.without '.')) := by
  rw [accepts, Path.extension_below hname, hasked, Bool.or_eq_true, List.contains_iff_mem,
    List.isEmpty_iff, List.map_eq_nil_iff, or_iff_not_imp_left]

/-- The files that linting a folder looks at. -/
theorem lintAsked_folder {tree : FileTree} {path outer : Text} {entries : List Entry}
    {session : Session} (hfolder : tree.lookup path = .ok (.folder outer entries))
    (hnone : session.extensions = []) (asked : List Text) :
    lintAsked tree asked path session =
      forEach (examine tree)
        ((filesUnder session.settings.recursive path (.folder outer entries)).filter
          { session with extensions := asked.map (Text.without '.') }.accepts)
        { session with extensions := asked.map (Text.without '.') } := by
  change andThen (forEach addExtension asked) (fun _ => lintPath tree path) session = _
  rw [andThen_of_ok (forEach_addExtension asked session), hnone, List.nil_append, lintPath, hfolder]
  exact forEach_lintFile tree _ _

/-- From one session to another, files are linted one after the other, each to its end. -/
inductive Lints (tree : FileTree) : Session → List Text → Session → Prop
  | nil (session : Session) : Lints tree session [] session
  | cons {session last : Session} {file : Text} {files : List Text} :
    (examine tree file session).result = .ok () →
    Lints tree (examine tree file session).session files last →
    Lints tree session (file :: files) last

theorem lints_of_ok {tree : FileTree} {files : List Text} {session : Session}
    (h : (forEach (examine tree) files session).result = .ok ()) :
    Lints tree session files (forEach (examine tree) files session).session := by
  induction files generalizing session with
  | nil => exact .nil session
  | cons file files ih =>
    rw [forEach] at h ⊢
    rcases hfile : examine tree file session with ⟨out, err, after, stop | u⟩
    · rw [andThen_of_error hfile] at h
      cases h
    · rw [andThen_of_ok hfile] at h ⊢
      refine .cons (by rw [hfile]) ?_
      rw [hfile]
      exact ih h

/-- **How often linting a folder lints each file below it**: an eligible file once, or
recursively, `2 ^ d` times if it lies below `d` folders, and any other file never. Unless
a rule gives up, each of them is linted to its end. -/
theorem lintAsked_multiplicity {tree : FileTree} {path outer : Text} {entries : List Entry}
    (hfolder : tree.lookup path = .ok (.folder outer entries)) (hproper : Proper entries)
    (asked : List Text) (session : Session) (hnone : session.extensions = []) :
    ∃ files : List Text,
      lintAsked tree asked path session =
        forEach (examine tree) files
          { session with extensions := asked.map (Text.without '.') } ∧
      ((lintAsked tree asked path session).result = .ok () →
        Lints tree { session with extensions := asked.map (Text.without '.') } files
          (lintAsked tree asked path session).session) ∧
      (∀ file ∈ files, ∃ folders name content, LiesBelow entries folders name content ∧
        Eligible asked name ∧ file = Path.below path folders name) ∧
      ∀ folders name content, LiesBelow entries folders name content →
        tree.lookup (Path.below path folders name) = .ok (.file name content) ∧
        files.count (Path.below path folders name) =
          if Eligible asked name then
            if session.settings.recursive then 2 ^ folders.length else 1
          else 0 := by
  refine ⟨_, lintAsked_folder hfolder hnone asked, fun hok => ?_, fun file hfile => ?_,
    fun folders name content hbelow => ⟨FileTree.lookup_below hfolder hproper hbelow, ?_⟩⟩
  · rw [lintAsked_folder hfolder hnone] at hok ⊢
    exact lints_of_ok hok
  · obtain ⟨hmem, haccepts⟩ := List.mem_filter.mp hfile
    obtain ⟨folders, name, content, hbelow, hlinted, rfl⟩ := liesBelow_of_mem_filesUnder _ hmem
    have hname := (hbelow.names hproper).2
    exact ⟨folders, name, content, hbelow,
      ⟨isLinted_iff.mp hlinted, (accepts_below rfl hname path folders).mp haccepts⟩, rfl⟩
  · have hname := (hbelow.names hproper).2
    by_cases haccepts : { session with extensions := asked.map (Text.without '.') }.accepts
        (Path.below path folders name) = true
    · rw [List.count_filter haccepts, count_filesUnder hbelow hproper]
      have heligible : Eligible asked name ↔ isLinted name = true := by
        rw [isLinted_iff]
        exact and_iff_left ((accepts_below rfl hname path folders).mp haccepts)
      simp only [heligible]
      cases session.settings.recursive <;> simp
    · rw [if_neg fun h => haccepts ((accepts_below rfl hname path folders).mpr h.2),
        List.count_eq_zero]
      exact fun hcon => haccepts (List.mem_filter.mp hcon).2

/-- The entries of a folder that has a folder in a folder. -/
def nestedEntries : List Entry := [
  .file "a.robot" { bytes := [] },
  .folder "x" [
    .file "notes.txt" { bytes := [] },
    .folder "y" [.file "b.robot" { bytes := [] }]]]

theorem proper_nestedEntries : Proper nestedEntries := by
  refine .intro (by decide) (by decide) fun name inside hx => ?_
  obtain ⟨-, rfl⟩ : name = "x" ∧ inside = _ := by simpa [nestedEntries] using hx
  refine .intro (by decide) (by decide) fun name inside hy => ?_
  obtain ⟨-, rfl⟩ : name = "y" ∧ inside = _ := by simpa using hy
  exact .intro (by decide) (by decide) fun name inside hz => by simp at hz

/-- Of three files below a folder, one is linted once, one four times, and one not at all,
since its extension was not asked for. -/
theorem lintAsked_multiplicity_nested :
    ∃ (files : List Text) (last : Session),
      (lintAsked ⟨[.folder "suite" nestedEntries], []⟩ [".robot"] "suite"
        { settings := { recursive := true } }).result = .ok () ∧
      Lints ⟨[.folder "suite" nestedEntries], []⟩
        { settings := { recursive := true }, extensions := ["robot"] } files last ∧
      files.count ("suite/a.robot" : Text) = 1 ∧ files.count ("suite/x/y/b.robot" : Text) = 4 ∧
      files.count ("suite/x/notes.txt" : Text) = 0 := by
  have hfolder : FileTree.lookup ⟨[.folder "suite" nestedEntries], []⟩ "suite" =
      .ok (.folder "suite" nestedEntries) := by rfl
  have hok : (lintAsked ⟨[.folder "suite" nestedEntries], []⟩ [".robot"] "suite"
      { settings := { recursive := true } }).result = .ok () := by rfl
  obtain ⟨files, -, hlints, -, hcount⟩ := lintAsked_multiplicity hfolder proper_nestedEntries
    [".robot"] { settings := { recursive := true } } rfl
  have hx : Entry.folder "x" _ ∈ nestedEntries := List.mem_cons_of_mem _ List.mem_cons_self
  refine ⟨files, _, hok, hlints hok, ?_, ?_, ?_⟩
  · exact (hcount [] "a.robot" _ (.here List.mem_cons_self)).2
  · exact (hcount ["x", "y"] "b.robot" _ (.deeper hx
      (.deeper (List.mem_cons_of_mem _ List.mem_cons_self) (.here List.mem_cons_self)))).2
  · exact (hcount ["x"] "notes.txt" _ (.deeper hx (.here List.mem_cons_self))).2

end Session

end SuiteLint
