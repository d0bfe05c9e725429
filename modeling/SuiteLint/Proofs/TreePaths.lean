import Mathlib.Data.List.TakeWhile
import Mathlib.Tactic
import SuiteLint.FileTree

/-!
# Files below a folder and their paths

A file that lies below a folder is found by the names of the folders on the way to it
and its own name. Joined to the path of the folder one after the other, they give the
path of the file.

In a tree as a file system has it, where names hold no slashes and differ within a
folder, nothing is lost on the way: two files below a folder have different paths
(`Path.below_injective`), and the path of a file leads to it (`FileTree.lookup_below`).
-/

namespace SuiteLint

/-! ### Proper trees -/

/-- The name of an entry: a component of a path that leads neither nowhere nor up. -/
structure Path.IsName (name : Text) : Prop where
  /-- It is not empty. -/
  ne_nil : name ≠ []
  /-- It is not a single dot. -/
  ne_dot : name ≠ "."
  /-- It is not two dots. -/
  ne_dots : name ≠ ".."
  /-- It has no slash. -/
  slash : '/' ∉ name
  /-- It has no null character. -/
  null : Char.ofNat 0 ∉ name

instance (name : Text) : Decidable (Path.IsName name) :=
  decidable_of_iff (name ≠ [] ∧ name ≠ "." ∧ name ≠ ".." ∧ '/' ∉ name ∧ Char.ofNat 0 ∉ name)
    ⟨fun ⟨hnil, hdot, hdots, hslash, hnull⟩ => ⟨hnil, hdot, hdots, hslash, hnull⟩,
      fun ⟨hnil, hdot, hdots, hslash, hnull⟩ => ⟨hnil, hdot, hdots, hslash, hnull⟩⟩

namespace Entry

/-- The entries of a folder as a file system has them: they have distinct names, and so
have the entries of the folders among them. -/
inductive Proper : List Entry → Prop
  | intro {entries : List Entry} (names : ∀ entry ∈ entries, Path.IsName entry.name)
    (distinct : entries.Pairwise fun d e => d.name ≠ e.name)
    (inner : ∀ name inside, folder name inside ∈ entries → Proper inside) : Proper entries

theorem Proper.isName {entries : List Entry} {entry : Entry} (h : Proper entries)
    (hmem : entry ∈ entries) : Path.IsName entry.name := by
  obtain ⟨hnames, -, -⟩ := h
  exact hnames entry hmem

theorem Proper.distinct {entries : List Entry} (h : Proper entries) :
    entries.Pairwise fun d e => d.name ≠ e.name := by
  obtain ⟨-, hdistinct, -⟩ := h
  exact hdistinct

theorem Proper.inside {entries inside : List Entry} {name : Text} (h : Proper entries)
    (hmem : folder name inside ∈ entries) : Proper inside := by
  obtain ⟨-, -, hinner⟩ := h
  exact hinner name inside hmem

theorem Proper.sublist {entries others : List Entry} (h : Proper entries)
    (hsub : others.Sublist entries) : Proper others :=
  .intro (fun _ hmem => h.isName (hsub.subset hmem)) (h.distinct.sublist hsub)
    fun _ _ hmem => h.inside (hsub.subset hmem)

/-- A file lies below entries: it is one of them, or lies below a folder among them. The
names are those of the folders on the way, the outermost first, and of the file. -/
inductive LiesBelow : List Entry → List Text → Text → Content → Prop
  | here {entries : List Entry} {name : Text} {content : Content} :
    file name content ∈ entries → LiesBelow entries [] name content
  | deeper {entries inside : List Entry} {outer name : Text} {folders : List Text}
    {content : Content} : folder outer inside ∈ entries →
    LiesBelow inside folders name content → LiesBelow entries (outer :: folders) name content

theorem LiesBelow.names {entries : List Entry} {folders : List Text} {name : Text}
    {content : Content} (hbelow : LiesBelow entries folders name content)
    (hproper : Proper entries) : (∀ folder ∈ folders, Path.IsName folder) ∧ Path.IsName name := by
  induction hbelow with
  | here hmem => exact ⟨by simp, hproper.isName hmem⟩
  | deeper hmem _ ih =>
    obtain ⟨hfolders, hname⟩ := ih (hproper.inside hmem)
    exact ⟨List.forall_mem_cons.mpr ⟨hproper.isName hmem, hfolders⟩, hname⟩

/-- Where names are distinct, each entry is the one that is found by its name. -/
theorem find?_of_mem {entries : List Entry} {entry : Entry}
    (hdistinct : entries.Pairwise fun d e => d.name ≠ e.name) (hmem : entry ∈ entries) :
    find? entry.name entries = some entry := by
  induction entries with
  | nil => cases hmem
  | cons first entries ih =>
    obtain ⟨hfirst, hrest⟩ := List.pairwise_cons.mp hdistinct
    rcases List.mem_cons.mp hmem with rfl | hmem
    · simp [find?]
    · have hne : first.name ≠ entry.name := hfirst entry hmem
      rw [find?, List.find?_cons_of_neg (by simpa using hne)]
      exact ih hrest hmem

end Entry

/-! ### The path of a folder -/

namespace Path

/-- The path of a folder with a slash at its end, which what is in it follows. -/
def lead (folder : Text) : Text :=
  if folder.isEmpty || Text.endsWith folder "/" then folder else folder ++ "/"

/-- It is empty or ends with a slash. -/
theorem lead_cases (folder : Text) : lead folder = [] ∨ ∃ start, lead folder = start ++ ['/'] := by
  unfold lead
  split
  next h =>
    rcases Bool.or_eq_true_iff.mp h with hempty | hend
    · exact .inl (List.isEmpty_iff.mp hempty)
    · obtain ⟨start, hstart⟩ := List.isSuffixOf_iff_suffix.mp hend
      exact .inr ⟨start, hstart.symm⟩
  next => exact .inr ⟨folder, rfl⟩

theorem lead_ne_nil {path : Text} (h : path ≠ []) : lead path ≠ [] := by
  unfold lead
  split
  · exact h
  · simp

theorem null_not_mem_lead {path : Text} (h : Char.ofNat 0 ∉ path) : Char.ofNat 0 ∉ lead path := by
  unfold lead
  split
  · exact h
  · simpa using h

/-- The components of a path that goes on from a folder. Those of the path of the folder
come first, but for an empty one that a slash at its end makes. -/
theorem pieces_lead {path : Text} (hpath : path ≠ []) (rest : Text) :
    ∃ parts, Text.pieces '/' (lead path ++ rest) = parts ++ Text.pieces '/' rest ∧
      (Text.pieces '/' path = parts ∨ Text.pieces '/' path = parts ++ [[]]) := by
  unfold lead
  split
  next h =>
    have hend := (Bool.or_eq_true_iff.mp h).resolve_left (by simpa using hpath)
    obtain ⟨start, rfl⟩ := List.isSuffixOf_iff_suffix.mp hend
    refine ⟨Text.pieces '/' start, ?_, .inr (List.splitOn_append_cons_self start [])⟩
    rw [List.append_assoc]
    exact List.splitOn_append_cons_self start rest
  next =>
    refine ⟨Text.pieces '/' path, ?_, .inl rfl⟩
    rw [List.append_assoc]
    exact List.splitOn_append_cons_self path rest

theorem startsWith_lead {path : Text} (hpath : path ≠ []) (rest : Text) :
    Text.startsWith (lead path ++ rest) "/" = Text.startsWith path "/" := by
  obtain ⟨c, path, rfl⟩ := List.exists_cons_of_ne_nil hpath
  unfold lead
  split <;> simp [Text.startsWith, List.isPrefixOf]

/-! ### The path of a file in a folder -/

/-- What is joined to a folder follows its slash. -/
theorem join_of_isName {name : Text} (h : IsName name) (folder : Text) :
    join folder name = lead folder ++ name := by
  have hstart : Text.startsWith name "/" = false := by
    rw [Text.startsWith, Bool.eq_false_iff]
    intro hcon
    obtain ⟨rest, rfl⟩ := List.isPrefixOf_iff_prefix.mp hcon
    exact h.slash (by simp)
  rw [join, lead, hstart, if_neg Bool.false_ne_true]
  split <;> simp

theorem lead_join {name : Text} (h : IsName name) (folder : Text) :
    lead (join folder name) = lead folder ++ name ++ "/" := by
  rw [join_of_isName h, lead, if_neg]
  rw [Bool.or_eq_true, not_or]
  constructor
  · simp [h.ne_nil]
  · intro hcon
    obtain ⟨front, hfront⟩ := List.isSuffixOf_iff_suffix.mp hcon
    have hlast : (lead folder ++ name).getLast? = some '/' := by
      rw [← hfront]
      simp
    rw [List.getLast?_append_of_ne_nil _ h.ne_nil] at hlast
    exact h.slash (List.mem_of_getLast? hlast)

theorem join_injective {name name' path : Text} (hname : IsName name) (hname' : IsName name')
    (h : join path name = join path name') : name = name' := by
  rw [join_of_isName hname, join_of_isName hname'] at h
  exact List.append_cancel_left h

theorem base_join {name : Text} (h : IsName name) (folder : Text) :
    base (join folder name) = base name := by
  have hname : ∀ c ∈ name.reverse, decide (c ≠ '/') = true := by
    intro c hc
    have hne : c ≠ '/' := fun hslash => h.slash (hslash ▸ List.mem_reverse.mp hc)
    simpa using hne
  rw [join_of_isName h, base, base, List.reverse_append]
  rcases lead_cases folder with hlead | ⟨start, hlead⟩
  · simp [hlead]
  · rw [hlead, List.takeWhile_append_of_pos hname]
    rw [List.takeWhile_eq_self_iff.mpr hname]
    simp

/-! ### The path of a file below a folder -/

/-- The path of a file that lies below the folder at a path. -/
def below (path : Text) (folders : List Text) (name : Text) : Text :=
  join (folders.foldl join path) name

/-- How a path goes on from a folder to a file below it. -/
def relative (folders : List Text) (name : Text) : Text :=
  folders.foldr (fun folder rest => folder ++ '/' :: rest) name

/-- The path of a file below a folder continues that of the folder. -/
theorem below_eq {folders : List Text} {name : Text} (hfolders : ∀ folder ∈ folders, IsName folder)
    (hname : IsName name) (path : Text) :
    below path folders name = lead path ++ relative folders name := by
  induction folders generalizing path with
  | nil => exact join_of_isName hname path
  | cons folder folders ih =>
    obtain ⟨hfolder, hfolders⟩ := List.forall_mem_cons.mp hfolders
    calc below path (folder :: folders) name
        = below (join path folder) folders name := rfl
      _ = lead path ++ folder ++ "/" ++ relative folders name := by
        rw [ih hfolders, lead_join hfolder]
      _ = lead path ++ relative (folder :: folders) name := by simp [relative]

theorem pieces_relative {folders : List Text} {name : Text}
    (hfolders : ∀ folder ∈ folders, IsName folder) (hname : IsName name) :
    Text.pieces '/' (relative folders name) = folders ++ [name] := by
  induction folders with
  | nil => exact List.splitOn_eq_singleton hname.slash
  | cons folder folders ih =>
    obtain ⟨hfolder, hfolders⟩ := List.forall_mem_cons.mp hfolders
    calc Text.pieces '/' (folder ++ '/' :: relative folders name)
        = folder.splitOn '/' ++ Text.pieces '/' (relative folders name) :=
          List.splitOn_append_cons_self _ _
      _ = [folder] ++ (folders ++ [name]) := by
        rw [List.splitOn_eq_singleton hfolder.slash, ih hfolders]

theorem null_not_mem_relative {folders : List Text} {name : Text}
    (hfolders : ∀ folder ∈ folders, IsName folder) (hname : IsName name) :
    Char.ofNat 0 ∉ relative folders name := by
  induction folders with
  | nil => exact hname.null
  | cons folder folders ih =>
    obtain ⟨hfolder, hfolders⟩ := List.forall_mem_cons.mp hfolders
    change Char.ofNat 0 ∉ folder ++ '/' :: relative folders name
    rw [List.mem_append, List.mem_cons, not_or, not_or]
    exact ⟨hfolder.null, by decide, ih hfolders⟩

/-- **Different files below a folder have different paths.** -/
theorem below_injective {folders folders' : List Text} {name name' : Text} {path : Text}
    (hfolders : ∀ folder ∈ folders, IsName folder) (hname : IsName name)
    (hfolders' : ∀ folder ∈ folders', IsName folder) (hname' : IsName name')
    (h : below path folders name = below path folders' name') :
    folders = folders' ∧ name = name' := by
  rw [below_eq hfolders hname, below_eq hfolders' hname', List.append_cancel_left_eq] at h
  have hpieces := congrArg (Text.pieces '/') h
  rw [pieces_relative hfolders hname, pieces_relative hfolders' hname'] at hpieces
  exact ⟨(List.append_inj' hpieces rfl).1, List.singleton_inj.mp (List.append_inj' hpieces rfl).2⟩

/-- The extension of a file below a folder is that of its name. -/
theorem extension_below {name : Text} (h : IsName name) (path : Text) (folders : List Text) :
    extension (below path folders name) = extension name := by
  rw [below, extension, extension, base_join h]

end Path

/-! ### Following the path of a file -/

namespace FileTree

open Entry

theorem follow_append (here : Entry) (above : List Entry) (parts others : List Text) :
    follow here above (parts ++ others) =
      (follow here above parts).bind fun found => follow found.1 found.2 others := by
  -- one case per way to go: nowhere, in place, up, or into an entry
  fun_induction follow here above parts with
  | case1 => rfl
  | _ => simp_all [follow, Except.bind]

/-- A component that is the name of an entry leads to that entry. -/
theorem follow_name {entries : List Entry} {entry : Entry} (hproper : Proper entries)
    (hmem : entry ∈ entries) (outer : Text) (above : List Entry) (parts : List Text) :
    follow (.folder outer entries) above (entry.name :: parts) =
      follow entry (.folder outer entries :: above) parts := by
  obtain ⟨hne, hdot, hdots, -, -⟩ := hproper.isName hmem
  rw [follow.eq_def]
  simp only [if_neg (not_or.mpr ⟨hne, hdot⟩), if_neg hdots, find?_of_mem hproper.distinct hmem]

theorem follow_liesBelow {entries : List Entry} {folders : List Text} {name : Text}
    {content : Content} (hbelow : LiesBelow entries folders name content)
    (hproper : Proper entries) (outer : Text) (above : List Entry) :
    ∃ above', follow (.folder outer entries) above (folders ++ [name]) =
      .ok (.file name content, above') := by
  induction hbelow generalizing outer above with
  | here hmem => exact ⟨_, follow_name hproper hmem outer above []⟩
  | deeper hmem _ ih =>
    obtain ⟨above', hfollow⟩ := ih (hproper.inside hmem) _ (.folder outer _ :: above)
    exact ⟨above', (follow_name hproper hmem outer above _).trans hfollow⟩

/-- An empty component stays in a folder. -/
theorem follow_of_append_nil {here entry : Entry} {above above' : List Entry}
    {parts : List Text} (h : follow here above (parts ++ [[]]) = .ok (entry, above')) :
    follow here above parts = .ok (entry, above') := by
  rw [follow_append] at h
  rcases hparts : follow here above parts with obstacle | ⟨_ | ⟨outer, entries⟩, above''⟩
  · rw [hparts] at h
    cases h
  · rw [hparts] at h
    cases h
  · rw [hparts] at h
    simpa [Except.bind, follow] using h

/-- What it takes for a path to lead to an entry. -/
theorem lookup_eq_ok_iff {tree : FileTree} {path : Text} {entry : Entry} :
    tree.lookup path = .ok entry ↔
      Char.ofNat 0 ∉ path ∧ path ≠ [] ∧
        ∃ above, follow (.folder [] tree.entries) []
          ((if Text.startsWith path "/" then [] else tree.workingFolder) ++ Text.pieces '/' path) =
            .ok (entry, above) := by
  unfold lookup
  split
  next hnull => simp_all
  next hnull =>
    split
    next hpath => simp [hpath]
    next hpath =>
      dsimp only
      generalize follow _ _ _ = found
      rcases found with obstacle | ⟨found, above⟩
      · simp [Except.map]
      · simp_all [Except.map]

/-- **The path of a file below a folder leads to the file.** -/
theorem lookup_below {tree : FileTree} {path outer name : Text} {entries : List Entry}
    {folders : List Text} {content : Content}
    (hlookup : tree.lookup path = .ok (.folder outer entries)) (hproper : Proper entries)
    (hbelow : LiesBelow entries folders name content) :
    tree.lookup (Path.below path folders name) = .ok (.file name content) := by
  obtain ⟨hfolders, hname⟩ := hbelow.names hproper
  obtain ⟨hnull, hpath, above, hfollow⟩ := lookup_eq_ok_iff.mp hlookup
  obtain ⟨above', hbelow⟩ := follow_liesBelow hbelow hproper outer above
  obtain ⟨parts, hpieces, hparts⟩ := Path.pieces_lead hpath (Path.relative folders name)
  rw [Path.pieces_relative hfolders hname] at hpieces
  rw [Path.below_eq hfolders hname]
  refine lookup_eq_ok_iff.mpr ⟨?_, ?_, above', ?_⟩
  · rw [List.mem_append, not_or]
    exact ⟨Path.null_not_mem_lead hnull, Path.null_not_mem_relative hfolders hname⟩
  · exact fun hcon => Path.lead_ne_nil hpath (List.append_eq_nil_iff.mp hcon).1
  · rw [Path.startsWith_lead hpath, hpieces, ← List.append_assoc, follow_append]
    -- the components of the folder's path lead to the folder, with or without a slash
    have hfolder : follow (.folder [] tree.entries) []
        ((if Text.startsWith path "/" then [] else tree.workingFolder) ++ parts) =
          .ok (.folder outer entries, above) := by
      rcases hparts with hparts | hparts
      · rw [← hparts, hfollow]
      · rw [hparts, ← List.append_assoc] at hfollow
        exact follow_of_append_nil hfollow
    rw [hfolder]
    exact hbelow

end FileTree

end SuiteLint
