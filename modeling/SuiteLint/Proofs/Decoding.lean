import Mathlib.Data.List.Forall2
import Mathlib.Tactic
import SuiteLint.Document

/-!
# Decoding a file as a whole and line by line

A file is read twice: once as a whole, and once line by line, where the bytes are
cut at newlines before anything is decoded. The two readings agree because no byte
of a longer character is a newline, so that cutting the bytes never cuts a
character.

`Utf8.Encodes` says which bytes stand for which text, without reference to a
position, and `Utf8.decodeFrom_eq_ok_iff` that decoding finds exactly that.
`Utf8.decodeLines_of_decode` is what the rest of the development needs: if the
whole can be decoded then so can its lines, and they are the lines of the text,
`Text.fullLines`. There is one exception, a file that consists of a byte order mark and
nothing else: its text is empty and has no lines, but the bytes are not, and have one.
That line is blank and stands before any heading, so the document is the same, and
`Document.ofBytes_of_decode` holds without exception.
-/

namespace SuiteLint

namespace Utf8

/-! ### The bytes of a character -/

/-- The bytes that stand for a character. -/
inductive Code : Bytes → Char → Prop
  /-- A single byte. -/
  | one {a : UInt8} : a < 0x80 → Code [a] (Char.ofNat a.toNat)
  /-- Two bytes. -/
  | two {a b : UInt8} : ¬a < 0xC2 → a < 0xE0 → isContinuation b = true →
      Code [a, b] (Char.ofNat (a.toNat % 32 * 64 + payload b))
  /-- Three bytes. -/
  | three {a b c : UInt8} : ¬a < 0xE0 → a < 0xF0 → isSecondOfThree a b = true →
      isContinuation c = true →
      Code [a, b, c] (Char.ofNat (a.toNat % 16 * 4096 + payload b * 64 + payload c))
  /-- Four bytes. -/
  | four {a b c d : UInt8} : ¬a < 0xF0 → a < 0xF5 → isSecondOfFour a b = true →
      isContinuation c = true → isContinuation d = true →
      Code [a, b, c, d]
        (Char.ofNat (a.toNat % 8 * 262144 + payload b * 4096 + payload c * 64 + payload d))

/-- The bytes that stand for a text: those of its characters, one after the other. -/
inductive Encodes : Bytes → Text → Prop
  /-- No bytes stand for the empty text. -/
  | nil : Encodes [] []
  /-- The bytes of the first character come first. -/
  | cons {code rest : Bytes} {c : Char} {text : Text} :
      Code code c → Encodes rest text → Encodes (code ++ rest) (c :: text)

theorem Code.ne_nil {code : Bytes} {c : Char} (h : Code code c) : code ≠ [] := by
  cases h <;> simp

/-- Decoding takes the bytes of the first character off. -/
theorem Code.decodeFrom_append {code : Bytes} {c : Char} (h : Code code c) (pos : Nat)
    (rest : Bytes) :
    decodeFrom pos (code ++ rest) = (c :: ·) <$> decodeFrom (pos + code.length) rest := by
  -- The tests for shorter characters come first and have to be seen to fail.
  have below {a m n : UInt8} (ha : ¬a < n) (hmn : m ≤ n) : ¬a < m :=
    fun h => ha (UInt8.lt_of_lt_of_le h hmn)
  cases h with
  | one ha =>
    rw [List.cons_append, List.nil_append, decodeFrom.eq_def]
    simp [ha]
  | two ha ha' hb =>
    have h₁ := below ha (m := 0x80) (by decide)
    rw [List.cons_append, List.cons_append, List.nil_append, decodeFrom.eq_def]
    simp [h₁, ha, ha', hb]
  | three ha ha' hb hc =>
    have h₁ := below ha (m := 0x80) (by decide)
    have h₂ := below ha (m := 0xC2) (by decide)
    rw [List.cons_append, List.cons_append, List.cons_append, List.nil_append,
      decodeFrom.eq_def]
    simp [h₁, h₂, ha, ha', hb, hc]
  | four ha ha' hb hc hd =>
    have h₁ := below ha (m := 0x80) (by decide)
    have h₂ := below ha (m := 0xC2) (by decide)
    have h₃ := below ha (m := 0xE0) (by decide)
    rw [List.cons_append, List.cons_append, List.cons_append, List.cons_append,
      List.nil_append, decodeFrom.eq_def]
    simp [h₁, h₂, h₃, ha, ha', hb, hc, hd]

theorem decodeFrom_of_encodes {bytes : Bytes} {text : Text} (h : Encodes bytes text) (pos : Nat) :
    decodeFrom pos bytes = .ok text := by
  induction h generalizing pos with
  | nil => rfl
  | cons hcode _ ih =>
    rw [hcode.decodeFrom_append, ih]
    rfl

/-- What a bind of results gives comes from a result of its first part. -/
theorem bind_eq_ok {α β : Type} {x : Except Malformed α} {f : α → Except Malformed β} {b : β}
    (h : x >>= f = .ok b) : ∃ a, x = .ok a ∧ f a = .ok b := by
  cases x with
  | error m => cases h
  | ok a => exact ⟨a, rfl, h⟩

theorem encodes_of_decodeFrom {pos : Nat} {bytes : Bytes} {text : Text}
    (h : decodeFrom pos bytes = .ok text) : Encodes bytes text := by
  fun_induction decodeFrom pos bytes generalizing text with
  | case1 =>
    cases h
    exact .nil
  | case2 pos a rest ha ih =>
    obtain ⟨tail, htail, h'⟩ := bind_eq_ok h
    cases h'
    exact .cons (.one ha) (ih htail)
  | case5 pos a _ ha ha' b rest hb ih =>
    obtain ⟨tail, htail, h'⟩ := bind_eq_ok h
    cases h'
    exact .cons (.two ha ha' hb) (ih htail)
  | case9 pos a _ _ ha ha' b hb c rest hc ih =>
    obtain ⟨tail, htail, h'⟩ := bind_eq_ok h
    cases h'
    exact .cons (.three ha ha' hb hc) (ih htail)
  | case15 pos a _ _ _ ha ha' b hb c hc d rest hd ih =>
    obtain ⟨tail, htail, h'⟩ := bind_eq_ok h
    cases h'
    exact .cons (.four ha ha' hb hc hd) (ih htail)
  -- In all other cases the bytes are malformed.
  | _ => cases h

/-- **Decoding finds the text that the bytes stand for**, whatever position it
begins to count at. -/
theorem decodeFrom_eq_ok_iff {pos : Nat} {bytes : Bytes} {text : Text} :
    decodeFrom pos bytes = .ok text ↔ Encodes bytes text :=
  ⟨encodes_of_decodeFrom, fun h => decodeFrom_of_encodes h pos⟩

/-! ### Newlines -/

/-- A character other than the null character comes from its own number only. -/
theorem eq_toNat_of_ofNat {n : Nat} {c : Char} (hc : c.toNat ≠ 0) (h : Char.ofNat n = c) :
    n = c.toNat := by
  rw [← h] at hc ⊢
  by_cases hv : n.isValidChar
  · rw [Char.ofNat, dif_pos hv]
    rfl
  · rw [Char.ofNat, dif_neg hv] at hc
    exact absurd rfl hc

theorem ofNat_eq_newline {n : Nat} (h : Char.ofNat n = '\n') : n = 10 :=
  eq_toNat_of_ofNat (by decide) h

theorem isContinuation_bounds {b : UInt8} (h : isContinuation b = true) :
    128 ≤ b.toNat ∧ b.toNat < 192 := by
  rw [isContinuation, Bool.and_eq_true, decide_eq_true_eq, decide_eq_true_eq,
    UInt8.le_iff_toNat_le, UInt8.lt_iff_toNat_lt] at h
  exact h

/-- After the first of all bytes that begin three, the second carries a large part. -/
theorem isSecondOfThree_bounds {a b : UInt8} (h : isSecondOfThree a b = true) :
    isContinuation b = true ∧ (a.toNat = 224 → 160 ≤ b.toNat) := by
  rw [isSecondOfThree, Bool.and_eq_true] at h
  refine ⟨h.1, fun ha => ?_⟩
  obtain rfl : a = 224 := UInt8.toNat_inj.mp ha
  by_contra hb
  have hb' : b < 160 := UInt8.lt_iff_toNat_lt.mpr (Nat.lt_of_not_le hb)
  simp [hb'] at h

/-- After the first of all bytes that begin four, the second carries a large part. -/
theorem isSecondOfFour_bounds {a b : UInt8} (h : isSecondOfFour a b = true) :
    isContinuation b = true ∧ (a.toNat = 240 → 144 ≤ b.toNat) := by
  rw [isSecondOfFour, Bool.and_eq_true] at h
  refine ⟨h.1, fun ha => ?_⟩
  obtain rfl : a = 240 := UInt8.toNat_inj.mp ha
  by_contra hb
  have hb' : b < 144 := UInt8.lt_iff_toNat_lt.mpr (Nat.lt_of_not_le hb)
  simp [hb'] at h

/-- The bytes of a longer character are all beyond the single ones. -/
theorem newline_not_mem {code : Bytes} (h : ∀ b ∈ code, 128 ≤ b.toNat) : 10 ∉ code :=
  fun hmem => absurd (h 10 hmem) (by decide)

/-- **A newline byte is a character of its own**, and no other bytes make that
character, since only the shortest form of a character is accepted. -/
theorem Code.newline {code : Bytes} {c : Char} (h : Code code c) :
    (code = [10] ∧ c = '\n') ∨ (10 ∉ code ∧ c ≠ '\n') := by
  cases h with
  | @one a ha =>
    by_cases h : a = 10
    · subst h
      exact Or.inl ⟨rfl, rfl⟩
    · refine Or.inr ⟨by simpa using Ne.symm h, fun hc => h ?_⟩
      exact UInt8.toNat_inj.mp (ofNat_eq_newline hc)
  | @two a b ha ha' hb =>
    have ha₁ : 194 ≤ a.toNat := UInt8.le_iff_toNat_le.mp (UInt8.not_lt.mp ha)
    have ha₂ : a.toNat < 224 := UInt8.lt_iff_toNat_lt.mp ha'
    have hb₁ := isContinuation_bounds hb
    refine Or.inr ⟨newline_not_mem ?_, fun hn => ?_⟩
    · rw [List.forall_mem_cons, List.forall_mem_singleton]
      omega
    · have := ofNat_eq_newline hn
      omega
  | @three a b c ha ha' hb hc =>
    have ha₁ : 224 ≤ a.toNat := UInt8.le_iff_toNat_le.mp (UInt8.not_lt.mp ha)
    have ha₂ : a.toNat < 240 := UInt8.lt_iff_toNat_lt.mp ha'
    obtain ⟨hb, hab⟩ := isSecondOfThree_bounds hb
    have hb₁ := isContinuation_bounds hb
    have hc₁ := isContinuation_bounds hc
    refine Or.inr ⟨newline_not_mem ?_, fun hn => ?_⟩
    · rw [List.forall_mem_cons, List.forall_mem_cons, List.forall_mem_singleton]
      omega
    · have := ofNat_eq_newline hn
      rw [payload, payload] at this
      omega
  | @four a b c d ha ha' hb hc hd =>
    have ha₁ : 240 ≤ a.toNat := UInt8.le_iff_toNat_le.mp (UInt8.not_lt.mp ha)
    have ha₂ : a.toNat < 245 := UInt8.lt_iff_toNat_lt.mp ha'
    obtain ⟨hb, hab⟩ := isSecondOfFour_bounds hb
    have hb₁ := isContinuation_bounds hb
    have hc₁ := isContinuation_bounds hc
    have hd₁ := isContinuation_bounds hd
    refine Or.inr ⟨newline_not_mem ?_, fun hn => ?_⟩
    · rw [List.forall_mem_cons, List.forall_mem_cons, List.forall_mem_cons,
        List.forall_mem_singleton]
      omega
    · have := ofNat_eq_newline hn
      rw [payload, payload, payload] at this
      omega

end Utf8

/-! ### Lines -/

/-- The lines of a text, each with the newline that ends it. What follows the last
newline is a line only if there is some. -/
def Text.fullLines : Text → List Text
  | [] => []
  | c :: rest =>
    if c = '\n' then [c] :: Text.fullLines rest
    else
      match Text.fullLines rest with
      | [] => [[c]]
      | first :: others => (c :: first) :: others

namespace Utf8

/-- Bytes without a newline go to the front of the first line. -/
theorem byteLines_append {code : Bytes} (hne : code ≠ []) (hcode : 10 ∉ code) (rest : Bytes) :
    byteLines (code ++ rest) =
      match byteLines rest with
      | [] => [code]
      | first :: others => (code ++ first) :: others := by
  induction code with
  | nil => exact absurd rfl hne
  | cons b code ih =>
    have hb : b ≠ 10 := fun h => hcode (h ▸ List.mem_cons_self)
    rw [List.cons_append, byteLines, if_neg hb]
    rcases eq_or_ne code [] with rfl | hne'
    · rw [List.nil_append]
      cases byteLines rest <;> rfl
    · rw [ih hne' fun h => hcode (List.mem_cons_of_mem b h)]
      cases byteLines rest <;> rfl

/-- The lines of the bytes stand for the lines of the text. -/
theorem Encodes.lines {bytes : Bytes} {text : Text} (h : Encodes bytes text) :
    List.Forall₂ Encodes (byteLines bytes) (Text.fullLines text) := by
  induction h with
  | nil => exact .nil
  | @cons code rest c text hcode _ ih =>
    have hone : Encodes code [c] := by simpa using Encodes.cons hcode .nil
    rcases hcode.newline with ⟨rfl, rfl⟩ | ⟨hbytes, hchar⟩
    · rw [List.cons_append, List.nil_append, byteLines, if_pos rfl, Text.fullLines, if_pos rfl]
      exact .cons hone ih
    · rw [byteLines_append hcode.ne_nil hbytes, Text.fullLines, if_neg hchar]
      cases hlines : byteLines rest with
      | nil =>
        rw [hlines] at ih
        rw [List.forall₂_nil_left_iff.mp ih]
        exact .cons hone .nil
      | cons first others =>
        rw [hlines] at ih
        obtain ⟨line, lines, hfirst, hothers, heq⟩ := List.forall₂_cons_left_iff.mp ih
        rw [heq]
        exact .cons (.cons hcode hfirst) hothers

theorem mapM_decodeFrom {parts : List Bytes} {texts : List Text}
    (h : List.Forall₂ Encodes parts texts) : parts.mapM (decodeFrom 0) = .ok texts := by
  induction h with
  | nil => rfl
  | cons hpart _ ih =>
    rw [List.mapM_cons, decodeFrom_of_encodes hpart, ih]
    rfl

theorem byteLines_ne_nil {bytes : Bytes} (h : bytes ≠ []) : byteLines bytes ≠ [] := by
  fun_cases byteLines bytes with
  | case1 => exact absurd rfl h
  | case2 | case3 | case4 => exact List.cons_ne_nil _ _

/-- The first line is what the bytes begin with. -/
theorem isPrefix_of_byteLines {bytes first : Bytes} {others : List Bytes}
    (h : byteLines bytes = first :: others) : first <+: bytes := by
  induction bytes generalizing first others with
  | nil => cases h
  | cons b rest ih =>
    rw [byteLines] at h
    split at h
    · obtain ⟨rfl, -⟩ := List.cons_eq_cons.mp h
      exact ⟨rest, rfl⟩
    · rcases hlines : byteLines rest with _ | ⟨line, lines⟩
      · rw [hlines] at h
        obtain ⟨rfl, -⟩ := List.cons_eq_cons.mp h
        exact ⟨rest, rfl⟩
      · rw [hlines] at h
        obtain ⟨rfl, -⟩ := List.cons_eq_cons.mp h
        exact (List.prefix_cons_inj b).mpr (ih hlines)

/-- The mark can be dropped from the first line or from the bytes, unless there is nothing
else. -/
theorem modifyHead_byteLines (bytes : Bytes) :
    (byteLines bytes).modifyHead dropMark =
      if bytes = mark then [[]] else byteLines (dropMark bytes) := by
  fun_cases dropMark bytes with
  | case1 rest =>
    have hlines : byteLines (mark ++ rest) = _ :=
      byteLines_append (List.cons_ne_nil _ _) (by decide) rest
    rcases eq_or_ne rest [] with rfl | hrest
    · rfl
    · obtain ⟨first, others, hfirst⟩ := List.exists_cons_of_ne_nil (byteLines_ne_nil hrest)
      rw [hfirst] at hlines
      have hother : 0xEF :: 0xBB :: 0xBF :: rest ≠ mark := by simpa [mark] using hrest
      rw [if_neg hother, hfirst]
      exact congrArg (List.modifyHead dropMark) hlines
  | case2 bytes hunmarked =>
    have hother : bytes ≠ mark := fun h => hunmarked [] h
    rw [if_neg hother]
    rcases hlines : byteLines bytes with _ | ⟨first, others⟩
    · rfl
    · -- a mark in front of the first line would be one in front of the bytes
      obtain ⟨rest, hrest⟩ := isPrefix_of_byteLines hlines
      have hfirst : dropMark first = first := by
        fun_cases dropMark first with
        | case1 line => exact absurd hrest.symm (hunmarked (line ++ rest))
        | case2 => rfl
      rw [List.modifyHead_cons, hfirst]

/-- **If a file can be decoded as a whole, it can be decoded line by line**, and its
lines are those of the text. Only a file that consists of a byte order mark has a line and
no text. -/
theorem decodeLines_of_decode {bytes : Bytes} {text : Text} (h : decode bytes = .ok text) :
    decodeLines bytes = .ok (if bytes = mark then [[]] else Text.fullLines text) := by
  rw [decodeLines, modifyHead_byteLines]
  split
  · rfl
  · exact mapM_decodeFrom (encodes_of_decodeFrom h).lines

end Utf8

/-- A file that can be decoded is a document, with the tables of its lines. -/
theorem Document.ofBytes_of_lines {bytes : Bytes} {source : Text} {lines : List Text}
    (hsource : Utf8.decode bytes = .ok source) (hlines : Utf8.decodeLines bytes = .ok lines)
    (name path : Text) :
    Document.ofBytes name path bytes = .ok
      { name, path, source := some source,
        tables := Document.tablesOf (Document.rowsFrom 1 lines) } := by
  rw [Document.ofBytes, hsource, hlines]
  rfl

/-- Its tables are also those of the lines of its text. -/
theorem Document.ofBytes_of_decode {bytes : Bytes} {source : Text}
    (h : Utf8.decode bytes = .ok source) (name path : Text) :
    Document.ofBytes name path bytes = .ok
      { name, path, source := some source,
        tables := Document.tablesOf (Document.rowsFrom 1 (Text.fullLines source)) } := by
  rw [Document.ofBytes_of_lines h (Utf8.decodeLines_of_decode h)]
  split
  next hmark =>
    -- the line of a lone mark is blank, and begins no table
    rw [hmark] at h
    obtain rfl : [] = source := Except.ok.inj h
    rfl
  next => rfl

/-- A file that can be decoded is read as the document of its lines. -/
theorem Document.read_eq_of_decode {tree : FileTree} {path : Text} {content : Content}
    {source : Text} (hcontent : tree.content path = .ok content)
    (hsource : Utf8.decode content.bytes = .ok source) :
    Document.read tree path = .ok
      { name := Path.stem path, path := tree.absolute path, source := some source,
        tables := Document.tablesOf (Document.rowsFrom 1 (Text.fullLines source)) } := by
  rw [Document.read, hcontent]
  simp only [Document.ofBytes_of_decode hsource]
  rfl

/-- A file that cannot be decoded is loaded as an empty document, with a complaint. -/
theorem Document.load_of_malformed {tree : FileTree} {path : Text} {content : Content}
    {malformed : Utf8.Malformed} (hcontent : tree.content path = .ok content)
    (hbytes : Utf8.decode content.bytes = .error malformed) :
    load tree path = (empty tree path, complaint path (.malformed malformed)) := by
  unfold load read ofBytes
  rw [hcontent]
  simp only [hbytes]
  rfl

end SuiteLint
