import BulkJobs.Proofs.Text.Coding
import BulkJobs.Proofs.Text.Ends
import BulkJobs.Url.Domain

/-!
# Domain names keep their blanks

A name with a blank or a control character in it is no domain name, however its other characters are
spelled: such a character is spelled as itself, is not part of any composite character
(`putTogether?_of_left`, `putTogether?_of_right`), and so is still there in the composed spelling
(`mem_compose`), where it is forbidden. Percent decoding and reading as UTF-8 do not lose it either
when it stands at the end (`parse_concat`).
-/

set_option autoImplicit false
set_option relaxedAutoImplicit false

namespace BulkJobs.Domain

/-! ### The composite characters -/

/-- Composite characters are beyond ASCII, as are the marks in them, and what they are made of is no
blank. -/
theorem composite_bounds : ∀ row ∈ compositeTable, ∃ whole base mark,
    row = [whole, base, mark] ∧ 0x80 ≤ whole ∧ 0x20 < base ∧ 0x80 ≤ mark := by
  have hall : ∀ row ∈ compositeTable, row.length = 3 ∧ 0x80 ≤ row.getD 0 0 ∧
      0x20 < row.getD 1 0 ∧ 0x80 ≤ row.getD 2 0 := by
    decide +kernel
  intro row hrow
  obtain ⟨hlength, hwhole, hbase, hmark⟩ := hall row hrow
  match row, hlength with
  | [whole, base, mark], _ => exact ⟨whole, base, mark, rfl, hwhole, hbase, hmark⟩

theorem takeApart_of_ascii {c : Char} (hc : c.toNat < 0x80) : takeApart c = [c] := by
  have hkorean : Korean.parts? c.toNat = none := by
    have hlt : c.toNat < Korean.syllable := Nat.lt_trans hc (by decide)
    simp [Korean.parts?, hlt]
  have htable : compositeTable.findSome? (rowParts? c.toNat) = none := by
    rw [List.findSome?_eq_none_iff]
    intro row hrow
    obtain ⟨whole, base, mark, rfl, hwhole, -, -⟩ := composite_bounds row hrow
    have hne : c.toNat ≠ whole := by omega
    simp [rowParts?, hne]
  simp [takeApart, hkorean, htable]

/-- No character is put together with an ASCII character (`hc`) behind it. -/
theorem putTogether?_of_right (base : Char) {c : Char} (hc : c.toNat < 0x80) :
    putTogether? base c = none := by
  have hkorean : Korean.join? base.toNat c.toNat = none := by
    have hvowel : ¬ Korean.vowel ≤ c.toNat := by
      have : (0x80 : Nat) < Korean.vowel := by decide
      omega
    have htrailing : ¬ Korean.trailing < c.toNat := by
      have : (0x80 : Nat) < Korean.trailing := by decide
      omega
    simp [Korean.join?, hvowel, htrailing]
  have htable : compositeTable.findSome? (rowWhole? base.toNat c.toNat) = none := by
    rw [List.findSome?_eq_none_iff]
    intro row hrow
    obtain ⟨whole, b, mark, rfl, -, -, hmark⟩ := composite_bounds row hrow
    have hne : c.toNat ≠ mark := by omega
    simp [rowWhole?, hne]
  simp [putTogether?, hkorean, htable]

/-- A blank (`hc`) is put together with no mark. -/
theorem putTogether?_of_left {c : Char} (hc : c.toNat ≤ 0x20) (mark : Char) :
    putTogether? c mark = none := by
  have hkorean : Korean.join? c.toNat mark.toNat = none := by
    have hleading : ¬ Korean.leading ≤ c.toNat := by
      have : (0x20 : Nat) < Korean.leading := by decide
      omega
    have hsyllable : ¬ Korean.syllable ≤ c.toNat := by
      have : (0x20 : Nat) < Korean.syllable := by decide
      omega
    simp [Korean.join?, hleading, hsyllable]
  have htable : compositeTable.findSome? (rowWhole? c.toNat mark.toNat) = none := by
    rw [List.findSome?_eq_none_iff]
    intro row hrow
    obtain ⟨whole, b, m, rfl, -, hb, -⟩ := composite_bounds row hrow
    have hne : c.toNat ≠ b := by omega
    simp [rowWhole?, hne]
  simp [putTogether?, hkorean, htable]

/-! ### Blanks in the composed spelling -/

theorem mem_decompose {text : List Char} {c : Char} (hc : c.toNat < 0x80) (hmem : c ∈ text) :
    c ∈ decompose text := by
  have hself : c ∈ takeApart c := by simp [takeApart_of_ascii hc]
  have hstep {text : List Char} (h : c ∈ text) : c ∈ text.flatMap takeApart :=
    List.mem_flatMap.mpr ⟨c, h, hself⟩
  exact hstep (hstep (hstep hmem))

theorem sink_perm (c : Char) (text : List Char) : (sink c text).Perm (c :: text) := by
  induction text with
  | nil => rfl
  | cons d text ih =>
    unfold sink
    split_ifs
    · exact (ih.cons d).trans (List.Perm.swap c d text)
    · rfl

theorem orderMarks_perm (text : List Char) : (orderMarks text).Perm text := by
  induction text with
  | nil => rfl
  | cons c text ih => exact (sink_perm c _).trans (ih.cons c)

/-- Putting characters together keeps a character that is put together with none, neither on the
left (`hleft`) nor on the right (`hright`). -/
theorem mem_putTogether {c : Char} (hleft : ∀ mark, putTogether? c mark = none)
    (hright : ∀ base, putTogether? base c = none) (base : Char) (held rest : List Char)
    (hmem : c ∈ base :: held ++ rest) : c ∈ putTogether base held rest := by
  fun_induction putTogether base held rest with
  | case1 base held => simpa using hmem
  | case2 base held d rest isKept whole hwhole ih =>
    have hwhole' : putTogether? base d = some whole := by
      split_ifs at hwhole
      exact hwhole
    have hbase : c ≠ base := by
      rintro rfl
      simp [hleft] at hwhole'
    have hd : c ≠ d := by
      rintro rfl
      simp [hright] at hwhole'
    refine ih ?_
    simp only [List.cons_append, List.mem_cons, List.mem_append, hbase, hd, false_or] at hmem
    simp only [List.cons_append, List.mem_cons, List.mem_append]
    exact Or.inr hmem
  | case3 base held d rest isKept hnone hclass ih =>
    simp only [List.cons_append, List.mem_cons, List.mem_append] at hmem ⊢
    simp only [List.nil_append, List.mem_cons, List.cons_append] at ih
    rcases hmem with hbase | hheld | hrest
    · exact Or.inl hbase
    · exact Or.inr (Or.inl hheld)
    · exact Or.inr (Or.inr (ih hrest))
  | case4 base held d rest isKept hnone hclass ih =>
    exact ih (by simpa using hmem)

/-- A blank of a text is still there in the composed spelling of the text. -/
theorem mem_compose {text : List Char} {c : Char} (hc : c.toNat ≤ 0x20) (hmem : c ∈ text) :
    c ∈ compose text := by
  have hascii : c.toNat < 0x80 := by omega
  have hordered : c ∈ orderMarks (decompose text) :=
    (orderMarks_perm _).mem_iff.mpr (mem_decompose hascii hmem)
  unfold compose
  cases hmarks : orderMarks (decompose text) with
  | nil => simp [hmarks] at hordered
  | cons first rest =>
    refine mem_putTogether (putTogether?_of_left hc) (fun base ↦ putTogether?_of_right base hascii)
      first [] rest ?_
    simpa [hmarks] using hordered

/-! ### Blanks in a name -/

theorem mem_of_mapM_eq_some {α β : Type} {f : α → Option β} {items : List α} {results : List β}
    (h : items.mapM f = some results) {item : α} (hmem : item ∈ items) :
    ∃ result ∈ results, f item = some result := by
  induction items generalizing results with
  | nil => simp at hmem
  | cons first items ih =>
    rw [List.mapM_cons] at h
    obtain ⟨result, hresult, rest, hrest, rfl⟩ : ∃ result, f first = some result ∧
        ∃ rest, items.mapM f = some rest ∧ result :: rest = results := by
      simpa [bind, Option.bind_eq_some_iff] using h
    rcases List.mem_cons.mp hmem with rfl | hmem
    · exact ⟨result, List.mem_cons_self, hresult⟩
    · obtain ⟨other, hother, heq⟩ := ih hrest hmem
      exact ⟨other, List.mem_cons_of_mem _ hother, heq⟩

theorem spell?_of_blank {c : Char} (hc : c.toNat ≤ 0x20) : spell? c = some [c] := by
  have hupper : ¬ 'A' ≤ c := Text.not_le_blank hc (by decide)
  have hascii : c.toNat < 0x80 := by omega
  simp [spell?, hascii, Text.lowerAscii, hupper]

theorem mem_spelling? {text spelled : List Char} {c : Char} (hc : c.toNat ≤ 0x20)
    (hmem : c ∈ text) (h : spelling? text = some spelled) : c ∈ spelled := by
  obtain ⟨parts, hparts, rfl⟩ : ∃ parts, text.mapM spell? = some parts ∧
      compose parts.flatten = spelled := by
    simpa [spelling?, bind, Option.bind_eq_some_iff] using h
  obtain ⟨part, hpart, hspell⟩ := mem_of_mapM_eq_some hparts hmem
  rw [spell?_of_blank hc] at hspell
  refine mem_compose hc (List.mem_flatten.mpr ⟨part, hpart, ?_⟩)
  simp [← Option.some.inj hspell]

/-- A name with a blank has no ASCII form, so it is not the name of a host. -/
theorem toAscii?_of_blank {name : List Char} {c : Char} (hc : c.toNat ≤ 0x20) (hmem : c ∈ name) :
    toAscii? name = none := by
  cases hspelling : spelling? name with
  | none => simp [toAscii?, hspelling]
  | some text =>
    have hforbidden : text.any isForbidden = true := by
      refine List.any_eq_true.mpr ⟨c, mem_spelling? hc hmem hspelling, ?_⟩
      simp [isForbidden, hc]
    rw [toAscii?, hspelling]
    exact if_pos hforbidden

theorem hexValue?_of_blank {c : Char} (hc : c.toNat ≤ 0x20) : Text.hexValue? c = none := by
  have hdigit : ¬ '0' ≤ c := Text.not_le_blank hc (by decide)
  have hlower : ¬ 'a' ≤ c := Text.not_le_blank hc (by decide)
  have hupper : ¬ 'A' ≤ c := Text.not_le_blank hc (by decide)
  simp [Text.hexValue?, Text.isAsciiDigit, hdigit, hlower, hupper]

/-- What is written as a blank at the end of a name is not lost in the name that it denotes, so the
name is none. -/
theorem parse_concat (written : List Char) {c : Char} (hc : c.toNat ≤ 0x20) :
    parse (written ++ [c]) = .error .invalidInternationalName := by
  have hascii : c.toNat < 0x80 := by omega
  have hbyte : UInt8.ofNat c.toNat < 0x80 := by
    rw [UInt8.lt_iff_toNat_lt, UInt8.toNat_ofNat', Nat.mod_eq_of_lt (by omega)]
    exact hascii
  have hencode : Utf8.encode (.ofList (written ++ [c])) =
      Utf8.encode (.ofList written) ++ [UInt8.ofNat c.toNat] := by
    simp [Utf8.encode, Percent.encodeChar_of_ascii hascii]
  have hhex : Text.hexValue? (Char.ofNat (UInt8.ofNat c.toNat).toNat) = none := by
    rw [Percent.ofNat_toNat_ofNat hascii, hexValue?_of_blank hc]
  unfold parse
  rw [hencode, Percent.decode_concat _ hhex]
  cases hread : Utf8.decode? (Percent.decode (Utf8.encode (.ofList written)) ++
      [UInt8.ofNat c.toNat]) with
  | none => rfl
  | some name =>
    have hmem := Utf8.mem_of_decode?_concat hbyte hread
    rw [Percent.ofNat_toNat_ofNat hascii] at hmem
    simp [toAscii?_of_blank hc hmem]

end BulkJobs.Domain
