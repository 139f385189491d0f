import BulkJobs.Csv.Scan
import BulkJobs.Job.Format
import BulkJobs.Proofs.Text.Coding
import Mathlib.Tactic.SplitIfs
import Mathlib.Tactic.Tauto

/-!
# Written CSV data

A table can be written as CSV data in many ways: a field stands in quotes, with its own quotes
doubled, or bare if nothing in it would be taken for structure, and a record ends in either line
ending, the last one perhaps in none. `WritesLines` is the grammar of these ways.

Whatever way was chosen, the scan cuts the records back out (`WritesLines.fields_records`). It is
followed through the bytes of one field after another: `Scans` says that some bytes lead the scan
from one mode and record to another and emit nothing. A field is scanned as its own bytes
(`WritesField.scans`), so a record is scanned as its fields (`WritesRecord.scans`); where its line
ends it is emitted, and the next one starts afresh (`WritesLine.records_ending`).
-/

set_option autoImplicit false
set_option relaxedAutoImplicit false

namespace BulkJobs

def ColumnDelimiter.char (delimiter : ColumnDelimiter) : Char :=
  Char.ofNat delimiter.byte.toNat

namespace Csv

/-! ### Ways to write a table -/

def doubleQuotes (text : List Char) : List Char :=
  text.flatMap fun c ↦ if c = '"' then ['"', '"'] else [c]

/-- Whether a character may stand in a field that is not quoted: it is no delimiter, no quote and no
line break. -/
def IsBare (delimiter c : Char) : Prop :=
  c ≠ delimiter ∧ c ≠ '"' ∧ c ≠ '\r' ∧ c ≠ '\n' ∧ c ≠ '\uFEFF'

instance (delimiter c : Char) : Decidable (IsBare delimiter c) :=
  inferInstanceAs (Decidable (_ ∧ _ ∧ _ ∧ _ ∧ _))

/-- Whether a text is a way to write a field: bare, or in quotes with every quote doubled. -/
inductive WritesField (delimiter : Char) (field : String) : List Char → Prop where
  | quoted : WritesField delimiter field ('"' :: (doubleQuotes field.toList ++ ['"']))
  | bare : (∀ c ∈ field.toList, IsBare delimiter c) → WritesField delimiter field field.toList

/-- Whether a text is a way to write the fields of a record, with delimiters between them. -/
inductive WritesRecord (delimiter : Char) : List String → List Char → Prop where
  | last {field : String} {text : List Char} : WritesField delimiter field text →
      WritesRecord delimiter [field] text
  | more {field : String} {fields : List String} {text rest : List Char} :
      WritesField delimiter field text → WritesRecord delimiter fields rest →
      WritesRecord delimiter (field :: fields) (text ++ delimiter :: rest)

/-- Whether a text is a way to write a record on lines of its own. A single field that is empty must
not be bare: the line would be empty and count as no record. -/
structure WritesLine (delimiter : Char) (fields : List String) (text : List Char) : Prop where
  record : WritesRecord delimiter fields text
  visible : fields.length = 1 → text ≠ []

/-- Whether a text is a way to write records one after another, where the last one may lack its line
ending. -/
inductive WritesLines (delimiter : Char) : List (List String) → List Char → Prop where
  | nil : WritesLines delimiter [] []
  | unended {fields : List String} {text : List Char} : WritesLine delimiter fields text →
      WritesLines delimiter [fields] text
  | ended {fields : List String} {rows : List (List String)} {text rest : List Char}
      (ending : LineEnding) : WritesLine delimiter fields text →
      WritesLines delimiter rows rest →
      WritesLines delimiter (fields :: rows) (text ++ ending.text.toList ++ rest)

theorem WritesLine.ne_nil {delimiter : Char} {fields : List String} {text : List Char}
    (h : WritesLine delimiter fields text) : text ≠ [] := by
  cases h.record with
  | last hfield => exact h.visible rfl
  | more hfield hrest => simp

theorem WritesLines.eq_nil_iff {delimiter : Char} {rows : List (List String)} {text : List Char}
    (h : WritesLines delimiter rows text) : rows = [] ↔ text = [] := by
  cases h with
  | nil => simp
  | unended hline => simp [hline.ne_nil]
  | ended ending hline hrest => simp [hline.ne_nil]

/-! ### Bytes without a meaning of their own -/

/-- Whether a byte means nothing to the scan outside quotes, so that it goes to the open field. -/
def IsPlainByte (delimiter b : UInt8) : Prop :=
  b ≠ delimiter ∧ b ≠ quote ∧ isTerminator b = false

theorem isPlainByte_of_isBare {delimiter : ColumnDelimiter} {c : Char}
    (hc : IsBare delimiter.char c) {b : UInt8} (hb : b ∈ String.utf8EncodeChar c) :
    IsPlainByte delimiter.byte b := by
  obtain ⟨hdelimiter, hquote, hreturn, hfeed, -⟩ := hc
  have hne : ∀ b', b' < 0x80 → c ≠ Char.ofNat b'.toNat → b ≠ b' := by
    rintro b' hascii hother rfl
    exact hother (Percent.eq_ofNat_of_mem_utf8EncodeChar hb hascii)
  refine ⟨hne _ (by cases delimiter <;> decide) hdelimiter, hne _ (by decide) hquote, ?_⟩
  have hnot : b ≠ 0x0A ∧ b ≠ 0x0D := ⟨hne _ (by decide) hfeed, hne _ (by decide) hreturn⟩
  simp [isTerminator, hnot]

theorem delimiter_byte_facts (delimiter : ColumnDelimiter) : delimiter.byte ≠ quote ∧
    isTerminator delimiter.byte = false ∧
    String.utf8EncodeChar delimiter.char = [delimiter.byte] := by
  cases delimiter <;> decide

/-! ### Leading the scan on -/

def Partial.pushAll (read : Partial) (bytes : Octets) : Partial :=
  { read with field := bytes.reverse ++ read.field }

theorem Partial.push_pushAll (read : Partial) (b : UInt8) (bytes : Octets) :
    (read.push b).pushAll bytes = read.pushAll (b :: bytes) := by
  simp [Partial.push, Partial.pushAll]

theorem Partial.pushAll_append (read : Partial) (first second : Octets) :
    (read.pushAll first).pushAll second = read.pushAll (first ++ second) := by
  simp [Partial.pushAll]

/-- Whether some bytes lead the scan from one mode and record to another, with nothing emitted on
the way. -/
def Scans (delimiter : UInt8) (mode : Mode) (read : Partial) (bytes : Octets) (mode' : Mode)
    (read' : Partial) : Prop :=
  ∀ start here rest, ∃ here', records delimiter start here mode read (bytes ++ rest) =
    records delimiter start here' mode' read' rest

namespace Scans

variable {delimiter : UInt8} {mode mode' mode'' : Mode} {read read' read'' : Partial}

theorem nil : Scans delimiter mode read [] mode read :=
  fun _ here _ ↦ ⟨here, rfl⟩

theorem single {b : UInt8} (hmove : move delimiter b mode read = .goOn mode' read') :
    Scans delimiter mode read [b] mode' read' := by
  intro start here rest
  refine ⟨here.after b, ?_⟩
  rw [List.singleton_append, records]
  simp only [hmove]

theorem trans {first second : Octets} (hfirst : Scans delimiter mode read first mode' read')
    (hsecond : Scans delimiter mode' read' second mode'' read'') :
    Scans delimiter mode read (first ++ second) mode'' read'' := by
  intro start here rest
  obtain ⟨here', heq⟩ := hfirst start here (second ++ rest)
  obtain ⟨here'', heq'⟩ := hsecond start here' rest
  exact ⟨here'', by rw [List.append_assoc, heq, heq']⟩

/-- Bytes that go to the open field one by one (`hmove`) go there together, and the scan stays in
its mode. -/
theorem pushAll {bytes : Octets}
    (hmove : ∀ b ∈ bytes, ∀ read, move delimiter b mode read = .goOn mode (read.push b))
    (read : Partial) : Scans delimiter mode read bytes mode (read.pushAll bytes) := by
  induction bytes generalizing read with
  | nil => exact nil
  | cons b bytes ih =>
    rw [← Partial.push_pushAll]
    exact (single (hmove b (.head _) read)).trans
      (ih (fun b' hb' ↦ hmove b' (.tail _ hb')) (read.push b))

end Scans

/-! ### Fields -/

section Fields

variable {delimiter : ColumnDelimiter} {mode : Mode} {read : Partial}

theorem move_plain {b : UInt8} (hb : IsPlainByte delimiter.byte b)
    (hmode : mode = .recordStart ∨ mode = .fieldStart ∨ mode = .bare) (read : Partial) :
    move delimiter.byte b mode read = .goOn .bare (read.push b) := by
  obtain ⟨hdelimiter, hquote, hterminator⟩ := hb
  rcases hmode with rfl | rfl | rfl <;> simp [move, moveBare, hdelimiter, hquote, hterminator]

/-- Plain bytes (`hbytes`) at the start of a field are bare: they go to the field, and the scan
stays outside quotes. -/
theorem scans_plain {bytes : Octets} (hbytes : ∀ b ∈ bytes, IsPlainByte delimiter.byte b)
    (hmode : mode = .recordStart ∨ mode = .fieldStart) (read : Partial) : ∃ mode',
      Scans delimiter.byte mode read bytes mode' (read.pushAll bytes) ∧
        (mode' = .bare ∨ bytes = [] ∧ mode' = mode) := by
  cases bytes with
  | nil => exact ⟨mode, .nil, .inr ⟨rfl, rfl⟩⟩
  | cons b bytes =>
    have hfirst := move_plain (hbytes b (.head _)) (by tauto : _ ∨ _ ∨ mode = .bare) read
    refine ⟨.bare, ?_, .inl rfl⟩
    rw [← Partial.push_pushAll]
    exact (Scans.single hfirst).trans
      (.pushAll (fun b' hb' ↦ move_plain (hbytes b' (.tail _ hb')) (.inr (.inr rfl))) _)

/-- Inside quotes, a text with its quotes doubled is read as the text, and the scan stays inside. -/
theorem scans_doubleQuotes (text : List Char) (read : Partial) :
    Scans delimiter.byte .quoted read ((doubleQuotes text).flatMap String.utf8EncodeChar) .quoted
      (read.pushAll (text.flatMap String.utf8EncodeChar)) := by
  induction text generalizing read with
  | nil => exact .nil
  | cons c text ih =>
    have hchar : Scans delimiter.byte .quoted read
        ((if c = '"' then ['"', '"'] else [c]).flatMap String.utf8EncodeChar) .quoted
        (read.pushAll (String.utf8EncodeChar c)) := by
      split_ifs with hquote
      · subst hquote
        have hopen : move delimiter.byte quote .quoted read = .goOn .quoteSeen read := by
          simp [move]
        have hclose : move delimiter.byte quote .quoteSeen read =
            .goOn .quoted (read.push quote) := by
          simp [move]
        exact (Scans.single hopen).trans (Scans.single hclose)
      · have hmove : ∀ b ∈ String.utf8EncodeChar c, ∀ read,
            move delimiter.byte b .quoted read = .goOn .quoted (read.push b) := by
          intro b hb read
          have hb' : b ≠ quote := by
            rintro rfl
            exact hquote (Percent.eq_ofNat_of_mem_utf8EncodeChar hb (by decide))
          simp [move, hb']
        rw [List.flatMap_singleton]
        exact .pushAll hmove read
    have htext := hchar.trans (ih (read.pushAll (String.utf8EncodeChar c)))
    rw [Partial.pushAll_append] at htext
    simpa only [doubleQuotes, List.flatMap_cons, List.flatMap_append] using htext

/-- A written field is read as the field. Only a bare field that is empty leaves the scan where it
was. -/
theorem WritesField.scans {field : String} {text : List Char}
    (h : WritesField delimiter.char field text) (hmode : mode = .recordStart ∨ mode = .fieldStart)
    (read : Partial) : ∃ mode',
      Scans delimiter.byte mode read (text.flatMap String.utf8EncodeChar) mode'
          (read.pushAll (Utf8.encode field)) ∧
        mode' ≠ .quoted ∧ (mode' = .recordStart → text = [] ∧ mode = .recordStart) := by
  cases h with
  | quoted =>
    have hopen : move delimiter.byte quote mode read = .goOn .quoted read := by
      rcases hmode with rfl | rfl <;> simp [move, quote, isTerminator]
    have hclose : ∀ read, move delimiter.byte quote .quoted read = .goOn .quoteSeen read := by
      intro read
      simp [move]
    have hfield := ((Scans.single hopen).trans (scans_doubleQuotes field.toList read)).trans
      (Scans.single (hclose _))
    refine ⟨.quoteSeen, ?_, by simp, by simp⟩
    rw [List.flatMap_cons, List.flatMap_append, ← List.append_assoc]
    exact hfield
  | bare hbare =>
    have hbytes : ∀ b ∈ field.toList.flatMap String.utf8EncodeChar,
        IsPlainByte delimiter.byte b := by
      intro b hb
      obtain ⟨c, hc, hb⟩ := List.mem_flatMap.mp hb
      exact isPlainByte_of_isBare (hbare c hc) hb
    obtain ⟨mode', hscans, hmode'⟩ := scans_plain hbytes hmode read
    refine ⟨mode', hscans, ?_, ?_⟩
    · rcases hmode' with rfl | ⟨-, rfl⟩
      · simp
      · rcases hmode with rfl | rfl <;> simp
    · rintro rfl
      rcases hmode' with h | ⟨hnil, rfl⟩
      · simp at h
      · refine ⟨?_, rfl⟩
        have hempty : Utf8.encode field = Utf8.encode "" := hnil
        rw [Utf8.encode_injective hempty]
        rfl

/-! ### Records -/

/-- A written record is read as its fields: all but the last are closed, and that one is open in the
end. -/
theorem WritesRecord.scans {fields : List String} {text : List Char}
    (h : WritesRecord delimiter.char fields text)
    (hmode : mode = .recordStart ∨ mode = .fieldStart) (before : List Octets) : ∃ mode' read',
      Scans delimiter.byte mode ⟨[], before⟩ (text.flatMap String.utf8EncodeChar) mode' read' ∧
        read'.finish = before.reverse ++ fields.map Utf8.encode ∧
        mode' ≠ .quoted ∧ (mode' = .recordStart → text = [] ∧ mode = .recordStart) := by
  induction h generalizing mode before with
  | @last field text hfield =>
    obtain ⟨mode', hscans, hquoted, hstart⟩ := hfield.scans hmode ⟨[], before⟩
    refine ⟨mode', _, hscans, ?_, hquoted, hstart⟩
    simp [Partial.finish, Partial.pushAll]
  | @more field fields text rest hfield hrest ih =>
    obtain ⟨mode', hscans, hquoted, -⟩ := hfield.scans hmode ⟨[], before⟩
    obtain ⟨hquote, hterminator, hbyte⟩ := delimiter_byte_facts delimiter
    have hmove : ∀ read, move delimiter.byte delimiter.byte mode' read =
        .goOn .fieldStart read.next := by
      intro read
      cases mode' with
      | quoted => exact absurd rfl hquoted
      | recordStart | fieldStart | bare | quoteSeen => simp [move, moveBare, hquote, hterminator]
    obtain ⟨mode'', read'', hscans', hfinish, hquoted', hstart'⟩ :=
      ih (.inr rfl) (Utf8.encode field :: before)
    have hnext : (Partial.pushAll ⟨[], before⟩ (Utf8.encode field)).next =
        ⟨[], Utf8.encode field :: before⟩ := by
      simp [Partial.next, Partial.pushAll]
    refine ⟨mode'', read'', ?_, by simpa using hfinish, hquoted', fun h ↦ ?_⟩
    · rw [List.flatMap_append, List.flatMap_cons, hbyte]
      refine hscans.trans (Scans.trans (Scans.single (hmove _)) ?_)
      rw [hnext]
      exact hscans'
    · exact absurd (hstart' h).2 (by simp)

end Fields

/-! ### Lines -/

section Lines

variable {delimiter : ColumnDelimiter}

/-- The scan of a line stands in its last field, where a line ending or the end of the data emits
the record. -/
theorem WritesLine.scans {fields : List String} {text : List Char}
    (h : WritesLine delimiter.char fields text) : ∃ mode read,
      Scans delimiter.byte .recordStart .empty (text.flatMap String.utf8EncodeChar) mode read ∧
        read.finish = fields.map Utf8.encode ∧ mode ≠ .quoted ∧ mode ≠ .recordStart := by
  obtain ⟨mode, read, hscans, hfinish, hquoted, hstart⟩ := h.record.scans (.inl rfl) []
  exact ⟨mode, read, hscans, by simpa using hfinish, hquoted, fun h' ↦ h.ne_nil (hstart h').1⟩

theorem WritesLine.records_end {fields : List String} {text : List Char}
    (h : WritesLine delimiter.char fields text) (start here : Spot) :
    records delimiter.byte start here .recordStart .empty (text.flatMap String.utf8EncodeChar) =
      [⟨start, fields.map Utf8.encode⟩] := by
  obtain ⟨mode, read, hscans, hfinish, -, hstart⟩ := h.scans
  obtain ⟨here', heq⟩ := hscans start here []
  rw [List.append_nil] at heq
  rw [heq, records, if_neg hstart, hfinish]

/-- Where a line ends, with either line ending, its record is emitted and the scan starts afresh
behind it. -/
theorem WritesLine.records_ending {fields : List String} {text : List Char}
    (h : WritesLine delimiter.char fields text) (ending : LineEnding) (start here : Spot)
    (rest : Octets) : ∃ start' here', records delimiter.byte start here .recordStart .empty
        ((text ++ ending.text.toList).flatMap String.utf8EncodeChar ++ rest) =
      ⟨start, fields.map Utf8.encode⟩ ::
        records delimiter.byte start' here' .recordStart .empty rest := by
  obtain ⟨mode, read, hscans, hfinish, hquoted, hstart⟩ := h.scans
  have hemit : ∀ b, isTerminator b = true → b ≠ delimiter.byte → b ≠ quote →
      move delimiter.byte b mode read = .emit read.finish := by
    intro b hb hdelimiter hquote
    cases mode with
    | quoted => exact absurd rfl hquoted
    | recordStart => exact absurd rfl hstart
    | fieldStart | bare | quoteSeen => simp [move, moveBare, hb, hdelimiter, hquote]
  have hne : ∀ b, isTerminator b = true → b ≠ delimiter.byte := by
    rintro b hb rfl
    rw [(delimiter_byte_facts delimiter).2.1] at hb
    cases hb
  cases ending with
  | lf =>
    have hbytes : (text ++ LineEnding.lf.text.toList).flatMap String.utf8EncodeChar ++ rest =
        text.flatMap String.utf8EncodeChar ++ 0x0A :: rest := by
      rw [List.flatMap_append, List.append_assoc]
      rfl
    obtain ⟨here', heq⟩ := hscans start here (0x0A :: rest)
    refine ⟨here'.after 0x0A, here'.after 0x0A, ?_⟩
    rw [hbytes, heq, records, hemit 0x0A rfl (hne _ rfl) (by decide), hfinish]
  | crlf =>
    have hbytes : (text ++ LineEnding.crlf.text.toList).flatMap String.utf8EncodeChar ++ rest =
        text.flatMap String.utf8EncodeChar ++ 0x0D :: 0x0A :: rest := by
      rw [List.flatMap_append, List.append_assoc]
      rfl
    have hskip : move delimiter.byte 0x0A .recordStart .empty = .goOn .recordStart .empty := by
      simp [move, isTerminator]
    obtain ⟨here', heq⟩ := hscans start here (0x0D :: 0x0A :: rest)
    refine ⟨here'.after 0x0D, (here'.after 0x0D).after 0x0A, ?_⟩
    rw [hbytes, heq, records, hemit 0x0D rfl (hne _ rfl) (by decide), hfinish]
    simp only
    rw [records, hskip]

/-- Written records are cut back out of the text, however they were written: in whatever way each
field is quoted, and with whichever line endings. -/
theorem WritesLines.fields_records {rows : List (List String)} {text : List Char}
    (h : WritesLines delimiter.char rows text) (start here : Spot) :
    (records delimiter.byte start here .recordStart .empty
      (text.flatMap String.utf8EncodeChar)).map (·.fields) = rows.map (·.map Utf8.encode) := by
  induction h generalizing start here with
  | nil => simp [records]
  | unended hline => rw [hline.records_end start here]; rfl
  | @ended fields rows text rest ending hline hrest ih =>
    obtain ⟨start', here', heq⟩ :=
      hline.records_ending ending start here (rest.flatMap String.utf8EncodeChar)
    rw [List.flatMap_append, heq, List.map_cons, ih start' here', List.map_cons]

end Lines

end Csv

end BulkJobs
