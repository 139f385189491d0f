import BulkJobs.Proofs.Csv.Written
import BulkJobs.Results.Pages
import BulkJobs.Results.ResultSet
import Mathlib.Data.List.TakeWhile

/-!
# Joined pages make one table

A page of results is its header and its rows, written in any way (`IsPage`). Reading a page gives
the header and the rows (`IsPage.parse`). Joining another page to a page gives a page again, with
the rows of both (`IsPage.appendPage`): no name in the header holds a line break, so the first line
break ends the header (`afterFirstLine_line`), and what has no line ending at its end gets one
before more lines are put behind it (`WritesLines.append`). So however many pages are joined, the
text is one page with all their rows, and read as that (`parse_joinPages`).
-/

set_option autoImplicit false
set_option relaxedAutoImplicit false

namespace BulkJobs

open Csv (WritesField WritesRecord WritesLine WritesLines)

/-- Whether a text is a page with a header and rows as wide as the header, written in any of the
ways of `WritesLines`. -/
structure IsPage (delimiter : ColumnDelimiter) (header : List String) (rows : List (List String))
    (page : String) : Prop where
  lines : WritesLines delimiter.char (header :: rows) page.toList
  widths : ∀ row ∈ rows, row.length = header.length

/-! ### Reading a page -/

namespace ResultSet

theorem decodeFields_encode (place : Csv.Place) (index : Nat) (fields : List String) :
    decodeFields place index (fields.map Utf8.encode) = .ok fields := by
  induction fields generalizing index with
  | nil => rfl
  | cons field fields ih =>
    rw [List.map_cons, decodeFields, Utf8.decode?_encode]
    simp only [ih]
    rfl

theorem decodeRows_encode {width : Nat} {rows : List (List String)}
    (hwidths : ∀ row ∈ rows, row.length = width) {records : List Csv.Record}
    (hrecords : records.map (·.fields) = rows.map (·.map Utf8.encode)) (number : Nat) :
    decodeRows width number records = .ok rows := by
  induction records generalizing rows number with
  | nil =>
    obtain rfl : rows = [] := by simpa using hrecords.symm
    rfl
  | cons record records ih =>
    cases rows with
    | nil => simp at hrecords
    | cons row rows =>
      have hrecord : record.fields = row.map Utf8.encode := (List.cons.inj hrecords).1
      have hrest := (List.cons.inj hrecords).2
      have hwidth : record.fields.length = width := by
        rw [hrecord, List.length_map, hwidths row (.head _)]
      have hrow : ∀ place, decodeFields place 0 record.fields = .ok row := by
        intro place
        rw [hrecord, decodeFields_encode]
      have hrows := ih (fun row hrow ↦ hwidths row (.tail _ hrow)) hrest (number + 1)
      rw [decodeRows]
      simp only [hwidth, ne_eq, not_true, if_false, hrow, hrows]
      rfl

end ResultSet

/-- The first character of a written table is no byte order mark. -/
theorem Csv.WritesLines.head_ne_mark {delimiter : ColumnDelimiter} {rows : List (List String)}
    {text : List Char} (h : WritesLines delimiter.char rows text) : text.head? ≠ some '\uFEFF' := by
  have hdelimiter : delimiter.char ≠ '\uFEFF' := by cases delimiter <;> decide
  have hfield : ∀ {field text}, WritesField delimiter.char field text →
      text.head? ≠ some '\uFEFF' := by
    rintro field text (_ | hbare)
    · simp
    · intro hhead
      exact (hbare _ (List.mem_of_mem_head? hhead)).2.2.2.2 rfl
  have hline : ∀ {fields text}, WritesLine delimiter.char fields text →
      text.head? ≠ some '\uFEFF' := by
    intro fields text hline
    cases hline.record with
    | last hlast => exact hfield hlast
    | @more field fields text rest hfirst hrest =>
      cases text with
      | nil => simpa using hdelimiter
      | cons c text => simpa using hfield hfirst
  cases h with
  | nil => simp
  | unended hlast => exact hline hlast
  | @ended fields rows text rest ending hfirst hrest =>
    cases text with
    | nil => exact absurd rfl hfirst.ne_nil
    | cons c text => simpa using hline hfirst

theorem Csv.skipMark_encode {text : List Char} (hmark : text.head? ≠ some '\uFEFF') :
    skipMark (text.flatMap String.utf8EncodeChar) = (text.flatMap String.utf8EncodeChar, 0) := by
  unfold skipMark
  split
  · rename_i bytes heq
    -- The text and the mark at its front are read as the same characters.
    have hread : Utf8.scan none (text.flatMap String.utf8EncodeChar ++ []) =
        .scalar '\uFEFF' :: Utf8.scan none bytes := by
      rw [List.append_nil, heq]
      exact Utf8.scan_encodeChar '\uFEFF' bytes
    rw [Utf8.scan_encode] at hread
    cases text with
    | nil => simp [Utf8.scan] at hread
    | cons c text =>
      simp only [List.map_cons, List.cons_append, List.cons.injEq, Utf8.Piece.scalar.injEq] at hread
      rw [hread.1] at hmark
      exact absurd rfl hmark
  · rfl

/-- Reading a page (`h`) gives its header and its rows, however it is written. -/
theorem IsPage.parse {delimiter : ColumnDelimiter} {header : List String}
    {rows : List (List String)} {page : String} (h : IsPage delimiter header rows page) :
    ResultSet.parse (Utf8.encode page) delimiter = .ok { headers := header, rows } := by
  have hscan : (Csv.scan delimiter.byte (Utf8.encode page)).map (·.fields) =
      (header :: rows).map (·.map Utf8.encode) := by
    unfold Csv.scan Utf8.encode
    rw [Csv.skipMark_encode h.lines.head_ne_mark]
    exact h.lines.fields_records _ _
  unfold ResultSet.parse
  cases hrecords : Csv.scan delimiter.byte (Utf8.encode page) with
  | nil => simp [hrecords] at hscan
  | cons first records =>
    rw [hrecords] at hscan
    have hfirst : first.fields = header.map Utf8.encode := (List.cons.inj hscan).1
    have hrest := (List.cons.inj hscan).2
    have hheader : ∀ place, ResultSet.decodeFields place 0 first.fields = .ok header := by
      intro place
      rw [hfirst, ResultSet.decodeFields_encode]
    have hrows : ResultSet.decodeRows first.fields.length 1 records = .ok rows := by
      refine ResultSet.decodeRows_encode (fun row hrow ↦ ?_) hrest 1
      rw [hfirst, List.length_map, h.widths row hrow]
    simp only [hheader, hrows]
    rfl

/-! ### Putting lines behind one another -/

/-- The line break that a text needs before more lines are put behind it. -/
def lineBreakAfter (text : List Char) : List Char :=
  if text.getLast? = some '\n' then [] else ['\n']

theorem Csv.WritesField.getLast?_ne {delimiter : Char} {field : String} {text : List Char}
    (h : WritesField delimiter field text) : text.getLast? ≠ some '\n' := by
  cases h with
  | quoted =>
    rw [List.getLast?_cons, List.getLast?_append]
    simp
  | bare hbare =>
    intro hlast
    exact (hbare _ (List.mem_of_getLast? hlast)).2.2.2.1 rfl

theorem Csv.WritesRecord.getLast?_ne {delimiter : ColumnDelimiter} {fields : List String}
    {text : List Char} (h : WritesRecord delimiter.char fields text) :
    text.getLast? ≠ some '\n' := by
  have hdelimiter : delimiter.char ≠ '\n' := by cases delimiter <;> decide
  induction h with
  | last hfield => exact hfield.getLast?_ne
  | @more field fields text rest hfield hrest ih =>
    rw [List.getLast?_append, List.getLast?_cons]
    cases hlast : rest.getLast? with
    | none => simpa using hdelimiter
    | some c => simpa [hlast] using ih

theorem Csv.WritesLines.append {delimiter : ColumnDelimiter} {rows more : List (List String)}
    {text rest : List Char} (h : WritesLines delimiter.char rows text) (hrows : rows ≠ [])
    (hrest : WritesLines delimiter.char more rest) :
    WritesLines delimiter.char (rows ++ more) (text ++ lineBreakAfter text ++ rest) := by
  induction h with
  | nil => exact absurd rfl hrows
  | @unended fields text hline =>
    rw [lineBreakAfter, if_neg hline.record.getLast?_ne]
    exact .ended .lf hline hrest
  | @ended fields rows text after ending hline hafter ih =>
    by_cases hlast : rows = []
    · obtain rfl : after = [] := hafter.eq_nil_iff.mp hlast
      have hbreak : lineBreakAfter (text ++ ending.text.toList ++ []) = [] := by
        rw [lineBreakAfter, if_pos]
        cases ending <;> simp [LineEnding.text]
      rw [hbreak, hlast, List.append_nil, List.append_nil]
      exact .ended ending hline hrest
    · have hafter' : after ≠ [] := mt hafter.eq_nil_iff.mpr hlast
      have hbreak : lineBreakAfter (text ++ ending.text.toList ++ after) =
          lineBreakAfter after := by
        unfold lineBreakAfter
        rw [List.getLast?_append, List.getLast?_eq_some_getLast hafter', Option.some_or]
      have hjoined := WritesLines.ended ending hline (ih hlast)
      rw [hbreak]
      simpa only [List.append_assoc, List.cons_append] using hjoined

/-! ### Joining pages -/

theorem Csv.WritesRecord.feed_notMem {delimiter : ColumnDelimiter} {fields : List String}
    {text : List Char} (h : WritesRecord delimiter.char fields text)
    (hfields : ∀ field ∈ fields, '\n' ∉ field.toList) : '\n' ∉ text := by
  have hdelimiter : delimiter.char ≠ '\n' := by cases delimiter <;> decide
  have hfield : ∀ {field text}, WritesField delimiter.char field text → '\n' ∉ field.toList →
      '\n' ∉ text := by
    rintro field text (_ | hbare) hclean
    · simp only [doubleQuotes, List.mem_cons, List.mem_append, List.mem_flatMap, not_or, not_exists,
        not_and]
      refine ⟨by decide, fun c hc ↦ ?_, by simp⟩
      split_ifs
      · simp
      · rw [List.mem_singleton]
        rintro rfl
        exact hclean hc
    · exact hclean
  induction h with
  | last hlast => exact hfield hlast (hfields _ (.head _))
  | more hfirst hrest ih =>
    simp only [List.mem_append, List.mem_cons, not_or]
    exact ⟨hfield hfirst (hfields _ (.head _)), hdelimiter.symm,
      ih fun field h ↦ hfields field (.tail _ h)⟩

theorem afterFirstLine_line {line : List Char} (hline : '\n' ∉ line) (ending : LineEnding)
    (rest : List Char) : afterFirstLine (line ++ ending.text.toList ++ rest) = rest := by
  have hbefore : ∀ c ∈ line, (c != '\n') = true := by
    rintro c hc
    rw [bne_iff_ne]
    rintro rfl
    exact hline hc
  unfold afterFirstLine
  rw [List.append_assoc, List.dropWhile_append_of_pos hbefore]
  cases ending <;> simp [LineEnding.text]

theorem afterFirstLine_of_notMem {text : List Char} (htext : '\n' ∉ text) :
    afterFirstLine text = [] := by
  have hall : ∀ c ∈ text, (c != '\n') = true := by
    rintro c hc
    rw [bne_iff_ne]
    rintro rfl
    exact htext hc
  rw [afterFirstLine, List.dropWhile_eq_nil_iff.mpr hall, List.drop_nil]

section Pages

variable {delimiter : ColumnDelimiter} {header : List String} {rows more : List (List String)}
  {joined page : String}

/-- Behind its first line, a page (`h`) has its rows, as no name in its header has a line break
(`hheader`). -/
theorem IsPage.rows_afterFirstLine (h : IsPage delimiter header rows page)
    (hheader : ∀ name ∈ header, '\n' ∉ name.toList) :
    WritesLines delimiter.char rows (afterFirstLine page.toList) := by
  obtain ⟨hlines, -⟩ := h
  generalize page.toList = text at hlines
  cases hlines with
  | unended hline =>
    rw [afterFirstLine_of_notMem (hline.record.feed_notMem hheader)]
    exact .nil
  | ended ending hline hrest =>
    rw [afterFirstLine_line (hline.record.feed_notMem hheader)]
    exact hrest

theorem IsPage.ne_empty (h : IsPage delimiter header rows page) : page.isEmpty = false := by
  have htext : page.toList ≠ [] := mt h.lines.eq_nil_iff.mpr (by simp)
  rw [← Bool.not_eq_true, String.isEmpty_iff]
  rintro rfl
  exact htext rfl

/-- Joining a page (`hpage`) to a page with the same header (`h`) gives a page with the rows of
both. -/
theorem IsPage.appendPage (h : IsPage delimiter header rows joined)
    (hpage : IsPage delimiter header more page) (hheader : ∀ name ∈ header, '\n' ∉ name.toList) :
    IsPage delimiter header (rows ++ more) (appendPage joined page) := by
  have hwidths : ∀ row ∈ rows ++ more, row.length = header.length := by
    intro row hrow
    rcases List.mem_append.mp hrow with hrow | hrow
    · exact h.widths row hrow
    · exact hpage.widths row hrow
  have hmore := hpage.rows_afterFirstLine hheader
  unfold BulkJobs.appendPage
  rw [if_neg (by simp [h.ne_empty])]
  cases hbody : afterFirstLine page.toList with
  | nil =>
    rw [hbody] at hmore
    obtain rfl : more = [] := hmore.eq_nil_iff.mpr rfl
    rw [List.append_nil]
    exact h
  | cons c body =>
    rw [hbody] at hmore
    have htext : (joined ++ (if joined.toList.getLast? == some '\n' then "" else "\n") ++
        .ofList (c :: body)).toList =
          joined.toList ++ lineBreakAfter joined.toList ++ c :: body := by
      rw [String.toList_append, String.toList_append, String.toList_ofList, lineBreakAfter]
      by_cases hlast : joined.toList.getLast? = some '\n' <;> simp [hlast]
    refine ⟨?_, hwidths⟩
    simp only
    rw [htext]
    exact h.lines.append (by simp) hmore

/-- Joining pages (`hpages`) to a page gives a page with the rows of all. The induction is on the
pages. -/
theorem IsPage.foldl_appendPage (h : IsPage delimiter header rows joined)
    (hheader : ∀ name ∈ header, '\n' ∉ name.toList) {pages : List (String × List (List String))}
    (hpages : ∀ page ∈ pages, IsPage delimiter header page.2 page.1) :
    IsPage delimiter header (rows ++ pages.flatMap (·.2))
      ((pages.map (·.1)).foldl BulkJobs.appendPage joined) := by
  induction pages generalizing rows joined with
  | nil => simpa using h
  | cons page pages ih =>
    have hnext := h.appendPage (hpages page (.head _)) hheader
    have hall := ih hnext fun page hpage ↦ hpages page (.tail _ hpage)
    rw [List.flatMap_cons, ← List.append_assoc]
    exact hall

end Pages

/-- Reading joined pages (`hpages`) gives the header that they share and the rows of all pages in
order, however each page was written, if no name in the header has a line break (`hheader`). -/
theorem parse_joinPages (delimiter : ColumnDelimiter) {header : List String}
    (hheader : ∀ name ∈ header, '\n' ∉ name.toList)
    {pages : List (String × List (List String))} (hsome : pages ≠ [])
    (hpages : ∀ page ∈ pages, IsPage delimiter header page.2 page.1) :
    ResultSet.parse (Utf8.encode (joinPages (pages.map (·.1)))) delimiter =
      .ok { headers := header, rows := pages.flatMap (·.2) } := by
  cases pages with
  | nil => exact absurd rfl hsome
  | cons first pages =>
    have hfirst := hpages first (.head _)
    have hjoined := hfirst.foldl_appendPage hheader fun page hpage ↦ hpages page (.tail _ hpage)
    have hstart : appendPage "" first.1 = first.1 := rfl
    rw [joinPages, List.map_cons, List.foldl_cons, hstart, List.flatMap_cons]
    exact hjoined.parse

/-- Two pages: one with a line break inside a field and no line ending at its end, one with other
quotes and other line endings. -/
def samplePages : List (String × List (List String)) :=
  [("Id;Name\r\n1;\"a\nb\"", [["1", "a\nb"]]),
    ("\"Id\";Name\n\"\";\"x;\"\"y\"\"\"\n", [["", "x;\"y\""]])]

theorem parse_joinPages_sample : (∀ name ∈ ["Id", "Name"], '\n' ∉ name.toList) ∧
    samplePages ≠ [] ∧
    (∀ page ∈ samplePages, IsPage .semicolon ["Id", "Name"] page.2 page.1) ∧
    ResultSet.parse (Utf8.encode (joinPages (samplePages.map (·.1)))) .semicolon =
      .ok { headers := ["Id", "Name"], rows := [["1", "a\nb"], ["", "x;\"y\""]] } := by
  have hheader : ∀ name ∈ ["Id", "Name"], '\n' ∉ name.toList := by decide
  have hfirst : IsPage .semicolon ["Id", "Name"] [["1", "a\nb"]] "Id;Name\r\n1;\"a\nb\"" := by
    refine ⟨?_, by decide⟩
    exact .ended .crlf ⟨.more (.bare (by decide)) (.last (.bare (by decide))), by decide⟩
      (.unended ⟨.more (.bare (by decide)) (.last .quoted), by decide⟩)
  have hsecond : IsPage .semicolon ["Id", "Name"] [["", "x;\"y\""]]
      "\"Id\";Name\n\"\";\"x;\"\"y\"\"\"\n" := by
    refine ⟨?_, by decide⟩
    exact .ended .lf ⟨.more .quoted (.last (.bare (by decide))), by decide⟩
      (.ended .lf ⟨.more .quoted (.last .quoted), by decide⟩ .nil)
  have hpages : ∀ page ∈ samplePages, IsPage .semicolon ["Id", "Name"] page.2 page.1 := by
    simp only [samplePages, List.mem_cons, List.not_mem_nil, or_false]
    rintro page (rfl | rfl)
    · exact hfirst
    · exact hsecond
  exact ⟨hheader, by simp [samplePages], hpages,
    parse_joinPages .semicolon hheader (by simp [samplePages]) hpages⟩

end BulkJobs
