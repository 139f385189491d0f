import BulkJobs.Proofs.Outcome
import BulkJobs.Proofs.Results.Joining
import BulkJobs.Proofs.Text.Reading

/-!
# Result sets are rectangular

The scan cuts no record without a field (`Csv.fields_ne_nil_of_mem_scan`), and reading a record
stops at the first one that is not as wide as the header. So CSV data is read as a table exactly
when its records are the header and the rows of that table, each row as wide as the header
(`ResultSet.parse_eq_ok_iff`).

In a rectangular table the number of a column is a place in every row
(`ResultSet.IsRectangular.exists_column`), and the values of the column are what stands at that
place in each row. `ResultSet.parse_isRectangular` puts this together for every table that is read.
-/

set_option autoImplicit false
set_option relaxedAutoImplicit false

namespace BulkJobs

/-! ### Records have fields -/

namespace Csv

variable {delimiter b : UInt8} {mode : Mode} {read : Partial} {fields : List Octets}

theorem Partial.finish_ne_nil (read : Partial) : read.finish ≠ [] := by
  simp [Partial.finish]

theorem ne_nil_of_moveBare (h : moveBare delimiter b read = .emit fields) : fields ≠ [] := by
  unfold moveBare at h
  split_ifs at h
  cases h
  exact read.finish_ne_nil

theorem ne_nil_of_move (h : move delimiter b mode read = .emit fields) : fields ≠ [] := by
  unfold move at h
  cases mode with
  | recordStart =>
    simp only at h
    split_ifs at h
    exact ne_nil_of_moveBare h
  | fieldStart | quoteSeen =>
    simp only at h
    split_ifs at h
    exact ne_nil_of_moveBare h
  | bare => exact ne_nil_of_moveBare h
  | quoted =>
    simp only at h
    split_ifs at h

/-- Every record that is cut from the data has a field. -/
theorem fields_ne_nil_of_mem_records {start here : Spot} {bytes : Octets} {record : Record}
    (hrecord : record ∈ records delimiter start here mode read bytes) : record.fields ≠ [] := by
  induction bytes generalizing start here mode read with
  | nil =>
    rw [records] at hrecord
    split_ifs at hrecord
    · cases hrecord
    · rw [List.mem_singleton.mp hrecord]
      exact read.finish_ne_nil
  | cons b bytes ih =>
    rw [records] at hrecord
    cases hmove : move delimiter b mode read with
    | goOn mode read =>
      rw [hmove] at hrecord
      exact ih hrecord
    | emit fields =>
      rw [hmove] at hrecord
      rcases List.mem_cons.mp hrecord with rfl | hrecord
      · exact ne_nil_of_move hmove
      · exact ih hrecord

theorem fields_ne_nil_of_mem_scan {data : Octets} {record : Record}
    (hrecord : record ∈ scan delimiter data) : record.fields ≠ [] :=
  fields_ne_nil_of_mem_records hrecord

end Csv

namespace ResultSet

/-! ### What is read -/

section Reading

variable {place : Csv.Place} {index width number : Nat} {fields : List Octets}
  {records : List Csv.Record} {texts : List String} {rows : List (List String)}

/-- Fields are read as texts exactly when they are these texts in UTF-8. -/
theorem decodeFields_eq_ok_iff :
    decodeFields place index fields = .ok texts ↔ fields = texts.map Utf8.encode := by
  constructor
  · intro hread
    induction fields generalizing index texts with
    | nil =>
      cases hread
      rfl
    | cons field fields ih =>
      rw [decodeFields] at hread
      cases htext : Utf8.decode? field with
      | none =>
        rw [htext] at hread
        cases hread
      | some text =>
        rw [htext] at hread
        cases hrest : decodeFields place (index + 1) fields with
        | error problem =>
          simp only [hrest] at hread
          cases hread
        | ok rest =>
          simp only [hrest] at hread
          cases hread
          rw [List.map_cons, ← ih hrest, Utf8.decode?_eq_some_iff.mp htext]
  · rintro rfl
    exact decodeFields_encode place index texts

/-- Records are read as rows exactly when their fields are the rows in UTF-8, and each row is as
wide as asked for. -/
theorem decodeRows_eq_ok_iff : decodeRows width number records = .ok rows ↔
    records.map (·.fields) = rows.map (·.map Utf8.encode) ∧ ∀ row ∈ rows, row.length = width := by
  constructor
  · intro hread
    induction records generalizing number rows with
    | nil =>
      cases hread
      exact ⟨rfl, fun _ hrow ↦ absurd hrow List.not_mem_nil⟩
    | cons record records ih =>
      rw [decodeRows] at hread
      by_cases hwidth : record.fields.length = width
      · simp only [hwidth, ne_eq, not_true, if_false, bind_eq_ok_iff, pure_eq_ok_iff] at hread
        obtain ⟨row, hrow, rest, hrest, rfl⟩ := hread
        obtain ⟨hfields, hwidths⟩ := ih hrest
        have hrecord := decodeFields_eq_ok_iff.mp hrow
        refine ⟨by rw [List.map_cons, List.map_cons, hrecord, hfields],
          List.forall_mem_cons.mpr ⟨?_, hwidths⟩⟩
        rw [← hwidth, hrecord, List.length_map]
      · simp only [hwidth, ne_eq, not_false_eq_true, if_true] at hread
        cases hread
  · rintro ⟨hrecords, hwidths⟩
    exact decodeRows_encode hwidths hrecords number

end Reading

variable {data : Octets} {delimiter : ColumnDelimiter} {set : ResultSet} {name : String}
  {index : Nat}

/-- CSV data is read as a table when it has no records and the table is empty, or its records are
the header and the rows of the table, each row as wide as the header. -/
theorem parse_eq_ok_iff : parse data delimiter = .ok set ↔
    (Csv.scan delimiter.byte data = [] ∧ set = ⟨[], []⟩) ∨
      ((Csv.scan delimiter.byte data).map (·.fields) =
          (set.headers :: set.rows).map (·.map Utf8.encode) ∧
        ∀ row ∈ set.rows, row.length = set.headers.length) := by
  obtain ⟨headers, rows⟩ := set
  unfold parse
  cases Csv.scan delimiter.byte data with
  | nil => simp [eq_comm]
  | cons header records =>
    have hsplit : ((header :: records).map (·.fields) =
          (headers :: rows).map (·.map Utf8.encode) ∧
          ∀ row ∈ rows, row.length = headers.length) ↔
        decodeFields ⟨0, header.start.line, header.start.byte⟩ 0 header.fields = .ok headers ∧
          decodeRows header.fields.length 1 records = .ok rows := by
      rw [decodeFields_eq_ok_iff, decodeRows_eq_ok_iff, List.map_cons, List.map_cons,
        List.cons.injEq, and_assoc]
      refine and_congr_right fun hheader ↦ ?_
      rw [hheader, List.length_map]
    rw [hsplit]
    simp only [bind_eq_ok_iff, pure_eq_ok_iff]
    constructor
    · rintro ⟨_, hheaders, _, hrows, ⟨⟩⟩
      exact .inr ⟨hheaders, hrows⟩
    · rintro (⟨⟨⟩, -⟩ | ⟨hheaders, hrows⟩)
      exact ⟨_, hheaders, _, hrows, rfl⟩

/-! ### Rectangular tables -/

/-- Whether all rows of a table are as wide as its header, and it has no rows without a header. -/
structure IsRectangular (set : ResultSet) : Prop where
  widths : ∀ row ∈ set.rows, row.length = set.headers.length
  headed : set.headers = [] → set.rows = []

/-- Every table that is read (`hparse`) is rectangular. -/
theorem isRectangular_of_parse (hparse : parse data delimiter = .ok set) :
    set.IsRectangular := by
  rcases parse_eq_ok_iff.mp hparse with ⟨-, rfl⟩ | ⟨hrecords, hwidths⟩
  · exact ⟨fun _ hrow ↦ absurd hrow List.not_mem_nil, fun _ ↦ rfl⟩
  · refine ⟨hwidths, fun hnone ↦ ?_⟩
    cases hscan : Csv.scan delimiter.byte data with
    | nil => simp [hscan] at hrecords
    | cons header records =>
      have hheader : header.fields = set.headers.map Utf8.encode := by
        rw [hscan] at hrecords
        exact (List.cons.inj hrecords).1
      have hsome : header ∈ Csv.scan delimiter.byte data := hscan ▸ List.mem_cons_self
      rw [hnone] at hheader
      exact absurd hheader (Csv.fields_ne_nil_of_mem_scan hsome)

/-- In a rectangular table (`h`) the number of a column is a place in the header, with the name of
the column, and a place in every row. -/
theorem IsRectangular.exists_index (h : set.IsRectangular) (hname : name ∈ set.headers) :
    ∃ index, set.columnIndex? name = some index ∧ set.headers[index]? = some name ∧
      ∀ row ∈ set.rows, index < row.length := by
  cases hindex : set.columnIndex? name with
  | none =>
    have hnone := List.findIdx?_eq_none_iff.mp hindex name hname
    simp at hnone
  | some index =>
    obtain ⟨hlt, hfound, -⟩ := List.findIdx?_eq_some_iff_getElem.mp hindex
    refine ⟨index, rfl, ?_, fun row hrow ↦ (h.widths row hrow).symm ▸ hlt⟩
    rw [List.getElem?_eq_getElem hlt, beq_iff_eq.mp hfound]

theorem columnIndex?_of_notMem (hname : name ∉ set.headers) : set.columnIndex? name = none := by
  refine List.findIdx?_eq_none_iff.mpr fun other hother ↦ beq_false_of_ne ?_
  rintro rfl
  exact hname hother

/-- Where the number of a column (`hindex`) is a place in every row (`hwidths`), the values of the
column are what stands there. -/
theorem exists_column (hindex : set.columnIndex? name = some index)
    (hwidths : ∀ row ∈ set.rows, index < row.length) :
    ∃ values, set.column? name = some values ∧
      set.rows.map (·[index]?) = values.map some := by
  refine ⟨set.rows.map (·.getD index ""), by rw [column?, hindex]; rfl, ?_⟩
  rw [List.map_map]
  refine List.map_congr_left fun row hrow ↦ ?_
  have hlt := hwidths row hrow
  simp [hlt]

theorem get?_eq (hindex : set.columnIndex? name = some index) (row : Nat) :
    set.get? row name = (set.rows.map (·[index]?))[row]?.join := by
  rw [get?, hindex, List.getElem?_map]
  cases set.rows[row]? <;> rfl

/-- In every table that is read (`hparse`), all rows are as wide as the header, and there are rows
only below a header. For a name in the header, its column has the value of every row, and these are
the values that are got row by row; for any other name there is neither a column nor a value. -/
theorem parse_isRectangular (hparse : parse data delimiter = .ok set) :
    (∀ row ∈ set.rows, row.length = set.headers.length) ∧
      (set.rows ≠ [] → set.headers ≠ []) ∧
      (∀ name ∈ set.headers, ∃ index values, set.columnIndex? name = some index ∧
        set.headers[index]? = some name ∧ (∀ row ∈ set.rows, index < row.length) ∧
        set.column? name = some values ∧ values.length = set.rowCount ∧
        set.rows.map (·[index]?) = values.map some ∧
        ∀ row < set.rowCount, ∃ value, values[row]? = some value ∧
          set.get? row name = some value) ∧
      ∀ name ∉ set.headers, set.columnIndex? name = none ∧ set.column? name = none ∧
        ∀ row, set.get? row name = none := by
  have hset := isRectangular_of_parse hparse
  refine ⟨hset.widths, mt hset.headed, fun name hname ↦ ?_, fun name hname ↦ ?_⟩
  · obtain ⟨index, hindex, hheader, hwidths⟩ := hset.exists_index hname
    obtain ⟨values, hcolumn, hvalues⟩ := exists_column hindex hwidths
    have hlength : values.length = set.rowCount := by
      simpa [rowCount] using (congrArg List.length hvalues).symm
    refine ⟨index, values, hindex, hheader, hwidths, hcolumn, hlength, hvalues, fun row hrow ↦ ?_⟩
    have hvalue : values[row]? = some values[row] := List.getElem?_eq_getElem (hlength ▸ hrow)
    refine ⟨values[row], hvalue, ?_⟩
    rw [get?_eq hindex, hvalues, List.getElem?_map, hvalue]
    rfl
  · have hnone := columnIndex?_of_notMem hname
    exact ⟨hnone, by rw [column?, hnone]; rfl, fun row ↦ by rw [get?, hnone]; rfl⟩

/-- A table with a mark at its start, a name that stands twice, a line break inside a field, an
empty line and a field whose quotes are never closed. -/
theorem parse_isRectangular_sample :
    parse (Utf8.encode "\uFEFFA;A\r\n\"x\ny\";1\n\n2;\"z\r") .semicolon =
        .ok ⟨["A", "A"], [["x\ny", "1"], ["2", "z\r"]]⟩ ∧
      ∃ index values, columnIndex? ⟨["A", "A"], [["x\ny", "1"], ["2", "z\r"]]⟩ "A" = some index ∧
        column? ⟨["A", "A"], [["x\ny", "1"], ["2", "z\r"]]⟩ "A" = some values ∧
        [["x\ny", "1"], ["2", "z\r"]].map (·[index]?) = values.map some := by
  have hparse : parse (Utf8.encode "\uFEFFA;A\r\n\"x\ny\";1\n\n2;\"z\r") .semicolon =
      .ok ⟨["A", "A"], [["x\ny", "1"], ["2", "z\r"]]⟩ := by decide +kernel
  obtain ⟨-, -, hcolumns, -⟩ := parse_isRectangular hparse
  obtain ⟨index, values, hindex, -, -, hcolumn, -, hvalues, -⟩ := hcolumns "A" (by decide)
  exact ⟨hparse, index, values, hindex, hcolumn, hvalues⟩

end ResultSet

end BulkJobs
