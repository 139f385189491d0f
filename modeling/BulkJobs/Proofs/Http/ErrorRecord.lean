import BulkJobs.Http.Refusal
import BulkJobs.Proofs.Json.Decoding

/-!
# Error records in bodies

A tree tells an error record as an object, with the members in any order, the code under either of
its names and any members besides, or as an array of the three fields (`ErrorRecord.IsToldBy`). The
texts that decode as an error record are those that spell such a tree
(`ErrorRecord.decodeText_eq_ok_iff`). The service may put them into an array, and the body is tried
as an array first. No text is taken by the wrong attempt: an object is no array, and the first item
of a record that is written as an array is a text, which tells no record
(`ErrorRecord.not_array_of_isToldIn`). So the first record of an array and the record alone amount
to the same failure (`refusal_arrayText_cons`).
-/

set_option autoImplicit false
set_option relaxedAutoImplicit false

namespace BulkJobs.Http

open Json (Decoder Fits Parts RecordForm Spells Tree arrayText)

namespace ErrorRecord

/-! ### Trees that tell an error record -/

/-- Whether a tree lists the fields that an error is about; `null` lists none. -/
inductive ListsFields : List String → Tree → Prop where
  | none : ListsFields [] .null
  | list (fields : List String) :
      ListsFields fields (.list (fields.map fun field ↦ .text (some field)) true)

def fieldNames : List (List String) :=
  [["error_code", "errorCode"], ["message"], ["fields"]]

/-- Whether the members of an object tell an error record. The fields that the error is about may
be missing. -/
structure IsToldByMembers (record : ErrorRecord) (members : List (Tree × Tree)) : Prop where
  fits : Fits fieldNames members
  code : ∃ name ∈ ["error_code", "errorCode"],
    (.text (some name), .text (some record.code)) ∈ members
  detail : (.text (some "message"), .text (some record.detail)) ∈ members
  fields : (∃ held, (.text (some "fields"), held) ∈ members ∧ ListsFields record.fields held) ∨
    (∀ held, (.text (some "fields"), held) ∉ members) ∧ record.fields = []

/-- Whether a tree tells an error record: an object by its members, an array by its items in the
order of the fields. -/
inductive IsToldBy (record : ErrorRecord) : Tree → Prop where
  | object {members : List (Tree × Tree)} : record.IsToldByMembers members →
      record.IsToldBy (.object members true)
  | array {held : Tree} : ListsFields record.fields held →
      record.IsToldBy (.list [.text (some record.code), .text (some record.detail), held] true)

/-- Whether a text tells an error record: it is JSON for a tree that does, and for nothing behind
it. -/
def IsToldIn (record : ErrorRecord) (text : String) : Prop :=
  ∃ tree, Spells (.spaced tree) (Utf8.encode text) ∧ record.IsToldBy tree

/-! ### Decoding -/

section Reading

variable {record : ErrorRecord} {parts : Parts} {form : RecordForm} {depth : Nat}
  {content : Nat → Option Tree} {tree : Tree}

theorem listsFields_iff {fields : List String} : ListsFields fields tree ↔
    ∃ listed, Decoder.optional (.array .text) depth tree = .ok listed ∧
      listed.getD [] = fields := by
  simp only [Decoder.optional_eq_ok_iff, Decoder.array_text_eq_ok_iff]
  constructor
  · rintro (_ | _)
    · exact ⟨none, .inl ⟨rfl, rfl⟩, rfl⟩
    · exact ⟨some fields, .inr ⟨nofun, fields, rfl, rfl⟩, rfl⟩
  · rintro ⟨_, ⟨rfl, rfl⟩ | ⟨-, listed, rfl, rfl⟩, rfl⟩
    · exact .none
    · exact .list listed

/-- What the parts of an error record hold. The fields that the error is about may be missing from
an object, but not from an array. -/
theorem read_layout_eq_ok_iff (hhold : parts.Hold form depth content) :
    layout.read parts = .ok record ↔
      content 0 = some (.text (some record.code)) ∧
        content 1 = some (.text (some record.detail)) ∧
        ((∃ held, content 2 = some held ∧ ListsFields record.fields held) ∨
          content 2 = none ∧ form = .object ∧ record.fields = []) := by
  constructor
  · intro hread
    obtain ⟨_, listed, hbefore, hlisted, rfl⟩ := Json.both_eq_ok_iff.mp hread
    obtain ⟨_, detail, hfirst, hdetail, rfl⟩ := Json.both_eq_ok_iff.mp hbefore
    obtain ⟨_, code, hstart, hcode, rfl⟩ := Json.both_eq_ok_iff.mp hfirst
    cases hstart
    refine ⟨(hhold.read_text_iff (by rfl) (by cases form <;> rfl)).mp hcode,
      (hhold.read_text_iff (by rfl) (by cases form <;> rfl)).mp hdetail, ?_⟩
    rcases hhold.read_eq_ok_iff.mp hlisted with ⟨held, hheld, hdecode⟩ | ⟨hnone, habsent⟩
    · exact .inl ⟨held, hheld, listsFields_iff.mpr ⟨listed, hdecode, rfl⟩⟩
    · cases form with
      | array => cases habsent
      | object =>
        cases habsent
        exact .inr ⟨hnone, rfl, rfl⟩
  · obtain ⟨code, detail, fields⟩ := record
    rintro ⟨hcode, hdetail, hfields⟩
    have hlisted : ∃ listed, { Json.Field.optional "fields" (.array .text) with
        inArray := none }.read 2 parts = .ok listed ∧ listed.getD [] = fields := by
      rcases hfields with ⟨held, hheld, hlists⟩ | ⟨hnone, rfl, rfl⟩
      · obtain ⟨listed, hdecode, hlisted⟩ := listsFields_iff.mp hlists
        exact ⟨listed, hhold.read_eq_ok_iff.mpr (.inl ⟨held, hheld, hdecode⟩), hlisted⟩
      · exact ⟨none, hhold.read_eq_ok_iff.mpr (.inr ⟨hnone, rfl⟩), rfl⟩
    obtain ⟨listed, hlisted, rfl⟩ := hlisted
    refine Json.both_eq_ok_iff.mpr
      ⟨fun listed ↦ ⟨code, detail, listed.getD []⟩, listed, ?_, hlisted, rfl⟩
    refine Json.both_eq_ok_iff.mpr
      ⟨fun detail listed ↦ ⟨code, detail, listed.getD []⟩, detail, ?_, ?_, rfl⟩
    · exact Json.both_eq_ok_iff.mpr ⟨_, code, rfl,
        (hhold.read_text_iff (by rfl) (by cases form <;> rfl)).mpr hcode, rfl⟩
    · exact (hhold.read_text_iff (by rfl) (by cases form <;> rfl)).mpr hdetail

theorem disjoint_fieldNames : fieldNames.Pairwise List.Disjoint := by
  simp [fieldNames]

/-- The members of an object hold the parts of an error record (`hhold`) exactly when they tell it,
in whatever order and among whatever others they stand. -/
theorem isToldByMembers_iff {members : List (Tree × Tree)} (hfits : Fits fieldNames members)
    (hhold : parts.Hold .object depth (Json.content fieldNames members)) :
    layout.read parts = .ok record ↔ record.IsToldByMembers members := by
  have hcode {value : Tree} : Json.content fieldNames members 0 = some value ↔
      ∃ name ∈ ["error_code", "errorCode"], (.text (some name), value) ∈ members :=
    hfits.content_eq_some_iff_of_disjoint disjoint_fieldNames rfl
  have hdetail {value : Tree} : Json.content fieldNames members 1 = some value ↔
      (.text (some "message"), value) ∈ members :=
    (hfits.content_eq_some_iff_of_disjoint disjoint_fieldNames rfl).trans (by simp)
  have hfields {value : Tree} : Json.content fieldNames members 2 = some value ↔
      (.text (some "fields"), value) ∈ members :=
    (hfits.content_eq_some_iff_of_disjoint disjoint_fieldNames rfl).trans (by simp)
  have hmissing : Json.content fieldNames members 2 = none ↔
      ∀ held, (.text (some "fields"), held) ∉ members := by
    rw [Option.eq_none_iff_forall_ne_some]
    exact forall_congr' fun held ↦ not_congr hfields
  rw [read_layout_eq_ok_iff hhold]
  simp only [hcode, hdetail, hfields, hmissing, true_and]
  constructor
  · rintro ⟨hcode, hdetail, hfields⟩
    exact ⟨hfits, hcode, hdetail, hfields⟩
  · rintro ⟨-, hcode, hdetail, hfields⟩
    exact ⟨hcode, hdetail, hfields⟩

/-- A tree decodes as an error record exactly when it tells it (`IsToldBy`). -/
theorem decode_eq_ok_iff : decode depth tree = .ok record ↔ record.IsToldBy tree := by
  rw [decode, Json.Layout.decoder_eq_ok_iff]
  constructor
  · rintro ⟨parts, hdivide, hread⟩
    cases tree with
    | object members complete =>
      obtain ⟨rfl, hfits, hhold⟩ := Json.divide_object hdivide
      exact .object ((isToldByMembers_iff hfits hhold).mp hread)
    | list items complete =>
      obtain ⟨rfl, hlength, hhold⟩ := Json.divide_list hdivide
      obtain ⟨hcode, hdetail, ⟨held, hheld, hlists⟩ | ⟨-, ⟨⟩, -⟩⟩ :=
        (read_layout_eq_ok_iff hhold).mp hread
      have hitems : items = [.text (some record.code), .text (some record.detail), held] := by
        refine List.ext_getElem? fun index ↦ ?_
        match index with
        | 0 => exact hcode
        | 1 => exact hdetail
        | 2 => exact hheld
        | index + 3 => exact List.getElem?_eq_none (hlength.trans (Nat.le_add_left 3 index))
      exact hitems ▸ .array hlists
    | _ => cases hdivide
  · rintro (htold | hlists)
    · obtain ⟨parts, hdivide⟩ := Json.exists_divide_object _ depth htold.fits
      exact ⟨parts, hdivide,
        (isToldByMembers_iff htold.fits (Json.divide_object hdivide).2.2).mpr htold⟩
    · have hlength (first second held : Tree) :
          [first, second, held].length ≤ layout.names.length := Nat.le_refl 3
      obtain ⟨parts, hdivide⟩ := Json.exists_divide_list _ depth (hlength _ _ _)
      refine ⟨parts, hdivide, (read_layout_eq_ok_iff (Json.divide_list hdivide).2.2).mpr ?_⟩
      exact ⟨rfl, rfl, .inl ⟨_, rfl, hlists⟩⟩

/-- A text decodes as an error record exactly when it tells it (`IsToldIn`). -/
theorem decodeText_eq_ok_iff {text : String} :
    Json.decodeText decode (Utf8.encode text) = .ok record ↔ record.IsToldIn text := by
  rw [decode, Json.Layout.decodeText_eq_ok_iff]
  exact exists_congr fun tree ↦ and_congr_right fun _ ↦ decode_eq_ok_iff

end Reading

/-! ### The record of a body -/

section Bodies

variable {record : ErrorRecord} {text : String} {others : List String}

/-- A text that tells an error record does not decode as an array that begins with one: an array
that tells a record begins with a text, and a record is none. -/
theorem not_array_of_isToldIn {first : ErrorRecord} {rest : List ErrorRecord}
    (h : record.IsToldIn text) :
    Json.decodeText (.array decode) (Utf8.encode text) ≠ .ok (first :: rest) := by
  obtain ⟨tree, hspells, htold⟩ := h
  rw [Json.decodeText_of_spells hspells]
  intro harray
  obtain ⟨items, rfl, hitems⟩ := Decoder.array_eq_ok_iff.mp harray
  cases htold
  obtain ⟨hfirst, -⟩ := List.forall₂_cons.mp hitems
  cases decode_eq_ok_iff.mp hfirst

/-- A record that is told alone (`h`) is that of the body. -/
theorem ofBody?_of_isToldIn (h : record.IsToldIn text) : ofBody? text = some record := by
  rw [ofBody?]
  split
  · next first rest harray => exact absurd harray (not_array_of_isToldIn h)
  · rw [decodeText_eq_ok_iff.mpr h]
    rfl

/-- A record that is told first (`h`) in an array of records (`hothers`) is that of the body,
whatever the others are. -/
theorem ofBody?_arrayText (h : record.IsToldIn text)
    (hothers : ∀ other ∈ others, ∃ record : ErrorRecord, record.IsToldIn other) :
    ofBody? (arrayText (text :: others)) = some record := by
  have hdecodes {record : ErrorRecord} {text : String} (h : record.IsToldIn text) :
      ∃ tree, Spells (.spaced tree) (Utf8.encode text) ∧ decode 1 tree = .ok record := by
    obtain ⟨tree, hspells, htold⟩ := h
    exact ⟨tree, hspells, decode_eq_ok_iff.mpr htold⟩
  have : Nonempty ErrorRecord := ⟨record⟩
  choose! recordOf htold using hothers
  have harray : Json.decodeText (.array decode) (Utf8.encode (arrayText (text :: others))) =
      .ok (record :: others.map recordOf) := by
    refine Json.decodeText_arrayText (.cons (hdecodes h) ?_)
    rw [List.forall₂_map_right_iff, List.forall₂_same]
    exact fun other hother ↦ hdecodes (htold other hother)
  rw [ofBody?, harray]

end Bodies

end ErrorRecord

/-! ### Refusals -/

theorem refusal_of_ofBody? {body : String} {record : ErrorRecord}
    (h : ErrorRecord.ofBody? body = some record) (status : Nat) :
    refusal status body = if status = 429 then .rateLimited none else
      .service status record.code (Redaction.sanitize record.detail) record.fields := by
  simp [refusal, h]

section Forms

variable {record : ErrorRecord} {text : String} {others : List String}

/-- An error record means the same alone, in an array, and before other records in an array,
however it is told. It is the failure that the service describes, unless the status is that of too
many requests. -/
theorem refusal_arrayText_cons (status : Nat)
    (htext : Json.decodeText ErrorRecord.decode (Utf8.encode text) = .ok record)
    (hothers : ∀ other ∈ others, ∃ record,
      Json.decodeText ErrorRecord.decode (Utf8.encode other) = .ok record) :
    record.IsToldIn text ∧
      refusal status (arrayText [text]) = refusal status text ∧
      refusal status (arrayText (text :: others)) = refusal status text ∧
      (∀ body, record.IsToldIn body → refusal status body = refusal status text) ∧
      (status ≠ 429 → refusal status text =
        .service status record.code (Redaction.sanitize record.detail) record.fields) := by
  simp only [ErrorRecord.decodeText_eq_ok_iff] at htext hothers
  have htold (body : String) (hbody : record.IsToldIn body) :=
    refusal_of_ofBody? (ErrorRecord.ofBody?_of_isToldIn hbody) status
  have hone : ErrorRecord.ofBody? (arrayText [text]) = some record :=
    ErrorRecord.ofBody?_arrayText htext nofun
  have hmany := ErrorRecord.ofBody?_arrayText htext hothers
  rw [htold text htext, refusal_of_ofBody? hone, refusal_of_ofBody? hmany]
  exact ⟨htext, rfl, rfl, htold, fun hstatus ↦ if_neg hstatus⟩

/-- A record with its members in another order, the other name of its code and an unknown member. -/
def goneText : String :=
  " \x7b\"row\": [1, null], \"message\": \"gone\", \"errorCode\": \"NOT_FOUND\"\x7d"

def lockedText : String :=
  "[\"LOCKED\", \"busy\", [\"Id\"]]"

/-- The first of two records is that of the failure, whichever way they are written. -/
theorem refusal_arrayText_gone :
    refusal 404 goneText = .service 404 "NOT_FOUND" "gone" [] ∧
      refusal 404 (arrayText [goneText, lockedText]) = .service 404 "NOT_FOUND" "gone" [] := by
  have hgone : Json.decodeText ErrorRecord.decode (Utf8.encode goneText) =
      .ok ⟨"NOT_FOUND", "gone", []⟩ := by decide +kernel
  have hlocked : Json.decodeText ErrorRecord.decode (Utf8.encode lockedText) =
      .ok ⟨"LOCKED", "busy", ["Id"]⟩ := by decide +kernel
  have hothers : ∀ other ∈ [lockedText], ∃ record,
      Json.decodeText ErrorRecord.decode (Utf8.encode other) = .ok record :=
    List.forall_mem_singleton.mpr ⟨_, hlocked⟩
  have hclean : Redaction.sanitize "gone" = "gone" := by decide +kernel
  obtain ⟨-, -, hsame, -, hservice⟩ := refusal_arrayText_cons 404 hgone hothers
  rw [hsame, hservice (by decide), hclean]
  exact ⟨rfl, rfl⟩

end Forms

end BulkJobs.Http
