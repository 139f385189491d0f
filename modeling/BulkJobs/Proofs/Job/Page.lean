import BulkJobs.Client.Jobs
import BulkJobs.Proofs.Job.Snapshot
import BulkJobs.Proofs.Json.Decoding
import BulkJobs.Proofs.Json.Value

/-!
# Pages that are read record by record

A page of a listing can be decoded in one go, or first into the values of its records and then each
of them by itself. The decoders of the members of jobs read from the value of a tree what they read
from the tree (`Json.Relation.isKept_revalued`), since what they accept is a token or has one
member, and so do those of the jobs (`Json.Layout.Keeps.revalued`). Both ways divide a page into the
same slots, so they agree on every page that decodes both ways (`recognized_eq_records`), and
nothing is skipped.
-/

set_option autoImplicit false
set_option relaxedAutoImplicit false

namespace BulkJobs

namespace Json

theorem Decoder.alternativeName_eq_ok {α : Type} {names : List (String × α)} {depth : Nat}
    {tree : Tree} {a : α} (h : alternativeName names depth tree = .ok a) :
    ∃ name, tree = .text (some name) := by
  unfold alternativeName at h
  split at h
  · exact ⟨_, rfl⟩
  · cases h

theorem Decoder.unit_eq_ok {depth : Nat} {tree : Tree} (h : unit depth tree = .ok ()) :
    tree = .null := by
  unfold unit at h
  split at h
  · rfl
  · cases h

theorem Decoder.anything_eq_ok_iff {depth : Nat} {tree : Tree} {value : Json} :
    anything depth tree = .ok value ↔
      depth + tree.height ≤ nestingLimit ∧ tree.value? = some value := by
  rw [anything]
  split_ifs with hdepth
  · rw [and_iff_right hdepth]
    cases tree.value? <;> simp
  · exact iff_of_false nofun fun h ↦ hdepth h.1

theorem Tree.eq_null_of_value? {tree : Tree} (h : tree.value? = some .null) : tree = .null := by
  cases tree with
  | null => rfl
  | cut => cases h
  | bool b => cases h
  | number n => cases n <;> cases h
  | text t => cases t <;> cases h
  | list items complete =>
    obtain ⟨values, hvalues, -⟩ := exists_of_value?_list h
    cases hvalues
  | object members complete =>
    obtain ⟨values, hvalues, -⟩ := exists_of_value?_object h
    cases hvalues

namespace Relation

theorem revalued_text : Decoder.text.Keeps revalued := by
  rintro depth tree depth' _ a ⟨-, value, hvalue, rfl⟩ hread
  unfold Decoder.text at hread
  split at hread
  · cases hvalue
    exact hread
  · cases hread

theorem revalued_natural (bound : Nat) (expected : String) :
    (Decoder.natural bound expected).Keeps revalued := by
  rintro depth tree depth' _ a ⟨-, value, hvalue, rfl⟩ hread
  unfold Decoder.natural at hread
  split at hread
  · cases hvalue
    exact hread
  · cases hread
  · cases hread

theorem revalued_alternative {α : Type} (names : List (String × α)) :
    (Decoder.alternative names).Keeps revalued := by
  rintro depth tree depth' _ a ⟨-, value, hvalue, rfl⟩ hread
  unfold Decoder.alternative at hread
  split at hread
  · obtain ⟨name, hname⟩ := Decoder.alternativeName_eq_ok hread
    cases hname
    cases hvalue
    exact hread
  · next key content others complete =>
    cases hkey : Decoder.alternativeName names (depth + 1) key with
    | error problem =>
      rw [hkey] at hread
      cases hread
    | ok chosen =>
      cases hcontent : Decoder.unit (depth + 1) content with
      | error problem =>
        rw [hkey, hcontent] at hread
        cases hread
      | ok =>
        obtain ⟨name, rfl⟩ := Decoder.alternativeName_eq_ok hkey
        cases Decoder.unit_eq_ok hcontent
        cases others with
        | nil =>
          cases complete with
          | true =>
            cases hvalue
            exact hread
          | false =>
            rw [hkey, hcontent] at hread
            cases hread
        | cons =>
          rw [hkey, hcontent] at hread
          cases hread
  · cases hread

theorem revalued_version : decodeApiVersion.Keeps revalued := by
  rintro depth tree depth' _ a ⟨hdepth, value, hvalue, rfl⟩ hread
  by_cases hheight : depth + tree.height ≤ nestingLimit
  · have hlimit : depth' + 0 ≤ nestingLimit := by omega
    rw [decodeApiVersion, Decoder.anything_eq_ok_iff.mpr ⟨hheight, hvalue⟩] at hread
    cases value with
    | text version =>
      rw [decodeApiVersion, Decoder.anything_eq_ok_iff.mpr ⟨hlimit, rfl⟩]
      exact hread
    | number version =>
      rw [decodeApiVersion, Decoder.anything_eq_ok_iff.mpr ⟨hlimit, rfl⟩]
      exact hread
    | _ => cases hread
  · rw [decodeApiVersion, Decoder.anything, if_neg hheight] at hread
    cases hread

theorem revalued_optional {α : Type} {decode : Decoder α} (h : decode.Keeps revalued) :
    decode.optional.Keeps revalued := by
  rintro depth tree depth' _ a ⟨hdepth, value, hvalue, rfl⟩ hread
  unfold Decoder.optional at hread
  split at hread
  · cases hvalue
    exact hread
  · next hsome =>
    have hvalued : value.tree ≠ .null := by
      intro hnull
      cases value <;> cases hnull
      exact hsome (Tree.eq_null_of_value? hvalue)
    cases hdecode : decode depth tree with
    | error problem =>
      rw [hdecode] at hread
      cases hread
    | ok held =>
      rw [hdecode] at hread
      have hheld := h ⟨hdepth, value, hvalue, rfl⟩ hdecode
      unfold Decoder.optional
      split
      · next hnull => exact absurd hnull hvalued
      · rw [hheld]
        exact hread

theorem isKept_revalued : revalued.IsKept where
  text := revalued_text
  natural := revalued_natural
  alternative := revalued_alternative
  version := revalued_version
  optional := revalued_optional

end Relation

/-- A field with a default holds the default where it is missing, and otherwise what is decoded
there. -/
theorem Field.read_withDefault_eq_ok_iff {α : Type} {name : String} {value : α}
    {decode : Decoder α} {index : Nat} {parts : Parts} {a : α} :
    (Field.withDefault name value decode).read index parts = .ok a ↔
      match (parts.slots.getD index none).map Prod.snd with
      | some tree => decode parts.depth tree = .ok a
      | none => a = value := by
  rw [Field.read_eq_ok_iff]
  cases (parts.slots.getD index none).map Prod.snd with
  | some tree => rfl
  | none => cases parts.form <;> exact Option.some_inj.trans eq_comm

/-! ### Items -/

section Items

variable {α β γ : Type}

/-- Two lists in step with a third one are in step. -/
theorem forall₂_of_forall₂ {R : α → β → Prop} {S : α → γ → Prop} {T : β → γ → Prop}
    (hrel : ∀ item value other, R item value → S item other → T value other) {items : List α}
    {values : List β} {others : List γ} (h : List.Forall₂ R items values)
    (h' : List.Forall₂ S items others) : List.Forall₂ T values others := by
  induction h generalizing others with
  | nil =>
    cases h'
    exact .nil
  | cons hfirst _ ih =>
    cases h' with
    | cons hfirst' hrest' => exact .cons (hrel _ _ _ hfirst hfirst') (ih hrest')

end Items

end Json

open Json (Decoder Parts Relation)

namespace JobPage

variable {α : Type} {decode : Decoder α} {parts : Parts} {page : JobPage α}

/-- The fields of a page are read one by one from the parts of its text. -/
theorem read_layout_eq_ok (h : (layout decode).read parts = .ok page) :
    (Json.Field.withDefault "done" true .boolean).read 0 parts = .ok page.done ∧
      (Json.Field.withDefault "records" [] (.array decode)).read 1 parts = .ok page.records ∧
      (Json.Field.optional "nextRecordsUrl" .text).read 2 parts = .ok page.next := by
  obtain ⟨build, next, hbuild, hnext, rfl⟩ := Json.both_eq_ok_iff.mp h
  obtain ⟨build, records, hstart, hrecords, rfl⟩ := Json.both_eq_ok_iff.mp hbuild
  obtain ⟨build, done, hmake, hdone, rfl⟩ := Json.both_eq_ok_iff.mp hstart
  cases hmake
  exact ⟨hdone, hrecords, hnext⟩

/-- A text of a page (`h`) has parts, whatever its records are decoded to, so two ways to decode the
records read the same parts. -/
theorem exists_parts {text : Octets} (h : Json.decodeText (JobPage.decode decode) text = .ok page) :
    ∃ parts, Json.divide [["done"], ["records"], ["nextRecordsUrl"]]
        ("struct JobList" ++ " with " ++ toString 3 ++ " elements") 0 (Json.read text).root =
          some parts ∧ (layout decode).read parts = .ok page := by
  obtain ⟨-, hroot⟩ := Json.decodeText_eq_ok_iff.mp h
  exact Json.Layout.decoder_eq_ok_iff.mp hroot

end JobPage

namespace Client

/-- The values of the records of a page, kept as they are (`hgeneric`), decode to the records that
are decoded at once (`hdecode`). -/
theorem map_decodeValue_records {α : Type} {decode : Decoder α}
    (hdecode : decode.Keeps .revalued) {text : Octets} {generic : JobPage Json} {typed : JobPage α}
    (hgeneric : Json.decodeText pageDecoder text = .ok generic)
    (htyped : Json.decodeText (JobPage.decode decode) text = .ok typed) :
    typed.done = generic.done ∧ typed.next = generic.next ∧
      generic.records.map (Json.decodeValue decode) = typed.records.map .ok := by
  obtain ⟨parts, hdivide, hread⟩ := JobPage.exists_parts hgeneric
  obtain ⟨parts', hdivide', hread'⟩ := JobPage.exists_parts htyped
  cases hdivide.symm.trans hdivide'
  obtain ⟨hdone, hrecords, hnext⟩ := JobPage.read_layout_eq_ok hread
  obtain ⟨hdone', hrecords', hnext'⟩ := JobPage.read_layout_eq_ok hread'
  refine ⟨Except.ok.inj (hdone'.symm.trans hdone), Except.ok.inj (hnext'.symm.trans hnext), ?_⟩
  rw [Json.Field.read_withDefault_eq_ok_iff] at hrecords hrecords'
  rw [← List.forall₂_eq_eq_eq, List.forall₂_map_left_iff, List.forall₂_map_right_iff]
  cases hslot : (parts.slots.getD 1 none).map Prod.snd with
  | none =>
    rw [hslot] at hrecords hrecords'
    rw [hrecords, hrecords']
    exact .nil
  | some tree =>
    rw [hslot] at hrecords hrecords'
    obtain ⟨items, rfl, hitems⟩ := Decoder.array_eq_ok_iff.mp hrecords
    obtain ⟨items', htree, hitems'⟩ := Decoder.array_eq_ok_iff.mp hrecords'
    cases htree
    refine Json.forall₂_of_forall₂ (fun item value job hvalue hjob ↦ ?_) hitems hitems'
    exact hdecode ⟨Nat.zero_le _, value, (Decoder.anything_eq_ok_iff.mp hvalue).2, rfl⟩ hjob

/-- Jobs whose values decode to them (`h`) are recognized, in their order. -/
theorem recognized_of_map {α : Type} [JobSnapshot α] {page : JobPage Json} {jobs : List α}
    (h : page.records.map (Json.decodeValue JobSnapshot.decode) = jobs.map .ok) :
    recognized α page = jobs := by
  have hjobs : (page.records.map (Json.decodeValue (JobSnapshot.decode (α := α)))).filterMap
      Except.toOption = recognized α page := List.filterMap_map ..
  rw [← hjobs, h, List.filterMap_map]
  exact List.filterMap_some

end Client

/-- On a page that decodes with its records kept as they are and with its records decoded, the one
way to read it agrees with the other. -/
theorem recognized_eq_records {text : Octets} {generic : JobPage Json}
    (hgeneric : Json.decodeText Client.pageDecoder text = .ok generic) :
    (∀ typed, Json.decodeText (JobPage.decode IngestJob.decode) text = .ok typed →
      typed.done = generic.done ∧ typed.next = generic.next ∧
        generic.records.map (Json.decodeValue IngestJob.decode) = typed.records.map .ok ∧
        Client.recognized IngestJob generic = typed.records) ∧
    ∀ typed, Json.decodeText (JobPage.decode QueryJob.decode) text = .ok typed →
      typed.done = generic.done ∧ typed.next = generic.next ∧
        generic.records.map (Json.decodeValue QueryJob.decode) = typed.records.map .ok ∧
        Client.recognized QueryJob generic = typed.records := by
  constructor
  · intro typed htyped
    obtain ⟨hdone, hnext, hrecords⟩ := Client.map_decodeValue_records
      ((IngestJob.keeps_layout Relation.isKept_revalued).revalued _) hgeneric htyped
    exact ⟨hdone, hnext, hrecords, Client.recognized_of_map hrecords⟩
  · intro typed htyped
    obtain ⟨hdone, hnext, hrecords⟩ := Client.map_decodeValue_records
      ((QueryJob.keeps_layout Relation.isKept_revalued).revalued _) hgeneric htyped
    exact ⟨hdone, hnext, hrecords, Client.recognized_of_map hrecords⟩

/-- The text of a page with a job written as an array, whose state is an object, and a job written
as an object, which says something twice and has a number for its version. -/
def mixedPageText : Octets :=
  Utf8.encode ("\x7b\"records\":[[\"1\",\x7b\"Open\":null\x7d,\"A\",\"insert\"]," ++
    "\x7b\"x\":1,\"x\":[],\"id\":\"2\",\"state\":\"Open\",\"object\":\"A\"," ++
    "\"operation\":\"insert\",\"apiVersion\":62\x7d],\"done\":false\x7d")

theorem recognized_eq_records_mixed : ∃ generic typed,
    Json.decodeText Client.pageDecoder mixedPageText = .ok generic ∧
      Json.decodeText (JobPage.decode IngestJob.decode) mixedPageText = .ok typed ∧
      typed.records.map (·.id) = ["1", "2"] ∧ generic.done = false ∧
      Client.recognized IngestJob generic = typed.records := by
  have hok : (Json.decodeText Client.pageDecoder mixedPageText).isOk = true := by decide +kernel
  have hids : (Json.decodeText (JobPage.decode IngestJob.decode) mixedPageText).toOption.map
      (fun page ↦ (page.records.map (·.id), page.done)) = some (["1", "2"], false) := by
    decide +kernel
  cases hgeneric : Json.decodeText Client.pageDecoder mixedPageText with
  | error problem =>
    rw [hgeneric] at hok
    cases hok
  | ok generic =>
    cases htyped : Json.decodeText (JobPage.decode IngestJob.decode) mixedPageText with
    | error problem =>
      rw [htyped] at hids
      cases hids
    | ok typed =>
      rw [htyped] at hids
      obtain ⟨hids, hdone⟩ := Prod.mk.inj (Option.some.inj hids)
      obtain ⟨hsame, -, -, hrecognized⟩ := (recognized_eq_records hgeneric).1 typed htyped
      exact ⟨generic, typed, rfl, rfl, hids, hsame.symm.trans hdone, hrecognized⟩

end BulkJobs
