import BulkJobs.Proofs.Job.Snapshot
import BulkJobs.Proofs.Json.Decoding
import Mathlib

/-!
# Jobs do not depend on the arrangement of their text

The members of an object may be put in another order, and members that belong to no field may be put
in and taken out (`Json.Rearranges`). A record stays a record by that, with the same in its fields
(`Json.Rearranges.fits`), so what is decoded stays the same. A text of the rearranged members may
have its white space where it likes, since a text reads as the tree that it spells
(`Json.decodeText_of_spells`). `decodeText_rearranged` says it of both families of jobs.
-/

set_option autoImplicit false
set_option relaxedAutoImplicit false

namespace BulkJobs

namespace Json

/-- How the members of an object may be rearranged: they may change places, and members that belong
to no field may be put in and taken out. -/
inductive Rearranges (names : List (List String)) :
    List (Tree × Tree) → List (Tree × Tree) → Prop where
  | reordered {members members' : List (Tree × Tree)} : members.Perm members' →
      Rearranges names members members'
  | inserted {name : String} {value : Tree} {members : List (Tree × Tree)} :
      (∀ field ∈ names, name ∉ field) → value.isSound = true →
      Rearranges names members ((.text (some name), value) :: members)
  | removed {name : String} {value : Tree} {members : List (Tree × Tree)} :
      (∀ field ∈ names, name ∉ field) →
      Rearranges names ((.text (some name), value) :: members) members
  | trans {members members' members'' : List (Tree × Tree)} : Rearranges names members members' →
      Rearranges names members' members'' → Rearranges names members members''

/-- A rearranged record is one, with the same in its fields. The induction is on the steps of the
rearrangement. -/
theorem Rearranges.fits {names : List (List String)} {members members' : List (Tree × Tree)}
    (h : Rearranges names members members') (hfits : Fits names members) :
    Fits names members' ∧ content names members = content names members' := by
  induction h with
  | reordered hperm => exact ⟨hfits.perm hperm, hfits.content_perm hperm⟩
  | @inserted name value members hname hsound =>
    have hfield := fieldOf_text_eq_none_iff.mpr hname
    refine ⟨Fits.cons_iff.mpr ⟨⟨name, rfl⟩, fun _ ↦ hsound, fun index hindex ↦ ?_, hfits⟩, ?_⟩
    · cases hfield.symm.trans hindex
    · exact (content_cons_of_none hfield).symm
  | @removed name value members hname =>
    have hfield := fieldOf_text_eq_none_iff.mpr hname
    exact ⟨(Fits.cons_iff.mp hfits).2.2.2, content_cons_of_none hfield⟩
  | trans _ _ ih ih' =>
    obtain ⟨hfits', hcontent⟩ := ih hfits
    obtain ⟨hfits'', hcontent'⟩ := ih' hfits'
    exact ⟨hfits'', hcontent.trans hcontent'⟩

section Texts

variable {α : Type} {layout : Layout α} {title : String} {a : α} {text text' : Octets}
  {members members' : List (Tree × Tree)}

theorem Spells.head?_list {items : List Tree} (h : Spells (.spaced (.list items true)) text) :
    (skipSpace text).head? = some 0x5B := by
  generalize hpiece : Piece.spaced (.list items true) = piece at h
  cases h with
  | spaced hfront hback hvalue =>
    cases hpiece
    rw [Json.skipSpace_append hfront]
    cases hvalue <;> rfl
  | _ => cases hpiece

/-- An object whose text (`hobject`) decodes as a record is spelled by the text, with its members in
the order in which they stand there. -/
theorem Layout.exists_spells (hobject : (skipSpace text).head? = some 0x7B)
    (hread : decodeText (layout.decoder title) text = .ok a) :
    ∃ members, Spells (.spaced (.object members true)) text := by
  obtain hmembers | ⟨items, hitems⟩ := spells_of_decodeText hread
  · exact hmembers
  · cases hitems.head?_list.symm.trans hobject

theorem Layout.decodeText_of_rearranges (hkeeps : layout.Keeps .same)
    (h : Rearranges layout.names members members')
    (htext : Spells (.spaced (.object members true)) text)
    (htext' : Spells (.spaced (.object members' true)) text')
    (hread : decodeText (layout.decoder title) text = .ok a) :
    decodeText (layout.decoder title) text' = .ok a := by
  rw [decodeText_of_spells htext] at hread
  rw [decodeText_of_spells htext']
  refine hkeeps.decoder_object hread fun hfits ↦ ?_
  obtain ⟨hfits', hcontent⟩ := h.fits hfits
  refine ⟨hfits', fun index ↦ ?_⟩
  rw [hcontent]
  cases content layout.names members' index with
  | none => exact .none
  | some value => exact .some ⟨rfl, rfl⟩

end Texts

end Json

open Json (Rearranges Spells)

/-- What an object text decodes as does not depend on the order of its members, on its white space
or on members that belong to no field: every text of the members rearranged decodes as the same
job. -/
theorem decodeText_rearranged {text : Octets}
    (hobject : (Json.skipSpace text).head? = some 0x7B) :
    (∀ job, Json.decodeText IngestJob.decode text = .ok job →
      ∃ members, Spells (.spaced (.object members true)) text ∧
        ∀ members' text', Rearranges IngestJob.layout.names members members' →
          Spells (.spaced (.object members' true)) text' →
            Json.decodeText IngestJob.decode text' = .ok job) ∧
    ∀ job, Json.decodeText QueryJob.decode text = .ok job →
      ∃ members, Spells (.spaced (.object members true)) text ∧
        ∀ members' text', Rearranges QueryJob.layout.names members members' →
          Spells (.spaced (.object members' true)) text' →
            Json.decodeText QueryJob.decode text' = .ok job := by
  constructor
  · intro job hread
    obtain ⟨members, hspells⟩ := Json.Layout.exists_spells hobject hread
    exact ⟨members, hspells, fun members' text' h hspells' ↦ Json.Layout.decodeText_of_rearranges
      (IngestJob.keeps_layout Json.Relation.isKept_same) h hspells hspells' hread⟩
  · intro job hread
    obtain ⟨members, hspells⟩ := Json.Layout.exists_spells hobject hread
    exact ⟨members, hspells, fun members' text' h hspells' ↦ Json.Layout.decodeText_of_rearranges
      (QueryJob.keeps_layout Json.Relation.isKept_same) h hspells hspells' hread⟩

def shortJobText : Octets :=
  Utf8.encode "\x7b\"id\":\"1\",\"state\":\"Open\",\"object\":\"A\",\"operation\":\"insert\"\x7d"

def longJobText : Octets :=
  Utf8.encode ("\x7b \"state\":\"Open\",\"x\":[\x7b\"y\":null\x7d] ," ++
    "\"\\u0069d\":\"1\",\"object\":\"A\",\"operation\":\"insert\"\x7d")

/-- A job at the head of whose text a member was put in and another one moved; one key is spelled
with an escape. -/
theorem decodeText_rearranged_longJobText :
    (Json.skipSpace shortJobText).head? = some 0x7B ∧
      (Json.decodeText IngestJob.decode shortJobText).toOption.map (·.id) = some "1" ∧
      Json.decodeText IngestJob.decode longJobText =
        Json.decodeText IngestJob.decode shortJobText := by
  have hobject : (Json.skipSpace shortJobText).head? = some 0x7B := by decide
  have hid : (Json.decodeText IngestJob.decode shortJobText).toOption.map (·.id) = some "1" := by
    decide +kernel
  refine ⟨hobject, hid, ?_⟩
  cases hread : Json.decodeText IngestJob.decode shortJobText with
  | error problem =>
    rw [hread] at hid
    cases hid
  | ok job =>
    obtain ⟨members, hspells, hrearranged⟩ := (decodeText_rearranged hobject).1 job hread
    have hshort : Json.read shortJobText = ⟨.object
        [(.text (some "id"), .text (some "1")), (.text (some "state"), .text (some "Open")),
          (.text (some "object"), .text (some "A")),
          (.text (some "operation"), .text (some "insert"))] true, true⟩ := by cbv
    have hlong : Json.read longJobText = ⟨.object
        [(.text (some "state"), .text (some "Open")),
          (.text (some "x"), .list [.object [(.text (some "y"), .null)] true] true),
          (.text (some "id"), .text (some "1")), (.text (some "object"), .text (some "A")),
          (.text (some "operation"), .text (some "insert"))] true, true⟩ := by cbv
    cases (Json.read_eq_iff.mpr hspells).1.symm.trans hshort
    refine hrearranged _ longJobText ?_ (Json.read_eq_iff.mp ⟨hlong, rfl⟩)
    exact .trans (.reordered (.swap ..))
      (.trans (.inserted (by decide) rfl) (.reordered (.swap ..)))

end BulkJobs
