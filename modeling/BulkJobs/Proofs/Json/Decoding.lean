import BulkJobs.Proofs.Json.Record
import BulkJobs.Proofs.Json.Spelling
import BulkJobs.Proofs.Outcome

/-!
# Texts that decode

A text decodes as the tree that it spells (`decodeText_of_spells`), and a text that decodes as a
record spells an object or a list (`Layout.decodeText_eq_ok_iff`). An array is decoded item by item
(`Decoder.array_eq_ok_iff`), and texts with commas between them and brackets around them spell the
list of what they spell by themselves (`spells_arrayText`). So an array of texts decodes to the
values that the texts decode to (`decodeText_arrayText`).
-/

set_option autoImplicit false
set_option relaxedAutoImplicit false

namespace BulkJobs.Json

variable {α : Type} {tree : Tree} {depth : Nat}

/-! ### Texts of records -/

/-- A text is decoded as the tree that it spells (`h`), with nothing around the tree yet. -/
theorem decodeText_of_spells {decode : Decoder α} {text : Octets}
    (h : Spells (.spaced tree) text) : decodeText decode text = decode 0 tree := by
  rw [decodeText, (read_eq_iff.mpr h).1]
  exact bind_pure (decode 0 tree)

section Records

variable {layout : Layout α} {title : String} {text : Octets} {a : α}

/-- A text that decodes as a record (`hread`) spells an object or a list: nothing else has the parts
of one. -/
theorem Layout.spells_of_decodeText (hread : decodeText (layout.decoder title) text = .ok a) :
    (∃ members, Spells (.spaced (.object members true)) text) ∨
      ∃ items, Spells (.spaced (.list items true)) text := by
  obtain ⟨hended, hroot⟩ := Json.decodeText_eq_ok_iff.mp hread
  obtain ⟨parts, hdivide, -⟩ := decoder_eq_ok_iff.mp hroot
  cases hdocument : Json.read text with
  | mk root ended =>
    rw [hdocument] at hended hdivide
    cases hended
    cases root with
    | object members complete =>
      obtain ⟨rfl, -⟩ := divide_object hdivide
      exact .inl ⟨members, read_eq_iff.mp ⟨hdocument, rfl⟩⟩
    | list items complete =>
      obtain ⟨rfl, -⟩ := divide_list hdivide
      exact .inr ⟨items, read_eq_iff.mp ⟨hdocument, rfl⟩⟩
    | _ => cases hdivide

/-- A text decodes as a record exactly when it spells a tree that does. -/
theorem Layout.decodeText_eq_ok_iff : decodeText (layout.decoder title) text = .ok a ↔
    ∃ tree, Spells (.spaced tree) text ∧ layout.decoder title 0 tree = .ok a := by
  constructor
  · intro hread
    obtain ⟨members, hspells⟩ | ⟨items, hspells⟩ := spells_of_decodeText hread
    · exact ⟨_, hspells, (decodeText_of_spells hspells).symm.trans hread⟩
    · exact ⟨_, hspells, (decodeText_of_spells hspells).symm.trans hread⟩
  · rintro ⟨tree, hspells, hdecode⟩
    exact (decodeText_of_spells hspells).trans hdecode

end Records

/-! ### Parts of records -/

/-- The key of a field is one of its names (`hfield`), when no name is that of two fields
(`hnames`). -/
theorem fieldOf_eq_some_iff {names : List (List String)} (hnames : names.Pairwise List.Disjoint)
    {index : Nat} {field : List String} (hfield : names[index]? = some field) {key : Tree} :
    fieldOf names key = some index ↔ ∃ name ∈ field, key = .text (some name) := by
  obtain ⟨hindex, rfl⟩ := List.getElem?_eq_some_iff.mp hfield
  unfold fieldOf
  split
  · next name =>
    rw [List.findIdx?_eq_some_iff_getElem]
    constructor
    · rintro ⟨_, hname, -⟩
      exact ⟨name, List.contains_iff_mem.mp hname, rfl⟩
    · rintro ⟨_, hname, ⟨⟩⟩
      refine ⟨hindex, List.contains_iff_mem.mpr hname, fun before hbefore hearlier ↦ ?_⟩
      exact List.pairwise_iff_getElem.mp hnames before index _ hindex hbefore
        (List.contains_iff_mem.mp hearlier) hname
  · next hother => exact iff_of_false nofun fun ⟨name, _, hkey⟩ ↦ hother name hkey

/-- What a field of a record holds stands under one of its names, when no name is that of two fields
(`hnames`). -/
theorem Fits.content_eq_some_iff_of_disjoint {names : List (List String)}
    {members : List (Tree × Tree)} (h : Fits names members) (hnames : names.Pairwise List.Disjoint)
    {index : Nat} {field : List String} (hfield : names[index]? = some field) {value : Tree} :
    content names members index = some value ↔
      ∃ name ∈ field, (.text (some name), value) ∈ members := by
  rw [h.content_eq_some_iff]
  constructor
  · rintro ⟨key, hmember, hkey⟩
    obtain ⟨name, hname, rfl⟩ := (fieldOf_eq_some_iff hnames hfield).mp hkey
    exact ⟨name, hname, hmember⟩
  · rintro ⟨name, hname, hmember⟩
    exact ⟨_, hmember, (fieldOf_eq_some_iff hnames hfield).mpr ⟨name, hname, rfl⟩⟩

/-- What a field of a record is when it is missing, if it may be: that depends on the form of the
record. -/
def Field.absent {α : Type} (field : Field α) : RecordForm → Option α
  | .object => field.inObject
  | .array => field.inArray

/-- A field is read from what it holds (`h`), or is what it is when it is missing. -/
theorem Parts.Hold.read_eq_ok_iff {parts : Parts} {form : RecordForm} {content : Nat → Option Tree}
    (h : parts.Hold form depth content) {field : Field α} {index : Nat} {a : α} :
    field.read index parts = .ok a ↔
      (∃ tree, content index = some tree ∧ field.decode depth tree = .ok a) ∨
        content index = none ∧ field.absent form = some a := by
  rw [Field.read_eq_ok_iff, h.content_eq, h.form_eq, h.depth_eq]
  cases content index <;> cases form <;> simp [Field.absent]

namespace Decoder

theorem text_eq_ok_iff {value : String} :
    text depth tree = .ok value ↔ tree = .text (some value) := by
  unfold text
  split
  · simp
  · next hother => exact iff_of_false nofun fun h ↦ hother value h

theorem optional_eq_ok_iff {decode : Decoder α} {value : Option α} :
    optional decode depth tree = .ok value ↔
      tree = .null ∧ value = none ∨ tree ≠ .null ∧ ∃ a, decode depth tree = .ok a ∧ value = a := by
  unfold optional
  split
  · simp [eq_comm]
  · next hsome =>
    have hsome' : tree ≠ .null := fun hnull ↦ hsome hnull
    cases decode depth tree <;> simp [hsome', Except.map, eq_comm]

theorem array_eq_ok_iff {decode : Decoder α} {values : List α} :
    array decode depth tree = .ok values ↔ ∃ items, tree = .list items true ∧
      List.Forall₂ (fun item value ↦ decode (depth + 1) item = .ok value) items values := by
  unfold array
  split
  · next items complete =>
    rw [bind_eq_ok_iff]
    constructor
    · rintro ⟨found, hitems, hfound⟩
      split_ifs at hfound with hcomplete
      cases hfound
      exact ⟨items, by rw [hcomplete], mapM_eq_ok_iff.mp hitems⟩
    · rintro ⟨_, ⟨⟩, hitems⟩
      exact ⟨values, mapM_eq_ok_iff.mpr hitems, rfl⟩
  · next hother => exact iff_of_false nofun fun ⟨items, hlist, _⟩ ↦ hother items true hlist

theorem array_text_eq_ok_iff {values : List String} :
    array text depth tree = .ok values ↔
      tree = .list (values.map fun value ↦ .text (some value)) true := by
  have hitems (items : List Tree) :
      List.Forall₂ (fun item value ↦ text (depth + 1) item = .ok value) items values ↔
        items = values.map fun value ↦ .text (some value) := by
    simp only [text_eq_ok_iff]
    rw [← List.forall₂_map_right_iff (R := Eq), List.forall₂_eq_eq_eq]
  simp only [array_eq_ok_iff, hitems]
  exact ⟨fun ⟨_, htree, hlisted⟩ ↦ hlisted ▸ htree, fun htree ↦ ⟨_, htree, rfl⟩⟩

end Decoder

/-- A text that must be there (`hneeded`) is read from what its field holds, and only from a text.
-/
theorem Parts.Hold.read_text_iff {parts : Parts} {form : RecordForm} {content : Nat → Option Tree}
    (h : parts.Hold form depth content) {field : Field String} (htext : field.decode = .text)
    (hneeded : field.absent form = none) {index : Nat} {value : String} :
    field.read index parts = .ok value ↔ content index = some (.text (some value)) := by
  simp [h.read_eq_ok_iff, htext, hneeded, Decoder.text_eq_ok_iff]

/-! ### Arrays of texts -/

def arrayText (texts : List String) : String :=
  "[" ++ ",".intercalate texts ++ "]"

theorem encode_append (front back : String) :
    Utf8.encode (front ++ back) = Utf8.encode front ++ Utf8.encode back := by
  rw [Utf8.encode, String.toList_append, List.flatMap_append]
  rfl

abbrev SpellEach (trees : List Tree) (texts : List String) : Prop :=
  List.Forall₂ (fun tree text ↦ Spells (.spaced tree) (Utf8.encode text)) trees texts

theorem spells_intercalate {trees : List Tree} {texts : List String} (h : SpellEach trees texts)
    (hsome : texts ≠ []) : Spells (.items trees) (Utf8.encode (",".intercalate texts)) := by
  induction h with
  | nil => exact absurd rfl hsome
  | @cons tree text trees texts hfirst hrest ih =>
    cases hrest with
    | nil =>
      rw [String.intercalate_singleton]
      exact .item hfirst
    | cons hnext hothers =>
      rw [String.intercalate_cons_cons, encode_append, encode_append, List.append_assoc]
      exact .moreItems hfirst (ih (List.cons_ne_nil _ _))

/-- Texts in an array spell the list of what they spell one by one (`h`). -/
theorem spells_arrayText {trees : List Tree} {texts : List String} (h : SpellEach trees texts) :
    Spells (.spaced (.list trees true)) (Utf8.encode (arrayText texts)) := by
  have hnone : IsSpacing [] := fun _ hb ↦ absurd hb List.not_mem_nil
  have hbrackets : Utf8.encode (arrayText texts) =
      [] ++ (0x5B :: (Utf8.encode (",".intercalate texts) ++ [0x5D]) ++ []) := by
    rw [arrayText, encode_append, encode_append, List.append_nil]
    rfl
  rw [hbrackets]
  refine .spaced hnone hnone ?_
  cases h with
  | nil => exact .emptyList hnone
  | cons hfirst hrest =>
    exact .list (spells_intercalate (.cons hfirst hrest) (List.cons_ne_nil _ _))

/-- Texts of trees that decode one level down (`h`), in an array, decode to the values of the trees,
in their order. -/
theorem decodeText_arrayText {decode : Decoder α} {texts : List String} {values : List α}
    (h : List.Forall₂ (fun text value ↦
      ∃ tree, Spells (.spaced tree) (Utf8.encode text) ∧ decode 1 tree = .ok value) texts values) :
    decodeText (.array decode) (Utf8.encode (arrayText texts)) = .ok values := by
  have htrees : ∃ trees, SpellEach trees texts ∧
      List.Forall₂ (fun tree value ↦ decode 1 tree = .ok value) trees values := by
    induction h with
    | nil => exact ⟨[], .nil, .nil⟩
    | cons hfirst _ ih =>
      obtain ⟨tree, hspells, hdecode⟩ := hfirst
      obtain ⟨trees, hspells', hdecode'⟩ := ih
      exact ⟨tree :: trees, .cons hspells hspells', .cons hdecode hdecode'⟩
  obtain ⟨trees, hspells, hdecode⟩ := htrees
  rw [decodeText_of_spells (spells_arrayText hspells)]
  exact Decoder.array_eq_ok_iff.mpr ⟨trees, rfl, hdecode⟩

end BulkJobs.Json
