import BulkJobs.Json.Decode

/-!
# Decoding records

A record is written as an object whose members may come in any order, or as an array of its fields
in their order of declaration. A `Layout` describes the fields once, and both forms are read with
it: the parts of the text are first put into the slots of the fields, each with its place in the
text, and then decoded slot by slot. Of all the problems met, the one at the earliest place is
reported; what is missing is only noticed at the end.
-/

set_option autoImplicit false
set_option relaxedAutoImplicit false

namespace BulkJobs.Json

/-- A problem and its place among the parts of a record's text. -/
structure Located where
  place : Nat
  problem : Problem
deriving DecidableEq, Repr

abbrev Checked (α : Type) :=
  Except Located α

/-- Apply a function to an argument when both are there, and otherwise report the problem at the
earlier place. -/
def Checked.both {α β : Type} (f : Checked (α → β)) (x : Checked α) : Checked β :=
  match f, x with
  | .ok f, .ok x => .ok (f x)
  | .ok _, .error e => .error e
  | .error e, .ok _ => .error e
  | .error e, .error e' => .error (if e'.place < e.place then e' else e)

/-- The two ways to write a record: as an object with named members, or as an array with the fields
in order. -/
inductive RecordForm where
  | object
  | array
deriving DecidableEq, Repr

/-- The parts of a record's text, put into the slots of its fields, and what messages need to know
about the text. -/
structure Parts where
  form : RecordForm
  /-- How many lists and objects enclose the fields. -/
  depth : Nat
  /-- For each field its place and tree, if it is there. -/
  slots : List (Option (Nat × Tree))
  /-- The place of what is missing, after everything that is there. -/
  beyond : Nat
  /-- The record with its number of fields, as it is named in messages. -/
  expected : String

/-- A field of a record: how it is decoded, and what it is where it is missing, in either form. -/
structure Field (α : Type) where
  name : String
  aliases : List String
  decode : Decoder α
  /-- Its value when an object has no such member. -/
  inObject : Option α
  /-- Its value when an array ends before it. -/
  inArray : Option α

namespace Field

/-- A field that has to be there in both forms. -/
def required {α : Type} (name : String) (decode : Decoder α) : Field α :=
  { name, aliases := [], decode, inObject := none, inArray := none }

/-- A field with a value for when it is missing, in either form of a record. -/
def withDefault {α : Type} (name : String) (value : α) (decode : Decoder α) : Field α :=
  { name, aliases := [], decode, inObject := some value, inArray := some value }

/-- A field that may be missing or `null`, in either form of a record. -/
def optional {α : Type} (name : String) (decode : Decoder α) : Field (Option α) :=
  withDefault name none (Decoder.optional decode)

/-- Decode the slot of a field, the one with the given index, or take what the field is when it is
missing. -/
def read {α : Type} (field : Field α) (index : Nat) (parts : Parts) : Checked α :=
  match parts.slots.getD index none with
  | some (place, tree) => (field.decode parts.depth tree).mapError (Located.mk place)
  | none =>
    match parts.form with
    | .object =>
      match field.inObject with
      | some value => .ok value
      | none => .error ⟨parts.beyond, .missingField field.name⟩
    | .array =>
      match field.inArray with
      | some value => .ok value
      | none => .error ⟨parts.beyond, .tooFewItems index parts.expected⟩

end Field

/-- The fields of a record in their order of declaration, and how to build it from its parts. -/
structure Layout (α : Type) where
  /-- The names each field goes by; the first of them is used in messages. -/
  names : List (List String)
  read : Parts → Checked α

namespace Layout

/-- A record built by a function from the fields to follow. -/
def start {α : Type} (build : α) : Layout α where
  names := []
  read _ := .ok build

/-- Add a field, which becomes the next argument of the function that builds the record. -/
def field {α β : Type} (layout : Layout (α → β)) (field : Field α) : Layout β where
  names := layout.names ++ [field.name :: field.aliases]
  read parts := Checked.both (layout.read parts) (field.read layout.names.length parts)

/-- Put the members of an object into slots, from the member with the given place on; also the first
problem of the object as such: a key that is no string, a repeated field, an unknown member that is
not sound, or a missing end. -/
def fillSlots (names : List (List String)) (complete : Bool) :
    Nat → List (Option (Nat × Tree)) → List (Tree × Tree) →
      List (Option (Nat × Tree)) × Option Located
  | place, slots, [] => (slots, if complete then none else some ⟨place, .malformed⟩)
  | place, slots, (key, value) :: members =>
    match key with
    | .text (some name) =>
      match names.findIdx? (·.contains name) with
      | some index =>
        if (slots.getD index none).isSome then
          let known := (names.getD index []).headD name
          (slots, some ⟨place, .duplicateField known⟩)
        else fillSlots names complete (place + 1) (slots.set index (some (place, value))) members
      | none =>
        if value.isSound then fillSlots names complete (place + 1) slots members
        else (slots, some ⟨place, .malformed⟩)
    | _ => (slots, some ⟨place, .malformed⟩)

/-- The slots of a record written as an array, and the first problem of the array as such: more
items than fields, or a missing end. -/
def itemSlots (names : List (List String)) (items : List Tree) (complete : Bool) :
    List (Option (Nat × Tree)) × Option Located :=
  let slots := (items.take names.length).zipIdx.map fun (item, place) ↦ some (place, item)
  let missing := List.replicate (names.length - items.length) none
  let problem :=
    if items.length > names.length then some ⟨names.length, .malformed⟩
    else if complete then none
    else some ⟨items.length, .malformed⟩
  (slots ++ missing, problem)

/-- Build the record from its parts unless an earlier problem stands in the way. -/
def build {α : Type} (layout : Layout α) (parts : Parts) (problem : Option Located) :
    Except Problem α :=
  let whole : Checked Unit := match problem with
    | none => .ok ()
    | some located => .error located
  (Checked.both (whole.map fun _ value ↦ value) (layout.read parts)).mapError Located.problem

/-- The decoder of the record with the given title, from an object or an array. -/
def decoder {α : Type} (layout : Layout α) (title : String) : Decoder α := fun depth tree ↦
  let expected := title ++ " with " ++ toString layout.names.length ++ " elements"
  match tree with
  | .object members complete =>
    let (slots, problem) :=
      fillSlots layout.names complete 0 (layout.names.map fun _ ↦ none) members
    layout.build
      { form := .object, depth := depth + 1, slots, beyond := members.length + 1, expected } problem
  | .list items complete =>
    let (slots, problem) := itemSlots layout.names items complete
    layout.build
      { form := .array, depth := depth + 1, slots, beyond := items.length + 1, expected } problem
  | tree => .error (wrongType tree title)

end Layout

end BulkJobs.Json
