import BulkJobs.Json.Problem
import BulkJobs.Json.Reader

/-!
# Decoding JSON trees

A decoder turns a tree into a value of a type or names the first problem in the order of the text.
It is told how many lists and objects enclose the tree, because values that are kept as they are may
nest only so deep.
-/

set_option autoImplicit false
set_option relaxedAutoImplicit false

namespace BulkJobs.Json

/-- How deep lists and objects may nest around a part of a value that is kept as it is; `anything`
takes a value that nests deeper for a malformed one. -/
def nestingLimit : Nat := 127

/-- A decoder of trees, given how many lists and objects enclose the tree. It fails with the first
problem of the text. -/
abbrev Decoder (α : Type) :=
  (depth : Nat) → Tree → Except Problem α

/-- The problem of a tree of the wrong kind. A single token is read in full before its kind is
looked at. -/
def wrongType (tree : Tree) (expected : String) : Problem :=
  match tree with
  | .cut => .malformed
  | .null => .wrongType .null expected
  | .bool b => .wrongType (.bool b) expected
  | .number (some n) => .wrongType (.number n) expected
  | .number none => .malformed
  | .text (some t) => .wrongType (.text t) expected
  | .text none => .malformed
  | .list _ _ => .wrongType .sequence expected
  | .object _ _ => .wrongType .map expected

namespace Decoder

def text : Decoder String := fun _ tree ↦
  match tree with
  | .text (some t) => .ok t
  | tree => .error (wrongType tree "a string")

def boolean : Decoder Bool := fun _ tree ↦
  match tree with
  | .bool b => .ok b
  | tree => .error (wrongType tree "a boolean")

/-- Decode a natural number below a bound. -/
def natural (bound : Nat) (expected : String) : Decoder Nat := fun _ tree ↦
  match tree with
  | .number (some (.natural n)) =>
    if n < bound then .ok n else .error (.outOfRange (.natural n) expected)
  | .number (some (.negated n)) => .error (.outOfRange (.negated n) expected)
  | tree => .error (wrongType tree expected)

/-- Decode a natural number of 64 bits. -/
def natural64 : Decoder Nat :=
  natural (Nat.pow 2 64) "u64"

/-- Decode a natural number of 32 bits. -/
def natural32 : Decoder Nat :=
  natural (Nat.pow 2 32) "u32"

/-- Decode an optional value; `null` stands for an absent one. -/
def optional {α : Type} (decode : Decoder α) : Decoder (Option α) := fun depth tree ↦
  match tree with
  | .null => .ok none
  | tree => (decode depth tree).map some

/-- Decode an array item by item, up to the first item with a problem. -/
def array {α : Type} (decode : Decoder α) : Decoder (List α) := fun depth tree ↦
  match tree with
  | .list items complete => do
    let values ← items.mapM (decode (depth + 1))
    if complete then return values else throw .malformed
  | tree => .error (wrongType tree "a sequence")

/-- Decode any value, kept as it is, if its text is sound and it does not nest deeper than
`nestingLimit`. -/
def anything : Decoder Json := fun depth tree ↦
  if depth + tree.height ≤ nestingLimit then
    match tree.value? with
    | some value => .ok value
    | none => .error .malformed
  else .error .malformed

def unit : Decoder Unit := fun _ tree ↦
  match tree with
  | .null => .ok ()
  | tree => .error (wrongType tree "unit")

/-- Decode the name of one of several alternatives. -/
def alternativeName {α : Type} (names : List (String × α)) : Decoder α := fun _ tree ↦
  match tree with
  | .text (some name) =>
    match names.lookup name with
    | some value => .ok value
    | none => .error (.unknownVariant name (names.map Prod.fst))
  | tree => .error (wrongType tree "variant identifier")

/-- Decode one of several alternatives without content: its name as a string, or an object whose
only member has the name as its key and `null` as its value. -/
def alternative {α : Type} (names : List (String × α)) : Decoder α := fun depth tree ↦
  match tree with
  | .text _ => alternativeName names depth tree
  | .object ((key, content) :: others) complete => do
    let value ← alternativeName names (depth + 1) key
    unit (depth + 1) content
    if others.isEmpty && complete then return value else throw .malformed
  | _ => .error .malformed

end Decoder

/-- Decode a whole JSON text: nothing but white space may stand behind its value. -/
def decodeText {α : Type} (decode : Decoder α) (source : Octets) : Except Problem α := do
  let document := read source
  let value ← decode 0 document.root
  if document.ended then return value else throw .malformed

/-- Decode a value that was read before, which is its tree without any text around it. -/
def decodeValue {α : Type} (decode : Decoder α) (value : Json) : Except Problem α :=
  decode 0 value.tree

end BulkJobs.Json
