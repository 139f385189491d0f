import BulkJobs.Json.Value
import BulkJobs.Text.Utf8

/-!
# JSON text as a tree

Reading JSON goes in two steps. The first turns any byte string into a `Tree`, which keeps as much
of the text as is lexically sound: where the text goes wrong the tree is cut, and everything before
the cut is still there. The second step decodes the tree into a type. In this way the first problem
in the text decides, whether it is one of form or one of meaning, and parts that nobody asks for
only have to be lexically sound.
-/

set_option autoImplicit false
set_option relaxedAutoImplicit false

namespace BulkJobs.Json

/-- What a JSON text holds up to the place where it goes wrong. A number that is out of range and a
string that denotes no text are kept as such, since they matter only where they are decoded. -/
inductive Tree where
  | cut
  | null
  | bool (value : Bool)
  | number (value : Option Number)
  | text (value : Option String)
  /-- Items in order; `complete` when the closing bracket was reached. -/
  | list (items : List Tree) (complete : Bool)
  /-- Pairs of key and value in order; `complete` when the closing brace was reached. -/
  | object (members : List (Tree × Tree)) (complete : Bool)
deriving Repr

namespace Tree

/-- Whether the text of the tree was read to its end. A list or an object is complete only when all
its parts are. -/
def isSound : Tree → Bool
  | .cut => false
  | .list _ complete => complete
  | .object _ complete => complete
  | _ => true

mutual

/-- How deep lists and objects nest: a value that is neither has height zero. -/
def height : Tree → Nat
  | .list items _ => heightItems items + 1
  | .object members _ => heightMembers members + 1
  | _ => 0
termination_by structural tree => tree

def heightItems : List Tree → Nat
  | [] => 0
  | item :: items => max item.height (heightItems items)
termination_by structural items => items

def heightMembers : List (Tree × Tree) → Nat
  | [] => 0
  | (_, value) :: members => max value.height (heightMembers members)
termination_by structural members => members

end

mutual

/-- The value of a tree, if every part of it denotes one. -/
def value? : Tree → Option Json
  | .cut => none
  | .null => some .null
  | .bool b => some (.bool b)
  | .number n => n.map .number
  | .text t => t.map .text
  | .list items complete =>
    match valueItems? items with
    | some values => if complete then some (.list values) else none
    | none => none
  | .object members complete =>
    match valueMembers? members with
    | some values => if complete then some (Json.ofMembers values) else none
    | none => none
termination_by structural tree => tree

def valueItems? : List Tree → Option (List Json)
  | [] => some []
  | item :: items =>
    match item.value?, valueItems? items with
    | some value, some values => some (value :: values)
    | _, _ => none
termination_by structural items => items

def valueMembers? : List (Tree × Tree) → Option (List (String × Json))
  | [] => some []
  | (key, item) :: members =>
    match key, item.value?, valueMembers? members with
    | .text (some name), some value, some values => some ((name, value) :: values)
    | _, _, _ => none
termination_by structural members => members

end

end Tree

mutual

/-- The tree of a value, as its text would be read. -/
def tree : Json → Tree
  | .null => .null
  | .bool b => .bool b
  | .number n => .number (some n)
  | .text t => .text (some t)
  | .list items => .list (treeItems items) true
  | .object members => .object (treeMembers members) true
termination_by structural value => value

def treeItems : List Json → List Tree
  | [] => []
  | item :: items => item.tree :: treeItems items
termination_by structural items => items

def treeMembers : List (String × Json) → List (Tree × Tree)
  | [] => []
  | (key, value) :: members => (.text (some key), value.tree) :: treeMembers members
termination_by structural members => members

end

end BulkJobs.Json
