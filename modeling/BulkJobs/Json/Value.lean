import BulkJobs.Number.Binary64

/-!
# JSON values

A value as programs exchange it. Whole numbers of 64 bits stay exact; every other number is a
floating-point number. The members of an object are kept in ascending order of their keys, each key
once.
-/

set_option autoImplicit false
set_option relaxedAutoImplicit false

namespace BulkJobs

namespace Json

/-- A JSON number: a natural number below `2 ^ 64`, the negation of a positive number up to
`2 ^ 63`, or a floating-point number. -/
inductive Number where
  | natural (n : Nat)
  | negated (n : Nat)
  | real (x : Binary64)
deriving DecidableEq, Repr

end Json

/-- A JSON value. The members of an object are in the order in which they are written. -/
inductive Json where
  | null
  | bool (value : Bool)
  | number (value : Json.Number)
  | text (value : String)
  | list (items : List Json)
  | object (members : List (String × Json))
deriving Repr

namespace Json

/-- A natural number as a value. -/
def nat (n : Nat) : Json :=
  .number (.natural n)

def ofOption {α : Type} (encode : α → Json) (value : Option α) : Json :=
  (value.map encode).getD .null

/-- Put a member in its place among the members of an object, replacing one with the same key. -/
def insertMember (key : String) (value : Json) : List (String × Json) → List (String × Json)
  | [] => [(key, value)]
  | (k, v) :: rest =>
    if key == k then (key, value) :: rest
    else if key < k then (key, value) :: (k, v) :: rest
    else (k, v) :: insertMember key value rest

/-- The object with the given members; of several with one key the last counts. -/
def ofMembers (members : List (String × Json)) : Json :=
  .object (members.foldl (fun built member ↦ insertMember member.1 member.2 built) [])

/-- The value of a member of an object. -/
def member? (key : String) : Json → Option Json
  | .object members => members.lookup key
  | _ => none

end Json

end BulkJobs
