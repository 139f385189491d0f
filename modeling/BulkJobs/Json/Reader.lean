import BulkJobs.Json.Lexer

/-!
# Reading JSON text

The reader descends with a bound on its steps that the length of the input sets, so it never gives
up before the input does: every value takes at least one byte and every separator another.
-/

set_option autoImplicit false
set_option relaxedAutoImplicit false

namespace BulkJobs.Json

/-- The rest of the input after a word, if the input starts with the word. -/
def afterWord? (word : List UInt8) (input : Octets) : Option Octets :=
  if word.isPrefixOf input then some (input.drop word.length) else none

/-- A value that consists of a single token: a string, a number or one of the three words. Anything
else is cut. -/
def readScalar (input : Octets) : Tree × Octets :=
  match input with
  | [] => (.cut, [])
  | b :: rest =>
    if b == 0x22 then
      match readString rest with
      | some (content, rest) => (.text content, rest)
      | none => (.cut, [])
    else if b == 0x2D || isDigit b then
      match readNumber input with
      | some (value, rest) => (.number value, rest)
      | none => (.cut, [])
    else
      match afterWord? [0x6E, 0x75, 0x6C, 0x6C] input with
      | some rest => (.null, rest)
      | none =>
        match afterWord? [0x74, 0x72, 0x75, 0x65] input with
        | some rest => (.bool true, rest)
        | none =>
          match afterWord? [0x66, 0x61, 0x6C, 0x73, 0x65] input with
          | some rest => (.bool false, rest)
          | none => (.cut, [])

mutual

/-- The value at the start of the input after white space, and the rest, in a number of steps; when
they are used up the tree is cut. -/
def readValue : Nat → Octets → Tree × Octets
  | 0, _ => (.cut, [])
  | steps + 1, input =>
    match skipSpace input with
    | 0x5B :: rest =>
      match skipSpace rest with
      | 0x5D :: rest => (.list [] true, rest)
      | rest =>
        let (items, complete, rest) := readItems steps rest
        (.list items complete, rest)
    | 0x7B :: rest =>
      match skipSpace rest with
      | 0x7D :: rest => (.object [] true, rest)
      | rest =>
        let (members, complete, rest) := readMembers steps rest
        (.object members complete, rest)
    | rest => readScalar rest

/-- The items of an array from here on, whether it is closed, and the rest, in a number of steps. -/
def readItems : Nat → Octets → List Tree × Bool × Octets
  | 0, _ => ([], false, [])
  | steps + 1, input =>
    let (item, rest) := readValue steps input
    if !item.isSound then ([item], false, [])
    else
      match skipSpace rest with
      | 0x2C :: rest =>
        let (items, complete, rest) := readItems steps rest
        (item :: items, complete, rest)
      | 0x5D :: rest => ([item], true, rest)
      | _ => ([item], false, [])

/-- The members of an object from here on, whether it is closed, and the rest, in a number of
steps. -/
def readMembers : Nat → Octets → List (Tree × Tree) × Bool × Octets
  | 0, _ => ([], false, [])
  | steps + 1, input =>
    let (key, rest) := readValue steps input
    match key, skipSpace rest with
    | .text name, 0x3A :: rest =>
      let (value, rest) := readValue steps rest
      if !value.isSound then ([(.text name, value)], false, [])
      else
        match skipSpace rest with
        | 0x2C :: rest =>
          let (members, complete, rest) := readMembers steps rest
          ((.text name, value) :: members, complete, rest)
        | 0x7D :: rest => ([(.text name, value)], true, rest)
        | _ => ([(.text name, value)], false, [])
    | _, _ => ([(key, .cut)], false, [])

end

/-- A JSON text: its value as a tree, and whether nothing but white space follows it. -/
structure Document where
  root : Tree
  ended : Bool

/-- Read a JSON text, with as many steps as its length can take. -/
def read (text : Octets) : Document :=
  let (root, rest) := readValue (2 * text.length + 2) text
  { root, ended := (skipSpace rest).isEmpty }

/-- The value of a JSON text, if the text is well formed and nothing but white space follows it. -/
def parse? (text : Octets) : Option Json :=
  let document := read text
  if document.ended then document.root.value? else none

end BulkJobs.Json
