import BulkJobs.Url.Domain.SpellingTable

/-!
# How a character is spelled in a domain name

Letters are spelled in lower case, variants of a character as the character itself, and some
characters, the soft hyphen among them, are left out. A few stop marks of other scripts are spelled
as the full stop, so they part labels too.
-/

set_option autoImplicit false
set_option relaxedAutoImplicit false

namespace BulkJobs.Domain

/-- The spelling of a character in a run of characters with a step between them. -/
def shifted? (n : Nat) : List Nat → Option (List Nat)
  | [first, last, step, target] =>
    let along := n - first
    if first ≤ n && n ≤ last && along % step == 0 then some [target + along] else none
  | _ => none

/-- The spelling of a character that has one of its own. -/
def spelled? (n : Nat) : List Nat → Option (List Nat)
  | [] => none
  | single :: spelling => if n == single then some spelling else none

/-- The spelling of a character, if it may stand in a domain name. -/
def spell? (c : Char) : Option (List Char) :=
  if c.toNat < 0x80 then some [Text.lowerAscii c]
  else if Text.Table.covers refusedTable c then none
  else if Text.Table.covers ignoredTable c then some []
  else
    match (spelledTable.findSome? (spelled? c.toNat)).orElse fun _ ↦
        shiftedTable.findSome? (shifted? c.toNat) with
    | some spelling => some (spelling.map Char.ofNat)
    | none => some [c]

end BulkJobs.Domain
