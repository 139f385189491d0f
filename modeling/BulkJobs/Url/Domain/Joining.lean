import BulkJobs.Url.Domain.Composition
import BulkJobs.Url.Domain.JoiningTable

/-!
# Joiners

The two joiners show nothing. They may stand where they change how their neighbours look: behind a
mark that takes the vowel away from a letter, and the joiner that keeps letters apart also between
two letters that would join.
-/

set_option autoImplicit false
set_option relaxedAutoImplicit false

namespace BulkJobs.Domain

open Text

/-- The joiner that keeps letters apart. -/
def nonJoiner : Char := '\u200C'

/-- The joiner that joins letters. -/
def joiner : Char := '\u200D'

/-- Whether the mark takes the vowel away from the letter before it. -/
def isVirama (c : Char) : Bool :=
  combiningClass c == 9

/-- The nearest character, in a text read away from a joiner, that is not passed over. -/
def neighbour? (text : List Char) : Option Char :=
  (text.dropWhile (Table.covers transparentTable)).head?

/-- Whether the letter joins with the letter after it. -/
def joinsOnward (c : Char) : Bool :=
  Table.covers dualJoiningTable c || Table.covers onwardJoiningTable c

/-- Whether the letter joins with the letter before it. -/
def joinsBackward (c : Char) : Bool :=
  Table.covers dualJoiningTable c || Table.covers backwardJoiningTable c

/-- Whether a character may stand between a text before it, the last character first, and one after
it. -/
def mayStand (before : List Char) (c : Char) (after : List Char) : Bool :=
  if c != joiner && c != nonJoiner then true
  else if before.head?.any isVirama then true
  else c == nonJoiner && (neighbour? before).any joinsOnward && (neighbour? after).any joinsBackward

/-- Whether every joiner of a text may stand where it stands, behind the text before it. -/
def joinersStand (before : List Char) : List Char → Bool
  | [] => true
  | c :: after => mayStand before c after && joinersStand (c :: before) after

end BulkJobs.Domain
