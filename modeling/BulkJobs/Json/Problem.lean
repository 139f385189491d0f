import BulkJobs.Json.Writer
import BulkJobs.Text.Quoted

/-!
# Why a JSON text does not decode

Either the text is not well formed, which carries no detail, or what it says does not fit the type
that was asked for.
-/

set_option autoImplicit false
set_option relaxedAutoImplicit false

namespace BulkJobs.Json

/-- The kind of value that was found, with as much of the value as messages quote. -/
inductive Found where
  | null
  | bool (value : Bool)
  | number (value : Number)
  | text (value : String)
  | sequence
  | map
deriving DecidableEq, Repr

/-- Why a text does not decode. -/
inductive Problem where
  /-- The text is not well formed. -/
  | malformed
  | wrongType (found : Found) (expected : String)
  /-- A whole number outside the range of its type. -/
  | outOfRange (found : Number) (expected : String)
  | unknownVariant (name : String) (known : List String)
  | missingField (name : String)
  | duplicateField (name : String)
  /-- A record given as an array that ends too early. -/
  | tooFewItems (count : Nat) (expected : String)
  /-- A value that fits none of the alternatives of a type. -/
  | noAlternative (type : String)
deriving DecidableEq, Repr

/-- A name between backquotes. -/
def ticked (name : String) : String :=
  "`" ++ name ++ "`"

def Number.describe : Number → String
  | .real x => "floating point " ++ ticked (.ofList (writeReal x))
  | .natural n => "integer " ++ ticked (toString n)
  | .negated n => "integer " ++ ticked ("-" ++ toString n)

/-- A found value as it is named in messages. -/
def Found.describe : Found → String
  | .null => "null"
  | .bool b => "boolean " ++ ticked (toString b)
  | .number n => n.describe
  | .text t => "string " ++ Text.quoted t
  | .sequence => "sequence"
  | .map => "map"

/-- The choice among known names as it is named in messages. -/
def choice : List String → String
  | [] => "there are no variants"
  | [a] => "expected " ++ ticked a
  | [a, b] => "expected " ++ ticked a ++ " or " ++ ticked b
  | names => "expected one of " ++ ", ".intercalate (names.map ticked)

/-- The message of a problem; a text that is not well formed has no wording of its own. -/
def Problem.message : Problem → String
  | .malformed => "<malformed JSON>"
  | .wrongType found expected => "invalid type: " ++ found.describe ++ ", expected " ++ expected
  | .outOfRange found expected => "invalid value: " ++ found.describe ++ ", expected " ++ expected
  | .unknownVariant name known => "unknown variant " ++ ticked name ++ ", " ++ choice known
  | .missingField name => "missing field " ++ ticked name
  | .duplicateField name => "duplicate field " ++ ticked name
  | .tooFewItems count expected =>
    "invalid length " ++ toString count ++ ", expected " ++ expected
  | .noAlternative type => "data did not match any variant of untagged enum " ++ type

end BulkJobs.Json
