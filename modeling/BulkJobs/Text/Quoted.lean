import BulkJobs.Text.Ascii
import BulkJobs.Text.Visible

/-!
# Quoted text

Text between double quotes for diagnostics: quotes, backslashes and line controls are escaped with a
backslash, and characters that do not show are written by code point.
-/

set_option autoImplicit false
set_option relaxedAutoImplicit false

namespace BulkJobs.Text

/-- One character inside a quoted text, escaped where it has to be or does not show. -/
def quotedChar (c : Char) : List Char :=
  if c == '"' then ['\\', '"']
  else if c == '\\' then ['\\', '\\']
  else if c == '\n' then ['\\', 'n']
  else if c == '\r' then ['\\', 'r']
  else if c == '\t' then ['\\', 't']
  else if c.toNat == 0 then ['\\', '0']
  else if isVisible c then [c]
  else ['\\', 'u', '\x7b'] ++ lowerHex c.toNat ++ ['\x7d']

/-- A text between double quotes. -/
def quoted (text : String) : String :=
  .ofList ('"' :: text.toList.flatMap quotedChar ++ ['"'])

def quotedOption : Option String → String
  | none => "None"
  | some text => "Some(" ++ quoted text ++ ")"

end BulkJobs.Text
