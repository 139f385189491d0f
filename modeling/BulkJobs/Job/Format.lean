import BulkJobs.Json.Decode

/-!
# Data formats

How the records of a job are written down: always as CSV, with a choice of column delimiter and line
ending.
-/

set_option autoImplicit false
set_option relaxedAutoImplicit false

namespace BulkJobs

/-- The format of uploaded data. -/
inductive ContentType where
  | csv
deriving DecidableEq, Repr

namespace ContentType

/-- The name of a format in JSON. -/
def name : ContentType → String
  | .csv => "CSV"

def decode : Json.Decoder ContentType :=
  .alternative [(csv.name, .csv)]

end ContentType

/-- The character between the fields of a record. -/
inductive ColumnDelimiter where
  | comma
  | tab
  | semicolon
  | pipe
  | backquote
  | caret
deriving DecidableEq, Repr

instance : Inhabited ColumnDelimiter := ⟨.comma⟩

namespace ColumnDelimiter

def all : List ColumnDelimiter :=
  [.comma, .tab, .semicolon, .pipe, .backquote, .caret]

/-- The name of a delimiter in JSON. -/
def name : ColumnDelimiter → String
  | .comma => "COMMA"
  | .tab => "TAB"
  | .semicolon => "SEMICOLON"
  | .pipe => "PIPE"
  | .backquote => "BACKQUOTE"
  | .caret => "CARET"

/-- The byte that a delimiter stands for, in data that is read and in data that is sent. -/
def byte : ColumnDelimiter → UInt8
  | .comma => 0x2C
  | .tab => 0x09
  | .semicolon => 0x3B
  | .pipe => 0x7C
  | .backquote => 0x60
  | .caret => 0x5E

def decode : Json.Decoder ColumnDelimiter :=
  .alternative (all.map fun delimiter ↦ (delimiter.name, delimiter))

end ColumnDelimiter

/-- What ends a record. -/
inductive LineEnding where
  | lf
  | crlf
deriving DecidableEq, Repr

instance : Inhabited LineEnding := ⟨.lf⟩

namespace LineEnding

def all : List LineEnding :=
  [.lf, .crlf]

/-- The name of a line ending in JSON. -/
def name : LineEnding → String
  | .lf => "LF"
  | .crlf => "CRLF"

/-- The characters a line ending stands for. -/
def text : LineEnding → String
  | .lf => "\n"
  | .crlf => "\r\n"

def decode : Json.Decoder LineEnding :=
  .alternative (all.map fun ending ↦ (ending.name, ending))

end LineEnding

end BulkJobs
