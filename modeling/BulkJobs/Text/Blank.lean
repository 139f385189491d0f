/-!
# Blank characters

A character is blank when Unicode gives it the property `White_Space`. Trimming removes blanks (or
another class of characters) from the ends of a text and never touches its inside.
-/

set_option autoImplicit false
set_option relaxedAutoImplicit false

namespace BulkJobs.Text

/-- Whether Unicode gives the character the property `White_Space`. -/
def isBlank (c : Char) : Bool :=
  let n := c.toNat
  (0x09 ≤ n && n ≤ 0x0D) || n == 0x20 || n == 0x85 || n == 0xA0 || n == 0x1680 ||
    (0x2000 ≤ n && n ≤ 0x200A) || n == 0x2028 || n == 0x2029 || n == 0x202F || n == 0x205F ||
    n == 0x3000

/-- Drop the trailing characters of a class. -/
def dropEndWhile (p : Char → Bool) (text : List Char) : List Char :=
  (text.reverse.dropWhile p).reverse

/-- Drop the characters of a class from both ends. -/
def stripWhile (p : Char → Bool) (text : List Char) : List Char :=
  dropEndWhile p (text.dropWhile p)

/-- The text without leading and trailing blanks. -/
def trim (text : String) : String :=
  .ofList (stripWhile isBlank text.toList)

/-- Whether the text holds nothing but blanks. -/
def isBlankText (text : String) : Bool :=
  text.toList.all isBlank

/-- The text without any number of leading occurrences of the given characters. -/
def trimStartChars (chars : List Char) (text : String) : String :=
  .ofList (text.toList.dropWhile (chars.contains ·))

/-- The text without any number of trailing occurrences of the given characters. -/
def trimEndChars (chars : List Char) (text : String) : String :=
  .ofList (dropEndWhile (chars.contains ·) text.toList)

end BulkJobs.Text
