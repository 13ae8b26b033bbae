/-
  What can be wrong with a document: its bytes are no text, it is malformed, or one of its values
  stands for nothing. Two faults are none of the document's: it has a value that is no tree, or a
  text with half a character in it, and there are no such values here.
-/
import DeclaredTools.Calendar
import DeclaredTools.Text.Utf8
import DeclaredTools.Value.Text

namespace DeclaredTools.Yaml

inductive Fault where
  /-- No document in the language. -/
  | malformed
  /-- The characters at hand end where more of them have to come. -/
  | unfinished
  | encoding (f : Text.Utf8.Fault)
  /-- An escape beyond the last code point. -/
  | codePoint (n : Nat)
  | integer (base : Nat) (text : String)
  /-- An integer with so many digits that none is made of them. -/
  | longInteger (digits : Nat)
  /-- So many digits, up to the end of the characters at hand. -/
  | unfinishedInteger (digits : Nat)
  | float (text : String)
  /-- A number without any text. -/
  | noText
  /-- A float with too many places in base sixty. -/
  | tooLarge
  | truth (text : String)
  | notTimestamp
  /-- A timestamp that is not written as text. -/
  | timestampKind
  | calendar (e : CalendarError)
  /-- A text that a mapping keeps under its default key, and that is this mapping again. -/
  | endless
  /-- A collection that is part of itself. -/
  | selfContaining
  /-- An escape for one half of a pair that is a character together. -/
  | surrogate (n : Nat)
  deriving DecidableEq

namespace Fault

/-- How many characters of a text that is no integer are shown, its quotation marks included. -/
def quotedLength : Nat := 200

/-- The document has a value, but it is none of those here. -/
def isForeign : Fault → Bool
  | .selfContaining => true
  | .surrogate _ => true
  | _ => false

def message : Fault → String
  | .malformed => "malformed document"
  | .unfinished => "unfinished document"
  | .encoding f => f.message
  | .codePoint n =>
    if n < 0x80000000 then "chr() arg not in range(0x110000)"
    else "Python int too large to convert to C int"
  | .integer base text =>
    "invalid literal for int() with base " ++ toString base ++ ": "
      ++ ((Value.quoted text).take quotedLength).toString
  | .longInteger digits | .unfinishedInteger digits =>
    Text.tooManyDigits (": value has " ++ toString digits ++ " digits")
  | .float text => "could not convert string to float: " ++ Value.quoted text
  | .noText => "string index out of range"
  | .tooLarge => "int too large to convert to float"
  | .truth text => Value.quoted text
  | .notTimestamp => "'NoneType' object has no attribute 'groupdict'"
  | .timestampKind => "expected string or bytes-like object, got 'list'"
  | .calendar e => e.message
  | .endless => "maximum recursion depth exceeded"
  | .selfContaining => "a collection is part of itself"
  | .surrogate n => "no character has the code point " ++ toString n

/-- What is wrong where the characters ahead cannot stand. -/
def ofRest (rest : List Char) : Fault := if rest.isEmpty then .unfinished else .malformed

end Fault

end DeclaredTools.Yaml
