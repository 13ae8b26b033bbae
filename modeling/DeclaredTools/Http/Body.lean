/-
  Bodies of messages: values in the form in which they travel, and what can be wrong with the body
  of a request.
-/
import DeclaredTools.Json.Reader
import DeclaredTools.Registry
import DeclaredTools.Text.Utf8

namespace DeclaredTools.Http

/-- Why a value cannot travel. -/
inductive BodyFault where
  /-- Bytes that are no text. -/
  | bytes (f : Text.Utf8.Fault)
  /-- Bytes that are no text, as the name of an entry. -/
  | name (f : Text.Utf8.Fault)
  /-- The name of an entry has no text. -/
  | nameless (e : Unwritable)
  /-- Half a character, which is no part of any text here. -/
  | surrogate
  /-- A number without digits in a message about a mistake. -/
  | notFinite

namespace BodyFault

def bytesText (f : Text.Utf8.Fault) : String :=
  if f.reason = .unexpectedEnd then "incomplete utf-8 byte sequence from index " ++ toString f.start
  else
    "invalid utf-8 sequence of " ++ toString f.length ++ " bytes from index " ++ toString f.start

def nameText (f : Text.Utf8.Fault) : String :=
  "UnicodeDecodeError: 'utf-8' codec can't decode byte 0x" ++ Value.hex 2 f.byte.toNat
    ++ " in position " ++ toString f.start ++ ": invalid utf-8"

def message : BodyFault → String
  | .bytes f => "Error serializing to JSON: " ++ bytesText f
  | .name f => "Error serializing to JSON: " ++ nameText f
  | .nameless e => "Error serializing to JSON: ValueError: " ++ e.message
  | .surrogate => "Half a character"
  | .notFinite => "Out of range float values are not JSON compliant"

end BodyFault

/-- A zone as it travels: in hours and minutes, UTC as a letter. -/
def zoneText (micros : Int) : String :=
  let seconds := micros.fdiv Calendar.microsOfSecond
  let minutes := seconds.natAbs / 60
  if seconds = 0 then "Z"
  else
    (if seconds < 0 then "-" else "+") ++ Calendar.padded 2 (minutes / 60) ++ ":"
      ++ Calendar.padded 2 (minutes % 60)

def timestampText (t : Timestamp) : String :=
  { t with offset := none }.text "T" ++ (t.offset.map zoneText).getD ""

mutual

/-- The name under which an entry travels. -/
def nameOf : Value → Except BodyFault String
  | .text s => .ok s
  | .null => .ok "None"
  | .bool b => .ok (if b then "true" else "false")
  | .float .nan => .ok "None"
  | .float (.infinite _) => .ok "None"
  | .timestamp t => .ok (timestampText t)
  | .bytes bs =>
    match Text.Utf8.decode bs with
    | .ok text => .ok text
    | .error f => .error (.name f)
  | .tuple xs => (namesOf xs).map (",".intercalate ·)
  | v =>
    match v.written with
    | .ok text => .ok text
    | .error e => .error (.nameless e)

def namesOf : List Value → Except BodyFault (List String)
  | [] => .ok []
  | x :: xs => do
    let name ← nameOf x
    return name :: (← namesOf xs)

end

mutual

/-- The value as it travels: names are texts, dates and timestamps too, sequences and sets are
lists, and numbers without digits are null. -/
def plain : Value → Except BodyFault Value
  | .float .nan => .ok .null
  | .float (.infinite _) => .ok .null
  | .date d => .ok (.text d.text)
  | .timestamp t => .ok (.text (timestampText t))
  | .bytes bs =>
    match Text.Utf8.decode bs with
    | .ok text => .ok (.text text)
    | .error f => .error (.bytes f)
  | .list xs => (plainList xs).map .list
  | .tuple xs => (plainList xs).map .list
  | .set xs => (plainList xs).map .list
  | .map es => (plainEntries es).map fun es => .map (Value.ofEntries es)
  | v => .ok v

def plainList : List Value → Except BodyFault (List Value)
  | [] => .ok []
  | x :: xs => do
    let x ← plain x
    return x :: (← plainList xs)

def plainEntries : List (Value × Value) → Except BodyFault (List (Value × Value))
  | [] => .ok []
  | (k, v) :: es => do
    let name ← nameOf k
    let v ← plain v
    return (.text name, v) :: (← plainEntries es)

end

mutual

/-- A number without digits is part of a value. -/
def holdsWordNumber : Value → Bool
  | .float .nan => true
  | .float (.infinite _) => true
  | .list xs => anyHoldsWordNumber xs
  | .tuple xs => anyHoldsWordNumber xs
  | .set xs => anyHoldsWordNumber xs
  | .map es => anyMapsToWordNumber es
  | _ => false

def anyHoldsWordNumber : List Value → Bool
  | [] => false
  | x :: xs => holdsWordNumber x || anyHoldsWordNumber xs

def anyMapsToWordNumber : List (Value × Value) → Bool
  | [] => false
  | (_, v) :: es => holdsWordNumber v || anyMapsToWordNumber es

end

/-- What is wrong with the body of a call. -/
inductive BodyIssue where
  | noJson (e : Json.ReadError)
  | missing
  | notAnObject (body : Value)
  | argumentsNotAnObject (arguments : Value)

namespace BodyIssue

def details (code : String) (place : List Value) (message : String) (input : Value)
    (more : List (String × Value)) : Value :=
  .ofFields ([("type", .text code), ("loc", .list place), ("msg", .text message),
    ("input", input)] ++ more)

def toValue : BodyIssue → Value
  | .noJson e =>
    details "json_invalid" [.text "body", .int e.index] "JSON decode error" (.map [])
      [("ctx", .ofFields [("error", .text e.fault.message)])]
  | .missing => details "missing" [.text "body"] "Field required" .null []
  | .notAnObject body =>
    details "model_attributes_type" [.text "body"]
      "Input should be a valid dictionary or object to extract fields from" body []
  | .argumentsNotAnObject arguments =>
    details "dict_type" [.text "body", .text "arguments"] "Input should be a valid dictionary"
      arguments []

/-- What the reader of the body stumbled over. -/
def fault? : BodyIssue → Option Json.Fault
  | .noJson e => some e.fault
  | _ => none

/-- The issue as it travels; every number in it has to have digits. -/
def report (issue : BodyIssue) : Except BodyFault Value :=
  if holdsWordNumber issue.toValue then .error .notFinite else .ok issue.toValue

end BodyIssue

/-- The arguments in the body of a call; there are none where the body does not speak of them. -/
def argumentsOf : Value → Except BodyIssue Arguments
  | .null => .error .missing
  | .map es =>
    match Value.lookup "arguments" es with
    | none => .ok []
    | some (.map arguments) => .ok arguments
    | some v => .error (.argumentsNotAnObject v)
  | v => .error (.notAnObject v)

/-- The value of a body; an empty one is null. -/
def readBody (body : Option String) : Except BodyIssue Value :=
  match body with
  | none => .ok .null
  | some text =>
    if text = "" then .ok .null
    else
      match Json.readBody text with
      | .ok v => .ok v
      | .error e => .error (.noJson e)

end DeclaredTools.Http
