/-
  Reading a document step by step, in the order in which it is gone through.
  `DeclarationSet.ofValue` says what is read; on the way there, problems and fallbacks are reported,
  and keys, descriptions and other texts are taken from values of any kind. A value that has no text
  ends the reading.
-/
import DeclaredTools.Declaration.Basic

namespace DeclaredTools

/-- A step of reading: something is reported, or the text of a value is taken. -/
inductive ReadingStep where
  | report (e : Event)
  | text (v : Value)

namespace ReadingStep

def event? : ReadingStep → Option Event
  | .report e => some e
  | .text _ => none

def value? : ReadingStep → Option Value
  | .report _ => none
  | .text v => some v

/-- What the steps report. -/
def reports (steps : List ReadingStep) : List Event := steps.filterMap event?

/-- The values whose texts the steps take. -/
def values (steps : List ReadingStep) : List Value := steps.filterMap value?

/-- The text of an entry, which null stands in for. -/
def ofField (name : String) (es : List (Value × Value)) : List ReadingStep :=
  match Value.lookup name es with
  | none => []
  | some .null => []
  | some v => [.text v]

end ReadingStep

namespace Shape

mutual

/-- Reading a definition that stands at `path`. -/
def steps (path : String) : Value → List ReadingStep
  | .map es =>
    ReadingStep.ofField "description" es ++
      match TypeTag.ofValue? (tagOf es) with
      | some .array => itemSteps path es
      | some .object => propertySteps path es
      | some _ => []
      | none => [.report (.fallback (.unknownType path (tagOf es)))]
  | v => [.report (.fallback (.notAMapping path v.typeName))]

def itemSteps (path : String) : List (Value × Value) → List ReadingStep
  | [] => []
  | (k, v) :: es =>
    if k.isText "items" then
      match v with
      | .null => []
      | v => steps (path ++ " items") v
    else itemSteps path es

def propertySteps (path : String) : List (Value × Value) → List ReadingStep
  | [] => []
  | (k, v) :: es =>
    if k.isText "properties" then
      match v with
      | .map ps => entrySteps path ps
      | _ => []
    else propertySteps path es

def entrySteps (path : String) : List (Value × Value) → List ReadingStep
  | [] => []
  | (k, v) :: es => .text k :: steps (childPath path k.display) v ++ entrySteps path es

end

mutual

/-- The values whose texts linting a definition takes. -/
def lintTexts : Value → List Value
  | .map es =>
    if !(tagOf es).isTruthy then []
    else
      match TypeTag.ofValue? (tagOf es) with
      | none => [tagOf es]
      | some .object => propertyLintTexts es
      | some .array => itemLintTexts es
      | some _ => []
  | _ => []

def propertyLintTexts : List (Value × Value) → List Value
  | [] => []
  | (k, v) :: es =>
    if k.isText "properties" then
      match v with
      | .map ps => memberLintTexts ps
      | _ => []
    else propertyLintTexts es

def memberLintTexts : List (Value × Value) → List Value
  | [] => []
  | (k, v) :: es => k :: lintTexts v ++ memberLintTexts es

def itemLintTexts : List (Value × Value) → List Value
  | [] => []
  | (k, v) :: es =>
    if k.isText "items" then
      if namesType v then lintTexts v else []
    else itemLintTexts es

end

end Shape

/-- The values whose texts linting a declaration takes. -/
def lintTexts : Value → List Value
  | .map es =>
    match (Value.lookup "parameters" es).getD .null with
    | .map ps => Shape.memberLintTexts ps
    | _ => []
  | _ => []

namespace Declaration

/-- Reading the parameters of a declaration, if they are a map. -/
def parameterSteps : Value → List ReadingStep
  | .map ps => Shape.entrySteps "" ps
  | _ => []

/-- The texts in what is said about one tool. -/
def refSteps : Value → List ReadingStep
  | .map es => ReadingStep.ofField "description" es ++ ReadingStep.ofField "prompt" es
  | _ => []

/-- Reading the tools of a declaration: what is said about each of them, then its name. -/
def toolsSteps : Value → List ReadingStep
  | .map es => es.flatMap fun (k, v) => refSteps v ++ [.text k]
  | v => (toolsEvents v).map .report

/-- Reading the entries of a declaration: its texts first, then parameters, tools and mode. -/
def steps (key : String) (es : List (Value × Value)) : List ReadingStep :=
  (["name", "description", "prompt", "context"].flatMap fun name => ReadingStep.ofField name es)
    ++ (Value.lookup "parameters" es).toList.flatMap parameterSteps
    ++ (Value.lookup "tools" es).toList.flatMap toolsSteps
    ++ ((Value.lookup "toolMode" es).toList.flatMap (modeEvents key)).map .report

end Declaration

/-- Reading the entries of a document from a source. -/
def DeclarationSet.steps (source : String) (es : List (Value × Value)) : List ReadingStep :=
  es.flatMap fun (k, v) =>
    match v with
    | .map fields => .text k :: Declaration.steps k.display fields
    | _ => [.report (.entrySkipped source k)]

end DeclaredTools
