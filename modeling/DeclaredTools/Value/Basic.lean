/-
  Plain data as declaration files and arguments hold it: atoms, sequences, and maps in the order
  of their keys. Equality of values is equality of what they stand for, so that `1`, `1.0` and
  `true` are one key of a map.
-/
import DeclaredTools.Binary64.Basic
import DeclaredTools.Calendar

namespace DeclaredTools

inductive Value where
  | null
  | bool (b : Bool)
  | int (n : Int)
  | float (x : Binary64)
  | text (s : String)
  | bytes (bs : List UInt8)
  | date (d : Date)
  | timestamp (t : Timestamp)
  | list (xs : List Value)
  | tuple (xs : List Value)
  /-- The elements stand in the order in which they are gone through. -/
  | set (xs : List Value)
  | map (entries : List (Value × Value))

instance : Inhabited Value := ⟨.null⟩

/-- How the elements of a set are gone through, given in the order in which they came in. Hashes
settle that, and those of texts are not the same in every run. -/
structure SetOrder where
  arrange : List Value → List Value
  perm : ∀ xs, (arrange xs).Perm xs

/-- Elements that stay in the order in which they came in. -/
def SetOrder.insertion : SetOrder := ⟨id, List.Perm.refl⟩

namespace Value

/-- The name of the value's type. -/
def typeName : Value → String
  | .null => "NoneType"
  | .bool _ => "bool"
  | .int _ => "int"
  | .float _ => "float"
  | .text _ => "str"
  | .bytes _ => "bytes"
  | .date _ => "date"
  | .timestamp _ => "datetime"
  | .list _ => "list"
  | .tuple _ => "tuple"
  | .set _ => "set"
  | .map _ => "dict"

/-- Neither null, nor false, nor zero, nor empty. -/
def isTruthy : Value → Bool
  | .null => false
  | .bool b => b
  | .int n => n != 0
  | .float x => !x.isZero
  | .text s => s != ""
  | .bytes bs => !bs.isEmpty
  | .date _ => true
  | .timestamp _ => true
  | .list xs => !xs.isEmpty
  | .tuple xs => !xs.isEmpty
  | .set xs => !xs.isEmpty
  | .map es => !es.isEmpty

/-- A number that is no truth value. -/
def isNumber : Value → Bool
  | .int _ => true
  | .float _ => true
  | _ => false

/-- The value is this text. -/
def isText (name : String) : Value → Bool
  | .text s => s == name
  | _ => false

/-- The value under a text key. -/
def lookup (name : String) : List (Value × Value) → Option Value
  | [] => none
  | (k, v) :: es => if k.isText name then some v else lookup name es

/-- The value under a text key of a map. -/
def get? (name : String) : Value → Option Value
  | .map es => lookup name es
  | _ => none

/-- Two atoms are the same; truth values count as the numbers 0 and 1. -/
def sameAtom : Value → Value → Bool
  | .null, .null => true
  | .bool a, .bool b => a == b
  | .bool a, .int b => a.toInt == b
  | .bool a, .float b => b.sameInt a.toInt
  | .int a, .bool b => a == b.toInt
  | .int a, .int b => a == b
  | .int a, .float b => b.sameInt a
  | .float a, .bool b => a.sameInt b.toInt
  | .float a, .int b => a.sameInt b
  | .float a, .float b => a.same b
  | .text a, .text b => a == b
  | .bytes a, .bytes b => a == b
  | .date a, .date b => a == b
  | .timestamp a, .timestamp b => a.same b
  | _, _ => false

mutual

/-- Equal as data: sequences element by element, sets and maps whatever their order. -/
def same : Value → Value → Bool
  | .list xs, .list ys => sameList xs ys
  | .tuple xs, .tuple ys => sameList xs ys
  | .set xs, .set ys => xs.length == ys.length && allIn xs ys
  | .map xs, .map ys => xs.length == ys.length && allEntriesIn xs ys
  | a, b => sameAtom a b

def sameList : List Value → List Value → Bool
  | [], [] => true
  | x :: xs, y :: ys => same x y && sameList xs ys
  | _, _ => false

/-- Every element on the left has an equal one on the right. -/
def allIn : List Value → List Value → Bool
  | [], _ => true
  | x :: xs, ys => ys.any (fun y => same x y) && allIn xs ys

/-- Every entry on the left has one on the right with an equal key and an equal value. -/
def allEntriesIn : List (Value × Value) → List (Value × Value) → Bool
  | [], _ => true
  | (k, v) :: es, others =>
    others.any (fun e => same k e.1 && same v e.2) && allEntriesIn es others

end

/-- Puts a value under a key; an equal key that is there keeps its place and its form. -/
def insertEntry (k v : Value) : List (Value × Value) → List (Value × Value)
  | [] => [(k, v)]
  | (k', v') :: es => if same k k' then (k', v) :: es else (k', v') :: insertEntry k v es

/-- The map of entries inserted one after the other. -/
def ofEntries (entries : List (Value × Value)) : List (Value × Value) :=
  entries.foldl (fun es e => insertEntry e.1 e.2 es) []

/-- The set of elements inserted one after the other. -/
def setOf (order : SetOrder) (xs : List Value) : Value :=
  .set (order.arrange
    (xs.foldl (fun ys x => if ys.any (fun y => same x y) then ys else ys ++ [x]) []))

/-- A map whose keys are texts. -/
def ofFields (fields : List (String × Value)) : Value :=
  .map (fields.map fun (k, v) => (.text k, v))

example : same (.int 1) (.float (.ofInt 1)) ∧ same (.bool true) (.int 1)
    ∧ ¬ same (.text "1") (.int 1) ∧ ¬ same (.float .nan) (.float .nan) := by decide +kernel

end Value

end DeclaredTools
