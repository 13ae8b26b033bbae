/-
  Paths: the names on the way to a file. Empty names and single dots do not count.
-/
import DeclaredTools.Text.Blank
import DeclaredTools.Text.Case

namespace DeclaredTools

structure Path where
  /-- The slashes at the start: none in a relative path; two are kept, more count as one. -/
  slashes : Nat
  parts : List String
  deriving DecidableEq

namespace Path

/-- The slashes that count. -/
def leading (cs : List Char) : Nat :=
  let n := (cs.takeWhile (· = '/')).length
  if n ≤ 2 then n else 1

def ofText (s : String) : Path where
  slashes := leading s.toList
  parts := ((Text.splitOn '/' s.toList).map String.ofList).filter fun p => p ≠ "" && p ≠ "."

def text (p : Path) : String :=
  let s := "".pushn '/' p.slashes ++ "/".intercalate p.parts
  if s = "" then "." else s

/-- Some name holds the null character. -/
def hasNull (p : Path) : Bool := p.parts.any fun part => part.toList.contains '\x00'

/-- The path of an entry in a directory. -/
def child (p : Path) (name : String) : Path := { p with parts := p.parts ++ [name] }

/-- The last name. -/
def name (p : Path) : String := p.parts.getLast?.getD ""

/-- A name before and from its last dot; a dot at either end of the name does not count. -/
def splitName (name : String) : String × String :=
  let reversed := name.toList.reverse
  let suffix := reversed.takeWhile (· ≠ '.')
  match reversed.dropWhile (· ≠ '.') with
  | '.' :: c :: stem =>
    if suffix.isEmpty then (name, "")
    else (String.ofList (c :: stem).reverse, String.ofList ('.' :: suffix.reverse))
  | _ => (name, "")

/-- The last name without its suffix. -/
def stem (p : Path) : String := (splitName p.name).1

/-- The last name from its last dot on. -/
def suffix (p : Path) : String := (splitName p.name).2

/-- The absolute path, seen from a directory; double dots lead back. -/
def resolve (base : List String) (p : Path) : Path where
  slashes := 1
  parts := p.parts.foldl (fun ps part => if part = ".." then ps.dropLast else ps ++ [part])
    (if p.slashes = 0 then base else [])

example : (ofText "a//./b.yaml").text = "a/b.yaml" := by decide +kernel
example : (ofText "///a/").text = "/a" ∧ (ofText "").text = "." := by decide +kernel
example : (ofText "x/a.b.yml").stem = "a.b" ∧ (ofText "x/a.b.yml").suffix = ".yml" := by
  decide +kernel
example : (ofText ".yaml").suffix = "" ∧ (ofText "a.").suffix = "" := by decide +kernel

end Path

end DeclaredTools
