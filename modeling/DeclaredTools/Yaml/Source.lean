/-
  Where a document is read from: a text that comes in blocks. A block in which something is wrong
  counts only when the reader gets to it.
-/
import DeclaredTools.Text.Stream
import DeclaredTools.Yaml.Character
import DeclaredTools.Yaml.Fault

namespace DeclaredTools.Yaml

/-- The characters of the good blocks, and what is wrong with the block behind them. -/
structure Source where
  chars : List Char
  fault : Option Fault

namespace Source

/-- Where the block of a character starts: the first two portions are one block, of those behind
them each is one. -/
def blockStart (index : Nat) : Nat :=
  if index < 2 * Text.Stream.portion then 0 else index - index % Text.Stream.portion

/-- The source of a text: it ends at the first block that holds a character no document may hold,
or that cannot be decoded. -/
def ofTranscript (t : Text.Transcript) : Source :=
  let broken := blockStart t.chars.length
  match (t.chars.findIdx? (!isAllowed ·)).map blockStart, t.fault with
  | some bad, some f =>
    if bad < broken then ⟨t.chars.take bad, some .malformed⟩
    else ⟨t.chars.take broken, some (.encoding f)⟩
  | some bad, none => ⟨t.chars.take bad, some .malformed⟩
  | none, some f => ⟨t.chars.take broken, some (.encoding f)⟩
  | none, none => ⟨t.chars, none⟩

/-- The source of a file. -/
def ofBytes (bytes : List UInt8) : Source := ofTranscript (Text.Stream.read bytes)

end Source

end DeclaredTools.Yaml
