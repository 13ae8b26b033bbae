/-
  The text of a file as it comes in: piece by piece, with a line feed for every line end, up to the
  first fault. The position of a fault counts from the start of its piece.
-/
import DeclaredTools.Binary64.Basic
import DeclaredTools.Text.Lines
import DeclaredTools.Text.Utf8

namespace DeclaredTools.Text

/-- A text that may break off at a fault. -/
structure Transcript where
  chars : List Char
  fault : Option Utf8.Fault

namespace Stream

/-- How many characters are asked for at a time. -/
def portion : Nat := 4096

/-- The least number of bytes that are read at a time. -/
def leastPiece : Nat := 8192

/-- What has been read. -/
structure State where
  /-- The characters so far, last first, and their number. -/
  done : List Char
  count : Nat
  /-- The first bytes of a character that is not complete. -/
  held : List UInt8
  /-- A carriage return that a line feed may follow. -/
  pending : Bool
  /-- The bytes for each character of the last piece, 1 at least. -/
  density : Binary64

def start : State := ⟨[], 0, [], false, .ofInt 1⟩

/-- The number of bytes to read next: as many as the characters that are still missing took in the
last piece. -/
def State.pieceSize (s : State) : Nat :=
  max leastPiece (s.density.mul (.ofInt (portion - s.count % portion))).toNat

/-- The characters that a piece adds; a carriage return at its end is left for the next one. -/
def settle (pending : Bool) (chars : List Char) : List Char × Bool :=
  if chars.isEmpty then ([], pending)
  else
    let chars := if pending then '\r' :: chars else chars
    if chars.getLast? = some '\r' then (unifyLineEnds chars.dropLast, true)
    else (unifyLineEnds chars, false)

/-- Takes in a piece. -/
def State.take (s : State) (piece : List UInt8) : Except Utf8.Fault State := do
  let (decoded, held) ← Utf8.decodePart 0 [] (s.held ++ piece)
  let (chars, pending) := settle s.pending decoded.reverse
  return {
    done := chars.reverse ++ s.done
    count := s.count + chars.length
    held := held
    pending := pending
    density :=
      if chars.isEmpty then .ofInt 1
      else .ofRatio false (max piece.length chars.length) chars.length }

/-- The text at the end of the file. -/
def State.finish (s : State) : Transcript :=
  match Utf8.cutFault? 0 s.held with
  | some f => ⟨s.done.reverse, some f⟩
  | none => ⟨(if s.pending then '\n' :: s.done else s.done).reverse, none⟩

/-- Reads on. -/
def readFrom (s : State) (bytes : List UInt8) : Transcript :=
  if _h : bytes = [] then s.finish
  else
    match s.take (bytes.take s.pieceSize) with
    | .error f => ⟨s.done.reverse, some f⟩
    | .ok next => readFrom next (bytes.drop s.pieceSize)
  termination_by bytes.length
  decreasing_by
    have h₁ := List.length_pos_iff.2 _h
    have h₂ : 0 < s.pieceSize := Nat.lt_of_lt_of_le (by decide) (Nat.le_max_left leastPiece _)
    simp only [List.length_drop]
    omega

/-- The text of a file. -/
def read (bytes : List UInt8) : Transcript := readFrom start bytes

end Stream

end DeclaredTools.Text
