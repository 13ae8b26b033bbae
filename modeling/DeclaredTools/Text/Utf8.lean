/-
  Reading bytes as UTF-8: strictly, with the place and the reason of the first fault.
-/
namespace DeclaredTools.Text.Utf8

/-- Why bytes are no UTF-8. -/
inductive Reason where
  | invalidStart
  | invalidContinuation
  | unexpectedEnd
  deriving DecidableEq

def Reason.message : Reason → String
  | .invalidStart => "invalid start byte"
  | .invalidContinuation => "invalid continuation byte"
  | .unexpectedEnd => "unexpected end of data"

/-- The first fault: its reason, the byte it starts with, where it starts and how long it is. -/
structure Fault where
  reason : Reason
  byte : UInt8
  start : Nat
  length : Nat
  deriving DecidableEq

private def hexPair (b : UInt8) : String :=
  let digit := fun (n : Nat) => String.singleton (Nat.digitChar n)
  digit (b.toNat / 16) ++ digit (b.toNat % 16)

def Fault.message (f : Fault) : String :=
  "'utf-8' codec can't decode "
    ++ (if f.length = 1 then "byte 0x" ++ hexPair f.byte ++ " in position " ++ toString f.start
        else "bytes in position " ++ toString f.start ++ "-" ++ toString (f.start + f.length - 1))
    ++ ": " ++ f.reason.message

/-- What the bytes at hand begin with. -/
inductive Sequence where
  /-- A character, and how many bytes follow its first. -/
  | char (c : Char) (more : Nat)
  /-- A fault, and how many bytes belong to it. -/
  | bad (reason : Reason) (length : Nat)
  /-- The bytes end inside a character. -/
  | cut

def tail (b : UInt8) : Bool := 0x80 ≤ b && b < 0xc0

def join (head : Nat) (tails : List UInt8) : Char :=
  Char.ofNat (tails.foldl (fun n b => n * 64 + (b.toNat - 0x80)) head)

/-- The second byte may not follow the first: it is no tail, or the character would be too small,
a surrogate, or too large. -/
def badSecond (a b : UInt8) : Bool :=
  !tail b || (a == 0xe0 && b < 0xa0) || (a == 0xed && 0xa0 ≤ b) || (a == 0xf0 && b < 0x90)
    || (a == 0xf4 && 0x90 ≤ b)

/-- The character, fault or cut that starts with byte `a`. -/
def sequence (a : UInt8) (rest : List UInt8) : Sequence :=
  if a < 0x80 then .char (Char.ofNat a.toNat) 0
  else if a < 0xc2 || 0xf5 ≤ a then .bad .invalidStart 1
  else
    match rest with
    | [] => .cut
    | b :: rest =>
      if badSecond a b then .bad .invalidContinuation 1
      else if a < 0xe0 then .char (join (a.toNat - 0xc0) [b]) 1
      else
        match rest with
        | [] => .cut
        | c :: rest =>
          if !tail c then .bad .invalidContinuation 2
          else if a < 0xf0 then .char (join (a.toNat - 0xe0) [b, c]) 2
          else
            match rest with
            | [] => .cut
            | d :: _ =>
              if !tail d then .bad .invalidContinuation 3
              else .char (join (a.toNat - 0xf0) [b, c, d]) 3

/-- The last bytes begin a surrogate: they are a fault, which counts only when more bytes come or
the input ends. -/
def beginsSurrogate : List UInt8 → Bool
  | [a, b] => a == 0xed && 0xa0 ≤ b && tail b
  | _ => false

/-- The characters up to a cut, last first, and the bytes from the cut on. -/
def decodePart (pos : Nat) (done : List Char) :
    List UInt8 → Except Fault (List Char × List UInt8)
  | [] => .ok (done, [])
  | a :: rest =>
    match sequence a rest with
    | .char c more => decodePart (pos + 1 + more) (c :: done) (rest.drop more)
    | .bad reason length =>
      if beginsSurrogate (a :: rest) then .ok (done, a :: rest)
      else .error ⟨reason, a, pos, length⟩
    | .cut => .ok (done, a :: rest)
  termination_by bytes => bytes.length

/-- The fault of the bytes that are left over at the end; `pos` is where they start. -/
def cutFault? (pos : Nat) : List UInt8 → Option Fault
  | [] => none
  | a :: rest =>
    if beginsSurrogate (a :: rest) then some ⟨.invalidContinuation, a, pos, 1⟩
    else some ⟨.unexpectedEnd, a, pos, rest.length + 1⟩

/-- The whole input at once; positions count from its start. -/
def decode (bytes : List UInt8) : Except Fault String := do
  let (done, rest) ← decodePart 0 [] bytes
  match cutFault? (bytes.length - rest.length) rest with
  | some f => throw f
  | none => return String.ofList done.reverse

/-- The text of octets, with a replacement for every faulty sequence. -/
def lenientChars (bytes : List UInt8) : List Char :=
  match bytes with
  | [] => []
  | a :: rest =>
    match sequence a rest with
    | .char c more => c :: lenientChars (rest.drop more)
    | .bad _ length => '\uFFFD' :: lenientChars (rest.drop (length - 1))
    | .cut => ['\uFFFD']
  termination_by bytes.length
  decreasing_by all_goals simp only [List.length_drop, List.length_cons]; omega

def decodeLenient (bytes : List UInt8) : String := String.ofList (lenientChars bytes)

end DeclaredTools.Text.Utf8
