/-
  Targets of requests: the path and the query of a URL as they come over the wire. Percent signs are
  resolved once on the way from a target to the path that the service receives.
-/
import DeclaredTools.Json.Reader
import DeclaredTools.Text.Utf8

namespace DeclaredTools.Http

/-- Characters, and octets written with a percent sign. -/
def octets : List Char → List UInt8
  | '%' :: a :: b :: cs =>
    match Json.hexDigit? a, Json.hexDigit? b with
    | some x, some y => UInt8.ofNat (x * 16 + y) :: octets cs
    | _, _ => '%'.toString.toUTF8.toList ++ octets (a :: b :: cs)
  | c :: cs => c.toString.toUTF8.toList ++ octets cs
  | [] => []

/-- The text that percent signs stand for. -/
def unescape (s : String) : String := Text.Utf8.decodeLenient (octets s.toList)

/-- The path that the service receives for a target. -/
def received (target : String) : String :=
  unescape (String.ofList (target.toList.takeWhile (· ≠ '?')))

end DeclaredTools.Http
