/-
  A client that hands its requests to the service without a wire between them. It takes URLs apart,
  with their dot segments, and follows where a response leads. It resolves percent signs before the
  path gets to the service, which is once more than on a wire: `%2541` becomes a letter.
-/
import DeclaredTools.Http.Service
import DeclaredTools.Text.Blank
import DeclaredTools.Value.Text

namespace DeclaredTools.Http.Client

/-- Why a text is no target: it holds a control character. -/
structure TargetFault where
  char : Char
  index : Nat

/-- Why a request has no response. -/
inductive Failure where
  | target (f : TargetFault)
  | service (e : ServiceError)

def Failure.message : Failure → String
  | .target f =>
    "Invalid non-printable ASCII character in URL, " ++ Value.quoted f.char.toString
      ++ " at position " ++ toString f.index ++ "."
  | .service e => e.message

def isControl (c : Char) : Bool := c < ' ' || c = '\x7f'

def checkTarget (target : String) : Except TargetFault Unit :=
  match target.toList.find? isControl with
  | some c => .error ⟨c, target.toList.idxOf c⟩
  | none => .ok ()

/-- The segments of a path, with `.` and `..` taken out. -/
def resolveDots (segments : List String) : List String :=
  segments.foldl (fun done s =>
    if s = "." then done
    else if s = ".." then (if done = [""] then done else done.dropLast)
    else done ++ [s]) []

/-- The path that the service receives for a path in a URL. -/
def handedOver (path : List Char) : String :=
  let path := path.takeWhile fun c => c ≠ '?' && c ≠ '#'
  let segments := (Text.splitOn '/' path).map String.ofList
  let sent := unescape ("/".intercalate (resolveDots segments))
  if sent = "" then "/" else unescape sent

/-- Without the host that may come first, behind two slashes. -/
def withoutHost : List Char → List Char
  | '/' :: '/' :: cs => cs.dropWhile fun c => c ≠ '/' && c ≠ '?' && c ≠ '#'
  | cs => cs

/-- The path that the service receives for a URL; it starts with one slash. -/
def pathOf (target : String) : String :=
  handedOver ('/' :: (withoutHost target.toList).dropWhile (· = '/'))

/-- The response to a request for a path, or where that leads. Every place it leads to has a shorter
path, so the length of the path is fuel enough. -/
def follow (s : Service) (method : String) (body : Option String) :
    Nat → String → Except ServiceError Response
  | 0, path => s.respond method path body
  | n + 1, path => do
    let response ← s.respond method path body
    match response.payload with
    | .place path => follow s method body n (handedOver path.toList)
    | _ => return response

/-- Sends a request; where only the head of the response is wanted, it holds nothing. -/
def send (s : Service) (q : Request) : Except Failure Response :=
  match checkTarget q.target with
  | .error f => .error (.target f)
  | .ok () =>
    let method := Text.upper q.method
    let path := pathOf q.target
    match follow s method q.body path.length path with
    | .error e => .error (.service e)
    | .ok response =>
      .ok (if method = "HEAD" then { response with payload := .nothing } else response)

end DeclaredTools.Http.Client
