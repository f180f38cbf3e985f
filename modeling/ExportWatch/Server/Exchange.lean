import ExportWatch.Server.Status
import ExportWatch.Time.Span
import ExportWatch.Url.Basic

/-! Requests and what comes back. Every request asks for what is at an address. -/

namespace ExportWatch

open Text

structure HttpRequest where
  url : Url
  userAgent : String
  authorization : Option String
  deriving DecidableEq, Repr

structure HttpResponse where
  status : HttpStatus
  headers : List (String × String)
  body : String
  deriving DecidableEq, Repr

namespace HttpResponse

/-! Names of headers have no case, and spaces and tabs around a value do not belong
to it. A header may come several times. -/

def isHeaderSpace (character : Char) : Bool :=
  character = ' ' || character = '\t'

def withoutSpaces (value : List Char) : List Char :=
  (((value.dropWhile isHeaderSpace).reverse).dropWhile isHeaderSpace).reverse

def isNamed (name header : String) : Bool :=
  header.toList.map toSmall = name.toList.map toSmall

def values (response : HttpResponse) (name : String) : List (List Char) :=
  (response.headers.filter fun (header, _) => isNamed name header).map fun (_, value) =>
    withoutSpaces value.toList

/-- A value counts as text when it holds only visible ASCII, spaces and tabs. -/
def isHeaderText (value : List Char) : Bool :=
  value.all fun character =>
    (0x20 ≤ character.toNat && character.toNat < 0x7F) || character = '\t'

def firstText? (response : HttpResponse) (name : String) : Option (List Char) :=
  (response.values name).head?.filter isHeaderText

def texts (response : HttpResponse) (name : String) : List (List Char) :=
  (response.values name).filter isHeaderText

end HttpResponse

/-- A request gets a response or fails, which takes some time. Meanwhile someone may
interrupt the program some number of times. -/
structure Exchange where
  response : Option HttpResponse
  delay : Span
  interrupts : Nat
  deriving DecidableEq, Repr

/-- A transport carries requests, and may change its state with each. -/
abbrev Transport (State : Type) : Type :=
  HttpRequest → State → Exchange × State

namespace Transport

/-- Without a network every request fails. -/
def unreachable : Transport Unit := fun _ _ =>
  (⟨none, ⟨0⟩, 0⟩, ())

end Transport

/-- A server that answers from a script and keeps the requests it was sent, the last
one last. Once the replies are used up, nothing is found. -/
structure ScriptedServer where
  replies : List Exchange
  requests : List HttpRequest
  deriving DecidableEq, Repr

namespace ScriptedServer

def nothingFound : Exchange where
  response := some ⟨.notFound, [], ""⟩
  delay := ⟨0⟩
  interrupts := 0

def transport : Transport ScriptedServer := fun request server =>
  (server.replies.headD nothingFound,
    ⟨server.replies.tail, server.requests ++ [request]⟩)

end ScriptedServer

end ExportWatch
