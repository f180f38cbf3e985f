import ExportWatch.Text.Cut
import ExportWatch.Text.Digit

/-! Addresses on the web, taken apart, and how they are written. -/

namespace ExportWatch

open Text

/-- A path is a list of segments, or one text when the address is not made of
segments at all, as in `mailto:x`. -/
inductive UrlPath where
  | whole (text : List Char)
  | segments (names : List (List Char))
  deriving DecidableEq, Repr

structure Url where
  scheme : List Char
  username : List Char
  password : List Char
  host : Option (List Char)
  port : Option Nat
  path : UrlPath
  query : Option (List Char)
  fragment : Option (List Char)
  deriving DecidableEq, Repr

namespace UrlPath

def text : UrlPath → List Char
  | whole text => text
  | segments names => names.flatMap ('/' :: ·)

/-- A path in which further segments may follow. -/
def withSlash : UrlPath → UrlPath
  | whole text => whole (if text.getLast? = some '/' then text else text ++ ['/'])
  | segments names => segments (if names.getLast? = some [] then names else names ++ [[]])

end UrlPath

namespace Url

def credentials (url : Url) : List Char :=
  if url.username.isEmpty && url.password.isEmpty then []
  else
    url.username ++ (if url.password.isEmpty then [] else ':' :: url.password) ++ ['@']

def portText : Option Nat → List Char
  | some port => ':' :: digitsOf port
  | none => []

/-! Without a host, two slashes at the start of a path would be taken for one. -/

def authority (url : Url) : List Char :=
  match url.host with
  | some host => '/' :: '/' :: url.credentials ++ host ++ portText url.port
  | none =>
      match url.path with
      | .segments ([] :: _ :: _) => ['/', '.']
      | _ => []

def marked (mark : Char) : Option (List Char) → List Char
  | some text => mark :: text
  | none => []

def write (url : Url) : List Char :=
  url.scheme ++ ':' :: url.authority ++ url.path.text ++ marked '?' url.query ++
    marked '#' url.fragment

def text (url : Url) : String :=
  String.ofList url.write

/-- As it is sent to a server. -/
def withoutFragment (url : Url) : Url :=
  { url with fragment := none }

/-! Some schemes have a host and a usual port, and take a backslash for a slash. -/

def usualPorts : List (List Char × Option Nat) :=
  [("http".toList, some 80), ("https".toList, some 443), ("ws".toList, some 80),
    ("wss".toList, some 443), ("ftp".toList, some 21), ("file".toList, none)]

def isSpecialScheme (scheme : List Char) : Bool :=
  (usualPorts.lookup scheme).isSome

def isFileScheme (scheme : List Char) : Bool :=
  scheme = "file".toList

def usualPort? (scheme : List Char) : Option Nat :=
  (usualPorts.lookup scheme).join

example : usualPort? "https".toList = some 443 := by decide

end Url

end ExportWatch
