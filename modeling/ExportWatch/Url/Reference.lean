import ExportWatch.Url.Basic
import ExportWatch.Url.Host

/-! Reading addresses. A reference may leave parts out, which are then taken from the
address that it stands in. -/

namespace ExportWatch.Url

open Text

/-! Characters that the parts keep as they are. -/

def isPlain (character : Char) : Bool :=
  0x20 < character.toNat && character.toNat ≤ 0x7E

def keptInFragment (character : Char) : Bool :=
  isPlain character && !"\"<>\x60".toList.contains character

def keptInQuery (special : Bool) (character : Char) : Bool :=
  isPlain character && !"\"#<>".toList.contains character && !(special && character = '\'')

def keptInPath (character : Char) : Bool :=
  keptInFragment character && !"#?\x7b\x7d".toList.contains character

def keptInCredentials (character : Char) : Bool :=
  keptInPath character && !"/:;=@[\\]^|".toList.contains character

/-! Blank ends and line breaks do not count. -/

def isEdge (character : Char) : Bool :=
  character.toNat ≤ 0x20

def isBreak (character : Char) : Bool :=
  character = '\t' || character = '\n' || character = '\r'

def cleaned (text : List Char) : List Char :=
  ((((text.dropWhile isEdge).reverse).dropWhile isEdge).reverse).filter (!isBreak ·)

/-! A scheme starts with a letter and ends with a colon. -/

def isSchemeCharacter (character : Char) : Bool :=
  isLetterOrDigit character || "+-.".toList.contains character

def scheme? (text : List Char) : Option (List Char × List Char) :=
  match cutAt ':' text with
  | some (first :: others, rest) =>
      if isLetter first && others.all isSchemeCharacter then
        some ((first :: others).map toSmall, rest)
      else none
  | _ => none

/-- What stands in front of the query and the fragment. -/
structure Parts where
  front : List Char
  query : Option (List Char)
  fragment : Option (List Char)

def splitAt (mark : Char) (text : List Char) : List Char × Option (List Char) :=
  match cutAt mark text with
  | some (before, after) => (before, some after)
  | none => (text, none)

def partsOf (special : Bool) (text : List Char) : Parts :=
  let (main, fragment) := splitAt '#' text
  let (front, query) := splitAt '?' main
  let slashed := if special then front.map fun character =>
      if character = '\\' then '/' else character
    else front
  { front := slashed
    query := query.map (percentEncode (keptInQuery special))
    fragment := fragment.map (percentEncode keptInFragment) }

/-! Segments of one or two points, also when a point is written by its byte, lead to
the same place or to the one above. -/

def isDot (segment : List Char) : Bool :=
  ["." , "%2e"].contains (String.ofList (segment.map toSmall))

def isTwoDots (segment : List Char) : Bool :=
  ["..", ".%2e", "%2e.", "%2e%2e"].contains (String.ofList (segment.map toSmall))

/-! A segment that is a drive letter is never left upwards. In a file path it is written
with a colon, and slashes at the start of such a path are one. -/

def isDrive (segment : List Char) : Bool :=
  match segment with
  | [letter, mark] => isLetter letter && (mark = ':' || mark = '|')
  | _ => false

def driveSegment (segment : List Char) : List Char :=
  match segment with
  | [letter, '|'] => if isLetter letter then [letter, ':'] else segment
  | _ => segment

def above (done : List (List Char)) : List (List Char) :=
  if done.getLast?.any isDrive then done else done.dropLast

def segment (file : Bool) (text : List Char) : List Char :=
  let encoded := percentEncode keptInPath text
  if file then driveSegment encoded else encoded

def addEach (file : Bool) (done : List (List Char)) : List (List Char) → List (List Char)
  | [] => done
  | head :: tail =>
      let ending := if tail.isEmpty then [[]] else []
      if isTwoDots head then addEach file (above done ++ ending) tail
      else if isDot head then addEach file (done ++ ending) tail
      else addEach file (done ++ [segment file head]) tail

def withoutEmptyStart : List (List Char) → List (List Char)
  | [] :: next :: others => withoutEmptyStart (next :: others)
  | names => names

def addSegments (file : Bool) (done : List (List Char)) (names : List (List Char)) :
    List (List Char) :=
  let added := addEach file done names
  if file then withoutEmptyStart added else added

example : addSegments false [] (parts '/' "a/../b".toList) = ["b".toList] := by decide +kernel
example : addSegments false [] (parts '/' "a/.".toList) = ["a".toList, []] := by decide +kernel
example : addSegments true [] (parts '/' "/C|/../x".toList) = ["C:".toList, "x".toList] := by
  decide +kernel

/-- The path behind a host. A special scheme has at least one segment. -/
def pathFrom (scheme front : List Char) : UrlPath :=
  match front with
  | '/' :: rest => .segments (addSegments (isFileScheme scheme) [] (parts '/' rest))
  | [] => .segments (if isSpecialScheme scheme then [[]] else [])
  | rest => .segments (addSegments (isFileScheme scheme) [] (parts '/' rest))

def holdsDrive : UrlPath → Bool
  | .whole _ => false
  | .segments names => names.any isDrive

def startsWithDrive (front : List Char) : Bool :=
  isDrive (front.takeWhile (· ≠ '/'))

/-! A host and what may stand around it: a name and a password in front, a port
behind. -/

def lastAt (text : List Char) : Option (List Char × List Char) :=
  if text.contains '@' then
    let reversed := text.reverse
    some (((reversed.dropWhile (· ≠ '@')).drop 1).reverse, (reversed.takeWhile (· ≠ '@')).reverse)
  else none

def bracketEnd (text : List Char) : List Char × List Char :=
  match text with
  | '[' :: _ =>
      (text.takeWhile (· ≠ ']') ++ (text.dropWhile (· ≠ ']')).take 1,
        (text.dropWhile (· ≠ ']')).drop 1)
  | _ => ([], text)

def hostAndPort (text : List Char) : List Char × Option (List Char) :=
  let (bracketed, rest) := bracketEnd text
  let (more, port) := splitAt ':' rest
  (bracketed ++ more, port)

def portLimit : Nat :=
  65535

def port? (scheme : List Char) : Option (List Char) → Option (Option Nat)
  | none => some none
  | some digits =>
      if !digits.all isDigit || portLimit < digitsValue digits then none
      else if digits.isEmpty || some (digitsValue digits) = usualPort? scheme then some none
      else some (some (digitsValue digits))

structure Authority where
  username : List Char
  password : List Char
  host : List Char
  port : Option Nat

def authority? (scheme text : List Char) : Option Authority := do
  let (credentials, rest) :=
    match lastAt text with
    | some (credentials, rest) => (some credentials, rest)
    | none => (none, text)
  let (username, password) := splitAt ':' (credentials.getD [])
  let (hostText, portText) := hostAndPort rest
  let special := isSpecialScheme scheme
  if hostText.isEmpty && (special || credentials.isSome || portText.isSome) then none
  else
    let host ← if hostText.isEmpty then some [] else Host.read? special hostText
    let port ← port? scheme portText
    return {
      username := percentEncode keptInCredentials username
      password := percentEncode keptInCredentials (password.getD [])
      host := host
      port := port }

def withAuthority? (scheme front : List Char) (split : Parts) : Option Url := do
  let authority ← authority? scheme (front.takeWhile (· ≠ '/'))
  return {
    scheme := scheme
    username := authority.username
    password := authority.password
    host := some authority.host
    port := authority.port
    path := pathFrom scheme (front.dropWhile (· ≠ '/'))
    query := split.query
    fragment := split.fragment }

def hostless (scheme : List Char) (host : Option (List Char)) (path : UrlPath) (split : Parts) :
    Url where
  scheme := scheme
  username := []
  password := []
  host := host
  port := none
  path := path
  query := split.query
  fragment := split.fragment

/-! A file address has an empty host when none is named, when this machine is, or when
the path has a drive letter. -/

def fileHost? (text : List Char) : Option (List Char) :=
  if text.isEmpty then some []
  else
    (Host.read? true text).map fun host => if host = "localhost".toList then [] else host

def file? (scheme : List Char) (split : Parts) : Option Url :=
  match split.front with
  | '/' :: '/' :: rest =>
      if startsWithDrive rest then
        some (hostless scheme (some []) (pathFrom scheme rest) split)
      else
        (fileHost? (rest.takeWhile (· ≠ '/'))).map fun host =>
          let path := pathFrom scheme (rest.dropWhile (· ≠ '/'))
          hostless scheme (some (if holdsDrive path then [] else host)) path split
  | front => some (hostless scheme (some []) (pathFrom scheme front) split)

/-- A path of its own. With a drive letter it is a path of this machine. -/
def withPath (base : Url) (split : Parts) (ownDrive : Bool) (names : List (List Char)) : Url :=
  { base with
    host := if ownDrive then some [] else base.host
    path := .segments names
    query := split.query
    fragment := split.fragment }

/-! A reference within an address that has no segments can only name a fragment. -/

def resolve? (base : Url) (text : List Char) : Option Url :=
  let split := partsOf (isSpecialScheme base.scheme) text
  match base.path with
  | .whole _ =>
      match text with
      | '#' :: _ => some { base with fragment := split.fragment }
      | _ => none
  | .segments names =>
      let file := isFileScheme base.scheme
      match split.front with
      | [] =>
          some { base with query := split.query.or base.query, fragment := split.fragment }
      | '/' :: '/' :: rest =>
          if file then file? base.scheme split
          else
            let front := if isSpecialScheme base.scheme then rest.dropWhile (· = '/') else rest
            withAuthority? base.scheme front split
      | '/' :: rest =>
          let drive := if file then (names.take 1).filter isDrive else []
          some (base.withPath split (file && startsWithDrive rest)
            (addSegments file (if startsWithDrive rest then [] else drive) (parts '/' rest)))
      | front =>
          let ownDrive := file && startsWithDrive front
          let start := if ownDrive then [] else if file then above names else names.dropLast
          some (base.withPath split ownDrive (addSegments file start (parts '/' front)))

def withScheme? (base : Option Url) (scheme text : List Char) : Option Url :=
  let split := partsOf (isSpecialScheme scheme) text
  if isFileScheme scheme then
    match base.filter (·.scheme = scheme) with
    | some base => base.resolve? text
    | none => file? scheme split
  else if isSpecialScheme scheme then
    match base.filter (·.scheme = scheme), split.front with
    | none, front => withAuthority? scheme (front.dropWhile (· = '/')) split
    | some _, '/' :: '/' :: front => withAuthority? scheme (front.dropWhile (· = '/')) split
    | some base, _ => base.resolve? text
  else
    match split.front with
    | '/' :: '/' :: front => withAuthority? scheme front split
    | '/' :: _ => some (hostless scheme none (pathFrom scheme split.front) split)
    | front => some (hostless scheme none (.whole (percentEncode Host.keptInHost front)) split)

def readIn? (base : Option Url) (text : List Char) : Option Url :=
  let text := cleaned text
  match scheme? text with
  | some (scheme, rest) => withScheme? base scheme rest
  | none => base.bind (·.resolve? text)

def read? (text : List Char) : Option Url :=
  readIn? none text

def join? (base : Url) (reference : List Char) : Option Url :=
  readIn? (some base) reference

/-! The fields of a form as a query. -/

def keptInForm (character : Char) : Bool :=
  isLetterOrDigit character || "*-._".toList.contains character

def formCharacter (character : Char) : List Char :=
  if character = ' ' then ['+']
  else if keptInForm character then [character]
  else percentCharacter character

def formField (name value : List Char) : List Char :=
  name.flatMap formCharacter ++ '=' :: value.flatMap formCharacter

/-- No fields, no query. -/
def withFields (url : Url) (fields : List (String × List Char)) : Url :=
  if fields.isEmpty then url
  else
    let pieces := fields.map fun (name, value) => formField name.toList value
    { url with query := some (Text.join ['&'] pieces) }

/-- An address to which relative paths can be added. -/
def asDirectory (url : Url) : Url :=
  { url with path := url.path.withSlash }

example : (read? "HTTP://EXPORTS.test:80/a/../b?q#f".toList).map write =
    some "http://exports.test/b?q#f".toList := by decide +kernel
example : ((read? "http://h/a/".toList).bind (·.join? "../x y".toList)).map write =
    some "http://h/x%20y".toList := by decide +kernel
example : read? "exports.test".toList = none := by decide +kernel
example : read? "http://".toList = none := by decide +kernel

end ExportWatch.Url
