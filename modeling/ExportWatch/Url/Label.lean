import ExportWatch.Unicode.Direction
import ExportWatch.Unicode.Joining
import ExportWatch.Unicode.NameMapping
import ExportWatch.Unicode.NormalForm
import ExportWatch.Url.Punycode

/-! Names of any characters, and how they are written in ASCII. A name is first brought
into the one form in which it is compared; its labels are the parts between the points,
and one that starts with `xn--` stands for the label that it encodes. -/

namespace ExportWatch

open Text Unicode

/-- A label as it is read, and as it is sent. -/
structure Label where
  characters : List Char
  ascii : List Char
  deriving DecidableEq, Repr

namespace Label

def encodedStart : List Char :=
  "xn--".toList

/-! The joiners are invisible. They are allowed where they change how letters are
shown: behind a sign that takes a vowel away, and for the one that separates also
between letters that would join. -/

def separator : Char :=
  Char.ofNat 0x200C

def connector : Char :=
  Char.ofNat 0x200D

def joinerAllowed (before : List Char) (joiner : Char) (after : List Char) : Bool :=
  before.head?.any isVirama || (joiner = separator && joinsAfter before && joinsBefore after)

def isJoiner (character : Char) : Bool :=
  character = separator || character = connector

/-- What stands before comes in reverse. -/
def joinersAllowed (before : List Char) : List Char → Bool
  | [] => true
  | head :: tail =>
      (!isJoiner head || joinerAllowed before head tail) && joinersAllowed (head :: before) tail

def lengthLimit : Nat :=
  1000

def encodedLimit : Nat :=
  2000

def isAllowed (label : List Char) : Bool :=
  label.all isAscii ||
    (!label.head?.any isMark && joinersAllowed [] label && label.length ≤ lengthLimit)

/-- Only characters that stay as they are can have been encoded. -/
def isStable (label : List Char) : Bool :=
  label.all (fun character => nameUse character = .kept) && composed label = label

def decode? (encoded : List Char) : Option (List Char) := do
  if encoded.all isAscii && encoded.getLast?.any (· ≠ '-') &&
      encoded.length ≤ encodedLimit then
    let label ← Punycode.decode? encoded
    if isStable label then return label else none
  else none

def encode (label : List Char) : List Char :=
  if label.all isAscii then label else encodedStart ++ Punycode.encode label

def read? (text : List Char) : Option Label := do
  let label ←
    match afterStart encodedStart text with
    | some encoded => decode? encoded
    | none => some text
  if isAllowed label then return ⟨label, encode label⟩ else none

end Label

namespace HostName

def replacement? (character : Char) : Option (List Char) :=
  match nameUse character with
  | .kept => some [character]
  | .mapped text => some text
  | .dropped => some []
  | .refused => none

/-- The form in which names are compared. -/
def folded? (text : List Char) : Option (List Char) :=
  (text.mapM replacement?).map fun texts => composed texts.flatten

def directions (label : Label) : List Direction :=
  label.characters.map Direction.ofCharacter

def isDirected (label : Label) : Bool :=
  !label.characters.all isAscii && (directions label).any (·.directs)

/-- In a name that is partly read from right to left every label goes one way. -/
def toAscii? (text : List Char) : Option (List Char) := do
  let labels ← (parts '.' (← folded? text)).mapM Label.read?
  if labels.any isDirected && !labels.all fun label => Direction.isOneWay (directions label) then
    none
  else return join ['.'] (labels.map (·.ascii))

example : toAscii? "EXPORTS.test".toList = some "exports.test".toList := by decide +kernel

end HostName

end ExportWatch
