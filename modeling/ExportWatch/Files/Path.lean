import ExportWatch.Text.Cut

/-! Paths as text. A path that starts with a slash leads from the root of the
tree, any other from the working directory. -/

namespace ExportWatch

open Text

structure Path where
  text : String
  deriving DecidableEq, Repr

namespace Path

def isAbsolute (path : Path) : Bool :=
  path.text.toList.head? = some '/'

/-- A slash at the end asks for a directory. -/
def namesDirectory (path : Path) : Bool :=
  path.text.toList.getLast? = some '/'

def join (path : Path) (name : String) : Path :=
  if path.text = "" || path.namesDirectory then ⟨path.text ++ name⟩
  else ⟨path.text ++ "/" ++ name⟩

/-! The names between the slashes. Where two slashes follow each other there is no
name to go along; a lone point stays where it is. -/

def pieces (path : Path) : List String :=
  (parts '/' path.text.toList).map String.ofList

def names (path : Path) : List String :=
  path.pieces.filter (· ≠ "")

def staysInPlace (name : String) : Bool :=
  name = "" || name = "."

/-- The beginning that is no name but cannot be left out: the slash of an absolute
path, and a lone point. -/
def splitStart : List String → List String × List String
  | "" :: first :: others => ([""], first :: others)
  | "." :: others => (["."], others)
  | names => ([], names)

/-- The path without its last name, if something is left. -/
def parent? (path : Path) : Option Path :=
  let (start, names) := splitStart path.pieces
  match names.reverse.dropWhile staysInPlace with
  | [] => none
  | _ :: outer =>
      match start ++ (outer.dropWhile staysInPlace).reverse with
      | [] => none
      | [""] => some ⟨"/"⟩
      | kept => some ⟨"/".intercalate kept⟩

example : parent? ⟨"out/deep/runs.json"⟩ = some ⟨"out/deep"⟩ := by decide +kernel
example : parent? ⟨"out//./runs.json/"⟩ = some ⟨"out"⟩ := by decide +kernel
example : parent? ⟨"//runs.json"⟩ = some ⟨"/"⟩ := by decide +kernel
example : parent? ⟨"./runs.json"⟩ = some ⟨"."⟩ := by decide +kernel
example : parent? ⟨"runs.json"⟩ = none ∧ parent? ⟨"/"⟩ = none := by decide +kernel

/-! What follows the last point of a name, unless only that point comes first. -/

def extensionOf? (name : List Char) : Option (List Char) :=
  let reversed := name.reverse
  let before := (reversed.dropWhile (· ≠ '.')).drop 1
  if before.isEmpty then none else some (reversed.takeWhile (· ≠ '.')).reverse

def extension? (name : String) : Option String :=
  (extensionOf? name.toList).map String.ofList

example : extensionOf? ".json".toList = none := by decide
example : extensionOf? "a.b.json".toList = some "json".toList := by decide

end Path

end ExportWatch
