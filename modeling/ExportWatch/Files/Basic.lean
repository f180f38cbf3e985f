import ExportWatch.Files.Path
import ExportWatch.Files.Tree

/-! What programs do with files. Each operation that changes something gives the new
tree and how it went. -/

namespace ExportWatch

structure Files where
  workingDirectory : Place
  root : FileNode
  deriving BEq, Repr

namespace Files

/-- Only the working directory, and what is above it. -/
def empty (workingDirectory : Place) : Files where
  workingDirectory := workingDirectory
  root := .nest workingDirectory (.directory [])

def put (files : Files) (place : Place) (node : FileNode) : Files :=
  { files with root := files.root.put place node }

/-! Going along the names of a path. Every name but the last has to lead to a
directory, and the last one need not lead to anything yet. -/

inductive Spot where
  | directory (place : Place)
  | entry (directory : Place) (name : String)
  deriving DecidableEq, Repr

/-- In bytes. -/
def pathLimit : Nat :=
  4095

/-- An empty path leads nowhere. -/
def checkText (path : Path) : Except FileFault Unit :=
  if path.text.toList.contains '\x00' then .error .containsNul
  else if path.text = "" then .error .notFound
  else if pathLimit < path.text.utf8ByteSize then .error .nameTooLong
  else .ok ()

def start (files : Files) (path : Path) : Place :=
  if path.isAbsolute then [] else files.workingDirectory

/-- The last name of `trail` comes first. What is above a directory is known only
once the directory is found. -/
def enter (files : Files) (trail : List String) : List String → Except FileFault Place
  | [] => do
      let _ ← files.root.findDirectory trail.reverse
      return trail.reverse
  | name :: others =>
      if name = "." then files.enter trail others
      else if name = ".." then do
        let _ ← files.root.findDirectory trail.reverse
        files.enter (trail.drop 1) others
      else files.enter (name :: trail) others

/-- The names are given with the last one first. -/
def spotOf (files : Files) (start : Place) : List String → Except FileFault Spot
  | [] => .ok (.directory start)
  | last :: outer => do
      let inside ← files.enter start.reverse outer.reverse
      if last = "." then return .directory inside
      else if last = ".." then return .directory inside.dropLast
      else return .entry inside last

def spot (files : Files) (path : Path) : Except FileFault Spot := do
  checkText path
  files.spotOf (files.start path) path.names.reverse

def nodeAt (files : Files) : Spot → Except FileFault FileNode
  | .directory place => files.root.find place
  | .entry directory name => files.root.find (directory ++ [name])

def find (files : Files) (path : Path) : Except FileFault FileNode := do
  match ← files.nodeAt (← files.spot path) with
  | .file text => if path.namesDirectory then .error .notADirectory else return .file text
  | .directory entries => return .directory entries

def isPresent (files : Files) (path : Path) : Bool :=
  (files.find path).toBool

def read (files : Files) (path : Path) : Except FileFault String := do
  match ← files.find path with
  | .file text => return text
  | .directory _ => .error .isADirectory

/-- What was there is replaced. A path that asks for a directory is refused before
anything is looked up there. -/
def write (files : Files) (path : Path) (text : String) : Except FileFault Files := do
  match ← files.spot path with
  | .directory _ => .error .isADirectory
  | .entry directory name =>
      if path.namesDirectory then .error .isADirectory
      else
        let place := directory ++ [name]
        match files.root.find place with
        | .ok (.directory _) => .error .isADirectory
        | .ok (.file _) | .error .notFound => return files.put place (.file text)
        | .error fault => .error fault

/-! Making a directory and whatever is missing above it. What was made before a
fault stays. -/

def makeDirectory (files : Files) (start : Place) (names : List String) :
    Except FileFault Files := do
  match ← files.spotOf start names with
  | .directory _ => return files
  | .entry directory name =>
      let place := directory ++ [name]
      match files.root.find place with
      | .ok (.directory _) => return files
      | .ok (.file _) => .error .alreadyExists
      | .error .notFound => return files.put place (.directory [])
      | .error fault => .error fault

def keeping (files : Files) : Except FileFault Files → Files × Except FileFault Unit
  | .ok changed => (changed, .ok ())
  | .error fault => (files, .error fault)

/-- The names of the directory, and those of the one above it, with the last one
first. -/
def makeAll (files : Files) (start : Place) (names : List String) :
    List String → Files × Except FileFault Unit
  | [] => files.keeping (files.makeDirectory start names)
  | last :: outer =>
      match files.makeDirectory start names with
      | .error .notFound =>
          match files.makeAll start (last :: outer) outer with
          | (made, .ok ()) => made.keeping (made.makeDirectory start names)
          | failed => failed
      | result => files.keeping result

def makeDirectories (files : Files) (path : Path) : Files × Except FileFault Unit :=
  match checkText path with
  | .error fault => (files, if path.text = "" then .ok () else .error fault)
  | .ok () =>
      let moving := path.names.filter fun name => !Path.staysInPlace name
      files.makeAll (files.start path) path.names.reverse (moving.reverse.drop 1)

/-- Writes a file, and makes the directories that are missing above it. -/
def place (files : Files) (path : Path) (text : String) : Files × Except FileFault Unit :=
  let (made, outcome) :=
    match path.parent? with
    | some directory => files.makeDirectories directory
    | none => (files, .ok ())
  match outcome with
  | .ok () => made.keeping (made.write path text)
  | .error fault => (made, .error fault)

/-- The names in a directory. -/
def list (files : Files) (path : Path) : Except FileFault (List String) := do
  match ← files.find path with
  | .directory entries => return entries.map (·.1)
  | .file _ => .error .notADirectory

def remove (files : Files) (path : Path) : Except FileFault Files := do
  match ← files.find path, ← files.spot path with
  | .file _, .entry directory name =>
      return { files with root := files.root.erase (directory ++ [name]) }
  | _, _ => .error .isADirectory

/-- Every file below the working directory, with its text. -/
def texts (files : Files) : List (Place × String) :=
  match files.root.find files.workingDirectory with
  | .ok node => node.texts
  | .error _ => []

example : (((empty ["home"]).place ⟨"a/./b//c"⟩ "x").1.place ⟨"a/../d"⟩ "y").1.texts =
    [(["a", "b", "c"], "x"), (["d"], "y")] := by decide +kernel
example : ((empty ["home"]).makeDirectories ⟨"a/b/."⟩).2.toBool = false := by decide +kernel
example : ((empty ["home"]).makeDirectories ⟨"a/b/.."⟩).2.toBool := by decide +kernel

end Files

end ExportWatch
