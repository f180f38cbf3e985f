/-! Files and directories as a tree. A place is the list of names that lead to a
node from the root of the tree. -/

namespace ExportWatch

abbrev Place : Type :=
  List String

inductive FileNode where
  | file (text : String)
  | directory (entries : List (String × FileNode))
  deriving BEq, Repr, Inhabited

inductive FileFault where
  | notFound
  | alreadyExists
  | notADirectory
  | isADirectory
  | nameTooLong
  | containsNul
  deriving DecidableEq, Repr

def FileFault.message : FileFault → String
  | .notFound => "No such file or directory (os error 2)"
  | .alreadyExists => "File exists (os error 17)"
  | .notADirectory => "Not a directory (os error 20)"
  | .isADirectory => "Is a directory (os error 21)"
  | .nameTooLong => "File name too long (os error 36)"
  | .containsNul => "file name contained an unexpected NUL byte"

namespace FileNode

abbrev Entries : Type :=
  List (String × FileNode)

/-- In bytes. -/
def nameLimit : Nat :=
  255

/-- Every name but the last has to lead to a directory. -/
def find : FileNode → Place → Except FileFault FileNode
  | node, [] => .ok node
  | .file _, _ :: _ => .error .notADirectory
  | .directory entries, name :: others =>
      if nameLimit < name.utf8ByteSize then .error .nameTooLong
      else
        match entries.lookup name with
        | some node => node.find others
        | none => .error .notFound

def findDirectory (root : FileNode) (place : Place) : Except FileFault Entries := do
  match ← root.find place with
  | .directory entries => return entries
  | .file _ => .error .notADirectory

def setEntry (name : String) (node : FileNode) : Entries → Entries
  | [] => [(name, node)]
  | (other, old) :: tail =>
      if other = name then (name, node) :: tail else (other, old) :: setEntry name node tail

/-- A node below directories that hold nothing else. -/
def nest (place : Place) (node : FileNode) : FileNode :=
  place.foldr (fun name inner => .directory [(name, inner)]) node

/-- Directories that are missing on the way are made; a file on the way stays. -/
def put (root : FileNode) (place : Place) (node : FileNode) : FileNode :=
  match root, place with
  | _, [] => node
  | .file text, _ :: _ => .file text
  | .directory entries, name :: others =>
      match entries.lookup name with
      | some inner => .directory (setEntry name (inner.put others node) entries)
      | none => .directory (setEntry name (nest others node) entries)
termination_by structural place

theorem lookup_setEntry (name : String) (node : FileNode) (entries : Entries) :
    (setEntry name node entries).lookup name = some node := by
  induction entries with
  | nil => simp [setEntry]
  | cons entry tail induction =>
      obtain ⟨other, old⟩ := entry
      by_cases equal : other = name
      · simp [setEntry, equal]
      · have different : (name == other) = false := by simpa using fun same => equal same.symm
        simp [setEntry, equal, List.lookup_cons, different, induction]

theorem find_nest (place : Place) (node : FileNode)
    (short : ∀ name ∈ place, name.utf8ByteSize ≤ nameLimit) :
    (nest place node).find place = .ok node := by
  induction place with
  | nil => simp [nest, find]
  | cons name others induction =>
      have fits := short name (by simp)
      have inner := induction fun other member => short other (by simp [member])
      simp only [nest, List.foldr] at inner ⊢
      simp [find, Nat.not_lt.2 fits, inner]

/-- What was put is found, unless a file stands in the way. -/
theorem find_put (root : FileNode) (place : Place) (node : FileNode)
    (short : ∀ name ∈ place, name.utf8ByteSize ≤ nameLimit)
    (free : root.find place ≠ .error .notADirectory) :
    (root.put place node).find place = .ok node := by
  induction place generalizing root with
  | nil => simp [put, find]
  | cons name others induction =>
      have fits := short name (by simp)
      have tail := fun other (member : other ∈ others) => short other (by simp [member])
      cases root with
      | file text => simp [find] at free
      | directory entries =>
          simp only [find, Nat.not_lt.2 fits, if_false] at free
          unfold put
          cases found : entries.lookup name with
          | none => simp [find, Nat.not_lt.2 fits, lookup_setEntry, find_nest others node tail]
          | some inner =>
              rw [found] at free
              simp [find, Nat.not_lt.2 fits, lookup_setEntry, induction inner tail free]

def erase : FileNode → Place → FileNode
  | .directory entries, [name] => .directory (entries.filter (·.1 ≠ name))
  | .directory entries, name :: others =>
      match entries.lookup name with
      | some inner => .directory (setEntry name (inner.erase others) entries)
      | none => .directory entries
  | node, _ => node

/-! Every file below a node, with its text. -/

mutual

def texts : FileNode → List (Place × String)
  | .file text => [([], text)]
  | .directory entries => textsIn entries

def textsIn : Entries → List (Place × String)
  | [] => []
  | (name, node) :: tail =>
      node.texts.map (fun (place, text) => (name :: place, text)) ++ textsIn tail

end

example : ((nest ["a"] (.directory [])).put ["a", "b"] (.file "x")).texts = [(["a", "b"], "x")] := by
  decide +kernel
example : (((nest ["a"] (.file "x")).put ["b"] (.file "y")).erase ["a"]).texts = [(["b"], "y")] := by
  decide +kernel

end FileNode

end ExportWatch
