import ExportWatch.Files.Tree
import ExportWatch.Proofs.Lookup
import ExportWatch.Proofs.Outcome

/-! What is seen at the places of a tree of files, and how that changes when a single
entry of a directory is put or erased: nothing is seen differently anywhere else. -/

namespace ExportWatch.FileNode

inductive Item where
  | file (text : String)
  | directory (names : List String)
  deriving DecidableEq, Repr

def item : FileNode → Item
  | .file text => .file text
  | .directory entries => .directory (entries.map (·.1))

def itemAt (root : FileNode) (place : Place) : Option Item :=
  (root.find place).toOption.map item

/-! A place is looked up name by name. -/

theorem itemAt_nil (root : FileNode) : root.itemAt [] = some root.item := by
  cases root <;> rfl

theorem itemAt_file (text : String) (name : String) (others : Place) :
    (FileNode.file text).itemAt (name :: others) = none :=
  rfl

theorem itemAt_directory (entries : Entries) (name : String) (others : Place) :
    (FileNode.directory entries).itemAt (name :: others) =
      if nameLimit < name.utf8ByteSize then none
      else (entries.lookup name).bind fun inner => inner.itemAt others := by
  unfold itemAt
  rw [find]
  split
  · rfl
  · cases entries.lookup name <;> rfl

theorem find_append (root : FileNode) (first second : Place) :
    root.find (first ++ second) = root.find first >>= fun node => node.find second := by
  induction first generalizing root with
  | nil => rw [List.nil_append, find]; rfl
  | cons name others induction =>
      cases root with
      | file text => rfl
      | directory entries =>
          rw [List.cons_append, find, find]
          split
          · rfl
          · cases entries.lookup name with
            | none => rfl
            | some inner => exact induction inner

theorem itemAt_of_find {root : FileNode} {place : Place} {node : FileNode}
    (found : root.find place = .ok node) : root.itemAt place = some node.item := by
  rw [itemAt, found]
  rfl

theorem itemAt_append {root : FileNode} {first : Place} {node : FileNode}
    (found : root.find first = .ok node) (second : Place) :
    root.itemAt (first ++ second) = node.itemAt second := by
  rw [itemAt, find_append, found]
  rfl

theorem find_of_itemAt {root : FileNode} {place : Place} {item : Item}
    (seen : root.itemAt place = some item) :
    ∃ node, root.find place = .ok node ∧ node.item = item := by
  cases found : root.find place with
  | error fault =>
      rw [itemAt, found] at seen
      cases seen
  | ok node =>
      rw [itemAt_of_find found, Option.some.injEq] at seen
      exact ⟨node, rfl, seen⟩

def IsDirectory (root : FileNode) (place : Place) : Prop :=
  ∃ names, root.itemAt place = some (.directory names)

theorem find_of_isDirectory {root : FileNode} {place : Place} (directory : root.IsDirectory place) :
    ∃ entries, root.find place = .ok (.directory entries) := by
  rcases directory with ⟨names, seen⟩
  rcases find_of_itemAt seen with ⟨node, found, same⟩
  cases node with
  | file text => cases same
  | directory entries => exact ⟨entries, found⟩

theorem isDirectory_of_find {root : FileNode} {place : Place} {entries : Entries}
    (found : root.find place = .ok (.directory entries)) : root.IsDirectory place :=
  ⟨_, itemAt_of_find found⟩

/-- Whatever is seen is seen in a directory. -/
theorem isDirectory_of_itemAt {root : FileNode} {place : Place} {name : String} {item : Item}
    (seen : root.itemAt (place ++ [name]) = some item) : root.IsDirectory place := by
  cases found : root.find place with
  | error fault =>
      rw [itemAt, find_append, found] at seen
      cases seen
  | ok node =>
      rw [itemAt_append found] at seen
      cases node with
      | file text => cases seen
      | directory entries => exact isDirectory_of_find found

/-- Whatever is seen in a directory is listed there. -/
theorem mem_of_itemAt {root : FileNode} {place : Place} {entries : Entries} {name : String}
    {item : Item} (found : root.find place = .ok (.directory entries))
    (seen : root.itemAt (place ++ [name]) = some item) : name ∈ entries.map (·.1) := by
  rw [itemAt_append found, itemAt_directory] at seen
  split at seen
  · cases seen
  · rcases Option.bind_eq_some_iff.mp seen with ⟨node, inside, -⟩
    exact List.mem_map_of_mem (mem_of_lookup inside)

theorem findDirectory_eq_ok_iff {root : FileNode} {place : Place} {entries : Entries} :
    root.findDirectory place = .ok entries ↔ root.find place = .ok (.directory entries) := by
  unfold findDirectory
  cases root.find place with
  | error fault => simp [bind, Except.bind]
  | ok node => cases node <;> simp [bind, Except.bind, pure, Except.pure]

/-! Changing the entries of one directory. -/

def change (edit : Entries → Entries) : FileNode → Place → FileNode
  | .directory entries, [] => .directory (edit entries)
  | .directory entries, name :: others =>
      match entries.lookup name with
      | some inner => .directory (setEntry name (inner.change edit others) entries)
      | none => .directory entries
  | .file text, _ => .file text

def addName (name : String) (names : List String) : List String :=
  if name ∈ names then names else names ++ [name]

theorem names_setEntry (name : String) (node : FileNode) (entries : Entries) :
    (setEntry name node entries).map (·.1) = addName name (entries.map (·.1)) := by
  induction entries with
  | nil => simp [setEntry, addName]
  | cons entry tail induction =>
      rcases entry with ⟨other, old⟩
      by_cases same : other = name
      · simp [setEntry, addName, same]
      · rw [setEntry, if_neg same, List.map_cons, induction]
        by_cases member : name ∈ tail.map (·.1)
        · simp [addName, member]
        · simp [addName, member, Ne.symm same]

theorem lookup_setEntry_of_ne {name other : String} (different : other ≠ name) (node : FileNode)
    (entries : Entries) : (setEntry name node entries).lookup other = entries.lookup other := by
  have notSame : (other == name) = false := by simpa using different
  induction entries with
  | nil => simp [setEntry, List.lookup_cons, notSame]
  | cons entry tail induction =>
      rcases entry with ⟨first, old⟩
      by_cases same : first = name
      · rw [setEntry, if_pos same, List.lookup_cons, List.lookup_cons, same, notSame]
      · rw [setEntry, if_neg same, List.lookup_cons, List.lookup_cons, induction]

theorem addName_of_mem {name : String} {names : List String} (member : name ∈ names) :
    addName name names = names :=
  if_pos member

theorem itemAt_change {root : FileNode} {directory : Place} {entries : Entries}
    (edit : Entries → Entries) (found : root.find directory = .ok (.directory entries))
    (place : Place) :
    (root.change edit directory).itemAt place =
      if directory <+: place then
        (FileNode.directory (edit entries)).itemAt (place.drop directory.length)
      else root.itemAt place := by
  induction directory generalizing root place with
  | nil =>
      cases found
      rw [if_pos (List.nil_prefix)]
      rfl
  | cons name others induction =>
      cases root with
      | file text => cases found
      | directory outer =>
          rw [find] at found
          split at found
          · cases found
          · next short =>
              cases inside : outer.lookup name with
              | none =>
                  rw [inside] at found
                  cases found
              | some inner =>
                  rw [inside] at found
                  rw [change, inside]
                  cases place with
                  | nil =>
                      have member : name ∈ outer.map (·.1) :=
                        List.mem_map_of_mem (mem_of_lookup inside)
                      rw [if_neg (by simp), itemAt_nil, itemAt_nil, item, item, names_setEntry,
                        addName_of_mem member]
                  | cons first rest =>
                      rw [itemAt_directory]
                      by_cases same : first = name
                      · subst same
                        rw [lookup_setEntry, if_neg short, Option.bind_some, induction found]
                        simp only [List.cons_prefix_cons, true_and, List.length_cons,
                          List.drop_succ_cons]
                        split
                        · rfl
                        · rw [itemAt_directory, if_neg short, inside, Option.bind_some]
                      · have apart : ¬ name :: others <+: first :: rest := fun begins =>
                          same (List.cons_prefix_cons.mp begins).1.symm
                        rw [lookup_setEntry_of_ne same, if_neg apart, itemAt_directory]

/-! Putting and erasing an entry of a directory. -/

theorem put_eq_change {root : FileNode} {directory : Place} {entries : Entries} (name : String)
    (node : FileNode) (found : root.find directory = .ok (.directory entries)) :
    root.put (directory ++ [name]) node = root.change (setEntry name node) directory := by
  induction directory generalizing root with
  | nil =>
      cases found
      rw [List.nil_append, put, change]
      split <;> rfl
  | cons first others induction =>
      cases root with
      | file text => cases found
      | directory outer =>
          rw [find] at found
          split at found
          · cases found
          · cases inside : outer.lookup first with
            | none =>
                rw [inside] at found
                cases found
            | some inner =>
                rw [inside] at found
                rw [List.cons_append, put, change, inside]
                simp only [induction found]

theorem erase_eq_change {root : FileNode} {directory : Place} {entries : Entries} (name : String)
    (found : root.find directory = .ok (.directory entries)) :
    root.erase (directory ++ [name]) = root.change (·.filter (·.1 ≠ name)) directory := by
  induction directory generalizing root with
  | nil =>
      cases found
      rfl
  | cons first others induction =>
      cases root with
      | file text => cases found
      | directory outer =>
          rw [find] at found
          split at found
          · cases found
          · cases inside : outer.lookup first with
            | none =>
                rw [inside] at found
                cases found
            | some inner =>
                rw [inside] at found
                have below := induction found
                rw [change, inside]
                cases others with
                | nil =>
                    rw [List.nil_append] at below
                    simp [erase, inside, below]
                | cons second more =>
                    rw [List.cons_append] at below
                    simp [erase, inside, below]

/-- Nothing is seen below the place, whatever is seen there. -/
def Bare (root : FileNode) (place : Place) : Prop :=
  ∀ name others, root.itemAt (place ++ name :: others) = none

theorem bare_file (text : String) : (FileNode.file text).Bare [] :=
  itemAt_file text

theorem bare_empty : (FileNode.directory []).Bare [] := by
  intro name others
  rw [List.nil_append, itemAt_directory]
  split <;> rfl

theorem bare_of_free {root : FileNode} {place : Place} (free : ¬ root.IsDirectory place) :
    root.Bare place := by
  intro name others
  cases found : root.find place with
  | error fault =>
      rw [itemAt, find_append, found]
      rfl
  | ok node =>
      rw [itemAt_append found]
      cases node with
      | file text => rfl
      | directory entries => exact absurd (isDirectory_of_find found) free

theorem free_of_file {root : FileNode} {place : Place} {text : String}
    (found : root.find place = .ok (.file text)) : ¬ root.IsDirectory place := by
  rintro ⟨names, seen⟩
  rw [itemAt_of_find found] at seen
  cases seen

theorem itemAt_of_error {root : FileNode} {place : Place} {fault : FileFault}
    (missing : root.find place = .error fault) : root.itemAt place = none := by
  rw [itemAt, missing]
  rfl

theorem free_of_error {root : FileNode} {place : Place} {fault : FileFault}
    (missing : root.find place = .error fault) : ¬ root.IsDirectory place := by
  rintro ⟨names, seen⟩
  rw [itemAt_of_error missing] at seen
  cases seen

/-- An edit that concerns one name shows in the directory and under that name only. -/
theorem itemAt_change_entry {root : FileNode} {directory : Place} {entries : Entries}
    {name : String}
    {edit : Entries → Entries} (found : root.find directory = .ok (.directory entries))
    (short : ¬ nameLimit < name.utf8ByteSize)
    (others : ∀ other, other ≠ name → (edit entries).lookup other = entries.lookup other)
    (bare : root.Bare (directory ++ [name]))
    (leaf : ∀ node ∈ (edit entries).lookup name, node.Bare [])
    (place : Place) :
    (root.change edit directory).itemAt place =
      if place = directory then some (.directory ((edit entries).map (·.1)))
      else if place = directory ++ [name] then ((edit entries).lookup name).map item
      else root.itemAt place := by
  rw [itemAt_change edit found]
  by_cases begins : directory <+: place
  · rcases begins with ⟨rest, rfl⟩
    rw [if_pos (List.prefix_append _ _), List.drop_left]
    cases rest with
    | nil => rw [itemAt_nil, item, List.append_nil, if_pos rfl]
    | cons first rest =>
        rw [if_neg (by simp), itemAt_directory]
        by_cases same : first = name
        · subst same
          rw [if_neg short]
          cases rest with
          | nil =>
              rw [if_pos rfl]
              cases (edit entries).lookup first with
              | none => rfl
              | some node => exact itemAt_nil node
          | cons second more =>
              have below := bare second more
              rw [List.append_assoc, List.singleton_append] at below
              rw [if_neg (by simp), below]
              cases entry : (edit entries).lookup first with
              | none => rfl
              | some node => exact leaf node entry second more
        · have notEntry : directory ++ first :: rest ≠ directory ++ [name] := by simp [same]
          rw [others first same, if_neg notEntry, itemAt_append found, itemAt_directory]
  · have notDirectory : place ≠ directory := by
      rintro rfl
      exact begins (List.prefix_refl _)
    have notEntry : place ≠ directory ++ [name] := by
      rintro rfl
      exact begins (List.prefix_append _ _)
    rw [if_neg begins, if_neg notDirectory, if_neg notEntry]

theorem find_of_names {root : FileNode} {place : Place} {names : List String}
    (seen : root.itemAt place = some (.directory names)) :
    ∃ entries, root.find place = .ok (.directory entries) ∧ entries.map (·.1) = names := by
  rcases find_of_isDirectory ⟨names, seen⟩ with ⟨entries, found⟩
  rw [itemAt_of_find found] at seen
  cases seen
  exact ⟨entries, found, rfl⟩

theorem itemAt_put {root node : FileNode} {directory : Place} {names : List String} {name : String}
    (short : ¬ nameLimit < name.utf8ByteSize)
    (seen : root.itemAt directory = some (.directory names))
    (bare : root.Bare (directory ++ [name]))
    (leaf : node.Bare []) (place : Place) :
    (root.put (directory ++ [name]) node).itemAt place =
      if place = directory then some (.directory (addName name names))
      else if place = directory ++ [name] then some node.item
      else root.itemAt place := by
  rcases find_of_names seen with ⟨entries, found, rfl⟩
  rw [put_eq_change name node found, itemAt_change_entry found short _ bare, names_setEntry,
    lookup_setEntry, Option.map_some]
  · rw [lookup_setEntry]
    rintro other ⟨⟩
    exact leaf
  · intro other different
    exact lookup_setEntry_of_ne different node entries

theorem lookup_filter_of_ne {name other : String} (different : other ≠ name) (entries : Entries) :
    (entries.filter (·.1 ≠ name)).lookup other = entries.lookup other := by
  induction entries with
  | nil => rfl
  | cons entry tail induction =>
      rcases entry with ⟨first, node⟩
      by_cases same : first = name
      · have notFirst : (other == first) = false := by simpa [same] using different
        rw [List.filter_cons_of_neg (by simpa using same), induction, List.lookup_cons, notFirst]
      · rw [List.filter_cons_of_pos (by simpa using same), List.lookup_cons, List.lookup_cons,
          induction]

theorem itemAt_erase {root : FileNode} {directory : Place} {names : List String} {name : String}
    (short : ¬ nameLimit < name.utf8ByteSize)
    (seen : root.itemAt directory = some (.directory names))
    (bare : root.Bare (directory ++ [name]))
    (place : Place) :
    (root.erase (directory ++ [name])).itemAt place =
      if place = directory then some (.directory (names.filter (· ≠ name)))
      else if place = directory ++ [name] then none
      else root.itemAt place := by
  rcases find_of_names seen with ⟨entries, found, rfl⟩
  have erased : (entries.filter (·.1 ≠ name)).lookup name = none := by
    rw [lookup_eq_none_iff_not_mem, List.mem_map]
    rintro ⟨entry, member, same⟩
    simp [same] at member
  rw [erase_eq_change name found, itemAt_change_entry found short _ bare, erased, List.filter_map]
  · rfl
  · rw [erased]
    nofun
  · intro other different
    exact lookup_filter_of_ne different entries

end ExportWatch.FileNode
