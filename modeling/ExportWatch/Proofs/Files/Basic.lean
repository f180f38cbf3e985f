import ExportWatch.Proofs.Files.Lead
import Mathlib.Data.List.Basic

/-! What the operations on files change. None of them takes a directory away or gives a
directory a name that leads elsewhere, and each changes the text of one place at most. -/

namespace ExportWatch.Files

open FileNode

variable {files : Files} {path : Path} {place : Place}

/-- The text of the file at a place. -/
def textAt (files : Files) (place : Place) : Option String :=
  match files.root.itemAt place with
  | some (.file text) => some text
  | _ => none

theorem textAt_eq_some_iff {text : String} :
    files.textAt place = some text ↔ files.root.itemAt place = some (.file text) := by
  unfold textAt
  split
  · next same => rw [same, Option.some.injEq, Option.some.injEq, Item.file.injEq]
  · next other =>
      constructor
      · nofun
      · exact fun same => absurd same (other text)

/-- The place that a path is about. -/
def destination (files : Files) (path : Path) : Place :=
  path.names.foldl follow (files.start path)

def Reaches (files : Files) (path : Path) : Prop :=
  Leads files (files.start path) path.names (files.destination path)

theorem reaches_of_leads (leads : Leads files (files.start path) path.names place) :
    files.Reaches path ∧ files.destination path = place := by
  have same : place = files.destination path := leads.goal_eq
  rw [Reaches, ← same]
  exact ⟨leads, rfl⟩

def Spot.goal : Spot → Place
  | .directory place => place
  | .entry inside name => inside ++ [name]

theorem nodeAt_eq (files : Files) (spot : Spot) :
    files.nodeAt spot = files.root.find spot.goal := by
  cases spot <;> rfl

/-- A spot is where the names lead. -/
theorem leads_of_spotOf {start : Place} {names : List String} {spot : Spot}
    (found : files.spotOf start names.reverse = .ok spot) : Leads files start names spot.goal := by
  rcases List.eq_nil_or_concat' names with rfl | ⟨outer, last, rfl⟩
  · cases found
    exact .done start
  · rw [List.reverse_append, List.reverse_singleton, List.singleton_append, spotOf,
      List.reverse_reverse] at found
    rcases bind_eq_ok_iff.mp found with ⟨inside, entered, found⟩
    rcases enter_eq_ok_iff.mp entered with ⟨leads, directory⟩
    rw [List.reverse_reverse] at leads
    apply leads.append
    split at found
    · next here =>
        cases found
        rw [here]
        exact .here (.done _)
    · split at found
      · next above =>
          cases found
          rw [above]
          exact .above directory (.done _)
      · next notHere notAbove =>
          cases found
          exact .into notHere notAbove (.done _)

theorem spotOf_entry {start directory : Place} {outer : List String} {name : String}
    (leads : Leads files start outer directory) (isDirectory : files.root.IsDirectory directory)
    (isName : Path.IsName name) :
    files.spotOf start (outer ++ [name]).reverse = .ok (.entry directory name) := by
  have entered : files.enter start.reverse outer = .ok directory :=
    enter_eq_ok_iff.mpr ⟨by rwa [List.reverse_reverse], isDirectory⟩
  rw [List.reverse_append, List.reverse_singleton, List.singleton_append, spotOf,
    List.reverse_reverse, entered]
  simp [bind, Except.bind, pure, Except.pure, isName.notHere, isName.notAbove]

/-- The spot of a directory is found. -/
theorem exists_spotOf {start : Place} {names : List String} (leads : Leads files start names place)
    (directory : files.root.IsDirectory place) :
    ∃ spot, files.spotOf start names.reverse = .ok spot ∧ spot.goal = place := by
  rcases List.eq_nil_or_concat' names with rfl | ⟨outer, last, rfl⟩
  · cases leads
    exact ⟨_, rfl, rfl⟩
  · rcases leads.split with ⟨inside, first, second⟩
    rw [List.reverse_append, List.reverse_singleton, List.singleton_append, spotOf,
      List.reverse_reverse]
    have entered : files.root.IsDirectory inside →
        files.enter start.reverse outer = .ok inside := fun isDirectory =>
      enter_eq_ok_iff.mpr ⟨by rwa [List.reverse_reverse], isDirectory⟩
    rcases Leads.cons_iff.mp second with ⟨here, rest⟩ | ⟨above, isDirectory, rest⟩ |
      ⟨notHere, notAbove, rest⟩
    · cases rest
      rw [entered directory]
      exact ⟨.directory place, by simp [here, bind, Except.bind, pure, Except.pure], rfl⟩
    · cases rest
      rw [entered isDirectory]
      exact ⟨.directory inside.dropLast, by simp [above, bind, Except.bind, pure, Except.pure], rfl⟩
    · cases rest
      rcases directory with ⟨names, seen⟩
      rw [entered (isDirectory_of_itemAt seen)]
      exact ⟨.entry inside last, by simp [notHere, notAbove, bind, Except.bind, pure, Except.pure],
        rfl⟩

/-! Finding what a path leads to. -/

theorem find_root_of_find {node : FileNode} (found : files.find path = .ok node) :
    files.root.find (files.destination path) = .ok node := by
  rcases bind_eq_ok_iff.mp found with ⟨spot, spotted, found⟩
  rcases bind_eq_ok_iff.mp spotted with ⟨-, -, spotted⟩
  rcases bind_eq_ok_iff.mp found with ⟨inner, atSpot, found⟩
  rw [nodeAt_eq, (leads_of_spotOf spotted).goal_eq] at atSpot
  rw [destination, atSpot]
  cases inner with
  | file text =>
      simp only [] at found
      split at found
      · cases found
      · exact found
  | directory entries => exact found

theorem checkText_of_find {node : FileNode} (found : files.find path = .ok node) :
    checkText path = .ok () := by
  rcases bind_eq_ok_iff.mp found with ⟨spot, spotted, -⟩
  rcases bind_eq_ok_iff.mp spotted with ⟨⟨⟩, checked, -⟩
  exact checked

theorem reaches_of_find {node : FileNode} (found : files.find path = .ok node) :
    files.Reaches path := by
  rcases bind_eq_ok_iff.mp found with ⟨spot, spotted, -⟩
  rcases bind_eq_ok_iff.mp spotted with ⟨-, -, spotted⟩
  exact (reaches_of_leads (leads_of_spotOf spotted)).1

theorem find_of_read {text : String} (read : files.read path = .ok text) :
    files.find path = .ok (.file text) := by
  rcases bind_eq_ok_iff.mp read with ⟨node, found, isText⟩
  cases node with
  | file other =>
      cases isText
      exact found
  | directory entries => cases isText

theorem find_directory {entries : Entries} (checked : checkText path = .ok ())
    (reaches : files.Reaches path)
    (found : files.root.find (files.destination path) = .ok (.directory entries)) :
    files.find path = .ok (.directory entries) := by
  rcases exists_spotOf reaches (isDirectory_of_find found) with ⟨spot, spotted, same⟩
  rw [find, Files.spot, checked]
  simp [bind, Except.bind, spotted, nodeAt_eq, same, found, pure, Except.pure]

/-! A name joined to a path. -/

section Join

variable {name : String}

theorem checkText_eq_ok_iff :
    checkText path = .ok () ↔
      '\x00' ∉ path.text.toList ∧ path.text ≠ "" ∧ path.text.utf8ByteSize ≤ pathLimit := by
  unfold checkText
  by_cases nul : '\x00' ∈ path.text.toList
  · simp [nul]
  · by_cases empty : path.text = ""
    · simp [empty]
    · by_cases long : pathLimit < path.text.utf8ByteSize
      · simp [nul, empty, long]
      · simp [nul, empty, long, Nat.le_of_not_lt long]

/-- What can be looked up below a path can be looked up there, if it is a path at all. -/
theorem checkText_of_join (named : path.text ≠ "") (checked : checkText (path.join name) = .ok ()) :
    checkText path = .ok () := by
  rcases checkText_eq_ok_iff.mp checked with ⟨noNul, -, short⟩
  rw [Path.toList_join, List.mem_append, List.mem_append, not_or, not_or] at noNul
  have shorter : path.text.utf8ByteSize ≤ (path.join name).text.utf8ByteSize := by
    unfold Path.join
    split
    · simp
    · simp only [String.utf8ByteSize_append]
      omega
  exact checkText_eq_ok_iff.mpr ⟨noNul.1.1, named, Nat.le_trans shorter short⟩

theorem start_join (files : Files) (path : Path) (noSlash : '/' ∉ name.toList) :
    files.start (path.join name) = files.start path := by
  rw [start, start, Path.isAbsolute_join path noSlash]

theorem names_join (path : Path) (isName : Path.IsName name) :
    (path.join name).names = path.names ++ [name] := by
  rw [Path.names_join path isName.noSlash, Path.joined_of_isName isName]

theorem destination_join (files : Files) (path : Path) (isName : Path.IsName name) :
    files.destination (path.join name) = files.destination path ++ [name] := by
  rw [destination, start_join files path isName.noSlash, names_join path isName, List.foldl_append,
    List.foldl_cons, List.foldl_nil, follow, if_neg isName.notHere, if_neg isName.notAbove]
  rfl

theorem destination_join_empty (files : Files) (path : Path) :
    files.destination (path.join "") = files.destination path := by
  rw [destination, start_join files path (by simp), Path.names_join path (by simp), Path.joined]
  simp [destination]

theorem reaches_join_iff (isName : Path.IsName name) :
    files.Reaches (path.join name) ↔ files.Reaches path := by
  rw [Reaches, destination_join files path isName, start_join files path isName.noSlash,
    names_join path isName]
  constructor
  · intro leads
    rcases leads.split with ⟨middle, first, -⟩
    exact (reaches_of_leads first).1
  · intro reaches
    exact reaches.snoc isName

theorem reaches_join_empty_iff : files.Reaches (path.join "") ↔ files.Reaches path := by
  rw [Reaches, destination_join_empty, start_join files path (by simp),
    Path.names_join path (by simp), Path.joined]
  simp [Reaches]

theorem spot_join (checked : checkText (path.join name) = .ok ()) (reaches : files.Reaches path)
    (isName : Path.IsName name) (directory : files.root.IsDirectory (files.destination path)) :
    files.spot (path.join name) = .ok (.entry (files.destination path) name) := by
  rw [spot, checked, names_join path isName, start_join files path isName.noSlash]
  exact spotOf_entry reaches directory isName

theorem find_join {text : String} (checked : checkText (path.join name) = .ok ())
    (reaches : files.Reaches path) (isName : Path.IsName name)
    (found : files.root.find (files.destination path ++ [name]) = .ok (.file text)) :
    files.find (path.join name) = .ok (.file text) := by
  have directory := isDirectory_of_itemAt (itemAt_of_find found)
  have isFile := Path.namesDirectory_join path isName.noSlash isName.notEmpty
  rw [find, spot_join checked reaches isName directory]
  simp only [bind, Except.bind, nodeAt, found, isFile, pure, Except.pure, Bool.false_eq_true,
    if_false]

end Join

/-! Reading. -/

theorem textAt_of_find {text : String} (found : files.root.find place = .ok (.file text)) :
    files.textAt place = some text :=
  textAt_eq_some_iff.mpr (itemAt_of_find found)

theorem find_of_textAt {text : String} (seen : files.textAt place = some text) :
    files.root.find place = .ok (.file text) := by
  rcases find_of_itemAt (textAt_eq_some_iff.mp seen) with ⟨node, found, same⟩
  cases node with
  | file other =>
      cases same
      exact found
  | directory entries => cases same

theorem toOption_eq_some_iff {ε α : Type} {outcome : Except ε α} {value : α} :
    outcome.toOption = some value ↔ outcome = .ok value := by
  cases outcome <;> simp [Except.toOption]

theorem read_join_iff {name text : String} (reaches : files.Reaches path)
    (isName : Path.IsName name) :
    files.read (path.join name) = .ok text ↔ checkText (path.join name) = .ok () ∧
      files.textAt (files.destination path ++ [name]) = some text := by
  rw [read, bind_eq_ok_iff]
  constructor
  · rintro ⟨node, found, isText⟩
    have atPlace := find_root_of_find found
    rw [destination_join files path isName] at atPlace
    cases node with
    | file other =>
        cases isText
        exact ⟨checkText_of_find found, textAt_of_find atPlace⟩
    | directory entries => cases isText
  · rintro ⟨checked, seen⟩
    exact ⟨.file text, find_join checked reaches isName (find_of_textAt seen), rfl⟩

/-! What every operation keeps. -/

/-- A directory lists names that lead inside it, each of them once. -/
def TidyAt (files : Files) (place : Place) : Prop :=
  ∀ names, files.root.itemAt place = some (.directory names) →
    names.Nodup ∧ ∀ name ∈ names, Path.IsName name

structure Steady (before after : Files) : Prop where
  workingDirectory : after.workingDirectory = before.workingDirectory
  directories : ∀ place, before.root.IsDirectory place → after.root.IsDirectory place
  tidy : ∀ place, before.TidyAt place → after.TidyAt place

namespace Steady

variable {before middle after : Files}

theorem refl (files : Files) : Steady files files :=
  ⟨rfl, fun _ directory => directory, fun _ tidy => tidy⟩

theorem trans (first : Steady before middle) (second : Steady middle after) :
    Steady before after where
  workingDirectory := second.workingDirectory.trans first.workingDirectory
  directories := fun place directory => second.directories place (first.directories place directory)
  tidy := fun place tidy => second.tidy place (first.tidy place tidy)

theorem leads {start goal : Place} {names : List String} (steady : Steady before after)
    (leads : Leads before start names goal) : Leads after start names goal :=
  leads.mono steady.directories

theorem start (steady : Steady before after) (path : Path) :
    after.start path = before.start path := by
  rw [Files.start, Files.start, steady.workingDirectory]

theorem destination (steady : Steady before after) (path : Path) :
    after.destination path = before.destination path := by
  rw [Files.destination, Files.destination, steady.start]

theorem reaches (steady : Steady before after) (reaches : before.Reaches path) :
    after.Reaches path := by
  rw [Reaches, steady.destination, steady.start]
  exact steady.leads reaches

end Steady

/-! An entry is put into a directory where there is none, or only a file. -/

theorem short_of_find {directory : Place} {name : String}
    (isDirectory : files.root.IsDirectory directory)
    (found : files.root.find (directory ++ [name]) ≠ .error .nameTooLong) :
    ¬ nameLimit < name.utf8ByteSize := by
  rcases find_of_isDirectory isDirectory with ⟨entries, atDirectory⟩
  intro long
  apply found
  rw [find_append, atDirectory]
  simp [bind, Except.bind, FileNode.find, long]

theorem nodup_addName {name : String} {names : List String} (distinct : names.Nodup) :
    (addName name names).Nodup := by
  unfold addName
  split
  · exact distinct
  · next new =>
      rw [List.nodup_append]
      refine ⟨distinct, by simp, ?_⟩
      intro other member last isLast
      rw [List.mem_singleton.mp isLast]
      rintro rfl
      exact new member

theorem mem_addName {name other : String} {names : List String}
    (member : other ∈ addName name names) :
    other = name ∨ other ∈ names := by
  unfold addName at member
  split at member
  · exact .inr member
  · rcases List.mem_append.mp member with earlier | last
    · exact .inr earlier
    · exact .inl (List.mem_singleton.mp last)

section Put

variable {directory : Place} {name : String} {node : FileNode}
variable (isDirectory : files.root.IsDirectory directory) (isName : Path.IsName name)
variable (short : ¬ nameLimit < name.utf8ByteSize)
variable (free : ¬ files.root.IsDirectory (directory ++ [name]))

include isDirectory isName short free in
theorem steady_put (leaf : node.Bare [])
    (empty : ∀ names, node.item = .directory names → names = []) :
    Steady files (files.put (directory ++ [name]) node) := by
  rcases isDirectory with ⟨names, seen⟩
  have changed := itemAt_put short seen (bare_of_free free) leaf
  refine ⟨rfl, ?_, ?_⟩
  · intro place isDirectory
    by_cases same : place = directory
    · exact ⟨_, by rw [put, changed, if_pos same]⟩
    · have notEntry : place ≠ directory ++ [name] := by
        rintro rfl
        exact free isDirectory
      rcases isDirectory with ⟨listed, shown⟩
      exact ⟨listed, by rw [put, changed, if_neg same, if_neg notEntry, shown]⟩
  · intro place tidy listed shown
    rw [put, changed] at shown
    split at shown
    · next same =>
        subst same
        cases shown
        rcases tidy names seen with ⟨distinct, areNames⟩
        refine ⟨nodup_addName distinct, ?_⟩
        intro other member
        rcases mem_addName member with rfl | earlier
        · exact isName
        · exact areNames other earlier
    · split at shown
      · rw [empty listed (Option.some.inj shown)]
        exact ⟨List.nodup_nil, nofun⟩
      · exact tidy listed shown

include isDirectory isName short free in
theorem put_file (text : String) :
    Steady files (files.put (directory ++ [name]) (.file text)) ∧
      ∀ place, (files.put (directory ++ [name]) (.file text)).textAt place =
        if place = directory ++ [name] then some text else files.textAt place := by
  refine ⟨steady_put isDirectory isName short free (bare_file text) nofun, ?_⟩
  rcases isDirectory with ⟨names, seen⟩
  intro place
  rw [textAt, textAt, put, itemAt_put short seen (bare_of_free free) (bare_file text)]
  by_cases same : place = directory
  · subst same
    rw [if_pos rfl, if_neg (by simp), seen]
  · rw [if_neg same]
    by_cases entry : place = directory ++ [name]
    · rw [if_pos entry, if_pos entry, item]
    · rw [if_neg entry, if_neg entry]

include isDirectory isName short in
theorem put_directory (nothing : files.root.itemAt (directory ++ [name]) = none) :
    Steady files (files.put (directory ++ [name]) (.directory [])) ∧
      ∀ place, (files.put (directory ++ [name]) (.directory [])).textAt place =
        files.textAt place := by
  have free : ¬ files.root.IsDirectory (directory ++ [name]) := by
    rintro ⟨names, seen⟩
    rw [nothing] at seen
    cases seen
  constructor
  · apply steady_put isDirectory isName short free bare_empty
    rintro names ⟨⟩
    rfl
  · rcases isDirectory with ⟨names, seen⟩
    intro place
    rw [textAt, textAt, put, itemAt_put short seen (bare_of_free free) bare_empty]
    by_cases same : place = directory
    · subst same
      rw [if_pos rfl, seen]
    · rw [if_neg same]
      by_cases entry : place = directory ++ [name]
      · subst entry
        rw [if_pos rfl, nothing, item]
      · rw [if_neg entry]

end Put

/-- An entry that is spotted has a proper name in a directory. -/
theorem entry_of_spotOf {start : Place} {names : List String} {directory : Place} {name : String}
    (areNames : ∀ name ∈ names, '/' ∉ name.toList ∧ name ≠ "")
    (found : files.spotOf start names.reverse = .ok (.entry directory name)) :
    files.root.IsDirectory directory ∧ Path.IsName name := by
  rcases List.eq_nil_or_concat' names with rfl | ⟨outer, last, rfl⟩
  · cases found
  · rw [List.reverse_append, List.reverse_singleton, List.singleton_append, spotOf,
      List.reverse_reverse] at found
    rcases bind_eq_ok_iff.mp found with ⟨inside, entered, found⟩
    have isDirectory := (enter_eq_ok_iff.mp entered).2
    split at found
    · cases found
    · next notHere =>
      split at found
      · cases found
      · next notAbove =>
        cases found
        rcases areNames name (by simp) with ⟨noSlash, notEmpty⟩
        exact ⟨isDirectory, noSlash, notEmpty, notHere, notAbove⟩

/-- A file is written at the destination of the path, and no other text changes. -/
theorem write_ok {text : String} {after : Files} (written : files.write path text = .ok after) :
    checkText path = .ok () ∧ files.Reaches path ∧ Steady files after ∧
      ∀ place, after.textAt place =
        if place = files.destination path then some text else files.textAt place := by
  rcases bind_eq_ok_iff.mp written with ⟨spot, spotted, written⟩
  rcases bind_eq_ok_iff.mp spotted with ⟨⟨⟩, checked, spotted⟩
  rcases reaches_of_leads (leads_of_spotOf spotted) with ⟨reaches, same⟩
  refine ⟨checked, reaches, ?_⟩
  cases spot with
  | directory inside => cases written
  | entry directory name =>
      rcases entry_of_spotOf (fun _ member => Path.mem_names member) spotted with
        ⟨isDirectory, isName⟩
      rw [same, Spot.goal]
      simp only [] at written
      split at written
      · cases written
      · split at written
        · cases written
        · next old found =>
            cases written
            exact put_file isDirectory isName (short_of_find isDirectory (by rw [found]; nofun))
              (free_of_file found) text
        · next missing =>
            cases written
            exact put_file isDirectory isName (short_of_find isDirectory (by rw [missing]; nofun))
              (free_of_error missing) text
        · cases written

/-! Making directories changes no text. -/

theorem makeDirectory_ok {start : Place} {names : List String} {after : Files}
    (areNames : ∀ name ∈ names, '/' ∉ name.toList ∧ name ≠ "")
    (made : files.makeDirectory start names = .ok after) :
    Steady files after ∧ ∀ place, after.textAt place = files.textAt place := by
  rcases bind_eq_ok_iff.mp made with ⟨spot, spotted, made⟩
  cases spot with
  | directory inside =>
      cases made
      exact ⟨.refl files, fun _ => rfl⟩
  | entry directory name =>
      rw [← names.reverse_reverse] at spotted
      rcases entry_of_spotOf (fun name member => areNames name (List.mem_reverse.mp member)) spotted
        with ⟨isDirectory, isName⟩
      simp only [] at made
      split at made
      · cases made
        exact ⟨.refl files, fun _ => rfl⟩
      · cases made
      · next missing =>
          cases made
          have short := short_of_find isDirectory (by rw [missing]; nofun)
          exact put_directory isDirectory isName short (itemAt_of_error missing)
      · cases made

theorem keeping_makeDirectory (files : Files) {start : Place} {names : List String}
    (areNames : ∀ name ∈ names, '/' ∉ name.toList ∧ name ≠ "") :
    Steady files (files.keeping (files.makeDirectory start names)).1 ∧
      ∀ place, (files.keeping (files.makeDirectory start names)).1.textAt place =
        files.textAt place := by
  cases made : files.makeDirectory start names with
  | error fault => exact ⟨.refl files, fun _ => rfl⟩
  | ok after => exact makeDirectory_ok areNames made

theorem makeAll_steady {start : Place} {names above : List String}
    (areNames : ∀ name ∈ names, '/' ∉ name.toList ∧ name ≠ "")
    (areAbove : ∀ name ∈ above, '/' ∉ name.toList ∧ name ≠ "") :
    Steady files (files.makeAll start names above).1 ∧
      ∀ place, (files.makeAll start names above).1.textAt place = files.textAt place := by
  induction above generalizing names with
  | nil => exact keeping_makeDirectory files areNames
  | cons last outer induction =>
      have inner := induction areAbove fun name member =>
        areAbove name (List.mem_cons_of_mem _ member)
      rw [makeAll]
      split
      · split
        · next made same =>
            rw [same] at inner
            rcases keeping_makeDirectory made areNames with ⟨steady, texts⟩
            exact ⟨inner.1.trans steady, fun place => (texts place).trans (inner.2 place)⟩
        · exact inner
      · exact keeping_makeDirectory files areNames

theorem makeDirectories_steady (files : Files) (path : Path) :
    Steady files (files.makeDirectories path).1 ∧
      ∀ place, (files.makeDirectories path).1.textAt place = files.textAt place := by
  unfold makeDirectories
  split
  · exact ⟨.refl files, fun _ => rfl⟩
  · apply makeAll_steady
    · exact fun name member => Path.mem_names (List.mem_reverse.mp member)
    · intro name member
      have moving := List.mem_reverse.mp (List.mem_of_mem_drop member)
      exact Path.mem_names (List.mem_filter.mp moving).1

/-! Removing a file. -/

theorem erase_file {directory : Place} {name text : String}
    (found : files.root.find (directory ++ [name]) = .ok (.file text)) :
    let after : Files := { files with root := files.root.erase (directory ++ [name]) }
    Steady files after ∧ ∀ place, after.textAt place =
      if place = directory ++ [name] then none else files.textAt place := by
  have isDirectory := isDirectory_of_itemAt (itemAt_of_find found)
  have short := short_of_find isDirectory (by rw [found]; nofun)
  have free := free_of_file found
  rcases isDirectory with ⟨names, seen⟩
  have changed := itemAt_erase short seen (bare_of_free free)
  refine ⟨⟨rfl, ?_, ?_⟩, ?_⟩
  · rintro place ⟨listed, shown⟩
    by_cases same : place = directory
    · exact ⟨_, by rw [changed, if_pos same]⟩
    · have notEntry : place ≠ directory ++ [name] := by
        rintro rfl
        exact free ⟨listed, shown⟩
      exact ⟨listed, by rw [changed, if_neg same, if_neg notEntry, shown]⟩
  · intro place tidy listed shown
    rw [changed] at shown
    split at shown
    · next same =>
        subst same
        cases shown
        rcases tidy names seen with ⟨distinct, areNames⟩
        exact ⟨distinct.filter _, fun other member => areNames other (List.mem_filter.mp member).1⟩
    · split at shown
      · cases shown
      · exact tidy listed shown
  · intro place
    rw [textAt, textAt, changed]
    by_cases same : place = directory
    · subst same
      rw [if_pos rfl, if_neg (by simp), seen]
    · rw [if_neg same]
      by_cases entry : place = directory ++ [name]
      · rw [if_pos entry, if_pos entry]
      · rw [if_neg entry, if_neg entry]

theorem remove_join {name text : String} (reaches : files.Reaches path)
    (isName : Path.IsName name) (checked : checkText (path.join name) = .ok ())
    (seen : files.textAt (files.destination path ++ [name]) = some text) :
    ∃ after, files.remove (path.join name) = .ok after ∧ Steady files after ∧
      ∀ place, after.textAt place =
        if place = files.destination path ++ [name] then none else files.textAt place := by
  have found := find_of_textAt seen
  have directory := isDirectory_of_itemAt (itemAt_of_find found)
  refine ⟨_, ?_, erase_file found⟩
  rw [remove, find_join checked reaches isName found, spot_join checked reaches isName directory]
  rfl

theorem remove_of_read {name text : String} (isName : Path.IsName name)
    (read : files.read (path.join name) = .ok text) :
    ∃ after, files.remove (path.join name) = .ok after ∧ Steady files after ∧
      ∀ place, after.textAt place =
        if place = files.destination (path.join name) then none else files.textAt place := by
  have reaches := (reaches_join_iff isName).mp (reaches_of_find (find_of_read read))
  rcases (read_join_iff reaches isName).mp read with ⟨checked, seen⟩
  rw [destination_join files path isName]
  exact remove_join reaches isName checked seen

end ExportWatch.Files
