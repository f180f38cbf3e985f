import ExportWatch.Files.Basic
import ExportWatch.Proofs.Files.Path
import ExportWatch.Proofs.Files.Tree
import ExportWatch.Proofs.Outcome

/-! Where a path leads. Names lead from place to place one after the other; what stands
at the last place does not matter, but what is above a directory is known only where
there is a directory. -/

namespace ExportWatch.Files

open FileNode

variable {files : Files}

inductive Leads (files : Files) : Place → List String → Place → Prop where
  | done (place : Place) : Leads files place [] place
  | here {place goal : Place} {names : List String} (rest : Leads files place names goal) :
      Leads files place ("." :: names) goal
  | above {place goal : Place} {names : List String} (directory : files.root.IsDirectory place)
      (rest : Leads files place.dropLast names goal) : Leads files place (".." :: names) goal
  | into {place goal : Place} {name : String} {names : List String} (notHere : name ≠ ".")
      (notAbove : name ≠ "..") (rest : Leads files (place ++ [name]) names goal) :
      Leads files place (name :: names) goal

def follow (place : Place) (name : String) : Place :=
  if name = "." then place else if name = ".." then place.dropLast else place ++ [name]

namespace Leads

variable {place goal : Place} {names : List String}

theorem cons_iff {name : String} :
    Leads files place (name :: names) goal ↔
      (name = "." ∧ Leads files place names goal) ∨
        (name = ".." ∧ files.root.IsDirectory place ∧ Leads files place.dropLast names goal) ∨
          (name ≠ "." ∧ name ≠ ".." ∧ Leads files (place ++ [name]) names goal) := by
  constructor
  · generalize same : name :: names = all
    intro leads
    cases leads with
    | done => cases same
    | here rest =>
        cases same
        exact .inl ⟨rfl, rest⟩
    | above directory rest =>
        cases same
        exact .inr (.inl ⟨rfl, directory, rest⟩)
    | into notHere notAbove rest =>
        cases same
        exact .inr (.inr ⟨notHere, notAbove, rest⟩)
  · rintro (⟨rfl, rest⟩ | ⟨rfl, directory, rest⟩ | ⟨notHere, notAbove, rest⟩)
    · exact .here rest
    · exact .above directory rest
    · exact .into notHere notAbove rest

/-- Only the names decide which place they lead to. -/
theorem goal_eq (leads : Leads files place names goal) : goal = names.foldl follow place := by
  induction leads with
  | done place => rfl
  | here rest induction => exact induction
  | above directory rest induction => exact induction
  | into notHere notAbove rest induction =>
      rw [List.foldl_cons, follow, if_neg notHere, if_neg notAbove]
      exact induction

theorem append {middle : Place} {others : List String} (first : Leads files place names middle)
    (second : Leads files middle others goal) : Leads files place (names ++ others) goal := by
  induction first with
  | done place => exact second
  | here rest induction => exact .here (induction second)
  | above directory rest induction => exact .above directory (induction second)
  | into notHere notAbove rest induction => exact .into notHere notAbove (induction second)

theorem split {others : List String} (leads : Leads files place (names ++ others) goal) :
    ∃ middle, Leads files place names middle ∧ Leads files middle others goal := by
  induction names generalizing place with
  | nil => exact ⟨place, .done place, leads⟩
  | cons name names induction =>
      cases leads with
      | here rest =>
          rcases induction rest with ⟨middle, first, second⟩
          exact ⟨middle, .here first, second⟩
      | above directory rest =>
          rcases induction rest with ⟨middle, first, second⟩
          exact ⟨middle, .above directory first, second⟩
      | into notHere notAbove rest =>
          rcases induction rest with ⟨middle, first, second⟩
          exact ⟨middle, .into notHere notAbove first, second⟩

/-- One more name leads from a place to the entry of that name. -/
theorem snoc {name : String} (leads : Leads files place names goal) (isName : Path.IsName name) :
    Leads files place (names ++ [name]) (goal ++ [name]) :=
  leads.append (.into isName.notHere isName.notAbove (.done _))

theorem mono {after : Files}
    (kept : ∀ place, files.root.IsDirectory place → after.root.IsDirectory place)
    (leads : Leads files place names goal) : Leads after place names goal := by
  induction leads with
  | done place => exact .done place
  | here rest induction => exact .here induction
  | above directory rest induction => exact .above (kept _ directory) induction
  | into notHere notAbove rest induction => exact .into notHere notAbove induction

end Leads

/-! The model goes along names in the same way, and asks for a directory at the end. -/

theorem findDirectory_ok_iff {place : Place} :
    (∃ entries, files.root.findDirectory place = .ok entries) ↔ files.root.IsDirectory place := by
  constructor
  · rintro ⟨entries, found⟩
    exact isDirectory_of_find (findDirectory_eq_ok_iff.mp found)
  · intro directory
    rcases find_of_isDirectory directory with ⟨entries, found⟩
    exact ⟨entries, findDirectory_eq_ok_iff.mpr found⟩

theorem enter_eq_ok_iff {trail names : List String} {goal : Place} :
    files.enter trail names = .ok goal ↔
      Leads files trail.reverse names goal ∧ files.root.IsDirectory goal := by
  induction names generalizing trail with
  | nil =>
      rw [enter, bind_eq_ok_iff]
      constructor
      · rintro ⟨entries, found, same⟩
        cases same
        exact ⟨.done _, findDirectory_ok_iff.mp ⟨entries, found⟩⟩
      · rintro ⟨leads, directory⟩
        cases leads
        rcases findDirectory_ok_iff.mpr directory with ⟨entries, found⟩
        exact ⟨entries, found, rfl⟩
  | cons name others induction =>
      rw [enter, Leads.cons_iff]
      by_cases here : name = "."
      · rw [if_pos here, induction]
        simp [here]
      · rw [if_neg here]
        by_cases above : name = ".."
        · have outer : (trail.drop 1).reverse = trail.reverse.dropLast := by
            simp
          rw [if_pos above, bind_eq_ok_iff]
          constructor
          · rintro ⟨entries, found, entered⟩
            rcases induction.mp entered with ⟨leads, directory⟩
            rw [outer] at leads
            exact ⟨.inr (.inl ⟨above, findDirectory_ok_iff.mp ⟨entries, found⟩, leads⟩), directory⟩
          · rintro ⟨⟨impossible, -⟩ | ⟨-, inside, rest⟩ | ⟨-, notAbove, -⟩, directory⟩
            · exact absurd impossible here
            · rcases findDirectory_ok_iff.mpr inside with ⟨entries, found⟩
              rw [← outer] at rest
              exact ⟨entries, found, induction.mpr ⟨rest, directory⟩⟩
            · exact absurd above notAbove
        · rw [if_neg above, induction, List.reverse_cons]
          simp [here, above]

end ExportWatch.Files
