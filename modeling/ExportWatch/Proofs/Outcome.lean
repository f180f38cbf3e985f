import Mathlib.Data.List.Forall2

/-! Steps of which each may end in a fault. All went well exactly when each did. -/

namespace ExportWatch

variable {ε α β : Type}

theorem bind_eq_ok_iff {first : Except ε α} {next : α → Except ε β} {result : β} :
    first >>= next = .ok result ↔ ∃ value, first = .ok value ∧ next value = .ok result := by
  cases first with
  | error fault => simp [bind, Except.bind]
  | ok value => simp [bind, Except.bind]

theorem bind_eq_error_iff {first : Except ε α} {next : α → Except ε β} {fault : ε} :
    first >>= next = .error fault ↔
      first = .error fault ∨ ∃ value, first = .ok value ∧ next value = .error fault := by
  cases first with
  | error other => simp [bind, Except.bind]
  | ok value => simp [bind, Except.bind]

theorem map_eq_ok_iff {first : Except ε α} {change : α → β} {result : β} :
    first.map change = .ok result ↔ ∃ value, first = .ok value ∧ change value = result := by
  cases first with
  | error fault => simp [Except.map]
  | ok value => simp [Except.map]

theorem map_eq_error_iff {first : Except ε α} {change : α → β} {fault : ε} :
    first.map change = .error fault ↔ first = .error fault := by
  cases first with
  | error fault => simp [Except.map]
  | ok value => simp [Except.map]

theorem mapError_eq_ok_iff {δ : Type} {outcome : Except ε α} {fault : ε → δ} {value : α} :
    outcome.mapError fault = .ok value ↔ outcome = .ok value := by
  cases outcome with
  | error cause => exact ⟨nofun, nofun⟩
  | ok result =>
      constructor <;> rintro ⟨⟩ <;> rfl

theorem mapError_eq_error_iff {δ : Type} {outcome : Except ε α} {fault : ε → δ} {other : δ} :
    outcome.mapError fault = .error other ↔
      ∃ cause, outcome = .error cause ∧ fault cause = other := by
  cases outcome with
  | error cause =>
      constructor
      · rintro ⟨⟩
        exact ⟨cause, rfl, rfl⟩
      · rintro ⟨_, ⟨⟩, rfl⟩
        rfl
  | ok result => exact ⟨nofun, nofun⟩

theorem mapError_map {δ : Type} (outcome : Except ε α) (fault : ε → δ) (change : α → β) :
    (outcome.mapError fault).map change = (outcome.map change).mapError fault := by
  cases outcome <;> rfl

/-! One step for each item of a list, up to the first fault. -/

section Items

variable {read : α → Except ε β} {items : List α}

theorem mapM_eq_ok_iff {results : List β} :
    items.mapM read = .ok results ↔
      List.Forall₂ (fun item result => read item = .ok result) items results := by
  induction items generalizing results with
  | nil => simp [pure, Except.pure, eq_comm]
  | cons head tail induction =>
      rw [List.mapM_cons, bind_eq_ok_iff, List.forall₂_cons_left_iff]
      refine exists_congr fun first => ?_
      rw [bind_eq_ok_iff]
      constructor
      · rintro ⟨read, others, tailRead, same⟩
        cases same
        exact ⟨others, read, induction.mp tailRead, rfl⟩
      · rintro ⟨others, read, tailRead, rfl⟩
        exact ⟨read, others, induction.mpr tailRead, rfl⟩

/-- The fault is that of the first item that has one. -/
theorem mapM_eq_error_iff {fault : ε} :
    items.mapM read = .error fault ↔
      ∃ before item after, items = before ++ item :: after ∧
        (∀ other ∈ before, ∃ result, read other = .ok result) ∧ read item = .error fault := by
  induction items with
  | nil => simp [pure, Except.pure]
  | cons head tail induction =>
      rw [List.mapM_cons, bind_eq_error_iff]
      simp only [bind_eq_error_iff, induction]
      constructor
      · rintro (here | ⟨first, firstRead, later⟩)
        · exact ⟨[], head, tail, rfl, by simp, here⟩
        · rcases later with ⟨before, item, after, rfl, readable, faulty⟩ | ⟨others, -, impossible⟩
          · refine ⟨head :: before, item, after, rfl, ?_, faulty⟩
            rw [List.forall_mem_cons]
            exact ⟨⟨first, firstRead⟩, readable⟩
          · cases impossible
      · rintro ⟨before, item, after, split, readable, faulty⟩
        cases before with
        | nil =>
            cases split
            exact .inl faulty
        | cons first others =>
            cases split
            rw [List.forall_mem_cons] at readable
            rcases readable.1 with ⟨result, firstRead⟩
            exact .inr ⟨result, firstRead, .inl ⟨others, item, after, rfl, readable.2, faulty⟩⟩

end Items

end ExportWatch
