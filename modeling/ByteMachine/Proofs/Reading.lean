import Mathlib.Data.List.Forall2

/-!
# Reading that may fail

What is known when several readings that may fail, one after the other, have given a result or a
problem.
-/

namespace ByteMachine

section Reading

variable {α β ε : Type}

theorem exists_of_bind {first : Except ε α} {next : α → Except ε β} {result : β}
    (accepted : first >>= next = .ok result) :
    ∃ value, first = .ok value ∧ next value = .ok result := by
  cases first with
  | error problem => cases accepted
  | ok value => exact ⟨value, rfl, accepted⟩

theorem exists_of_map {first : Except ε α} {change : α → β} {result : β}
    (accepted : first.map change = .ok result) :
    ∃ value, first = .ok value ∧ change value = result := by
  cases first with
  | error problem => cases accepted
  | ok value => exact ⟨value, rfl, Except.ok.inj accepted⟩

variable {read : α → Except ε β}

/-- Items are read one by one, each as its own result. -/
theorem mapM_eq_ok_iff {holds : α → β → Prop} {items : List α}
    (reads : ∀ item ∈ items, ∀ result, read item = .ok result ↔ holds item result)
    {results : List β} :
    items.mapM read = .ok results ↔ List.Forall₂ holds items results := by
  induction items generalizing results with
  | nil =>
      rw [List.mapM_nil, List.forall₂_nil_left_iff]
      exact ⟨fun same => (Except.ok.inj same).symm, fun same => congrArg Except.ok same.symm⟩
  | cons item rest ih =>
      rw [List.forall_mem_cons] at reads
      rw [List.mapM_cons]
      constructor
      · intro accepted
        obtain ⟨result, first, accepted⟩ := exists_of_bind accepted
        obtain ⟨others, later, same⟩ := exists_of_bind accepted
        cases same
        exact .cons ((reads.1 result).mp first) ((ih reads.2).mp later)
      · rintro (_ | ⟨first, later⟩)
        rw [(reads.1 _).mpr first, (ih reads.2).mpr later]
        rfl

/-- Reading fails with the first item that cannot be read. -/
theorem mapM_eq_error_iff {items : List α} {problem : ε} :
    items.mapM read = .error problem ↔
      ∃ before item after, items = before ++ item :: after ∧
        (∀ earlier ∈ before, ∃ result, read earlier = .ok result) ∧
        read item = .error problem := by
  induction items with
  | nil =>
      constructor
      · intro failed
        cases failed
      · rintro ⟨before, item, after, split, -⟩
        simp at split
  | cons first rest ih =>
      rw [List.mapM_cons]
      cases reading : read first with
      | error found =>
          constructor
          · intro failed
            cases failed
            exact ⟨[], first, rest, rfl, by simp, reading⟩
          · rintro ⟨before, item, after, split, readable, failed⟩
            cases before with
            | nil =>
                cases split
                exact congrArg Except.error (Except.error.inj (reading.symm.trans failed))
            | cons earlier others =>
                cases split
                obtain ⟨result, read_first⟩ := readable first List.mem_cons_self
                rw [reading] at read_first
                cases read_first
      | ok result =>
          have passed_on : (Except.ok result >>= fun value => rest.mapM read >>= fun values =>
              pure (value :: values)) = .error problem ↔ rest.mapM read = .error problem := by
            cases rest.mapM read with
            | error found => exact Iff.rfl
            | ok values => exact iff_of_false nofun nofun
          rw [passed_on, ih]
          constructor
          · rintro ⟨before, item, after, rfl, readable, failed⟩
            exact ⟨first :: before, item, after, rfl,
              List.forall_mem_cons.mpr ⟨⟨result, reading⟩, readable⟩, failed⟩
          · rintro ⟨before, item, after, split, readable, failed⟩
            cases before with
            | nil =>
                cases split
                rw [reading] at failed
                cases failed
            | cons earlier others =>
                cases split
                exact ⟨others, item, after, rfl, (List.forall_mem_cons.mp readable).2, failed⟩

end Reading

end ByteMachine
