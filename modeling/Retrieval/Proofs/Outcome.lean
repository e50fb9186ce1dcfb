namespace Retrieval

theorem bind_eq_ok_iff {first : Except ε α} {next : α → Except ε β} {result : β} :
    first >>= next = .ok result ↔ ∃ value, first = .ok value ∧ next value = .ok result := by
  cases first with
  | error fault => simp [bind, Except.bind]
  | ok value => simp [bind, Except.bind]

theorem bind_eq_error_iff {first : Except ε α} {next : α → Except ε β} {fault : ε} :
    first >>= next = .error fault ↔
      first = .error fault ∨ ∃ value, first = .ok value ∧ next value = .error fault := by
  cases first with
  | error reason => simp [bind, Except.bind]
  | ok value => simp [bind, Except.bind]

/-- A check leaves nothing for the steps after it. -/
theorem check_bind_eq_ok_iff {check : Except ε Unit} {next : Unit → Except ε β} {result : β} :
    check >>= next = .ok result ↔ check = .ok () ∧ next () = .ok result := by
  rw [bind_eq_ok_iff]
  exact ⟨fun ⟨(), passed, rest⟩ => ⟨passed, rest⟩, fun ⟨passed, rest⟩ => ⟨(), passed, rest⟩⟩

theorem mapError_eq_ok_iff {outcome : Except ε α} {wrap : ε → ζ} {value : α} :
    outcome.mapError wrap = .ok value ↔ outcome = .ok value := by
  cases outcome with
  | error fault => exact iff_of_false nofun nofun
  | ok found =>
      constructor
      · intro same
        cases same
        rfl
      · intro same
        cases same
        rfl

theorem mapError_eq_error_iff {outcome : Except ε α} {wrap : ε → ζ} {fault : ζ} :
    outcome.mapError wrap = .error fault ↔
      ∃ reason, outcome = .error reason ∧ wrap reason = fault := by
  cases outcome with
  | error reason =>
      constructor
      · intro same
        cases same
        exact ⟨reason, rfl, rfl⟩
      · rintro ⟨found, same, rfl⟩
        cases same
        rfl
  | ok value => exact iff_of_false nofun nofun

theorem map_eq_ok_iff {outcome : Except ε α} {change : α → β} {result : β} :
    outcome.map change = .ok result ↔ ∃ value, outcome = .ok value ∧ change value = result := by
  cases outcome <;> simp [Except.map]

theorem map_eq_error_iff {outcome : Except ε α} {change : α → β} {fault : ε} :
    outcome.map change = .error fault ↔ outcome = .error fault := by
  cases outcome <;> simp [Except.map]

theorem throw_bind (fault : ε) (next : α → Except ε β) :
    (throw fault >>= next) = (throw fault : Except ε β) := rfl

theorem ite_throw_eq_ok_iff {condition : Prop} [Decidable condition] {fault : ε}
    {rest : Except ε α} {value : α} :
    (if condition then throw fault else rest) = .ok value ↔ ¬ condition ∧ rest = .ok value := by
  by_cases holds : condition <;> simp [holds, throw, throwThe, MonadExceptOf.throw]

theorem ite_throw_eq_error_iff {condition : Prop} [Decidable condition] {fault reason : ε}
    {rest : Except ε α} :
    (if condition then throw fault else rest) = .error reason ↔
      condition ∧ fault = reason ∨ ¬ condition ∧ rest = .error reason := by
  by_cases holds : condition <;> simp [holds, throw, throwThe, MonadExceptOf.throw]

theorem mapError_bind (first : Except ε α) (next : α → Except ε β) (wrap : ε → ζ) :
    (first >>= next).mapError wrap =
      first.mapError wrap >>= fun value => (next value).mapError wrap := by
  cases first <;> rfl

theorem forM_cons_eq (check : α → Except ε Unit) (item : α) (rest : List α) :
    (item :: rest).forM check = (do check item; rest.forM check) := rfl

theorem forM_append_eq (check : α → Except ε Unit) (front back : List α) :
    (front ++ back).forM check = (do front.forM check; back.forM check) := by
  simpa only [List.forM_eq_forM] using List.forM_append

theorem forM_eq_ok_iff {check : α → Except ε Unit} {items : List α} :
    items.forM check = .ok () ↔ ∀ item ∈ items, check item = .ok () := by
  induction items with
  | nil => simp [pure, Except.pure]
  | cons item rest induction =>
      rw [forM_cons_eq, check_bind_eq_ok_iff, List.forall_mem_cons, ← induction]

theorem mapError_forM (check : α → Except ε Unit) (wrap : ε → ζ) (items : List α) :
    (items.forM check).mapError wrap = items.forM fun item => (check item).mapError wrap := by
  induction items with
  | nil => rfl
  | cons item rest induction => rw [forM_cons_eq, forM_cons_eq, mapError_bind, induction]

/-- Items that are checked while something is made of each may as well be checked beforehand. -/
theorem mapM_checked (check : α → Except ε Unit) (value : α → β) (items : List α) :
    (items.mapM fun item => do check item; return value item) =
      (do items.forM check; return items.map value) := by
  induction items with
  | nil => rfl
  | cons item rest induction =>
      rw [List.mapM_cons, induction, forM_cons_eq]
      cases check item with
      | error fault => rfl
      | ok _ => cases rest.forM check <;> rfl

end Retrieval
