import Mathlib.Order.MinMax
import Retrieval.Suggestion.Similarity

namespace Retrieval.Suggestion

theorem not_prefix_of_ne {front rest after : List α} {symbol other : α} (differ : symbol ≠ other) :
    ¬ front ++ symbol :: rest <+: front ++ other :: rest ++ after := by
  rw [List.append_assoc, List.prefix_append_right_inj, List.cons_append, List.cons_prefix_cons]
  exact fun begins => differ begins.1

section Edits

variable [DecidableEq α]

/-- The least number of insertions, deletions and substitutions that turn one list into the
other. -/
def editDistance : List α → List α → Nat
  | [], others => others.length
  | items, [] => items.length
  | item :: items, other :: others =>
      min (min (editDistance items others + if item = other then 0 else 1)
        (editDistance (item :: items) others + 1)) (editDistance items (other :: others) + 1)

@[simp] theorem editDistance_nil_left (others : List α) :
    editDistance [] others = others.length := by
  rw [editDistance]

@[simp] theorem editDistance_nil_right (items : List α) : editDistance items [] = items.length := by
  cases items <;> simp [editDistance]

theorem editDistance_cons_cons (item other : α) (items others : List α) :
    editDistance (item :: items) (other :: others) =
      min (min (editDistance items others + if item = other then 0 else 1)
        (editDistance (item :: items) others + 1)) (editDistance items (other :: others) + 1) := by
  rw [editDistance]

/-- Items that stay as they are cost nothing, others one substitution at the most. -/
theorem editDistance_cons_cons_le (item other : α) (items others : List α) :
    editDistance (item :: items) (other :: others) ≤
      editDistance items others + if item = other then 0 else 1 := by
  rw [editDistance_cons_cons]
  exact (min_le_left _ _).trans (min_le_left _ _)

theorem editDistance_append_left_le (front items others : List α) :
    editDistance (front ++ items) (front ++ others) ≤ editDistance items others := by
  induction front with
  | nil => exact le_refl _
  | cons item front induction =>
      have step := editDistance_cons_cons_le item item (front ++ items) (front ++ others)
      rw [if_pos rfl, Nat.add_zero] at step
      exact step.trans induction

@[simp] theorem editDistance_self (items : List α) : editDistance items items = 0 := by
  have kept := editDistance_append_left_le items [] []
  rw [List.append_nil, editDistance_nil_left] at kept
  exact Nat.le_zero.mp kept

theorem eq_of_editDistance_eq_zero {items others : List α}
    (unedited : editDistance items others = 0) : items = others := by
  induction items generalizing others with
  | nil => exact (List.length_eq_zero_iff.mp (by simpa using unedited)).symm
  | cons item items induction =>
      cases others with
      | nil => simp at unedited
      | cons other others =>
          rw [editDistance_cons_cons] at unedited
          by_cases same : item = other
          · have later : items = others := induction (by simp [same] at unedited; omega)
            rw [same, later]
          · rw [if_neg same] at unedited
            omega

/-- The distances of a pattern to the beginnings of a text. All are given last symbol first, and
the beginnings go on from the one that is given. -/
def row (pattern before : List α) : List α → List Nat
  | [] => [editDistance pattern before]
  | char :: rest => editDistance pattern before :: row pattern (char :: before) rest

theorem row_eq_cons (pattern before text : List α) :
    row pattern before text = editDistance pattern before :: (row pattern before text).tail := by
  cases text <;> rfl

theorem row_nil (before text : List α) :
    row [] before text = List.range' before.length (text.length + 1) := by
  induction text generalizing before with
  | nil => simp [row]
  | cons char rest induction =>
      simp [row, induction, List.range'_succ]

theorem rowTail_row (symbol : α) (pattern before text : List α) :
    rowTail symbol (editDistance (symbol :: pattern) before) text (row pattern before text) =
      (row (symbol :: pattern) before text).tail := by
  induction text generalizing before with
  | nil => rfl
  | cons char rest induction =>
      rw [row, row_eq_cons pattern (char :: before) rest, rowTail, ← editDistance_cons_cons,
        ← row_eq_cons pattern (char :: before) rest, induction, row, List.tail_cons,
        ← row_eq_cons]

theorem nextRow_row (symbol : α) (pattern text : List α) :
    nextRow text (row pattern [] text) symbol = row (symbol :: pattern) [] text := by
  have first : editDistance pattern [] + 1 = editDistance (symbol :: pattern) [] := by simp
  rw [row_eq_cons pattern, nextRow, ← row_eq_cons, first, rowTail_row, ← row_eq_cons]

theorem foldl_nextRow_row (symbols pattern text : List α) :
    symbols.foldl (nextRow text) (row pattern [] text) =
      row (symbols.reverse ++ pattern) [] text := by
  induction symbols generalizing pattern with
  | nil => rfl
  | cons symbol symbols induction =>
      rw [List.foldl_cons, nextRow_row, induction, List.reverse_cons, List.append_assoc]
      rfl

/-- The last row of the table has the distances of the whole pattern. -/
theorem distances_eq_row (pattern text : List α) :
    distances pattern text = row pattern.reverse [] text := by
  have start : List.range (text.length + 1) = row [] [] text := by
    rw [row_nil, List.range_eq_range', List.length_nil]
  rw [distances, start, foldl_nextRow_row, List.append_nil]

theorem mem_row_iff {distance : Nat} {pattern before text : List α} :
    distance ∈ row pattern before text ↔
      ∃ beginning, beginning <+: text ∧
        distance = editDistance pattern (beginning.reverse ++ before) := by
  induction text generalizing before with
  | nil => simp [row]
  | cons char rest induction =>
      rw [row, List.mem_cons, induction]
      constructor
      · rintro (rfl | ⟨beginning, begins, rfl⟩)
        · exact ⟨[], List.nil_prefix, rfl⟩
        · refine ⟨char :: beginning, (List.prefix_cons_inj char).mpr begins, ?_⟩
          rw [List.reverse_cons, List.append_assoc]
          rfl
      · rintro ⟨beginning, begins, rfl⟩
        rcases List.prefix_cons_iff.mp begins with rfl | ⟨later, rfl, laterBegins⟩
        · exact .inl rfl
        · refine .inr ⟨later, laterBegins, ?_⟩
          rw [List.reverse_cons, List.append_assoc]
          rfl

/-- The distance is within a limit if that of some beginning is. -/
theorem prefixDistance_le_iff {limit : Nat} {pattern text : List α} :
    prefixDistance pattern text ≤ limit ↔
      ∃ beginning, beginning <+: text ∧
        editDistance pattern.reverse beginning.reverse ≤ limit := by
  obtain ⟨least, found⟩ : ∃ least, (row pattern.reverse [] text).min? = some least := by
    rw [row_eq_cons]
    exact ⟨_, List.min?_cons'⟩
  obtain ⟨member, lower⟩ := List.min?_eq_some_iff.mp found
  rw [prefixDistance, distances_eq_row, found, Option.getD_some]
  constructor
  · intro within
    obtain ⟨beginning, begins, rfl⟩ := mem_row_iff.mp member
    exact ⟨beginning, begins, by simpa using within⟩
  · rintro ⟨beginning, begins, within⟩
    exact (lower _ (mem_row_iff.mpr ⟨beginning, begins, rfl⟩)).trans (by simpa using within)

theorem prefixDistance_eq_zero_iff {pattern text : List α} :
    prefixDistance pattern text = 0 ↔ pattern <+: text := by
  rw [← Nat.le_zero, prefixDistance_le_iff]
  constructor
  · rintro ⟨beginning, begins, unedited⟩
    have same := List.reverse_inj.mp (eq_of_editDistance_eq_zero (Nat.le_zero.mp unedited))
    exact same ▸ begins
  · intro begins
    exact ⟨pattern, begins, by simp⟩

/-- A text that differs from the pattern in one symbol is one edit away from it. -/
theorem prefixDistance_substitution {front rest after : List α} {symbol other : α}
    (differ : symbol ≠ other) :
    prefixDistance (front ++ symbol :: rest) (front ++ other :: rest ++ after) = 1 := by
  have apart : ¬ front ++ symbol :: rest <+: front ++ other :: rest ++ after :=
    not_prefix_of_ne differ
  have edited := mt prefixDistance_eq_zero_iff.mp apart
  have within : prefixDistance (front ++ symbol :: rest) (front ++ other :: rest ++ after) ≤ 1 := by
    refine prefixDistance_le_iff.mpr ⟨front ++ other :: rest, List.prefix_append _ _, ?_⟩
    simp only [List.reverse_append, List.reverse_cons, List.append_assoc, List.singleton_append]
    calc editDistance (rest.reverse ++ symbol :: front.reverse)
          (rest.reverse ++ other :: front.reverse)
        ≤ editDistance (symbol :: front.reverse) (other :: front.reverse) :=
          editDistance_append_left_le _ _ _
      _ ≤ editDistance front.reverse front.reverse + if symbol = other then 0 else 1 :=
          editDistance_cons_cons_le _ _ _ _
      _ = 1 := by rw [editDistance_self, if_neg differ]
  omega

end Edits

namespace PrefixMatcher

variable {matcher : PrefixMatcher} {text : String} {distance : Nat}

/-- How many edits are allowed in the end. -/
def tolerance (matcher : PrefixMatcher) : Nat :=
  if matcher.fuzzy then matcher.maxEdits else 0

/-- A text is given its distance if that is tolerated. A search for the very beginning of a text is
one that tolerates no edits. -/
theorem edits?_eq_some_iff :
    matcher.edits? text = some distance ↔
      prefixDistance matcher.wanted (Text.lowerChars text.toList) = distance ∧
        distance ≤ matcher.tolerance := by
  unfold edits? tolerance
  cases matcher.fuzzy with
  | true =>
      simp only [if_true, Option.ite_none_right_eq_some, Option.some.injEq]
      constructor
      · rintro ⟨within, rfl⟩
        exact ⟨rfl, within⟩
      · rintro ⟨rfl, within⟩
        exact ⟨within, rfl⟩
  | false =>
      simp only [Bool.false_eq_true, if_false, Option.ite_none_right_eq_some, Option.some.injEq,
        List.isPrefixOf_iff_prefix, ← prefixDistance_eq_zero_iff, Nat.le_zero]
      constructor
      · rintro ⟨begins, rfl⟩
        exact ⟨begins, rfl⟩
      · rintro ⟨same, rfl⟩
        exact ⟨same, rfl⟩

/-- Text that begins with the prefix in lower case needs no edits, whether edits are allowed or not,
and no other text needs none. -/
theorem edits?_eq_zero_iff :
    matcher.edits? text = some 0 ↔ matcher.wanted <+: Text.lowerChars text.toList := by
  rw [edits?_eq_some_iff, prefixDistance_eq_zero_iff, and_iff_left (Nat.zero_le _)]

end PrefixMatcher

end Retrieval.Suggestion
