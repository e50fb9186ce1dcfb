import Mathlib.Order.Bounds.Basic
import Retrieval.Proofs.Suggestion.Distance

/-!
The distance to a text is the least number of single edits that lead from the pattern to one of its
beginnings. No sequence of edits, in whatever order and at whatever places, is shorter than what the
recursion over the two lists finds.
-/

namespace Retrieval.Suggestion

variable {items next others : List α} {count : Nat}

/-- The insertion, the deletion or the substitution of one symbol. -/
inductive Edit : List α → List α → Prop
  | insertion (front : List α) (symbol : α) (rest : List α) :
      Edit (front ++ rest) (front ++ symbol :: rest)
  | deletion (front : List α) (symbol : α) (rest : List α) :
      Edit (front ++ symbol :: rest) (front ++ rest)
  | substitution (front : List α) (symbol other : α) (rest : List α) :
      Edit (front ++ symbol :: rest) (front ++ other :: rest)

/-- As many edits, one after the other, turn the first list into the second. -/
inductive Edits : Nat → List α → List α → Prop
  | done (items : List α) : Edits 0 items items
  | step {count : Nat} {items next others : List α} :
      Edit items next → Edits count next others → Edits (count + 1) items others

theorem Edit.cons (item : α) (edit : Edit items next) : Edit (item :: items) (item :: next) := by
  cases edit with
  | insertion front symbol rest => exact .insertion (item :: front) symbol rest
  | deletion front symbol rest => exact .deletion (item :: front) symbol rest
  | substitution front symbol other rest => exact .substitution (item :: front) symbol other rest

theorem Edit.reverse (edit : Edit items next) : Edit items.reverse next.reverse := by
  cases edit with
  | insertion front symbol rest =>
      simpa using Edit.insertion rest.reverse symbol front.reverse
  | deletion front symbol rest =>
      simpa using Edit.deletion rest.reverse symbol front.reverse
  | substitution front symbol other rest =>
      simpa using Edit.substitution rest.reverse symbol other front.reverse

namespace Edits

theorem cons (item : α) (edits : Edits count items others) :
    Edits count (item :: items) (item :: others) := by
  induction edits with
  | done items => exact .done (item :: items)
  | step edit _ induction => exact .step (edit.cons item) induction

theorem reverse (edits : Edits count items others) :
    Edits count items.reverse others.reverse := by
  induction edits with
  | done items => exact .done items.reverse
  | step edit _ induction => exact .step edit.reverse induction

theorem reverse_iff : Edits count items.reverse others.reverse ↔ Edits count items others := by
  refine ⟨fun edits => ?_, reverse⟩
  simpa using edits.reverse

theorem insert (other : α) (edits : Edits count items others) :
    Edits (count + 1) items (other :: others) :=
  .step (.insertion [] other items) (edits.cons other)

theorem delete (item : α) (edits : Edits count items others) :
    Edits (count + 1) (item :: items) others :=
  .step (.deletion [] item items) edits

theorem substitute (item other : α) (edits : Edits count items others) :
    Edits (count + 1) (item :: items) (other :: others) :=
  .step (.substitution [] item other items) (edits.cons other)

end Edits

section Distance

variable [DecidableEq α]

/-- The recursion is followed by a sequence of as many edits. -/
theorem edits_editDistance (items others : List α) :
    Edits (editDistance items others) items others := by
  induction items generalizing others with
  | nil =>
      induction others with
      | nil => simpa using Edits.done []
      | cons other others shorter => simpa using shorter.insert other
  | cons item items shorter =>
      induction others with
      | nil => simpa using (shorter []).delete item
      | cons other others inserting =>
          have kept : Edits (editDistance items others + if item = other then 0 else 1)
              (item :: items) (other :: others) := by
            split
            · rename_i same
              exact same ▸ (shorter others).cons item
            · exact (shorter others).substitute item other
          -- The recursion takes the cheapest of three last steps, whichever that is.
          have cheapest : editDistance (item :: items) (other :: others) =
                editDistance items others + (if item = other then 0 else 1) ∨
              editDistance (item :: items) (other :: others) =
                editDistance (item :: items) others + 1 ∨
              editDistance (item :: items) (other :: others) =
                editDistance items (other :: others) + 1 := by
            rw [editDistance_cons_cons]
            omega
          rcases cheapest with same | same | same
          · rw [same]
            exact kept
          · rw [same]
            exact inserting.insert other
          · rw [same]
            exact (shorter (other :: others)).delete item

theorem editDistance_cons_left_le (item : α) (items others : List α) :
    editDistance (item :: items) others ≤ editDistance items others + 1 := by
  cases others with
  | nil => simp
  | cons other others =>
      rw [editDistance_cons_cons]
      exact min_le_right _ _

theorem editDistance_cons_right_le (other : α) (items others : List α) :
    editDistance items (other :: others) ≤ editDistance items others + 1 := by
  cases items with
  | nil => simp
  | cons item items =>
      rw [editDistance_cons_cons]
      exact (min_le_left _ _).trans (min_le_right _ _)

theorem editDistance_le_cons_left (item : α) (items others : List α) :
    editDistance items others ≤ editDistance (item :: items) others + 1 := by
  induction others with
  | nil =>
      rw [editDistance_nil_right, editDistance_nil_right, List.length_cons]
      omega
  | cons other others shorter =>
      have inserted := editDistance_cons_right_le other items others
      rw [editDistance_cons_cons]
      omega

theorem editDistance_substitution_le (item other : α) (items others : List α) :
    editDistance (item :: items) others ≤ editDistance (other :: items) others + 1 := by
  induction others with
  | nil => simp
  | cons head others shorter =>
      have replaced := editDistance_cons_cons_le item head items others
      have inserted := editDistance_cons_right_le head (item :: items) others
      have deleted := editDistance_cons_left_le item items (head :: others)
      rw [editDistance_cons_cons other]
      split at replaced <;> omega

/-- What does not change a distance by more than one does so behind a common symbol as well. -/
theorem editDistance_cons_le_succ (item : α)
    (close : ∀ others, editDistance items others ≤ editDistance next others + 1)
    (others : List α) :
    editDistance (item :: items) others ≤ editDistance (item :: next) others + 1 := by
  induction others with
  | nil => simpa using close []
  | cons other others shorter =>
      -- Both recursions end with the same three steps, and none of them differs by more than one.
      have kept := close others
      have deleted := close (other :: others)
      simp only [editDistance_cons_cons]
      omega

theorem editDistance_append_le_succ (front : List α)
    (close : ∀ others, editDistance items others ≤ editDistance next others + 1)
    (others : List α) :
    editDistance (front ++ items) others ≤ editDistance (front ++ next) others + 1 := by
  induction front generalizing others with
  | nil => exact close others
  | cons item front shorter => exact editDistance_cons_le_succ item shorter others

/-- An edit brings a list nearer to another by one at the most. -/
theorem Edit.editDistance_le (edit : Edit items next) (others : List α) :
    editDistance items others ≤ editDistance next others + 1 := by
  cases edit with
  | insertion front symbol rest =>
      exact editDistance_append_le_succ front (editDistance_le_cons_left symbol rest) others
  | deletion front symbol rest =>
      exact editDistance_append_le_succ front (editDistance_cons_left_le symbol rest) others
  | substitution front symbol other rest =>
      exact editDistance_append_le_succ front (editDistance_substitution_le symbol other rest) others

theorem Edits.editDistance_le (edits : Edits count items others) :
    editDistance items others ≤ count := by
  induction edits with
  | done items => simp
  | step edit _ rest => exact (edit.editDistance_le _).trans (Nat.succ_le_succ rest)

/-- The recursion finds the least number of edits. -/
theorem isLeast_editDistance (items others : List α) :
    IsLeast {count | Edits count items others} (editDistance items others) :=
  ⟨edits_editDistance items others, fun _ => Edits.editDistance_le⟩

theorem editDistance_reverse (items others : List α) :
    editDistance items.reverse others.reverse = editDistance items others := by
  have least := isLeast_editDistance items.reverse others.reverse
  simp only [Edits.reverse_iff] at least
  exact least.unique (isLeast_editDistance items others)

end Distance

/-- The distance from a pattern to the beginning of a text that is nearest to it: the least of the
least numbers of edits. -/
def IsNearest (pattern text : List α) (distance : Nat) : Prop :=
  IsLeast {least | ∃ length ≤ text.length,
    IsLeast {count | Edits count pattern (text.take length)} least} distance

theorem isNearest_prefixDistance [DecidableEq α] (pattern text : List α) :
    IsNearest pattern text (prefixDistance pattern text) := by
  have below : ∀ length, prefixDistance pattern text ≤ editDistance pattern (text.take length) := by
    intro length
    refine prefixDistance_le_iff.mpr ⟨text.take length, List.take_prefix length text, ?_⟩
    rw [editDistance_reverse]
  obtain ⟨beginning, begins, near⟩ := prefixDistance_le_iff.mp (le_refl (prefixDistance pattern text))
  have taken : text.take beginning.length = beginning := (List.prefix_iff_eq_take.mp begins).symm
  rw [editDistance_reverse] at near
  constructor
  · refine ⟨beginning.length, begins.length_le, ?_⟩
    have same := below beginning.length
    rw [taken] at same ⊢
    rw [Nat.le_antisymm same near]
    exact isLeast_editDistance pattern beginning
  · rintro distance ⟨length, _, least⟩
    rw [least.unique (isLeast_editDistance pattern (text.take length))]
    exact below length

namespace PrefixMatcher

theorem edits?_of_fuzzy {matcher : PrefixMatcher} {candidate : String} {distance : Nat}
    (fuzzy : matcher.fuzzy = true) :
    matcher.edits? candidate = some distance ↔
      IsNearest matcher.wanted (Text.lowerChars candidate.toList) distance ∧
        distance ≤ matcher.maxEdits := by
  have nearest := isNearest_prefixDistance matcher.wanted (Text.lowerChars candidate.toList)
  rw [edits?_eq_some_iff, tolerance, if_pos fuzzy]
  refine and_congr_left fun _ => ⟨?_, nearest.unique⟩
  rintro rfl
  exact nearest

/-- The table finds the nearest beginning of any text. So where edits are allowed, a candidate is
given the distance of its nearest beginning if that is within the limit, and none otherwise. -/
theorem edits?_eq_some_iff_isNearest :
    (∀ pattern text : List Char, IsNearest pattern text (prefixDistance pattern text)) ∧
      ∀ wanted maxEdits fuzzyMinLength similarity candidate distance,
        (ofPrefix wanted maxEdits fuzzyMinLength similarity).fuzzy = true →
        ((ofPrefix wanted maxEdits fuzzyMinLength similarity).edits? candidate = some distance ↔
          IsNearest (Text.lowerChars (Text.trimChars wanted.toList))
              (Text.lowerChars candidate.toList) distance ∧
            distance ≤ maxEdits) :=
  ⟨isNearest_prefixDistance, fun _ _ _ _ _ _ fuzzy => edits?_of_fuzzy fuzzy⟩

/-- One substitution leads from the prefix to a beginning of the text, and nothing shorter. -/
theorem isNearest_luba :
    let matcher := ofPrefix " Liba" 2 3 .editDistance
    matcher.fuzzy = true ∧ matcher.edits? "Lubach" = some 1 ∧
      IsNearest "liba".toList "lubach".toList 1 := by
  intro matcher
  have fuzzy : matcher.fuzzy = true := by decide
  have edited : matcher.edits? "Lubach" = some 1 := by decide
  exact ⟨fuzzy, edited,
    ((edits?_eq_some_iff_isNearest.2 " Liba" 2 3 .editDistance "Lubach" 1 fuzzy).mp edited).1⟩

end PrefixMatcher

end Retrieval.Suggestion
