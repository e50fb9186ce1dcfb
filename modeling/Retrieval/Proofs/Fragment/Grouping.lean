import Retrieval.Fragment.Grouping
import Retrieval.Proofs.Text.Blank

namespace Retrieval.Fragment

/-- Parts with a separator between them, in parentheses if there are several. -/
def enclosed (separator : List Char) (parts : List (List Char)) : List Char :=
  if 1 < parts.length then '(' :: (separator.intercalate parts ++ [')'])
  else separator.intercalate parts

/-- A group of trimmed parts has no white space at its ends. -/
theorem trimChars_enclosed {separator : List Char} {parts : List (List Char)}
    (trimmed : ∀ part ∈ parts, Text.trimChars part = part) :
    Text.trimChars (enclosed separator parts) = enclosed separator parts := by
  rcases parts with _ | ⟨part, _ | ⟨next, parts⟩⟩
  · rfl
  · simpa [enclosed] using trimmed part (List.mem_singleton_self part)
  · have closing : ∀ inside, Text.trimChars ('(' :: (inside ++ [')'])) = '(' :: (inside ++ [')']) :=
      fun inside => by
        rw [← List.nil_append ('(' :: _), Text.trimChars_append_cons _ _ (by decide),
          Text.trimEndChars_append_cons _ _ (by decide)]
        rfl
    simpa [enclosed] using closing (separator.intercalate (part :: next :: parts))

theorem isBlank_intercalate {separator : String} {parts : List String}
    (blank : Text.isBlank (separator.intercalate parts) = true) :
    ∀ part ∈ parts, Text.isBlank part = true := by
  induction parts with
  | nil => simp
  | cons part rest induction =>
      cases rest with
      | nil => simpa using blank
      | cons next others =>
          rw [String.intercalate_cons_cons, Text.isBlank_append, Text.isBlank_append,
            Bool.and_eq_true, Bool.and_eq_true] at blank
          exact List.forall_mem_cons.mpr ⟨blank.1.1, induction blank.2⟩

namespace Grouping

variable {grouping : Grouping} {texts : List String}

theorem appendAll_eq : grouping.appendAll texts =
    { grouping with
      parts := grouping.parts ++
        (texts.filter fun text => !Text.isBlank text).map Text.trim } := by
  induction texts generalizing grouping with
  | nil => simp [appendAll]
  | cons text rest induction =>
      have following : grouping.appendAll (text :: rest) =
          (grouping.append text).appendAll rest := rfl
      rw [following, induction]
      cases blank : Text.isBlank text <;> simp [append, blank]

theorem toList_close : grouping.close.text.toList =
    enclosed grouping.operator.separator.toList (grouping.parts.map String.toList) := by
  unfold close enclosed
  rw [List.length_map]
  split
  · simp
  · simp

/-- Texts stand in their group trimmed. -/
theorem toList_close_appendAll {operator : Operator}
    (solid : ∀ text ∈ texts, Text.isBlank text = false) :
    ((undeclared operator).appendAll texts).close.text.toList =
      enclosed operator.separator.toList (texts.map fun text => Text.trimChars text.toList) := by
  have kept : (texts.filter fun text => !Text.isBlank text) = texts :=
    List.filter_eq_self.mpr fun text member => by simp [solid text member]
  rw [appendAll_eq, kept, toList_close, List.map_append, List.map_map]
  simp [undeclared, Function.comp_def, Text.trim]

theorem isBlank_close : Text.isBlank grouping.close.text = true →
    ∀ part ∈ grouping.parts, Text.isBlank part = true := by
  intro blank
  unfold close at blank
  simp only at blank
  split at blank
  · rw [Text.isBlank_append, Text.isBlank_append, Bool.and_eq_true, Bool.and_eq_true] at blank
    exact isBlank_intercalate blank.1.2
  · exact isBlank_intercalate blank

/-- A group is blank if nothing but blank texts was added to it. -/
theorem isBlank_close_appendAll {operator : Operator} :
    Text.isBlank ((undeclared operator).appendAll texts).close.text = true ↔
      ∀ text ∈ texts, Text.isBlank text = true := by
  rw [appendAll_eq]
  constructor
  · intro blank text member
    by_contra solid
    have kept : Text.trim text ∈ (texts.filter fun text => !Text.isBlank text).map Text.trim :=
      List.mem_map_of_mem (List.mem_filter.mpr ⟨member, by simpa using solid⟩)
    have trimmed := isBlank_close blank (Text.trim text) (by simpa [undeclared] using kept)
    exact solid (by simpa using trimmed)
  · intro blank
    have none : (texts.filter fun text => !Text.isBlank text) = [] :=
      List.filter_eq_nil_iff.mpr fun text member => by simp [blank text member]
    rw [none]
    rfl

theorem isBlank_close_of_mem {operator : Operator} {text : String} (member : text ∈ texts)
    (solid : Text.isBlank text = false) :
    Text.isBlank ((undeclared operator).appendAll texts).close.text = false := by
  by_contra blank
  have none := isBlank_close_appendAll.mp ((Bool.not_eq_false _).mp blank) text member
  simp [solid] at none

end Grouping

theorem ClosedGroup.isBlank_freeText {group : ClosedGroup} {text : String} :
    Text.isBlank (group.freeText text).text =
      (Text.isBlank group.text && Text.isBlank text) := by
  cases blank : Text.isBlank text with
  | true => simp [freeText, blank]
  | false => simp [freeText, blank, Text.isBlank_append]

end Retrieval.Fragment
