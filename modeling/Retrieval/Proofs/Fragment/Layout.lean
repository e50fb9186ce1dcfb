import Mathlib.Algebra.Group.Nat.Defs
import Retrieval.Proofs.Fragment.Grouping

/-!
The text of a group with free text behind it, from its pieces. Neither blank pieces nor the number of
parts that was declared show in it; but a number for which no room can be made keeps the group from
being opened at all.
-/

namespace Retrieval.Fragment

/-- The pieces that are not blank, trimmed. -/
def kept (texts : List String) : List String :=
  (texts.filter fun text => !Text.isBlank text).map Text.trim

variable {operator : Operator} {declared : Option Nat} {parts texts front back : List String}
  {text blank : String} {grouping : Grouping}

theorem kept_cons_of_blank (nothing : Text.isBlank text = true) :
    kept (text :: texts) = kept texts := by
  simp [kept, nothing]

theorem kept_cons_of_solid (solid : Text.isBlank text = false) :
    kept (text :: texts) = Text.trim text :: kept texts := by
  simp [kept, solid]

theorem kept_append : kept (front ++ back) = kept front ++ kept back := by
  simp [kept]

theorem kept_insert_blank (nothing : Text.isBlank blank = true) :
    kept (front ++ blank :: back) = kept (front ++ back) := by
  rw [kept_append, kept_append, kept_cons_of_blank nothing]

theorem trim_ne_empty (solid : Text.isBlank text = false) : Text.trim text ≠ "" := by
  intro none
  rw [Text.isBlank_iff_trim_eq.mpr none] at solid
  contradiction

theorem ne_empty_of_mem_kept : ∀ piece ∈ kept texts, piece ≠ "" := by
  intro piece member
  obtain ⟨text, solid, rfl⟩ := List.mem_map.mp member
  apply trim_ne_empty
  simpa using (List.mem_filter.mp solid).2

/-- A row of pieces with one blank between them. -/
def spaced (pieces : List String) : String :=
  " ".intercalate pieces

/-- Several parts of a group, in parentheses and with its operator between them, or its only
part. -/
def grouped (operator : Operator) : List String → String
  | [] => ""
  | [part] => part
  | parts =>
      match operator with
      | .all => "(" ++ " AND ".intercalate parts ++ ")"
      | .any => "(" ++ " OR ".intercalate parts ++ ")"

/-- The group of the parts that are not blank, if there is any, and behind it the free texts that are
not blank. -/
def layout (operator : Operator) (parts texts : List String) : String :=
  match kept parts with
  | [] => spaced (kept texts)
  | parts => spaced (grouped operator parts :: kept texts)

namespace ClosedGroup

variable {group : ClosedGroup}

def freeTexts (group : ClosedGroup) (texts : List String) : ClosedGroup :=
  texts.foldl freeText group

theorem freeText_of_blank (nothing : Text.isBlank text = true) : group.freeText text = group := by
  simp [freeText, nothing]

/-- Free text stands behind the others, and so it does behind nothing. -/
theorem freeText_of_solid (solid : Text.isBlank text = false) : group.freeText text =
    { group with text :=
        if group.text = "" then Text.trim text else group.text ++ " " ++ Text.trim text } := by
  by_cases empty : group.text = ""
  · simp [freeText, solid, empty]
  · simp [freeText, solid, empty]

theorem freeTexts_eq (given : group.text ≠ "") : group.freeTexts texts =
    { group with text := spaced (group.text :: kept texts) } := by
  induction texts generalizing group with
  | nil => simp [freeTexts, spaced, kept]
  | cons text texts induction =>
      have following : group.freeTexts (text :: texts) = (group.freeText text).freeTexts texts := rfl
      cases solid : Text.isBlank text with
      | true => rw [following, freeText_of_blank solid, kept_cons_of_blank solid, induction given]
      | false =>
          rw [following, freeText_of_solid solid, if_neg given, kept_cons_of_solid solid, induction]
          · simp [spaced, String.append_assoc]
          · simp [given]

/-- Behind an empty group, the first free text that is not blank begins the row. -/
theorem freeTexts_eq_of_empty (empty : group.text = "") : group.freeTexts texts =
    { group with text := spaced (kept texts) } := by
  induction texts with
  | nil => simp [freeTexts, spaced, kept, ← empty]
  | cons text texts induction =>
      have following : group.freeTexts (text :: texts) = (group.freeText text).freeTexts texts := rfl
      cases solid : Text.isBlank text with
      | true => rw [following, freeText_of_blank solid, kept_cons_of_blank solid, induction]
      | false =>
          rw [following, freeText_of_solid solid, if_pos empty, kept_cons_of_solid solid,
            freeTexts_eq (trim_ne_empty solid)]

end ClosedGroup

namespace Grouping

/-- A group for a declared number of parts, or for any. -/
def opened? (operator : Operator) : Option Nat → Option Grouping
  | some count => declared? operator count
  | none => some (undeclared operator)

/-- The fragment of some parts and free texts, if there is room for the declared number of parts. -/
def built? (operator : Operator) (declared : Option Nat) (parts texts : List String) :
    Option Fragment :=
  (opened? operator declared).map fun grouping =>
    ((grouping.appendAll parts).close.freeTexts texts).build

theorem opened?_of_room (room : ∀ count ∈ declared, count * 24 ≤ 2 ^ 63 - 1) :
    opened? operator declared = some (undeclared operator) := by
  cases declared with
  | none => rfl
  | some count => exact if_pos (room count rfl)

theorem opened?_of_no_room {count : Nat} (large : 2 ^ 63 - 1 < count * 24) :
    opened? operator (some count) = none :=
  if_neg (Nat.not_le.mpr large)

theorem eq_undeclared_of_opened? (opened : opened? operator declared = some grouping) :
    grouping = undeclared operator := by
  cases declared with
  | none => exact (Option.some.inj opened).symm
  | some count =>
      rw [opened?, declared?] at opened
      split at opened
      · exact (Option.some.inj opened).symm
      · contradiction

theorem close_appendAll : ((undeclared operator).appendAll parts).close =
    ⟨operator, grouped operator (kept parts)⟩ := by
  have appended : (undeclared operator).appendAll parts = ⟨operator, kept parts⟩ := by
    rw [appendAll_eq]
    rfl
  rw [appended]
  rcases kept parts with _ | ⟨part, _ | ⟨next, parts⟩⟩
  · rfl
  · simp [close, grouped]
  · cases operator <;> simp [close, grouped, Operator.separator, Operator.name]

theorem grouped_ne_empty (given : parts ≠ []) (solid : ∀ part ∈ parts, part ≠ "") :
    grouped operator parts ≠ "" := by
  rcases parts with _ | ⟨part, _ | ⟨next, others⟩⟩
  · contradiction
  · exact solid part List.mem_cons_self
  · cases operator <;> simp [grouped]

theorem build_appendAll : (((undeclared operator).appendAll parts).close.freeTexts texts).build =
    ⟨layout operator parts texts, operator⟩ := by
  rw [close_appendAll, layout]
  split
  · rename_i none
    rw [none, ClosedGroup.freeTexts_eq_of_empty rfl]
    rfl
  · rename_i given
    rw [ClosedGroup.freeTexts_eq (grouped_ne_empty given ne_empty_of_mem_kept)]
    rfl

/-- What is built depends on the declared number only in that there is room for it. -/
theorem built?_eq_map : built? operator declared parts texts =
    (opened? operator declared).map fun _ => ⟨layout operator parts texts, operator⟩ := by
  cases opened : opened? operator declared with
  | none => rw [built?, opened, Option.map_none, Option.map_none]
  | some grouping =>
      obtain rfl := eq_undeclared_of_opened? opened
      rw [built?, opened, Option.map_some, Option.map_some, build_appendAll]

/-- The declared number of parts decides whether there is room for the group, and about nothing
else. With room, the pieces that are not blank are laid out; without, nothing is built. Blank pieces
do not show in either. -/
theorem built?_eq (operator : Operator) (declared : Option Nat) (parts texts : List String) :
    ((∀ count ∈ declared, count * 24 ≤ 2 ^ 63 - 1) →
        built? operator declared parts texts = some ⟨layout operator parts texts, operator⟩) ∧
      (∀ count ∈ declared, 2 ^ 63 - 1 < count * 24 →
        built? operator declared parts texts = none) ∧
      ∀ front blank back, Text.isBlank blank = true →
        built? operator declared (front ++ blank :: back) texts =
            built? operator declared (front ++ back) texts ∧
          built? operator declared parts (front ++ blank :: back) =
            built? operator declared parts (front ++ back) := by
  refine ⟨?_, ?_, ?_⟩
  · intro room
    rw [built?_eq_map, opened?_of_room room, Option.map_some]
  · intro count given large
    obtain rfl := Option.mem_def.mp given
    rw [built?_eq_map, opened?_of_no_room large, Option.map_none]
  · intro front blank back nothing
    simp only [built?_eq_map, layout, kept_insert_blank nothing, and_self]

/-- The greatest number of 64 bits cannot be declared, whatever is added afterwards. -/
theorem greatest_count_not_built :
    built? .all (some (2 ^ 64 - 1)) ["A", "B"] [] = none ∧
      built? .all (some 2) ["A", "B"] [] = some ⟨"(A AND B)", .all⟩ := by
  decide

end Grouping

end Retrieval.Fragment
