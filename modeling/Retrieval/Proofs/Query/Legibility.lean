import Retrieval.Filter
import Retrieval.Proofs.Fragment.Delimiting
import Retrieval.Proofs.Fragment.Grouping

/-!
Query text that can be read back. A clause has a label, which is the name that it looks at or the
word for presence, and a content behind a colon. If no name holds white space or a colon, and none
that stands before a value is the word for presence, a text of clauses is the text of no others.
-/

namespace Retrieval

namespace Filter

/-- The clause of a filter whose field is the name in documents. -/
def chars (filter : Filter) : List Char :=
  (filter.toText filter.field).toList

/-- The same filter on another field. -/
def renamed (filter : Filter) (name : String) : Filter :=
  match filter with
  | equals _ value => equals name value
  | startsWith _ value => startsWith name value
  | present _ => present name

@[simp] theorem field_renamed (filter : Filter) (name : String) :
    (filter.renamed name).field = name := by
  cases filter <;> rfl

@[simp] theorem value?_renamed (filter : Filter) (name : String) :
    (filter.renamed name).value? = filter.value? := by
  cases filter <;> rfl

/-- What stands before the colon. -/
def label : Filter → String
  | present _ => "_exists_"
  | equals field _ => field
  | startsWith field _ => field

/-- What stands behind the colon. -/
def content : Filter → List Char
  | present field => field.toList
  | equals _ value => Fragment.quoteChars value.toList
  | startsWith _ value => Fragment.escapeChars value.toList ++ ['*']

/-- Names that are told apart from everything around them. -/
structure PlainlyNamed (filter : Filter) : Prop where
  noSpace : Text.hasSpace filter.field = false
  noColon : ':' ∉ filter.field.toList
  noKeyword : filter.value? ≠ none → filter.field ≠ "_exists_"

instance (filter : Filter) : Decidable filter.PlainlyNamed :=
  decidable_of_iff (Text.hasSpace filter.field = false ∧ ':' ∉ filter.field.toList ∧
      (filter.value? ≠ none → filter.field ≠ "_exists_"))
    ⟨fun named => ⟨named.1, named.2.1, named.2.2⟩,
      fun plain => ⟨plain.noSpace, plain.noColon, plain.noKeyword⟩⟩

variable {filter other : Filter}

theorem chars_eq (filter : Filter) :
    filter.chars = filter.label.toList ++ ':' :: filter.content := by
  cases filter <;> simp [chars, toText, label, content, field, Fragment.quote, Fragment.escape]

theorem present_or_compares (filter : Filter) :
    (∃ name, filter = present name) ∨ filter.value? ≠ none := by
  cases filter with
  | present name => exact .inl ⟨name, rfl⟩
  | equals name value => exact .inr (Option.some_ne_none value)
  | startsWith name value => exact .inr (Option.some_ne_none value)

theorem label_of_compares (compares : filter.value? ≠ none) : filter.label = filter.field := by
  cases filter with
  | present field => exact absurd rfl compares
  | equals field value => rfl
  | startsWith field value => rfl

theorem PlainlyNamed.noColon_label (plain : filter.PlainlyNamed) :
    ':' ∉ filter.label.toList := by
  cases filter with
  | present field => exact (by decide : ':' ∉ "_exists_".toList)
  | equals field value => exact plain.noColon
  | startsWith field value => exact plain.noColon

/-- The label of a clause ends at the first colon. -/
theorem label_eq_of_chars_append_eq {rest after : List Char} (plain : filter.PlainlyNamed)
    (otherPlain : other.PlainlyNamed) (same : filter.chars ++ rest = other.chars ++ after) :
    filter.label = other.label ∧ filter.content ++ rest = other.content ++ after := by
  rw [chars_eq, chars_eq, List.append_assoc, List.append_assoc] at same
  obtain ⟨labels, contents⟩ :=
    Fragment.append_stop_inj plain.noColon_label otherPlain.noColon_label same
  exact ⟨String.toList_inj.mp labels, contents⟩

theorem delimited_content {rest after : List Char} (compares : filter.value? ≠ none)
    (otherCompares : other.value? ≠ none) (sameField : filter.field = other.field)
    (follows : Fragment.Follows rest) (otherFollows : Fragment.Follows after)
    (same : filter.content ++ rest = other.content ++ after) : filter = other ∧ rest = after := by
  cases filter with
  | present name => exact absurd rfl compares
  | equals name value =>
      cases other with
      | present otherName => exact absurd rfl otherCompares
      | equals otherName otherValue =>
          obtain rfl : name = otherName := sameField
          obtain ⟨values, rests⟩ := Fragment.delimited_quoteChars _ _ _ _ trivial trivial
            follows.leaves otherFollows.leaves same
          obtain rfl := String.toList_inj.mp values
          exact ⟨rfl, rests⟩
      | startsWith otherName otherValue =>
          rw [content, content, List.append_assoc] at same
          exact absurd same (Fragment.quoteChars_append_ne follows _ _ _)
  | startsWith name value =>
      cases other with
      | present otherName => exact absurd rfl otherCompares
      | equals otherName otherValue =>
          rw [content, content, List.append_assoc] at same
          exact absurd same.symm (Fragment.quoteChars_append_ne otherFollows _ _ _)
      | startsWith otherName otherValue =>
          obtain rfl : name = otherName := sameField
          rw [content, content, List.append_assoc, List.append_assoc] at same
          obtain ⟨values, rests⟩ := Fragment.delimited_escapeChars _ _ _ _ trivial trivial
            ⟨_, rfl⟩ ⟨_, rfl⟩ same
          obtain rfl := String.toList_inj.mp values
          exact ⟨rfl, List.tail_eq_of_cons_eq rests⟩

/-- Clauses with a value are delimited wherever they stand. -/
theorem delimited_comparing :
    Fragment.Delimited chars (fun filter => filter.PlainlyNamed ∧ filter.value? ≠ none)
      Fragment.Follows := by
  intro filter other rest after legible otherLegible follows otherFollows same
  obtain ⟨plain, compares⟩ := legible
  obtain ⟨otherPlain, otherCompares⟩ := otherLegible
  obtain ⟨labels, contents⟩ := label_eq_of_chars_append_eq plain otherPlain same
  rw [label_of_compares compares, label_of_compares otherCompares] at labels
  exact delimited_content compares otherCompares labels follows otherFollows contents

/-- What follows a clause where no other closes: an operator, or the end of the text. -/
def Outermost (rest : List Char) : Prop :=
  Fragment.Begins ' ' rest ∨ rest = [')']

theorem Outermost.follows {rest : List Char} (outermost : Outermost rest) :
    Fragment.Follows rest := by
  intro char first
  rcases outermost with ⟨after, rfl⟩ | rfl
  · exact .inl (Option.some.inj first).symm
  · exact .inr (Option.some.inj first).symm

theorem content_present_append_inj {name otherName : String} {rest after : List Char}
    (noSpace : Text.hasSpace name = false) (otherNoSpace : Text.hasSpace otherName = false)
    (outermost : Outermost rest) (otherOutermost : Outermost after)
    (same : name.toList ++ rest = otherName.toList ++ after) : name = otherName ∧ rest = after := by
  have spaceless : ∀ {name : String}, Text.hasSpace name = false → ' ' ∉ name.toList :=
    fun noSpace member =>
      absurd (Text.hasSpace_eq_false_iff.mp noSpace ' ' member) (by decide)
  have closed : ∀ {name : String}, Text.hasSpace name = false → ' ' ∉ name.toList ++ [')'] := by
    intro name noSpace member
    rcases List.mem_append.mp member with inName | last
    · exact spaceless noSpace inName
    · simp at last
  -- A name may end in parentheses, so nothing but white space shows where it ends.
  rcases outermost with ⟨rest, rfl⟩ | rfl
  · rcases otherOutermost with ⟨after, rfl⟩ | rfl
    · obtain ⟨names, rests⟩ :=
        Fragment.append_stop_inj (spaceless noSpace) (spaceless otherNoSpace) same
      exact ⟨String.toList_inj.mp names, by rw [rests]⟩
    · exact absurd (same ▸ by simp) (closed otherNoSpace)
  · rcases otherOutermost with ⟨after, rfl⟩ | rfl
    · exact absurd (same ▸ by simp) (closed noSpace)
    · exact ⟨String.toList_inj.mp (List.append_cancel_right same), rfl⟩

/-- All clauses are delimited where they are not in a group of alternatives. -/
theorem delimited_chars : Fragment.Delimited chars PlainlyNamed Outermost := by
  intro filter other rest after plain otherPlain outermost otherOutermost same
  obtain ⟨labels, contents⟩ := label_eq_of_chars_append_eq plain otherPlain same
  rcases filter.present_or_compares with ⟨name, rfl⟩ | compares
  · rcases other.present_or_compares with ⟨otherName, rfl⟩ | otherCompares
    · obtain ⟨rfl, rests⟩ := content_present_append_inj plain.noSpace otherPlain.noSpace
        outermost otherOutermost contents
      exact ⟨rfl, rests⟩
    · rw [label_of_compares otherCompares] at labels
      exact absurd labels.symm (otherPlain.noKeyword otherCompares)
  · rcases other.present_or_compares with ⟨otherName, rfl⟩ | otherCompares
    · rw [label_of_compares compares] at labels
      exact absurd labels (plain.noKeyword compares)
    · exact delimited_comparing filter other rest after ⟨plain, compares⟩
        ⟨otherPlain, otherCompares⟩ outermost.follows otherOutermost.follows same

/-- The clause with a parenthesis at the beginning of its name. -/
def opened (filter : Filter) : Filter :=
  filter.renamed ("(" ++ filter.field)

/-- A parenthesis before a clause with a value reads like the beginning of its name. -/
theorem chars_opened (compares : filter.value? ≠ none) :
    filter.opened.chars = '(' :: filter.chars := by
  have sameContent : filter.opened.content = filter.content := by
    cases filter with
    | present name => exact absurd rfl compares
    | equals name value => rfl
    | startsWith name value => rfl
  have openedCompares : filter.opened.value? ≠ none := by rwa [opened, value?_renamed]
  rw [chars_eq, chars_eq, label_of_compares openedCompares, label_of_compares compares, opened,
    field_renamed, ← opened, sameContent]
  simp

theorem plainlyNamed_opened (plain : filter.PlainlyNamed) : filter.opened.PlainlyNamed where
  noSpace := by
    have noSpace := plain.noSpace
    simp only [Text.hasSpace, opened, field_renamed, String.toList_append,
      List.any_append] at noSpace ⊢
    rw [noSpace]
    decide
  noColon := by
    rw [opened, field_renamed, String.toList_append]
    simpa using plain.noColon
  noKeyword := by
    intro _ same
    have first := congrArg (fun name => name.toList.head?) same
    simp [opened] at first

/-- A clause with a value ends neither in white space nor in the end of a group. -/
theorem chars_ends (compares : filter.value? ≠ none) : ∃ front char,
    filter.chars = front ++ [char] ∧ Text.isSpace char = false ∧ char ≠ ')' := by
  rw [chars_eq]
  cases filter with
  | present name => exact absurd rfl compares
  | equals name value =>
      obtain ⟨front, char, ends, solid, within⟩ := Fragment.quoteChars_ends value.toList
      exact ⟨name.toList ++ ':' :: front, char, by simp [label, content, ends], solid, within⟩
  | startsWith name value =>
      exact ⟨name.toList ++ ':' :: Fragment.escapeChars value.toList, '*',
        by simp [label, content], by decide, by decide⟩

section Alternatives

/-- Alternatives one after the other, with their operator between them. -/
def joined (part : List Filter) : List Char :=
  Operator.any.separator.toList.intercalate (part.map chars)

/-- Alternatives as query text. -/
def anyChars (part : List Filter) : List Char :=
  Fragment.enclosed Operator.any.separator.toList (part.map chars)

/-- Alternatives that can be read back. There is at least one, and if there are several, they all
have a value. -/
structure Legible (part : List Filter) : Prop where
  given : part ≠ []
  named : ∀ filter ∈ part, filter.PlainlyNamed
  comparing : 1 < part.length → ∀ filter ∈ part, filter.value? ≠ none

variable {part others : List Filter} {first second : Filter}

theorem legible_singleton (plain : filter.PlainlyNamed) : Legible [filter] := by
  refine ⟨List.cons_ne_nil _ _, fun other only => ?_, fun several => ?_⟩
  · obtain rfl := List.mem_singleton.mp only
    exact plain
  · simp at several

theorem separator_any : Operator.any.separator.toList = [' ', 'O', 'R', ' '] := by decide

theorem separator_all : Operator.all.separator.toList = [' ', 'A', 'N', 'D', ' '] := by decide

@[simp] theorem anyChars_singleton (filter : Filter) : anyChars [filter] = filter.chars := by
  simp [anyChars, Fragment.enclosed]

theorem anyChars_group (first second : Filter) (others : List Filter) :
    anyChars (first :: second :: others) =
      '(' :: (joined (first :: second :: others) ++ [')']) := by
  simp [anyChars, Fragment.enclosed, joined]

theorem joined_cons_cons (first second : Filter) (others : List Filter) :
    joined (first :: second :: others) =
      first.chars ++ (Operator.any.separator.toList ++ joined (second :: others)) := by
  simp [joined, List.intercalate_cons_cons]

theorem joined_opened (compares : first.value? ≠ none) :
    joined (first.opened :: others) = '(' :: joined (first :: others) := by
  cases others with
  | nil => simp [joined, chars_opened compares]
  | cons second others => simp [joined_cons_cons, chars_opened compares]

/-- Joined alternatives with values are delimited by the end of their group. -/
theorem delimited_joined :
    Fragment.Delimited joined (fun part => part ≠ [] ∧
      ∀ filter ∈ part, filter.PlainlyNamed ∧ filter.value? ≠ none) (Fragment.Begins ')') := by
  refine delimited_comparing.intercalate (fun rest char first => ?_) (fun rest closes => ?_)
    fun rest closes => ?_
  · rw [separator_any] at first
    exact .inl (Option.some.inj first).symm
  · obtain ⟨after, rfl⟩ := closes
    intro char first
    exact .inr (Option.some.inj first).symm
  · obtain ⟨after, same⟩ := closes
    rw [separator_any] at same
    exact absurd (List.head_eq_of_cons_eq same) (by decide)

theorem Legible.comparing_group (legible : Legible (first :: second :: others)) :
    ∀ filter ∈ first :: second :: others, filter.PlainlyNamed ∧ filter.value? ≠ none :=
  fun filter member => ⟨legible.named filter member, legible.comparing (by simp) filter member⟩

/-- Among the alternatives of a group the first may be taken to begin with its parenthesis. -/
theorem Legible.comparing_opened (legible : Legible (first :: second :: others)) :
    ∀ filter ∈ first.opened :: second :: others,
      filter.PlainlyNamed ∧ filter.value? ≠ none := by
  obtain ⟨ofFirst, ofOthers⟩ := List.forall_mem_cons.mp legible.comparing_group
  refine List.forall_mem_cons.mpr ⟨⟨plainlyNamed_opened ofFirst.1, ?_⟩, ofOthers⟩
  rw [opened, value?_renamed]
  exact ofFirst.2

/-- What follows alternatives among those that are all required. -/
def Required (rest : List Char) : Prop :=
  (∃ after, rest = Operator.all.separator.toList ++ after) ∨ rest = [')']

theorem Required.outermost {rest : List Char} (required : Required rest) : Outermost rest := by
  rcases required with ⟨after, rfl⟩ | rfl
  · exact .inl ⟨['A', 'N', 'D', ' '] ++ after, by simp [separator_all]⟩
  · exact .inr rfl

theorem not_required_any (rest : List Char) :
    ¬ Required (Operator.any.separator.toList ++ rest) := by
  rintro (⟨after, same⟩ | same)
  · simp [separator_any, separator_all] at same
  · simp [separator_any] at same

theorem outermost_any (rest : List Char) : Outermost (Operator.any.separator.toList ++ rest) :=
  .inl ⟨['O', 'R', ' '] ++ rest, by simp [separator_any]⟩

/-- A single clause is not taken for a group. -/
theorem chars_append_ne_group {clause : Filter} {rest : List Char} (plain : clause.PlainlyNamed)
    (required : Required rest) (legible : Legible (first :: second :: others))
    (after : List Char) :
    clause.chars ++ rest ≠ anyChars (first :: second :: others) ++ after := by
  intro same
  obtain ⟨ofFirst, _⟩ := List.forall_mem_cons.mp legible.comparing_group
  -- With the parenthesis taken into its name, the group begins with a clause, too. Behind the two
  -- clauses stand different operators.
  rw [anyChars_group, ← List.cons_append, ← joined_opened ofFirst.2, joined_cons_cons,
    List.append_assoc, List.append_assoc, List.append_assoc] at same
  obtain ⟨_, rests⟩ := delimited_chars clause first.opened rest _ plain
    (plainlyNamed_opened ofFirst.1) required.outermost (outermost_any _) same
  exact not_required_any _ (rests ▸ required)

theorem group_append_inj {otherFirst otherSecond : Filter} {otherRest : List Filter}
    {rest after : List Char} (legible : Legible (first :: second :: others))
    (otherLegible : Legible (otherFirst :: otherSecond :: otherRest))
    (same : anyChars (first :: second :: others) ++ rest =
      anyChars (otherFirst :: otherSecond :: otherRest) ++ after) :
    first :: second :: others = otherFirst :: otherSecond :: otherRest ∧ rest = after := by
  rw [anyChars_group, anyChars_group, List.cons_append, List.cons_append, List.append_assoc,
    List.append_assoc] at same
  obtain ⟨parts, rests⟩ := delimited_joined _ _ _ _
    ⟨List.cons_ne_nil _ _, legible.comparing_group⟩
    ⟨List.cons_ne_nil _ _, otherLegible.comparing_group⟩ ⟨rest, rfl⟩ ⟨after, rfl⟩
    (List.tail_eq_of_cons_eq same)
  exact ⟨parts, List.tail_eq_of_cons_eq rests⟩

/-- Alternatives are delimited among those that are all required. -/
theorem delimited_anyChars : Fragment.Delimited anyChars Legible Required := by
  intro part other rest after legible otherLegible required otherRequired same
  cases part with
  | nil => exact absurd rfl legible.given
  | cons first others =>
      cases other with
      | nil => exact absurd rfl otherLegible.given
      | cons otherFirst otherRest =>
          have plain := legible.named first List.mem_cons_self
          have otherPlain := otherLegible.named otherFirst List.mem_cons_self
          cases others with
          | nil =>
              rw [anyChars_singleton] at same
              cases otherRest with
              | nil =>
                  rw [anyChars_singleton] at same
                  obtain ⟨rfl, rests⟩ := delimited_chars first otherFirst rest after plain
                    otherPlain required.outermost otherRequired.outermost same
                  exact ⟨rfl, rests⟩
              | cons otherSecond otherRest =>
                  exact absurd same (chars_append_ne_group plain required otherLegible after)
          | cons second others =>
              cases otherRest with
              | nil =>
                  rw [anyChars_singleton] at same
                  exact absurd same.symm
                    (chars_append_ne_group otherPlain otherRequired legible rest)
              | cons otherSecond otherRest => exact group_append_inj legible otherLegible same

end Alternatives

section Requirements

variable {part next : List Filter} {parts others : List (List Filter)}

/-- Alternatives that are all required, as query text. -/
def allChars (parts : List (List Filter)) : List Char :=
  Fragment.enclosed Operator.all.separator.toList (parts.map anyChars)

@[simp] theorem allChars_singleton (part : List Filter) : allChars [part] = anyChars part := by
  simp [allChars, Fragment.enclosed]

theorem allChars_group (part next : List Filter) (parts : List (List Filter)) :
    allChars (part :: next :: parts) =
      '(' :: (Operator.all.separator.toList.intercalate ((part :: next :: parts).map anyChars) ++
        [')']) := by
  simp [allChars, Fragment.enclosed]

theorem allChars_group_eq (part next : List Filter) (parts : List (List Filter)) :
    ∃ rest, allChars (part :: next :: parts) =
      '(' :: (anyChars part ++ (Operator.all.separator.toList ++ rest)) := by
  refine ⟨Operator.all.separator.toList.intercalate ((next :: parts).map anyChars) ++ [')'], ?_⟩
  rw [allChars_group]
  simp [List.intercalate_cons_cons]

/-- The alternatives of a group are not taken for the first of several requirements. -/
theorem joined_append_ne {first second : Filter} {alternatives : List Filter}
    (legible : Legible (first :: second :: alternatives)) (partLegible : Legible part)
    (rest : List Char) :
    joined (first :: second :: alternatives) ++ [')'] ≠
      anyChars part ++ (Operator.all.separator.toList ++ rest) := by
  intro same
  have plain := legible.named first List.mem_cons_self
  cases part with
  | nil => exact absurd rfl partLegible.given
  | cons clause clauses =>
      cases clauses with
      | nil =>
          rw [joined_cons_cons, anyChars_singleton, List.append_assoc, List.append_assoc] at same
          obtain ⟨_, rests⟩ := delimited_chars first clause _ _ plain
            (partLegible.named clause List.mem_cons_self) (outermost_any _)
            (Required.outermost (.inl ⟨rest, rfl⟩)) same
          exact not_required_any _ (.inl ⟨rest, rests⟩)
      | cons next clauses =>
          obtain ⟨ofClause, _⟩ := List.forall_mem_cons.mp partLegible.comparing_group
          rw [anyChars_group, ← List.cons_append, ← joined_opened ofClause.2,
            List.append_assoc] at same
          obtain ⟨_, rests⟩ := delimited_joined _ _ _ _
            ⟨List.cons_ne_nil _ _, legible.comparing_group⟩
            ⟨List.cons_ne_nil _ _, partLegible.comparing_opened⟩ ⟨[], rfl⟩ ⟨_, rfl⟩ same
          simp [separator_all] at rests

/-- Alternatives are not taken for several requirements. -/
theorem anyChars_ne_allChars {single : List Filter} (legible : Legible single)
    (partLegible : Legible part) : anyChars single ≠ allChars (part :: next :: parts) := by
  intro same
  cases single with
  | nil => exact absurd rfl legible.given
  | cons first others =>
      cases others with
      | nil =>
          rw [anyChars_singleton, allChars_group] at same
          -- Presence does not begin with the parenthesis, and a value does not end with it.
          rcases first.present_or_compares with ⟨name, rfl⟩ | compares
          · exact absurd (congrArg List.head? same) (by simp [chars_eq, label])
          · obtain ⟨front, char, ends, _, within⟩ := chars_ends compares
            rw [ends, ← List.cons_append] at same
            exact within (List.head_eq_of_cons_eq (List.append_inj_right' same rfl))
      | cons second others =>
          obtain ⟨rest, opening⟩ := allChars_group_eq part next parts
          rw [anyChars_group, opening] at same
          exact joined_append_ne legible partLegible rest (List.tail_eq_of_cons_eq same)

/-- Requirements are the same if their text is. -/
theorem allChars_inj (given : parts ≠ []) (otherGiven : others ≠ [])
    (legible : ∀ part ∈ parts, Legible part) (otherLegible : ∀ part ∈ others, Legible part)
    (same : allChars parts = allChars others) : parts = others := by
  have goesOn : ∀ rest, Required (Operator.all.separator.toList ++ rest) :=
    fun rest => .inl ⟨rest, rfl⟩
  have delimited : Fragment.Delimited
      (fun parts => Operator.all.separator.toList.intercalate (parts.map anyChars))
      (fun parts => parts ≠ [] ∧ ∀ part ∈ parts, Legible part) (· = [')']) :=
    delimited_anyChars.intercalate goesOn (fun _ final => .inr final) (by simp [separator_all])
  obtain ⟨part, later, rfl⟩ := List.exists_cons_of_ne_nil given
  obtain ⟨other, otherLater, rfl⟩ := List.exists_cons_of_ne_nil otherGiven
  have partLegible := legible part List.mem_cons_self
  have firstLegible := otherLegible other List.mem_cons_self
  cases later with
  | nil =>
      rw [allChars_singleton] at same
      cases otherLater with
      | nil =>
          rw [allChars_singleton] at same
          obtain ⟨rfl, _⟩ := delimited_anyChars part other [')'] [')'] partLegible firstLegible
            (.inr rfl) (.inr rfl) (by rw [same])
          rfl
      | cons next otherLater =>
          exact absurd same (anyChars_ne_allChars partLegible firstLegible)
  | cons next later =>
      cases otherLater with
      | nil =>
          rw [allChars_singleton] at same
          exact absurd same.symm (anyChars_ne_allChars firstLegible partLegible)
      | cons otherNext otherLater =>
          rw [allChars_group, allChars_group] at same
          exact (delimited _ _ _ _ ⟨given, legible⟩ ⟨otherGiven, otherLegible⟩ rfl rfl
            (List.tail_eq_of_cons_eq same)).1

end Requirements

end Filter

end Retrieval
