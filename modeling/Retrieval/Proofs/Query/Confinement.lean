import Mathlib.Data.List.Forall2
import Retrieval.Proofs.Query.Parts

/-!
Values stay where they are written. Two requests that look at the same names in the same way are
rendered alike only if they hold the same values, whatever the names and the values are made of.
-/

namespace Retrieval

namespace Fragment

open List (Forall₂)

/-- A character that stands before a run on one side only is the first one behind it on the
other. -/
theorem append_eq_cons_append {char : Char} {run rest after : List Char}
    (same : run ++ rest = char :: (run ++ after)) : rest = char :: after := by
  induction run with
  | nil => exact same
  | cons first run induction =>
      rw [List.cons_append, List.cons.injEq, List.cons_append] at same
      obtain ⟨rfl, same⟩ := same
      exact induction same

theorem not_follows_cons {char : Char} (inside : char ≠ ' ' ∧ char ≠ ')') (rest : List Char) :
    ¬ Follows (char :: rest) := by
  intro follows
  rcases follows char rfl with rfl | rfl
  · exact inside.1 rfl
  · exact inside.2 rfl

section Rows

variable {code : α → List Char} {alike : α → α → Prop} {separator : List Char}
  {items others : List α}

/-- Two rows whose items can be told apart place by place can be told apart. -/
theorem row_inj
    (each : ∀ item other rest after, alike item other → Follows rest → Follows after →
      code item ++ rest = code other ++ after → item = other ∧ rest = after)
    (goesOn : ∀ rest, Follows (separator ++ rest)) (paired : Forall₂ alike items others)
    {rest after : List Char} (final : Follows rest) (otherFinal : Follows after)
    (same : (items.flatMap fun item => separator ++ code item) ++ rest =
      (others.flatMap fun item => separator ++ code item) ++ after) :
    items = others ∧ rest = after := by
  have continues : ∀ (items : List α) {rest : List Char}, Follows rest →
      Follows ((items.flatMap fun item => separator ++ code item) ++ rest) := by
    refine fun items rest final => Delimited.following_flatMap ?_ (fun _ stops => stops) items final
    intro item rest
    rw [List.append_assoc]
    exact goesOn _
  induction paired with
  | nil => exact ⟨rfl, same⟩
  | cons here _ induction =>
      simp only [List.flatMap_cons, List.append_assoc] at same
      obtain ⟨rfl, remaining⟩ := each _ _ _ _ here (continues _ final) (continues _ otherFinal)
        (List.append_cancel_left same)
      obtain ⟨rfl, rfl⟩ := induction remaining
      exact ⟨rfl, rfl⟩

/-- Groups whose parts can be told apart place by place can be told apart. -/
theorem enclosed_inj
    (each : ∀ item other rest after, alike item other → Follows rest → Follows after →
      code item ++ rest = code other ++ after → item = other ∧ rest = after)
    (goesOn : ∀ rest, Follows (separator ++ rest)) (paired : Forall₂ alike items others)
    (same : enclosed separator (items.map code) = enclosed separator (others.map code)) :
    items = others := by
  have closing : Follows [')'] := fun char first => .inr (Option.some.inj first).symm
  have joined : ∀ rest, Follows rest → separator.intercalate (items.map code) ++ rest =
      separator.intercalate (others.map code) ++ rest → items = others := by
    intro rest final same
    cases paired with
    | nil => rfl
    | cons here later =>
        -- The first item has no separator before it; the others are in a row.
        have row : Forall₂ alike _ _ := .cons here later
        refine (row_inj each goesOn row final final ?_).1
        simp only [List.map_cons, Delimited.intercalate_cons, List.flatMap_map,
          List.append_assoc] at same
        simp only [List.flatMap_cons, List.append_assoc, same]
  have lengths : (items.map code).length = (others.map code).length := by
    rw [List.length_map, List.length_map, paired.length_eq]
  unfold enclosed at same
  rw [← lengths] at same
  split at same
  · exact joined [')'] closing (List.tail_eq_of_cons_eq same)
  · exact joined [] (fun char first => nomatch first) (by rw [same])

end Rows

end Fragment

namespace Filter

/-- How a filter looks at its field. -/
inductive Kind where
  | equals
  | startsWith
  | present
  deriving DecidableEq, Repr

def kind : Filter → Kind
  | equals _ _ => .equals
  | startsWith _ _ => .startsWith
  | present _ => .present

/-- Everything about a filter but its value. -/
def form (filter : Filter) : Kind × String :=
  (filter.kind, filter.field)

variable {filter other first second : Filter} {form : Kind × String}
  {part others : List Filter} {rest after : List Char}

theorem eq_present_of_form {name : String} (sameForm : (present name).form = other.form) :
    other = present name := by
  obtain ⟨kinds, fields⟩ := Prod.mk.inj sameForm
  cases other with
  | equals otherName value => cases kinds
  | startsWith otherName value => cases kinds
  | present otherName => exact congrArg present fields.symm

theorem value?_eq_none_iff : filter.value? = none ↔ filter.kind = .present := by
  cases filter <;> simp [value?, kind]

theorem compares_of_form (sameForm : filter.form = other.form) (compares : filter.value? ≠ none) :
    other.value? ≠ none := by
  rw [ne_eq, value?_eq_none_iff] at compares ⊢
  exact (Prod.mk.inj sameForm).1 ▸ compares

theorem eq_of_form (sameForm : filter.form = other.form)
    (sameValue : filter.value? = other.value?) : filter = other := by
  obtain ⟨kinds, fields⟩ := Prod.mk.inj sameForm
  cases filter <;> cases other <;> simp_all [kind, field, value?]

/-- The content of a comparison ends in no white space. -/
theorem trimEndChars_content (compares : filter.value? ≠ none) :
    Text.trimEndChars filter.content = filter.content := by
  cases filter with
  | present name => exact absurd rfl compares
  | equals name value =>
      obtain ⟨front, char, ends, solid, _⟩ := Fragment.quoteChars_ends value.toList
      rw [content, ends, Text.trimEndChars_append_cons front [] solid]
      rfl
  | startsWith name value =>
      rw [content, Text.trimEndChars_append_cons _ [] (by decide)]
      rfl

theorem trimmed_of_compares (compares : filter.value? ≠ none) :
    filter.trimmed = Text.trimStartChars filter.field.toList ++ ':' :: filter.content := by
  rw [trimmed, chars_eq, Text.trimChars_append_cons _ _ (by decide), label_of_compares compares,
    trimEndChars_content compares]

/-- Among filters of one form, the text of a clause is delimited, whatever the field is called. -/
theorem delimited_trimmed (form : Kind × String) :
    Fragment.Delimited trimmed (fun filter => filter.form = form) Fragment.Follows := by
  intro filter other rest after ofForm otherOfForm follows otherFollows same
  have sameForm : filter.form = other.form := ofForm.trans otherOfForm.symm
  rcases filter.present_or_compares with ⟨name, rfl⟩ | compares
  · obtain rfl := eq_present_of_form sameForm
    exact ⟨rfl, List.append_cancel_left same⟩
  · have otherCompares := compares_of_form sameForm compares
    have sameField : filter.field = other.field := (Prod.mk.inj sameForm).2
    rw [trimmed_of_compares compares, trimmed_of_compares otherCompares, sameField,
      List.append_assoc, List.append_assoc] at same
    exact delimited_content compares otherCompares sameField follows otherFollows
      (List.tail_eq_of_cons_eq (List.append_cancel_left same))

/-- Alternatives of one form. -/
structure Uniform (form : Kind × String) (part : List Filter) : Prop where
  given : part ≠ []
  alike : ∀ filter ∈ part, filter.form = form

theorem uniform_singleton (filter : Filter) (ofForm : filter.form = form) :
    Uniform form [filter] where
  given := List.cons_ne_nil filter []
  alike := fun _ only => List.mem_singleton.mp only ▸ ofForm

theorem anyTrimmed_group (first second : Filter) (others : List Filter) :
    anyTrimmed (first :: second :: others) =
      '(' :: (Operator.any.separator.toList.intercalate
        ((first :: second :: others).map trimmed) ++ [')']) := by
  simp [anyTrimmed, Fragment.enclosed]

/-- A single clause is not taken for a group of clauses of the same form. -/
theorem trimmed_append_ne_group (sameForm : filter.form = first.form)
    (follows : Fragment.Follows rest) :
    filter.trimmed ++ rest ≠ anyTrimmed (first :: second :: others) ++ after := by
  intro same
  rw [anyTrimmed_group, List.map_cons, Fragment.Delimited.intercalate_cons, List.cons_append,
    List.append_assoc, List.append_assoc] at same
  rcases filter.present_or_compares with ⟨name, rfl⟩ | compares
  · obtain rfl := eq_present_of_form sameForm
    exact Fragment.not_follows_cons (by decide) _ (Fragment.append_eq_cons_append same ▸ follows)
  · have firstCompares := compares_of_form sameForm compares
    have sameField : filter.field = first.field := (Prod.mk.inj sameForm).2
    rw [trimmed_of_compares compares, trimmed_of_compares firstCompares, sameField,
      List.append_assoc, List.append_assoc] at same
    -- The same name is on both sides, so what is behind it begins with a colon and a parenthesis.
    exact absurd (List.head_eq_of_cons_eq (Fragment.append_eq_cons_append same)) (by decide)

theorem follows_any (rest : List Char) :
    Fragment.Follows (Operator.any.separator.toList ++ rest) :=
  (outermost_any rest).follows

theorem follows_all (rest : List Char) :
    Fragment.Follows (Operator.all.separator.toList ++ rest) := by
  intro char first
  rw [separator_all] at first
  exact .inl (Option.some.inj first).symm

/-- Groups of clauses of one form are delimited by their parentheses. -/
theorem delimited_group (form : Kind × String) :
    Fragment.Delimited
      (fun part => Operator.any.separator.toList.intercalate (part.map trimmed))
      (fun part => part ≠ [] ∧ ∀ filter ∈ part, filter.form = form) (Fragment.Begins ')') := by
  refine (delimited_trimmed form).intercalate follows_any (fun rest closes => ?_)
    fun rest closes => ?_
  · obtain ⟨after, rfl⟩ := closes
    exact fun char first => .inr (Option.some.inj first).symm
  · obtain ⟨after, same⟩ := closes
    rw [separator_any] at same
    exact absurd (List.head_eq_of_cons_eq same) (by decide)

/-- Alternatives of one form are delimited, be they one or many. -/
theorem delimited_anyTrimmed (form : Kind × String) :
    Fragment.Delimited anyTrimmed (Uniform form) Fragment.Follows := by
  intro part other rest after uniform otherUniform follows otherFollows same
  obtain ⟨first, others, rfl⟩ := List.exists_cons_of_ne_nil uniform.given
  obtain ⟨otherFirst, otherRest, rfl⟩ := List.exists_cons_of_ne_nil otherUniform.given
  have ofForm := uniform.alike first List.mem_cons_self
  have otherOfForm := otherUniform.alike otherFirst List.mem_cons_self
  have sameForm : first.form = otherFirst.form := ofForm.trans otherOfForm.symm
  cases others with
  | nil =>
      rw [anyTrimmed_singleton] at same
      cases otherRest with
      | nil =>
          rw [anyTrimmed_singleton] at same
          obtain ⟨rfl, rests⟩ := delimited_trimmed form first otherFirst rest after ofForm
            otherOfForm follows otherFollows same
          exact ⟨rfl, rests⟩
      | cons otherSecond otherRest =>
          exact absurd same (trimmed_append_ne_group sameForm follows)
  | cons second others =>
      cases otherRest with
      | nil =>
          rw [anyTrimmed_singleton] at same
          exact absurd same.symm (trimmed_append_ne_group sameForm.symm otherFollows)
      | cons otherSecond otherRest =>
          rw [anyTrimmed_group, anyTrimmed_group, List.cons_append, List.cons_append,
            List.append_assoc, List.append_assoc] at same
          obtain ⟨parts, rests⟩ := delimited_group form _ _ _ _
            ⟨uniform.given, uniform.alike⟩ ⟨otherUniform.given, otherUniform.alike⟩
            ⟨rest, rfl⟩ ⟨after, rfl⟩ (List.tail_eq_of_cons_eq same)
          exact ⟨parts, List.tail_eq_of_cons_eq rests⟩

/-- Two parts of a request that look at the same field in the same way. -/
def Alike (part other : List Filter) : Prop :=
  ∃ form, Uniform form part ∧ Uniform form other

theorem allTrimmed_inj {parts others : List (List Filter)}
    (paired : List.Forall₂ Alike parts others)
    (same : allTrimmed parts = allTrimmed others) : parts = others := by
  refine Fragment.enclosed_inj (fun part other rest after alike => ?_) follows_all paired same
  obtain ⟨form, uniform, otherUniform⟩ := alike
  exact delimited_anyTrimmed form part other rest after uniform otherUniform

end Filter

namespace Compiler

open List (Forall₂)

variable {compiler : Compiler} {place : String} {criteria other : Criteria}
  {context otherContext : Context}

/-- The lists of a request that are not empty, as alternatives of values for one field each. -/
def alternatives (compiler : Compiler) (place : String) (criteria : Criteria)
    (lists : List Category) : List (List Filter) :=
  ((lists.map fun list => (place ++ compiler.table.fieldOf list, criteria.values list)).filter
    fun entry => !entry.2.isEmpty).map fun entry => entry.2.map (.equals entry.1)

theorem alternatives_cons_of_eq_nil {list : Category} {lists : List Category}
    (empty : criteria.values list = []) :
    compiler.alternatives place criteria (list :: lists) =
      compiler.alternatives place criteria lists := by
  simp [alternatives, empty]

theorem alternatives_cons_of_ne_nil {list : Category} {lists : List Category}
    (given : criteria.values list ≠ []) :
    compiler.alternatives place criteria (list :: lists) =
      (criteria.values list).map (.equals (place ++ compiler.table.fieldOf list)) ::
        compiler.alternatives place criteria lists := by
  simp [alternatives, given]

/-- The values of a list are all compared with the same field. -/
theorem uniform_values {field : String} {values : List String} (given : values ≠ []) :
    Filter.Uniform (.equals, field) (values.map (.equals field)) where
  given := by simpa using given
  alike := List.forall_mem_map.mpr fun _ _ => rfl

theorem alike_alternatives
    (sameLists : ∀ list, criteria.values list = [] ↔ other.values list = [])
    (lists : List Category) :
    Forall₂ Filter.Alike (compiler.alternatives place criteria lists)
      (compiler.alternatives place other lists) := by
  induction lists with
  | nil => exact .nil
  | cons list lists induction =>
      by_cases empty : criteria.values list = []
      · rw [alternatives_cons_of_eq_nil empty,
          alternatives_cons_of_eq_nil ((sameLists list).mp empty)]
        exact induction
      · have otherGiven : other.values list ≠ [] := mt (sameLists list).mpr empty
        rw [alternatives_cons_of_ne_nil empty, alternatives_cons_of_ne_nil otherGiven]
        exact .cons ⟨_, uniform_values empty, uniform_values otherGiven⟩ induction

theorem values_eq_of_alternatives_eq
    (sameLists : ∀ list, criteria.values list = [] ↔ other.values list = [])
    {lists : List Category} (same : compiler.alternatives place criteria lists =
      compiler.alternatives place other lists) :
    ∀ list ∈ lists, criteria.values list = other.values list := by
  induction lists with
  | nil => exact fun list member => nomatch member
  | cons list lists induction =>
      by_cases empty : criteria.values list = []
      · have otherEmpty := (sameLists list).mp empty
        rw [alternatives_cons_of_eq_nil empty, alternatives_cons_of_eq_nil otherEmpty] at same
        exact List.forall_mem_cons.mpr ⟨empty.trans otherEmpty.symm, induction same⟩
      · have otherGiven : other.values list ≠ [] := mt (sameLists list).mpr empty
        rw [alternatives_cons_of_ne_nil empty, alternatives_cons_of_ne_nil otherGiven,
          List.cons.injEq] at same
        obtain ⟨here, later⟩ := same
        have injective : Function.Injective
            (Filter.equals (place ++ compiler.table.fieldOf list)) :=
          fun value next same => (Filter.equals.inj same).2
        exact List.forall_mem_cons.mpr
          ⟨List.map_injective_iff.mpr injective here, induction later⟩

/-- A filter under the name that its field has in documents. -/
def placed (compiler : Compiler) (place : String) (filter : Filter) : Filter :=
  filter.renamed (Filter.resolve compiler.settings.aliases place filter.field)

theorem requirements_eq :
    compiler.requirements place criteria context =
      compiler.alternatives place criteria Category.choices ++
        (criteria.filters ++ context.filters).map fun filter => [compiler.placed place filter] :=
  rfl

theorem form_placed {filter next : Filter} (sameForm : filter.form = next.form) :
    (compiler.placed place filter).form = (compiler.placed place next).form := by
  obtain ⟨kinds, fields⟩ := Prod.mk.inj sameForm
  have kind_renamed : ∀ (filter : Filter) (name : String), (filter.renamed name).kind =
      filter.kind := by
    intro filter name
    cases filter <;> rfl
  simp only [placed, Filter.form, Filter.field_renamed, kind_renamed, kinds, fields]

theorem alike_filters {filters others : List Filter}
    (sameForms : filters.map Filter.form = others.map Filter.form) :
    Forall₂ Filter.Alike (filters.map fun filter => [compiler.placed place filter])
      (others.map fun filter => [compiler.placed place filter]) := by
  rw [List.forall₂_map_left_iff, List.forall₂_map_right_iff]
  have forms : Forall₂ (fun filter next => filter.form = next.form) filters others := by
    rwa [← List.forall₂_eq_eq_eq, List.forall₂_map_left_iff,
      List.forall₂_map_right_iff] at sameForms
  exact forms.imp fun filter next sameForm =>
    ⟨_, Filter.uniform_singleton _ rfl, Filter.uniform_singleton _ (form_placed sameForm).symm⟩

theorem filters_eq_of_placed_eq {filters others : List Filter}
    (sameForms : filters.map Filter.form = others.map Filter.form)
    (same : (filters.map fun filter => [compiler.placed place filter]) =
      others.map fun filter => [compiler.placed place filter]) : filters = others := by
  induction filters generalizing others with
  | nil => exact (List.map_eq_nil_iff.mp sameForms.symm).symm
  | cons filter filters induction =>
      obtain ⟨next, others, rfl⟩ := List.exists_cons_of_ne_nil (l := others) (by
        rintro rfl
        cases sameForms)
      simp only [List.map_cons, List.cons.injEq] at sameForms same
      obtain ⟨⟨here, _⟩, later⟩ := same
      have values : filter.value? = next.value? := by
        rw [← Filter.value?_renamed, ← placed, here, placed, Filter.value?_renamed]
      rw [Filter.eq_of_form sameForms.1 values, induction sameForms.2 later]

/-- What looks alike and is rendered alike is the same. -/
theorem requirements_eq_of_text_eq (noText : criteria.phrase? = none)
    (otherNoText : other.phrase? = none)
    (paired : Forall₂ Filter.Alike (compiler.requirements place criteria context)
      (compiler.requirements place other otherContext))
    (same : (orEverything (compiler.rendering place criteria context)).text =
      (orEverything (compiler.rendering place other otherContext)).text) :
    compiler.requirements place criteria context =
      compiler.requirements place other otherContext := by
  by_cases none : compiler.requirements place criteria context = []
  · rw [none, List.forall₂_nil_left_iff] at paired
    rw [none, paired]
  · have otherSome : compiler.requirements place other otherContext ≠ [] := by
      intro otherNone
      rw [otherNone, List.forall₂_nil_right_iff] at paired
      exact none paired
    rw [orEverything_rendering noText none, orEverything_rendering otherNoText otherSome] at same
    refine Filter.allTrimmed_inj paired ?_
    rw [← toList_rendering noText, ← toList_rendering otherNoText, same]

/-- No value breaks out of its quotes. Two requests without free text that give values to the same
lists and look at the same fields in the same way are rendered alike only if they hold the same
values, whatever characters are in the values and in the names. -/
theorem values_eq_of_text_eq {one other : Option Criteria} {path : Option String}
    {fragment otherFragment : Fragment}
    (noText : (one.getD {}).phrase? = none) (otherNoText : (other.getD {}).phrase? = none)
    (sameLists : ∀ list, (one.getD {}).values list = [] ↔ (other.getD {}).values list = [])
    (sameForms : ((one.getD {}).filters ++ context.filters).map Filter.form =
      ((other.getD {}).filters ++ otherContext.filters).map Filter.form)
    (rendered : compiler.compileText one context path = .ok fragment)
    (otherRendered : compiler.compileText other otherContext path = .ok otherFragment)
    (same : fragment.text = otherFragment.text) :
    (∀ list, (one.getD {}).values list = (other.getD {}).values list) ∧
      (one.getD {}).filters ++ context.filters =
        (other.getD {}).filters ++ otherContext.filters := by
  rw [compileText_eq] at rendered otherRendered
  obtain ⟨place, admitted, rfl⟩ := map_eq_ok_iff.mp rendered
  obtain ⟨found, otherAdmitted, rfl⟩ := map_eq_ok_iff.mp otherRendered
  obtain rfl : place = found := Except.ok.inj
    ((fieldPath_of_admission admitted).symm.trans (fieldPath_of_admission otherAdmitted))
  have paired : Forall₂ Filter.Alike (compiler.requirements place (one.getD {}) context)
      (compiler.requirements place (other.getD {}) otherContext) :=
    List.rel_append (alike_alternatives sameLists Category.choices) (alike_filters sameForms)
  have required := requirements_eq_of_text_eq noText otherNoText paired same
  rw [requirements_eq, requirements_eq] at required
  obtain ⟨lists, filters⟩ := List.append_inj' required (by
    simpa using congrArg List.length sameForms)
  refine ⟨fun list => ?_, filters_eq_of_placed_eq sameForms filters⟩
  exact values_eq_of_alternatives_eq sameLists lists list (by cases list <;> decide)

/-- It does not show in the text which filters come with the criteria and which with the context,
and the quotes, parentheses and operator words in their values do not hide any of them. -/
theorem values_behind_quotes :
    let quoted : Filter := .equals "a b" "\" OR a:\"\\"
    let begun : Filter := .startsWith "(urn" ") *"
    let one : Criteria := { ids := ["a) OR b"], filters := [quoted, begun] }
    let other : Criteria := { ids := ["a) OR b"], filters := [quoted] }
    ∃ fragment, compileText ⟨.media, {}⟩ (some one) {} (some "") = .ok fragment ∧
      compileText ⟨.media, {}⟩ (some other) ⟨[begun]⟩ (some "") = .ok fragment ∧
      (∀ list, one.values list = other.values list) ∧
      one.filters ++ [] = other.filters ++ [begun] := by
  intro quoted begun one other
  let fragment : Fragment :=
    ⟨"(mid:\"a) OR b\" AND a b:\"\\\" OR a:\\\"\\\\\" AND (urn:\\)\\ \\**)", .all⟩
  have rendered : compileText ⟨.media, {}⟩ (some one) {} (some "") = .ok fragment := by
    decide +kernel
  have otherRendered : compileText ⟨.media, {}⟩ (some other) ⟨[begun]⟩ (some "") =
      .ok fragment := by
    decide +kernel
  have confined := values_eq_of_text_eq (by rfl) (by rfl) (fun list => by cases list <;> decide)
    (by rfl) rendered otherRendered rfl
  exact ⟨fragment, rendered, otherRendered, confined⟩

end Compiler

end Retrieval
