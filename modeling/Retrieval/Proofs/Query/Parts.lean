import Retrieval.Proofs.Query.Fallback
import Retrieval.Proofs.Query.Legibility

namespace Retrieval

namespace Filter

theorem toText_renamed (filter : Filter) (name : String) :
    (filter.renamed name).toText name = filter.toText name := by
  cases filter <;> rfl

theorem toNode_renamed (filter : Filter) (name : String) :
    (filter.renamed name).toNode name = filter.toNode name := by
  cases filter <;> rfl

theorem chars_renamed (filter : Filter) (name : String) :
    (filter.renamed name).chars = (filter.toText name).toList := by
  rw [chars, field_renamed, toText_renamed]

/-- The clause as it stands in query text. -/
def trimmed (filter : Filter) : List Char :=
  Text.trimChars filter.chars

def anyTrimmed (part : List Filter) : List Char :=
  Fragment.enclosed Operator.any.separator.toList (part.map trimmed)

def allTrimmed (parts : List (List Filter)) : List Char :=
  Fragment.enclosed Operator.all.separator.toList (parts.map anyTrimmed)

@[simp] theorem anyTrimmed_singleton (filter : Filter) : anyTrimmed [filter] = filter.trimmed := by
  simp [anyTrimmed, Fragment.enclosed]

@[simp] theorem trimChars_anyTrimmed (part : List Filter) :
    Text.trimChars (anyTrimmed part) = anyTrimmed part := by
  refine Fragment.trimChars_enclosed (List.forall_mem_map.mpr fun filter _ => ?_)
  rw [trimmed, Text.trimChars_trimChars]

end Filter

namespace Compiler

variable {compiler : Compiler} {place : String} {criteria : Criteria} {context : Context}

/-- What a request without free text requires, under the names in documents: one of the values of
each list, and each filter. -/
def requirements (compiler : Compiler) (place : String) (criteria : Criteria) (context : Context) :
    List (List Filter) :=
  (compiler.categories place criteria).map (fun entry => entry.2.map (.equals entry.1)) ++
    (criteria.filters ++ context.filters).map fun filter =>
      [filter.renamed (Filter.resolve compiler.settings.aliases place filter.field)]

theorem values_ne_nil {entry : String × List String}
    (member : entry ∈ compiler.categories place criteria) : entry.2 ≠ [] := by
  simpa using (List.mem_filter.mp member).2

theorem requirements_eq_nil_iff (noText : criteria.phrase? = none) :
    compiler.requirements place criteria context = [] ↔
      criteria.isEmpty = true ∧ context.filters = [] := by
  simp [requirements, categories_eq_nil_iff, Criteria.isEmpty_iff, noText, and_assoc]

/-- What is required is rendered as it is. -/
theorem orEverything_rendering (noText : criteria.phrase? = none)
    (required : compiler.requirements place criteria context ≠ []) :
    orEverything (compiler.rendering place criteria context) =
      compiler.rendering place criteria context :=
  if_neg fun blank =>
    required ((requirements_eq_nil_iff noText).mpr (isBlank_rendering_iff.mp blank))

theorem toList_categoryText (field : String) (values : List String) :
    (categoryText field values).toList = Filter.anyTrimmed (values.map (.equals field)) := by
  unfold categoryText
  rw [Fragment.Grouping.toList_close_appendAll, Filter.anyTrimmed, List.map_map, List.map_map]
  · rfl
  · exact List.forall_mem_map.mpr fun value _ => isBlank_toText (.equals field value) field

theorem toList_filterPart (filter : Filter) :
    (compiler.filterPart place filter).toList = Filter.anyTrimmed
      [filter.renamed (Filter.resolve compiler.settings.aliases place filter.field)] := by
  generalize named : Filter.resolve compiler.settings.aliases place filter.field = name
  have alone : compiler.filterPart place filter =
      ((Fragment.Grouping.undeclared .all).appendAll [filter.toText name]).close.text := by
    rw [filterPart, named]
    rfl
  have solid : ∀ text ∈ [filter.toText name], Text.isBlank text = false := by
    simpa using isBlank_toText filter name
  rw [alone, Fragment.Grouping.toList_close_appendAll solid, Filter.anyTrimmed_singleton,
    Filter.trimmed, Filter.chars_renamed]
  simp [Fragment.enclosed]

/-- Without free text, a rendering is the text of what is required. -/
theorem toList_rendering (noText : criteria.phrase? = none) :
    (compiler.rendering place criteria context).text.toList =
      Filter.allTrimmed (compiler.requirements place criteria context) := by
  have lists : ((compiler.categories place criteria).map fun entry =>
        categoryText entry.1 entry.2).map (fun text => Text.trimChars text.toList) =
      ((compiler.categories place criteria).map fun entry =>
        entry.2.map (Filter.equals entry.1)).map Filter.anyTrimmed := by
    rw [List.map_map, List.map_map]
    refine List.map_congr_left fun entry _ => ?_
    simp only [Function.comp_apply, toList_categoryText, Filter.trimChars_anyTrimmed]
  have filters : ∀ given : List Filter,
      (given.map (compiler.filterPart place)).map (fun text => Text.trimChars text.toList) =
        (given.map fun filter => [filter.renamed
          (Filter.resolve compiler.settings.aliases place filter.field)]).map
            Filter.anyTrimmed := fun given => by
    rw [List.map_map, List.map_map]
    refine List.map_congr_left fun filter _ => ?_
    simp only [Function.comp_apply, toList_filterPart, Filter.trimChars_anyTrimmed]
  simp only [rendering, noText, Fragment.ClosedGroup.build]
  rw [Fragment.Grouping.toList_close_appendAll, List.map_append, lists, filters,
    ← List.map_append]
  · rfl
  · refine List.forall_mem_append.mpr ⟨?_, ?_⟩
    · exact List.forall_mem_map.mpr fun entry member => isBlank_categoryText (values_ne_nil member)
    · exact List.forall_mem_map.mpr fun filter _ => isBlank_filterPart filter

end Compiler

end Retrieval
