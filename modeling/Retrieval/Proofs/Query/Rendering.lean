import Retrieval.Proofs.Query.Parts

namespace Retrieval

namespace Filter

variable {filter : Filter} {parts : List (List Filter)}

theorem PlainlyNamed.isSpace_field (plain : filter.PlainlyNamed) :
    ∀ char ∈ filter.field.toList, Text.isSpace char = false :=
  Text.hasSpace_eq_false_iff.mp plain.noSpace

theorem PlainlyNamed.isSpace_label (plain : filter.PlainlyNamed) :
    ∀ char ∈ filter.label.toList, Text.isSpace char = false := by
  rcases filter.present_or_compares with ⟨name, rfl⟩ | compares
  · exact Text.hasSpace_eq_false_iff.mp (by decide : Text.hasSpace "_exists_" = false)
  · rw [label_of_compares compares]
    exact plain.isSpace_field

/-- Clauses begin and end with something else than white space. -/
theorem trimmed_eq_chars (plain : filter.PlainlyNamed) : filter.trimmed = filter.chars := by
  refine Text.trimChars_eq_self (fun char first => ?_) fun char last => ?_
  · rw [chars_eq] at first
    cases label : filter.label.toList with
    | nil =>
        rw [label] at first
        cases first
        decide
    | cons start rest =>
        rw [label] at first
        cases first
        exact plain.isSpace_label char (label ▸ List.mem_cons_self)
  · rcases filter.present_or_compares with ⟨name, rfl⟩ | compares
    · rw [chars_eq] at last
      rcases List.mem_append.mp (List.mem_of_getLast? last) with inLabel | inContent
      · exact plain.isSpace_label char inLabel
      · rcases List.mem_cons.mp inContent with rfl | inName
        · decide
        · exact plain.isSpace_field char inName
    · obtain ⟨front, final, ends, solid, _⟩ := chars_ends compares
      rw [ends, List.getLast?_concat] at last
      cases last
      exact solid

theorem allTrimmed_eq_allChars (plain : ∀ part ∈ parts, ∀ filter ∈ part, filter.PlainlyNamed) :
    allTrimmed parts = allChars parts := by
  unfold allTrimmed allChars
  congr 1
  refine List.map_congr_left fun part member => ?_
  unfold anyTrimmed anyChars
  congr 1
  exact List.map_congr_left fun filter within => trimmed_eq_chars (plain part member filter within)

end Filter

namespace Compiler

variable {compiler : Compiler} {place : String} {criteria : Criteria} {context : Context}

/-- No name that the request looks at holds white space or a colon, and none that it compares with
a value is the word for presence. -/
def PlainlyNamed (compiler : Compiler) (place : String) (criteria : Criteria) (context : Context) :
    Prop :=
  ∀ part ∈ compiler.requirements place criteria context, ∀ filter ∈ part, filter.PlainlyNamed

instance (compiler : Compiler) (place : String) (criteria : Criteria) (context : Context) :
    Decidable (compiler.PlainlyNamed place criteria context) :=
  inferInstanceAs (Decidable (∀ part ∈ compiler.requirements place criteria context,
    ∀ filter ∈ part, filter.PlainlyNamed))

theorem legible_requirements (plain : compiler.PlainlyNamed place criteria context) :
    ∀ part ∈ compiler.requirements place criteria context, Filter.Legible part := by
  intro part member
  have named := plain part member
  rcases List.mem_append.mp member with ofLists | ofFilters
  · obtain ⟨entry, listed, rfl⟩ := List.mem_map.mp ofLists
    refine ⟨by simpa using values_ne_nil listed, named, fun _ filter inPart => ?_⟩
    obtain ⟨value, _, rfl⟩ := List.mem_map.mp inPart
    exact Option.some_ne_none value
  · obtain ⟨filter, _, rfl⟩ := List.mem_map.mp ofFilters
    exact Filter.legible_singleton (named _ (List.mem_singleton_self _))

/-- Without free text, a request becomes the clauses of what it requires. -/
theorem container_eq (noText : criteria.phrase? = none) :
    compiler.container place criteria context {} =
      { filter := (compiler.requirements place criteria context).filterMap fun part =>
          Node.anyOf? (part.map fun filter => filter.toNode filter.field) } := by
  have lists : compiler.listClauses place criteria =
      ((compiler.categories place criteria).map fun entry =>
        entry.2.map (Filter.equals entry.1)).filterMap fun part =>
          Node.anyOf? (part.map fun filter => filter.toNode filter.field) := by
    rw [List.filterMap_map, listClauses]
    congr 1
    funext entry
    rw [categoryNode?, Function.comp_apply, List.map_map]
    rfl
  have filters : ∀ given, compiler.filterClauses place given =
      (given.map fun filter => [filter.renamed
        (Filter.resolve compiler.settings.aliases place filter.field)]).filterMap fun part =>
          Node.anyOf? (part.map fun filter => filter.toNode filter.field) := by
    intro given
    have single : ∀ filter : Filter, Node.anyOf? ([filter.renamed
        (Filter.resolve compiler.settings.aliases place filter.field)].map
          fun filter => filter.toNode filter.field) =
        some (filter.clause compiler.settings.aliases place) := by
      intro filter
      simp [Node.anyOf?, Filter.toNode_renamed, Filter.clause]
    rw [List.filterMap_map, filterClauses]
    simp only [Function.comp_def, single]
    rw [List.filterMap_eq_map']
  have noRequired : compiler.requiredClauses place criteria = [] := by
    simp [requiredClauses, noText]
  have noOptional : compiler.optionalClauses place criteria = [] := by
    simp [optionalClauses, noText]
  rw [container, gathered, withCriteria, noRequired, noOptional, requirements,
    List.filterMap_append, ← lists, ← filters]
  simp [restricted, filterClauses]

/-- The text for every document reads like a clause, too, but like one that is refused: its value is
blank. -/
def shown (compiler : Compiler) (place : String) (criteria : Criteria) (context : Context) :
    List (List Filter) :=
  if (compiler.requirements place criteria context).isEmpty then [[.startsWith "*" ""]]
  else compiler.requirements place criteria context

theorem toList_orEverything (noText : criteria.phrase? = none)
    (plain : compiler.PlainlyNamed place criteria context) :
    (orEverything (compiler.rendering place criteria context)).text.toList =
      Filter.allChars (compiler.shown place criteria context) := by
  unfold shown
  by_cases none : compiler.requirements place criteria context = []
  · rw [orEverything, if_pos (isBlank_rendering_iff.mpr ((requirements_eq_nil_iff noText).mp none)),
      none]
    decide
  · rw [orEverything_rendering noText none, if_neg (by simpa using none), toList_rendering noText,
      Filter.allTrimmed_eq_allChars plain]

theorem legible_shown (plain : compiler.PlainlyNamed place criteria context) :
    ∀ part ∈ compiler.shown place criteria context, Filter.Legible part := by
  unfold shown
  split
  · intro part member
    obtain rfl := List.mem_singleton.mp member
    exact Filter.legible_singleton (by decide)
  · exact legible_requirements plain

theorem shown_ne_nil : compiler.shown place criteria context ≠ [] := by
  unfold shown
  split
  · exact List.cons_ne_nil _ _
  · rename_i some
    simpa using some

theorem not_mem_requirements {name : String}
    (sound : ∀ filter ∈ criteria.filters ++ context.filters, ¬ filter.Faulty) :
    [.startsWith name ""] ∉ compiler.requirements place criteria context := by
  intro member
  rcases List.mem_append.mp member with ofLists | ofFilters
  · obtain ⟨entry, _, same⟩ := List.mem_map.mp ofLists
    obtain ⟨value, _, found⟩ := List.mem_map.mp (same ▸ List.mem_singleton_self _)
    exact Filter.noConfusion found
  · obtain ⟨filter, listed, same⟩ := List.mem_map.mp ofFilters
    have blank : filter.value? = some "" := by
      rw [← Filter.value?_renamed, List.singleton_inj.mp same]
      rfl
    exact sound filter listed (.blankValue blank (by decide))

theorem requirements_eq_of_shown_eq {other : Criteria} {otherContext : Context}
    (sound : ∀ filter ∈ criteria.filters ++ context.filters, ¬ filter.Faulty)
    (otherSound : ∀ filter ∈ other.filters ++ otherContext.filters, ¬ filter.Faulty)
    (same : compiler.shown place criteria context = compiler.shown place other otherContext) :
    compiler.requirements place criteria context =
      compiler.requirements place other otherContext := by
  unfold shown at same
  split at same
  · rename_i none
    split at same
    · rename_i otherNone
      rw [List.isEmpty_iff.mp none, List.isEmpty_iff.mp otherNone]
    · exact absurd (same ▸ List.mem_singleton_self _) (not_mem_requirements otherSound)
  · split at same
    · exact absurd (same ▸ List.mem_singleton_self _) (not_mem_requirements sound)
    · exact same

/-- Two requests without free text become the same query if they are rendered alike, whatever
values they hold, as long as their names can be read. -/
theorem compile_eq_of_text_eq {one other : Option Criteria} {otherContext : Context}
    {path : Option String} {fragment otherFragment : Fragment}
    (resolved : fieldPath path = .ok place)
    (noText : (one.getD {}).phrase? = none) (otherNoText : (other.getD {}).phrase? = none)
    (plain : compiler.PlainlyNamed place (one.getD {}) context)
    (otherPlain : compiler.PlainlyNamed place (other.getD {}) otherContext)
    (rendered : compiler.compileText one context path = .ok fragment)
    (otherRendered : compiler.compileText other otherContext path = .ok otherFragment)
    (same : fragment.text = otherFragment.text) :
    ∃ node, compiler.compile one context {} path = .ok node ∧
      compiler.compile other otherContext {} path = .ok node := by
  rw [compileText_eq] at rendered otherRendered
  obtain ⟨found, admitted, rfl⟩ := map_eq_ok_iff.mp rendered
  obtain ⟨otherFound, otherAdmitted, rfl⟩ := map_eq_ok_iff.mp otherRendered
  obtain rfl : place = found :=
    Except.ok.inj (resolved.symm.trans (fieldPath_of_admission admitted))
  obtain rfl : place = otherFound :=
    Except.ok.inj (resolved.symm.trans (fieldPath_of_admission otherAdmitted))
  have texts : Filter.allChars (compiler.shown place (one.getD {}) context) =
      Filter.allChars (compiler.shown place (other.getD {}) otherContext) := by
    rw [← toList_orEverything noText plain, ← toList_orEverything otherNoText otherPlain, same]
  have required : compiler.requirements place (one.getD {}) context =
      compiler.requirements place (other.getD {}) otherContext :=
    requirements_eq_of_shown_eq (sound_of_admission admitted) (sound_of_admission otherAdmitted)
      (Filter.allChars_inj shown_ne_nil shown_ne_nil (legible_shown plain)
        (legible_shown otherPlain) texts)
  refine ⟨(compiler.container place (one.getD {}) context {}).toNode, ?_, ?_⟩
  · rw [compile_eq, admitted]
    rfl
  · rw [compile_eq, otherAdmitted, container_eq noText, required, ← container_eq otherNoText]
    rfl

/-- It does not matter whether the criteria or the context ask for what is published. -/
theorem same_query_for_published_clips :
    let asked : Criteria :=
      { types := ["CLIP", "ALBUM"], filters := [.startsWith "sortTitle" "de \"w"] }
    let further : Criteria :=
      { asked with filters := asked.filters ++ [.equals "workflow" "PUBLISHED"] }
    ∃ node, compile ⟨.media, {}⟩ (some asked) .publishedOnly {} (some "media") = .ok node ∧
      compile ⟨.media, {}⟩ (some further) {} {} (some "media") = .ok node := by
  intro asked further
  let fragment : Fragment :=
    ⟨"((media.type:CLIP OR media.type:ALBUM) AND media.sortTitle:de\\ \\\"w* AND " ++
      "media.workflow:PUBLISHED)", .all⟩
  have rendered : compileText ⟨.media, {}⟩ (some asked) .publishedOnly (some "media") =
      .ok fragment := by
    decide +kernel
  have furtherRendered : compileText ⟨.media, {}⟩ (some further) {} (some "media") =
      .ok fragment := by
    decide +kernel
  exact compile_eq_of_text_eq rfl rfl rfl (by decide +kernel) (by decide +kernel) rendered
    furtherRendered rfl

/-- Filters that are rendered like others and mean something else. -/
def Confused (compiler : Compiler) (filters others : List Filter) : Prop :=
  ∃ fragment node otherNode document,
    compiler.compileText (some { filters := filters }) {} (some "") = .ok fragment ∧
      compiler.compileText (some { filters := others }) {} (some "") = .ok fragment ∧
      compiler.compile (some { filters := filters }) {} {} (some "") = .ok node ∧
      compiler.compile (some { filters := others }) {} {} (some "") = .ok otherNode ∧
      Document.satisfies document node ≠ document.satisfies otherNode

/-- Names are written as they are. A value compared with the word for presence is a name that is
present, a colon in a name is taken for the one behind it, white space around a name is lost, and
white space in a name takes in an operator. -/
theorem confused_by_names :
    Confused ⟨.media, {}⟩ [.present "locations"] [.equals "_exists_" "locations"] ∧
      Confused ⟨.media, {}⟩ [.startsWith "urn" "vpro:1"] [.startsWith "urn:vpro\\" "1"] ∧
      Confused ⟨.media, {}⟩ [.equals "type" "CLIP"] [.equals " type" "CLIP"] ∧
      Confused ⟨.media, {}⟩ [.present "image AND type", .equals "genre" "news"]
        [.present "image", .equals "type AND genre" "news"] := by
  let document (fields : List (String × List String)) : Document :=
    { id := "1", fields := Directory.ofList fields }
  refine ⟨⟨⟨"_exists_:locations", .all⟩, _, _, document [("locations", ["nl"])], ?_, ?_, rfl, rfl,
      ?_⟩,
    ⟨⟨"urn:vpro\\:1*", .all⟩, _, _, document [("urn", ["vpro:12"])], ?_, ?_, rfl, rfl, ?_⟩,
    ⟨⟨"type:CLIP", .all⟩, _, _, document [("type", ["CLIP"])], ?_, ?_, rfl, rfl, ?_⟩,
    ⟨⟨"(_exists_:image AND type AND genre:news)", .all⟩, _, _,
      document [("image", ["i"]), ("type AND genre", ["news"])], ?_, ?_, rfl, rfl, ?_⟩⟩ <;>
    decide +kernel

end Compiler

end Retrieval
