import Retrieval.Proofs.Query.Restriction
import Retrieval.Proofs.Text.Blank

/-!
Compiled trees are well-formed: every clause names its field and says what it looks for, every
weight is a configured one, and every container has clauses, and enough of them to be matched. Only
a constraint name that stands for a blank field can leave a field without a name.
-/

namespace Retrieval

/-- What search settings have to say about a kind of documents. -/
structure FieldTable.Usable (table : FieldTable) : Prop where
  named : ∀ list, Text.isBlank (table.fieldOf list) = false
  someText : table.textFields ≠ []
  weighted : ∀ field ∈ table.textFields, Text.isBlank field.field = false ∧
    field.weight.isFinite = true ∧ 0 < field.weight

theorem FieldTable.usable_iff_none_faulty {table : FieldTable} : table.Usable ↔
    (Category.choices.find? fun list => Text.isBlank (table.fieldOf list)) = none ∧
      table.textFields.isEmpty = false ∧
      (table.textFields.find? fun field => !field.isUsable) = none := by
  have listed : ∀ list, list ∈ Category.choices := by
    intro list
    cases list <;> decide
  simp only [List.find?_eq_none, List.isEmpty_eq_false_iff, WeightedField.isUsable]
  constructor
  · intro usable
    obtain ⟨named, someText, weighted⟩ := usable
    exact ⟨by simp [named], someText, fun field member => by simp [weighted field member]⟩
  · intro sound
    obtain ⟨named, someText, weighted⟩ := sound
    refine ⟨fun list => by simpa using named list (listed list), someText, fun field member => ?_⟩
    simpa [and_assoc] using weighted field member

namespace SearchSettings

variable {settings : SearchSettings} {domain : Domain}

theorem checkTable_eq_ok_iff {table : FieldTable} {done : Unit} :
    checkTable domain table = .ok done ↔ table.Usable := by
  rw [FieldTable.usable_iff_none_faulty]
  unfold checkTable
  simp only [throw_bind]
  cases Category.choices.find? fun list => Text.isBlank (table.fieldOf list) with
  | some list => simp [throw, throwThe, MonadExceptOf.throw]
  | none =>
      simp only [ite_throw_eq_ok_iff]
      cases table.textFields.find? fun field => !field.isUsable with
      | some field => simp [throw, throwThe, MonadExceptOf.throw]
      | none => simp [pure, Except.pure]

theorem usable_of_check (accepted : settings.check = .ok ()) (domain : Domain) :
    (settings.table domain).Usable := by
  simp only [check, bind_eq_ok_iff, checkTable_eq_ok_iff] at accepted
  obtain ⟨_, media, _, subtitles, _, pages, _⟩ := accepted
  cases domain with
  | media => exact media
  | subtitles => exact subtitles
  | pages => exact pages

end SearchSettings

/-- A tree all of whose clauses are as a search can use them. Blank fields are allowed as far as
`excused` says. The optional clauses that a container asks for, stated or not, have to be there. -/
inductive Node.WellFormed (weights : List Float) (excused : String → Prop) : Node → Prop where
  | everything : WellFormed weights excused .everything
  | bool (filled : must ++ should ++ filter ≠ [])
      (attainable :
        (BoolQuery.effectiveMinimum must should filter minimum).toNat ≤ should.length)
      (parts : ∀ node ∈ must ++ should ++ filter, WellFormed weights excused node) :
      WellFormed weights excused (.bool must should filter minimum)
  | term (named : Text.isBlank field = true → excused field)
      (wanted : Text.isBlank value = false) : WellFormed weights excused (.term field value)
  | beginning (named : Text.isBlank field = true → excused field)
      (wanted : Text.isBlank value = false) : WellFormed weights excused (.beginning field value)
  | present (named : Text.isBlank field = true → excused field) :
      WellFormed weights excused (.present field)
  | text (named : Text.isBlank field = true → excused field)
      (wanted : Text.isBlank query = false) (configured : boost ∈ weights)
      (finite : boost.isFinite = true) (positive : 0 < boost) :
      WellFormed weights excused (.text field query boost)

variable {weights : List Float} {excused : String → Prop}

namespace Node.WellFormed

theorem anyOf? {options : List Node} {node : Node} (found : Node.anyOf? options = some node)
    (parts : ∀ option ∈ options, option.WellFormed weights excused) :
    node.WellFormed weights excused := by
  unfold Node.anyOf? at found
  split at found
  · contradiction
  · cases found
    exact parts node (by simp)
  · rename_i given _
    cases found
    have atLeastOne : (1 : UInt32).toNat ≤ options.length := List.length_pos_iff.mpr given
    exact .bool (by simpa using given) atLeastOne (by simpa using parts)

theorem toNode {query : BoolQuery}
    (attainable : query.requiredOptional.toNat ≤ query.should.length)
    (parts : ∀ node ∈ query.must ++ query.should ++ query.filter,
      node.WellFormed weights excused) : query.toNode.WellFormed weights excused := by
  obtain ⟨must, should, filter, minimum⟩ := query
  unfold BoolQuery.toNode
  split
  · exact .everything
  · rename_i node oneMust _ _
    simp only at oneMust
    exact parts node (by simp [oneMust])
  · rename_i several _
    refine .bool (fun none => ?_) attainable parts
    simp only [List.append_eq_nil_iff] at none
    exact several none.1.1 none.1.2 none.2

end Node.WellFormed

namespace Compiler

variable {compiler : Compiler} {place : String} {criteria : Criteria} {context : Context}
  {path : Option String}

theorem wellFormed_clause {aliases : Filter.Aliases} {filter : Filter} (sound : ¬ filter.Faulty)
    (named : Text.isBlank (Filter.resolve aliases place filter.field) = true →
      excused (Filter.resolve aliases place filter.field)) :
    (filter.clause aliases place).WellFormed weights excused := by
  have solid : ∀ value, filter.value? = some value → Text.isBlank value = false :=
    fun value given => Bool.eq_false_iff.mpr fun blank => sound (.blankValue given blank)
  cases filter with
  | equals field value => exact .term named (solid value rfl)
  | startsWith field value => exact .beginning named (solid value rfl)
  | present field => exact .present named

theorem wellFormed_fieldClauses {phrase : Phrase} (usable : compiler.table.Usable)
    (given : phrase.isBlank = false) :
    ∀ node ∈ compiler.fieldClauses place phrase,
      node.WellFormed (compiler.table.textFields.map WeightedField.weight) excused := by
  intro node member
  obtain ⟨field, listed, rfl⟩ := List.mem_map.mp member
  obtain ⟨named, finite, positive⟩ := usable.weighted field listed
  refine .text (fun blank => ?_) ?_ (List.mem_map_of_mem listed) finite positive
  · simp [Text.isBlank_append, named] at blank
  · rw [Text.isBlank_trim]
    exact given

theorem wellFormed_requiredClauses (usable : compiler.table.Usable) :
    ∀ node ∈ compiler.requiredClauses place criteria,
      node.WellFormed (compiler.table.textFields.map WeightedField.weight) excused := by
  intro node member
  unfold requiredClauses at member
  split at member
  · contradiction
  · rename_i phrase found
    split at member
    · exact .anyOf? (Option.mem_toList.mp member)
        (wellFormed_fieldClauses usable (phrase?_eq_some_iff.mp found).2)
    · contradiction

theorem wellFormed_optionalClauses (usable : compiler.table.Usable) :
    ∀ node ∈ compiler.optionalClauses place criteria,
      node.WellFormed (compiler.table.textFields.map WeightedField.weight) excused := by
  intro node member
  rcases optionalClauses_cases compiler place criteria with none | ⟨phrase, found, _, same⟩
  · simp [none] at member
  · exact wellFormed_fieldClauses usable (phrase?_eq_some_iff.mp found).2 node (same ▸ member)

theorem wellFormed_listClauses (usable : compiler.table.Usable)
    (solid : ∀ list, ∀ value ∈ criteria.values list, Text.isBlank value = false) :
    ∀ node ∈ compiler.listClauses place criteria, node.WellFormed weights excused := by
  intro node member
  obtain ⟨list, found⟩ := mem_listClauses_iff.mp member
  refine .anyOf? found fun option inOptions => ?_
  obtain ⟨value, listed, rfl⟩ := List.mem_map.mp inOptions
  refine .term (fun blank => ?_) (solid list value listed)
  simp [Text.isBlank_append, usable.named list] at blank

theorem wellFormed_filterClauses {filters : List Filter}
    (sound : ∀ filter ∈ filters, ¬ filter.Faulty)
    (named : ∀ filter ∈ filters,
      Text.isBlank (Filter.resolve compiler.settings.aliases place filter.field) = true →
      excused (Filter.resolve compiler.settings.aliases place filter.field)) :
    ∀ node ∈ compiler.filterClauses place filters, node.WellFormed weights excused := by
  intro node member
  obtain ⟨filter, listed, rfl⟩ := List.mem_map.mp member
  exact wellFormed_clause (sound filter listed) (named filter listed)

/-- A request that is admitted has no blank value in its lists. -/
theorem solid_of_admission {criteria : Option Criteria}
    (admitted : compiler.admission criteria context path = .ok place) :
    ∀ list, ∀ value ∈ (criteria.getD {}).values list, Text.isBlank value = false := by
  intro list value member
  refine Bool.eq_false_iff.mpr fun blank => exists_admission_iff.mp ⟨place, admitted⟩ ?_
  cases criteria with
  | none => cases list <;> contradiction
  | some asked =>
      refine .criteria rfl (Bool.eq_false_iff.mpr fun empty => ?_) (.blankValue list member blank)
      simp [(Criteria.isEmpty_iff.mp empty).2.1 list] at member

theorem isBlank_fieldPath (resolved : fieldPath path = .ok place) :
    Text.isBlank place = true ↔ path = some "" := by
  obtain ⟨text, rfl, noSpace⟩ := exists_fieldPath_iff.mp ⟨place, resolved⟩
  have solid := Text.hasSpace_eq_false_iff.mp noSpace
  have blank : Text.isBlank text = true ↔ text = "" := by
    cases chars : text.toList with
    | nil => simp [Text.isBlank, chars, ← String.toList_eq_nil_iff]
    | cons char rest =>
        refine iff_of_false ?_ (fun empty => by simp [empty] at chars)
        simp [Text.isBlank, chars, solid char (by simp [chars])]
  simp only [fieldPath, noSpace, Bool.false_eq_true, if_false] at resolved
  split at resolved
  · cases resolved
    rw [blank, Option.some.injEq]
  · rename_i given
    cases resolved
    refine iff_of_false ?_ fun empty => ?_
    · rw [Text.isBlank_append]
      simp [show Text.isBlank "." = false by decide]
    · cases empty
      exact given rfl

/-- A name that is not blank is resolved to a blank field only at the root of documents, where it
stands for that field. -/
theorem isBlank_resolve_iff {aliases : Filter.Aliases} {name : String}
    (resolved : fieldPath path = .ok place) (named : Text.isBlank name = false) :
    Text.isBlank (Filter.resolve aliases place name) = true ↔
      path = some "" ∧ ∃ target, aliases.find? name = some target ∧ Text.isBlank target = true := by
  rw [Filter.resolve, Text.isBlank_append, Bool.and_eq_true, isBlank_fieldPath resolved]
  refine and_congr_right fun _ => ?_
  cases aliases.find? name with
  | none => simp [named]
  | some target => simp

/-- A filter of the request is by a name that stands for this field, which is blank and, at the
root of documents, has no path before it. -/
structure Misdirected (compiler : Compiler) (criteria : Option Criteria) (context : Context)
    (path : Option String) (field : String) : Prop where
  atRoot : path = some ""
  blank : Text.isBlank field = true
  named : ∃ filter ∈ (criteria.getD {}).filters ++ context.filters,
    compiler.settings.aliases.find? filter.field = some field

theorem wellFormed_container (usable : compiler.table.Usable)
    (solid : ∀ list, ∀ value ∈ criteria.values list, Text.isBlank value = false)
    (sound : ∀ filter ∈ criteria.filters ++ context.filters, ¬ filter.Faulty)
    (named : ∀ filter ∈ criteria.filters ++ context.filters,
      Text.isBlank (Filter.resolve compiler.settings.aliases place filter.field) = true →
      excused (Filter.resolve compiler.settings.aliases place filter.field)) :
    (compiler.container place criteria context {}).toNode.WellFormed
      (compiler.table.textFields.map WeightedField.weight) excused := by
  refine .toNode ?_ fun node member => ?_
  · have asked : (restricted {} (compiler.gathered place criteria context {})).requiredOptional =
        _ := requiredOptional_restricted rfl rfl
    rw [container, asked, should_restricted]
    split
    · exact Nat.zero_le _
    · rename_i some
      exact List.length_pos_iff.mpr fun none => some (.inl none)
  · simp only [container, must_restricted, should_restricted, filter_restricted, gathered,
      withCriteria, List.nil_append, List.mem_append, or_assoc] at member
    rcases member with required | optional | listed | own | contextual
    · exact wellFormed_requiredClauses usable node required
    · exact wellFormed_optionalClauses usable node optional
    · exact wellFormed_listClauses usable solid node listed
    · exact wellFormed_filterClauses (fun filter inOwn => sound filter (by simp [inOwn]))
        (fun filter inOwn => named filter (by simp [inOwn])) node own
    · exact wellFormed_filterClauses (fun filter inContext => sound filter (by simp [inContext]))
        (fun filter inContext => named filter (by simp [inContext])) node contextual

/-- The clause of a filter is not well-formed if the filter's name stands for a blank field. -/
theorem not_wellFormed_of_misdirected {criteria : Option Criteria} {field : String}
    (resolved : fieldPath path = .ok place)
    (misdirected : compiler.Misdirected criteria context path field) :
    ¬ (compiler.container place (criteria.getD {}) context {}).toNode.WellFormed weights
      fun _ => False := by
  obtain ⟨atRoot, blank, filter, member, named⟩ := misdirected
  have unnamed : Text.isBlank
      (Filter.resolve compiler.settings.aliases place filter.field) = true := by
    rw [Filter.resolve, Text.isBlank_append, (isBlank_fieldPath resolved).mpr atRoot, named]
    exact blank
  have inContainer : filter.clause compiler.settings.aliases place ∈
      (compiler.container place (criteria.getD {}) context {}).filter := by
    rcases List.mem_append.mp member with own | contextual
    · simp [container, gathered, withCriteria, filterClauses, List.mem_map_of_mem own]
    · simp [container, gathered, withCriteria, filterClauses, List.mem_map_of_mem contextual]
  have filtered : (compiler.container place (criteria.getD {}) context {}).filter ≠ [] :=
    List.ne_nil_of_mem inContainer
  intro wellFormed
  rw [BoolQuery.toNode_eq_asNode (.inr (.inr filtered))] at wellFormed
  cases wellFormed with
  | bool _ _ parts =>
      have clause := parts _ (List.mem_append_right _ inContainer)
      unfold Filter.clause at clause
      cases filter with
      | equals name value =>
          cases clause with
          | term named _ => exact named unnamed
      | startsWith name value =>
          cases clause with
          | beginning named _ => exact named unnamed
      | present name =>
          cases clause with
          | present named => exact named unnamed

/-- With search settings that are accepted, a request that is compiled by itself becomes a
well-formed tree, but for the clauses of filters whose name stands for a blank field. -/
theorem wellFormed_of_compile {settings : SearchSettings} {domain : Domain}
    {criteria : Option Criteria} {node : Node} (accepted : settings.check = .ok ())
    (compiled : compile ⟨domain, settings⟩ criteria context {} path = .ok node) :
    let weights := (settings.table domain).textFields.map WeightedField.weight
    node.WellFormed weights (Misdirected ⟨domain, settings⟩ criteria context path) ∧
      (node.WellFormed weights (fun _ => False) ↔
        ∀ field, ¬ Misdirected ⟨domain, settings⟩ criteria context path field) := by
  rw [compile_eq, map_eq_ok_iff] at compiled
  obtain ⟨place, admitted, rfl⟩ := compiled
  have resolved := fieldPath_of_admission admitted
  have sound := sound_of_admission admitted
  have usable : (table ⟨domain, settings⟩).Usable := SearchSettings.usable_of_check accepted domain
  have wellFormed : ∀ excused : String → Prop,
      (∀ field, Misdirected ⟨domain, settings⟩ criteria context path field → excused field) →
      (container ⟨domain, settings⟩ place (criteria.getD {}) context {}).toNode.WellFormed
        ((settings.table domain).textFields.map WeightedField.weight) excused := by
    intro excused excuse
    refine wellFormed_container usable (solid_of_admission admitted) sound
      fun filter member blank => excuse _ ?_
    have named : Text.isBlank filter.field = false :=
      Bool.eq_false_iff.mpr fun unnamed => sound filter member (.unnamed unnamed)
    obtain ⟨atRoot, target, found, _⟩ := (isBlank_resolve_iff resolved named).mp blank
    have same : Filter.resolve settings.aliases place filter.field = target := by
      subst atRoot
      cases resolved
      simp [Filter.resolve, found]
    exact ⟨atRoot, blank, filter, member, by rw [same, ← found]⟩
  refine ⟨wellFormed _ fun _ misdirected => misdirected, fun clean field misdirected => ?_,
    fun directed => wellFormed _ directed⟩
  exact not_wellFormed_of_misdirected resolved misdirected clean

/-- Required text, a list of two values, a name that stands for another field and the context of
published documents. -/
theorem wellFormed_published_broadcasts :
    let criteria : Criteria :=
      { text := some ⟨" Lubach ", .must⟩, ids := ["a", "b"], filters := [.equals "descendant" "x"] }
    SearchSettings.check {} = .ok () ∧
      ∃ node, compile ⟨.media, {}⟩ (some criteria) .publishedOnly {} (some "") = .ok node ∧
        node.WellFormed [3, 2, 1, 1] fun _ => False := by
  intro criteria
  let fields : List Node := [.text "titles.value" "Lubach" 3, .text "tags" "Lubach" 2,
    .text "descriptions.value" "Lubach" 1, .text "broadcasters.value" "Lubach" 1]
  let node : Node := .bool [.bool [] fields [] (some 1)] []
    [.bool [] [.term "mid" "a", .term "mid" "b"] [] (some 1), .term "descendantOf" "x",
      .term "workflow" "PUBLISHED"] none
  have accepted : SearchSettings.check {} = .ok () := rfl
  have compiled : compile ⟨.media, {}⟩ (some criteria) .publishedOnly {} (some "") = .ok node := rfl
  refine ⟨accepted, node, compiled, (wellFormed_of_compile accepted compiled).2.mpr ?_⟩
  rintro field ⟨_, blank, filter, member, named⟩
  have listed : filter = .equals "descendant" "x" ∨ filter = .equals "workflow" "PUBLISHED" := by
    simpa [criteria, Context.publishedOnly] using member
  rcases listed with rfl | rfl
  · cases named
    contradiction
  · contradiction

/-- Nothing keeps a name from standing for a blank field, and its filter is then about no field. -/
theorem blank_field_behind_name :
    let settings : SearchSettings := { aliases := Directory.ofList [("descendant", "")] }
    settings.check = .ok () ∧
      ∃ node, compile ⟨.media, settings⟩ (some { filters := [.equals "descendant" "urn:vpro"] }) {}
          {} (some "") = .ok node ∧
        ¬ node.WellFormed [3, 2, 1, 1] fun _ => False := by
  intro settings
  have accepted : SearchSettings.check
      { aliases := Directory.ofList [("descendant", "")] } = .ok () := rfl
  refine ⟨accepted, .bool [] [] [.term "" "urn:vpro"] none, rfl, fun wellFormed => ?_⟩
  cases wellFormed with
  | bool _ _ parts =>
      cases parts (.term "" "urn:vpro") (by simp) with
      | term named _ => exact named (by decide)

end Compiler

end Retrieval
