import Retrieval.Proofs.Directory
import Retrieval.Proofs.Query.Meaning
import Retrieval.Scoring.FunctionScore

/-!
Documents that gain values. No clause asks that something be absent, and how many optional clauses
a container asks for does not depend on the document. So a document that gains values and dates
matches what it matched before, and keeps the weights that it had.
-/

namespace Retrieval

namespace Document

/-- Every field of the poorer document has its values in the richer one, and every date is there,
whatever it is. -/
structure Enriched (poorer richer : Document) : Prop where
  values : ∀ field value, value ∈ poorer.values field → value ∈ richer.values field
  dates : ∀ field, (poorer.date? field).isSome → (richer.date? field).isSome

theorem mem_values_iff {document : Document} {field value : String} :
    value ∈ document.values field ↔
      ∃ held, (field, held) ∈ document.fields.entries ∧ value ∈ held := by
  simp only [values, ← Directory.find?_eq_some_iff]
  cases document.fields.find? field with
  | none => simp
  | some held => simp

/-- Only the fields and dates that the poorer document has are to be looked at. -/
theorem enriched_iff_entries {poorer richer : Document} :
    poorer.Enriched richer ↔
      (∀ entry ∈ poorer.fields.entries, ∀ value ∈ entry.2, value ∈ richer.values entry.1) ∧
        ∀ entry ∈ poorer.dates.entries, (richer.date? entry.1).isSome := by
  constructor
  · intro enriched
    refine ⟨fun entry listed value member => ?_, fun entry listed => ?_⟩
    · exact enriched.values entry.1 value (mem_values_iff.mpr ⟨entry.2, listed, member⟩)
    · exact enriched.dates entry.1
        (Option.isSome_of_eq_some (Directory.find?_eq_some_iff.mpr listed))
  · rintro ⟨values, dates⟩
    refine ⟨fun field value given => ?_, fun field given => ?_⟩
    · obtain ⟨held, listed, member⟩ := mem_values_iff.mp given
      exact values (field, held) listed value member
    · obtain ⟨date, found⟩ := Option.isSome_iff_exists.mp given
      exact dates (field, date) (Directory.find?_eq_some_iff.mp found)

instance (poorer richer : Document) : Decidable (poorer.Enriched richer) :=
  decidable_of_iff _ enriched_iff_entries.symm

namespace Enriched

variable {poorer richer : Document} {field : String}

theorem any_values (enriched : poorer.Enriched richer) {fits : String → Bool}
    (some : (poorer.values field).any fits = true) : (richer.values field).any fits = true := by
  obtain ⟨value, member, fitting⟩ := List.any_eq_true.mp some
  exact List.any_eq_true.mpr ⟨value, enriched.values field value member, fitting⟩

theorem has (enriched : poorer.Enriched richer) (filled : poorer.has field = true) :
    richer.has field = true := by
  rw [Document.has, Bool.or_eq_true] at filled ⊢
  exact filled.imp enriched.any_values (enriched.dates field)

theorem sharesWord (enriched : poorer.Enriched richer) {query : String}
    (shared : poorer.sharesWord field query = true) : richer.sharesWord field query = true := by
  obtain ⟨held, member, word, wanted, found⟩ := sharesWord_iff.mp shared
  exact sharesWord_iff.mpr ⟨held, enriched.values field held member, word, wanted, found⟩

/-- A container that asks for as many optional clauses as before still has enough of them. -/
theorem enough {nodes : List Node} {asked : UInt32} (few : nodes.length < UInt32.size)
    (more : poorer.satisfiedCount nodes ≤ richer.satisfiedCount nodes)
    (given : asked ≤ (poorer.satisfiedCount nodes).toUInt32) :
    asked ≤ (richer.satisfiedCount nodes).toUInt32 := by
  rw [UInt32.le_iff_toNat_le, toNat_satisfiedCount few, ← satisfiedCount_eq_countP] at given ⊢
  exact Nat.le_trans given more

mutual

theorem satisfies (enriched : poorer.Enriched richer) (node : Node) (countable : node.Countable)
    (satisfied : poorer.satisfies node = true) : richer.satisfies node = true := by
  cases node with
  | everything => rfl
  | bool must should filter minimum =>
      obtain ⟨few, mustCountable, shouldCountable, filterCountable⟩ := countable
      simp only [Document.satisfies, Bool.and_eq_true, decide_eq_true_eq] at satisfied ⊢
      obtain ⟨⟨required, filtered⟩, optional⟩ := satisfied
      have more := enriched.satisfiedCount_le should shouldCountable
      exact ⟨⟨enriched.satisfiesAll must mustCountable required,
        enriched.satisfiesAll filter filterCountable filtered⟩, enough few more optional⟩
  | term field value => exact enriched.any_values satisfied
  | beginning field value => exact enriched.any_values satisfied
  | present field => exact enriched.has satisfied
  | text field query boost => exact enriched.sharesWord satisfied

theorem satisfiesAll (enriched : poorer.Enriched richer) (nodes : List Node)
    (countable : Node.AllCountable nodes) (satisfied : poorer.satisfiesAll nodes = true) :
    richer.satisfiesAll nodes = true := by
  cases nodes with
  | nil => rfl
  | cons node rest =>
      rw [Document.satisfiesAll, Bool.and_eq_true] at satisfied ⊢
      exact ⟨enriched.satisfies node countable.1 satisfied.1,
        enriched.satisfiesAll rest countable.2 satisfied.2⟩

theorem satisfiedCount_le (enriched : poorer.Enriched richer) (nodes : List Node)
    (countable : Node.AllCountable nodes) :
    poorer.satisfiedCount nodes ≤ richer.satisfiedCount nodes := by
  cases nodes with
  | nil => exact Nat.le_refl _
  | cons node rest =>
      have kept := enriched.satisfies node countable.1
      have later := enriched.satisfiedCount_le rest countable.2
      rw [Document.satisfiedCount, Document.satisfiedCount]
      split
      · rename_i satisfied
        rw [if_pos (kept satisfied)]
        omega
      · omega

end

end Enriched

/-- A document that gains values and dates still matches every clause that it matched, however
deeply nested. So each weight among the functions of a query that it had, it has as before. -/
theorem satisfies_enriched {poorer richer : Document} (enriched : poorer.Enriched richer) :
    (∀ node : Node, node.Countable → poorer.satisfies node = true →
        richer.satisfies node = true) ∧
      ∀ {α : Type} (numbers : Scoring.Arithmetic α) (wrapped : Scoring.FunctionScore α)
        (now : Instant) (place : Nat) (filter : Node) (amount given : α),
        wrapped.functions[place]? = some (.weight filter amount) → filter.Countable →
        (wrapped.values numbers poorer now)[place]? = some (some given) →
          given = amount ∧ (wrapped.values numbers richer now)[place]? = some (some amount) := by
  refine ⟨enriched.satisfies, ?_⟩
  intro α numbers wrapped now place filter amount given listed countable applied
  simp only [Scoring.FunctionScore.values, List.getElem?_map, listed, Option.map_some,
    Option.some.injEq, Scoring.ScoreFunction.value?, Option.ite_none_right_eq_some] at applied ⊢
  obtain ⟨satisfied, rfl⟩ := applied
  exact ⟨rfl, enriched.satisfies filter countable satisfied, trivial⟩

/-- The richer document is dated otherwise. It is by the date, and by the title, that the poorer one
matches two of the optional clauses. -/
theorem clip_enriched :
    let poorer : Document :=
      { id := "1"
        fields := ⟨[("type", ["CLIP"]), ("title", ["met Lubach"])], by decide⟩
        dates := ⟨[("sortDate", { second := 0 })], by decide⟩ }
    let richer : Document :=
      { id := "1"
        fields := ⟨[("title", ["Zondag", "met Lubach"]), ("mid", ["VPRO_1"]),
          ("type", ["VIDEO", "CLIP"])], by decide⟩
        dates := ⟨[("sortDate", { second := 86400 })], by decide⟩ }
    let node : Node :=
      .bool [.term "type" "CLIP"] [.text "title" "lubach" 1, .beginning "mid" "VPRO",
        .bool [] [.present "image", .present "sortDate"] [] none] [] (some 2)
    let wrapped : Scoring.FunctionScore Float := ⟨.everything, [.weight node 1.5], 4⟩
    poorer.Enriched richer ∧ node.Countable ∧ poorer.satisfies node = true ∧
      richer.satisfies node = true ∧
      (wrapped.values .floating richer { second := 0 })[0]? = some (some 1.5) := by
  intro poorer richer node wrapped
  have enriched : poorer.Enriched richer := by decide
  have countable : node.Countable := by
    simp [node, Node.Countable, Node.AllCountable, UInt32.size]
  have satisfied : poorer.satisfies node = true := by decide +kernel
  have applied : (wrapped.values .floating poorer { second := 0 })[0]? = some (some 1.5) := by
    simp [wrapped, Scoring.FunctionScore.values, Scoring.ScoreFunction.value?, satisfied]
  obtain ⟨kept, weighed⟩ := satisfies_enriched enriched
  exact ⟨enriched, countable, satisfied, kept node countable satisfied,
    (weighed .floating wrapped { second := 0 } 0 node 1.5 1.5 rfl countable applied).2⟩

end Document

end Retrieval
