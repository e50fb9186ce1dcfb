import Retrieval.Proofs.Query.Meaning
import Retrieval.Proofs.Text.LetterCase

/-!
Text clauses and the letter case of their query. Documents do not tell a query from its lower case if
both have the same words, and then only. That is so for a query that is lowered run by run; others
lose the dot of a capital I, or have another form of sigma, before their words are looked for.
-/

namespace Retrieval.Document

variable {document : Document} {field query other : String}

theorem sharesWord_congr (same : ∀ word, word ∈ Text.words other ↔ word ∈ Text.words query) :
    document.sharesWord field other = document.sharesWord field query := by
  rw [Bool.eq_iff_iff, sharesWord_iff, sharesWord_iff]
  simp only [same]

/-- A document with one value. -/
def holding (value : String) : Document :=
  { id := "", fields := Directory.ofList [("", [value])] }

theorem sharesWord_holding {value : String} {word : List Char} (alone : Text.words value = [word]) :
    (holding value).sharesWord "" query = true ↔ word ∈ Text.words query := by
  have held : (holding value).values "" = [value] := rfl
  rw [sharesWord_iff, held]
  simp [alone]

/-- Documents tell two queries apart if these have different words. -/
theorem words_of_sharesWord_eq
    (same : ∀ document : Document, ∀ field,
      document.sharesWord field other = document.sharesWord field query) :
    ∀ word, word ∈ Text.words other ↔ word ∈ Text.words query := by
  intro word
  constructor
  · intro member
    obtain ⟨value, alone⟩ := Text.exists_words_eq_singleton member
    rw [← sharesWord_holding alone, ← same, sharesWord_holding alone]
    exact member
  · intro member
    obtain ⟨value, alone⟩ := Text.exists_words_eq_singleton member
    rw [← sharesWord_holding alone, same, sharesWord_holding alone]
    exact member

/-- A query is looked for like its lower case if it has no capital I with a dot above and each of its
sigmas ends its run of letters and numbers exactly where it ends its word: that is what it takes for
both to have the same words in the same order. What documents can tell apart are the words only. -/
theorem satisfies_lower (query : String) :
    (Text.LowersByRuns query.toList → ∀ (document : Document) (field : String) (boost : Float),
        document.satisfies (.text field (Text.lower query) boost) =
          document.satisfies (.text field query boost)) ∧
      (Text.LowersByRuns query.toList ↔ Text.words (Text.lower query) = Text.words query) ∧
      ((∀ (document : Document) (field : String) (boost : Float),
          document.satisfies (.text field (Text.lower query) boost) =
            document.satisfies (.text field query boost)) ↔
        ∀ word, word ∈ Text.words (Text.lower query) ↔ word ∈ Text.words query) := by
  have told : (∀ (document : Document) (field : String) (boost : Float),
      document.satisfies (.text field (Text.lower query) boost) =
        document.satisfies (.text field query boost)) ↔
      ∀ word, word ∈ Text.words (Text.lower query) ↔ word ∈ Text.words query := by
    constructor
    · intro same
      exact words_of_sharesWord_eq fun document field => same document field 1
    · intro same document field boost
      exact sharesWord_congr same
  refine ⟨?_, Text.words_lower_eq_iff.symm, told⟩
  intro byRuns
  apply told.mpr
  intro word
  rw [Text.words_lower_eq_iff.mpr byRuns]

/-- The last sigma of a word has a form of its own, which is looked for in the lower case as well. -/
theorem seismos_found_in_lower_case :
    Text.LowersByRuns "Ο ΣΕΙΣΜΟΣ".toList ∧
      (holding "σεισμος").satisfies (.text "" (Text.lower "Ο ΣΕΙΣΜΟΣ") 1) = true := by
  have byRuns : Text.LowersByRuns "Ο ΣΕΙΣΜΟΣ".toList :=
    (satisfies_lower "Ο ΣΕΙΣΜΟΣ").2.1.mpr (by decide +kernel)
  refine ⟨byRuns, ?_⟩
  rw [(satisfies_lower "Ο ΣΕΙΣΜΟΣ").1 byRuns]
  decide +kernel

/-- The dot of a capital I becomes a character of its own, which is no letter; and a sigma before a
point ends its run, but not its word. -/
theorem lower_case_not_found :
    (holding "İstanbul").satisfies (.text "" "İstanbul" 1) = true ∧
      (holding "İstanbul").satisfies (.text "" (Text.lower "İstanbul") 1) = false ∧
      (holding "ΟΣ").satisfies (.text "" "ΟΣ.Ε" 1) = true ∧
      (holding "ΟΣ").satisfies (.text "" (Text.lower "ΟΣ.Ε") 1) = false := by
  decide +kernel

end Retrieval.Document
