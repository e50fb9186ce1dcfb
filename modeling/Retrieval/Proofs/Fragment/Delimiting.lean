import Retrieval.Fragment.Quoting
import Retrieval.Proofs.Text.Words

/-!
Where the pieces of query text end. Whatever a value holds, its quoted form can be told apart from
what follows it, and so can a value behind backslashes. Pieces with an operator between them can be
told apart if each of them can.
-/

namespace Retrieval.Fragment

/-- Of a text that begins with the code of an item, item and rest can be told. The items are among
`valid`, and the rests among `rests`. -/
def Delimited (code : α → List Char) (valid : α → Prop) (rests : List Char → Prop) : Prop :=
  ∀ item other rest after, valid item → valid other → rests rest → rests after →
    code item ++ rest = code other ++ after → item = other ∧ rest = after

namespace Delimited

variable {code : α → List Char} {valid : α → Prop} {rests ends : List Char → Prop}

theorem following_flatMap (goesOn : ∀ item rest, rests (code item ++ rest))
    (stops : ∀ rest, ends rest → rests rest) (items : List α) {rest : List Char}
    (final : ends rest) : rests (items.flatMap code ++ rest) := by
  cases items with
  | nil => exact stops rest final
  | cons item items =>
      rw [List.flatMap_cons, List.append_assoc]
      exact goesOn item _

/-- Items in a row are delimited if each of them is and no end begins like an item. -/
theorem flatMap (each : Delimited code valid rests)
    (goesOn : ∀ item rest, rests (code item ++ rest)) (stops : ∀ rest, ends rest → rests rest)
    (apart : ∀ item rest after, ends after → code item ++ rest ≠ after) :
    Delimited (List.flatMap code) (fun items => ∀ item ∈ items, valid item) ends := by
  intro items
  induction items with
  | nil =>
      intro others rest after _ _ final _ same
      cases others with
      | nil => exact ⟨rfl, same⟩
      | cons other others =>
          rw [List.flatMap_cons, List.append_assoc] at same
          exact absurd same.symm (apart other _ rest final)
  | cons item items induction =>
      intro others rest after sound otherSound final otherFinal same
      rw [List.flatMap_cons, List.append_assoc] at same
      cases others with
      | nil => exact absurd same (apart item _ after otherFinal)
      | cons other others =>
          rw [List.flatMap_cons, List.append_assoc] at same
          obtain ⟨validItem, later⟩ := List.forall_mem_cons.mp sound
          obtain ⟨validOther, otherLater⟩ := List.forall_mem_cons.mp otherSound
          obtain ⟨rfl, remaining⟩ := each item other _ _ validItem validOther
            (following_flatMap goesOn stops items final)
            (following_flatMap goesOn stops others otherFinal) same
          obtain ⟨rfl, rfl⟩ :=
            induction others rest after later otherLater final otherFinal remaining
          exact ⟨rfl, rfl⟩

theorem intercalate_cons (separator item : List Char) (items : List (List Char)) :
    separator.intercalate (item :: items) = item ++ items.flatMap (separator ++ ·) := by
  induction items generalizing item with
  | nil => simp
  | cons next items induction => simp [List.intercalate_cons_cons, induction next]

/-- Items with a separator between them are delimited if each of them is, before a separator as well
as before an end, and no end begins like a separator. -/
theorem intercalate {separator : List Char} (each : Delimited code valid rests)
    (goesOn : ∀ rest, rests (separator ++ rest)) (stops : ∀ rest, ends rest → rests rest)
    (apart : ∀ rest, ¬ ends (separator ++ rest)) :
    Delimited (fun items => separator.intercalate (items.map code))
      (fun items => items ≠ [] ∧ ∀ item ∈ items, valid item) ends := by
  have separated : Delimited (fun item => separator ++ code item) valid rests := by
    intro item other rest after validItem validOther continues otherContinues same
    rw [List.append_assoc, List.append_assoc] at same
    exact each item other rest after validItem validOther continues otherContinues
      (List.append_cancel_left same)
  have continues : ∀ item rest, rests (separator ++ code item ++ rest) := by
    intro item rest
    rw [List.append_assoc]
    exact goesOn _
  have inRow : Delimited (List.flatMap fun item => separator ++ code item)
      (fun items => ∀ item ∈ items, valid item) ends := by
    refine separated.flatMap continues stops fun item rest after final same => ?_
    rw [List.append_assoc] at same
    exact apart _ (same ▸ final)
  intro items others rest after sound otherSound final otherFinal same
  obtain ⟨given, sound⟩ := sound
  obtain ⟨otherGiven, otherSound⟩ := otherSound
  obtain ⟨item, items, rfl⟩ := List.exists_cons_of_ne_nil given
  obtain ⟨other, others, rfl⟩ := List.exists_cons_of_ne_nil otherGiven
  obtain ⟨validItem, later⟩ := List.forall_mem_cons.mp sound
  obtain ⟨validOther, otherLater⟩ := List.forall_mem_cons.mp otherSound
  simp only [List.map_cons, intercalate_cons, List.append_assoc, List.flatMap_map] at same
  obtain ⟨rfl, remaining⟩ := each item other _ _ validItem validOther
    (following_flatMap continues stops items final)
    (following_flatMap continues stops others otherFinal) same
  obtain ⟨rfl, rfl⟩ := inRow items others rest after later otherLater final otherFinal remaining
  exact ⟨rfl, rfl⟩

end Delimited

def Begins (char : Char) (rest : List Char) : Prop :=
  ∃ after, rest = char :: after

/-- What does not begin with a character of some kind. -/
def Leaves (kind : Char → Bool) (rest : List Char) : Prop :=
  ∀ char ∈ rest.head?, kind char = false

/-- A run of characters of one kind ends where another character follows. -/
theorem delimited_run (kind : Char → Bool) :
    Delimited id (fun run => ∀ char ∈ run, kind char = true) (Leaves kind) := by
  have taken : ∀ run rest, (∀ char ∈ run, kind char = true) → Leaves kind rest →
      (run ++ rest).takeWhile kind = run := by
    intro run rest within leaves
    rw [List.takeWhile_append_of_pos within]
    cases rest with
    | nil => simp
    | cons char rest => simp [leaves char rfl]
  intro run other rest after within otherWithin leaves otherLeaves same
  obtain rfl : run = other := by
    rw [← taken run rest within leaves, ← taken other after otherWithin otherLeaves]
    exact congrArg (List.takeWhile kind) same
  exact ⟨rfl, List.append_cancel_left same⟩

/-- Texts that are equal are equal up to the first of a character. -/
theorem append_stop_inj {stop : Char} {run other rest after : List Char} (absent : stop ∉ run)
    (otherAbsent : stop ∉ other) (same : run ++ stop :: rest = other ++ stop :: after) :
    run = other ∧ rest = after := by
  have within : ∀ {run : List Char}, stop ∉ run → ∀ char ∈ run, (char != stop) = true :=
    fun absent char member => bne_iff_ne.mpr fun found => absent (found ▸ member)
  have leaves : ∀ rest, Leaves (· != stop) (stop :: rest) := by
    intro rest char first
    obtain rfl := Option.some.inj first
    simp
  obtain ⟨runs, rests⟩ := delimited_run (· != stop) run other _ _ (within absent)
    (within otherAbsent) (leaves rest) (leaves after) same
  exact ⟨runs, List.tail_eq_of_cons_eq rests⟩

section Slashes

variable {special : Char → Prop} [DecidablePred special] {stop : Char}

/-- A character, behind a backslash if it is special. -/
def slashed (special : Char → Prop) [DecidablePred special] (char : Char) : List Char :=
  if special char then ['\\', char] else [char]

theorem slashed_of_special {char : Char} (marked : special char) :
    slashed special char = ['\\', char] :=
  if_pos marked

theorem slashed_of_not_special {char : Char} (plain : ¬ special char) :
    slashed special char = [char] :=
  if_neg plain

/-- A character can be told from a backslash if the backslash is special itself. -/
theorem delimited_slashed (slash : special '\\') :
    Delimited (slashed special) (fun _ => True) fun _ => True := by
  intro char other rest after _ _ _ _ same
  by_cases marked : special char
  · rw [slashed_of_special marked] at same
    by_cases otherMarked : special other
    · simpa [slashed_of_special otherMarked] using same
    · rw [slashed_of_not_special otherMarked] at same
      exact absurd (List.head_eq_of_cons_eq same ▸ slash) otherMarked
  · rw [slashed_of_not_special marked] at same
    by_cases otherMarked : special other
    · rw [slashed_of_special otherMarked] at same
      exact absurd (List.head_eq_of_cons_eq same.symm ▸ slash) marked
    · simpa [slashed_of_not_special otherMarked] using same

/-- With its backslash, no character begins like a special one. -/
theorem slashed_append_ne (stops : special stop) (noSlash : stop ≠ '\\') (char : Char)
    (rest after : List Char) : slashed special char ++ rest ≠ stop :: after := by
  intro same
  by_cases marked : special char
  · rw [slashed_of_special marked] at same
    exact noSlash (List.head_eq_of_cons_eq same).symm
  · rw [slashed_of_not_special marked] at same
    exact marked (List.head_eq_of_cons_eq same ▸ stops)

/-- Special characters end a row of others, unless they stand behind a backslash. -/
theorem delimited_slashes (slash : special '\\') (stops : special stop) (noSlash : stop ≠ '\\') :
    Delimited (List.flatMap (slashed special)) (fun _ => True) (Begins stop) := by
  have row := (delimited_slashed slash).flatMap (fun _ _ => trivial) (fun _ _ => trivial)
    fun char rest after (final : Begins stop after) => by
      obtain ⟨after, rfl⟩ := final
      exact slashed_append_ne stops noSlash char rest after
  intro chars others rest after _ _ final otherFinal same
  exact row chars others rest after (fun _ _ => trivial) (fun _ _ => trivial) final otherFinal same

end Slashes

theorem delimited_escapeChars : Delimited escapeChars (fun _ => True) (Begins '*') :=
  @delimited_slashes (isSyntax · = true) _ '*' (by decide) (by decide) (by decide)

/-- What may follow a value inside query text: nothing, an operator, or the end of a group. -/
def Follows (rest : List Char) : Prop :=
  ∀ char ∈ rest.head?, char = ' ' ∨ char = ')'

theorem Follows.leaves {rest : List Char} (follows : Follows rest) : Leaves isBare rest := by
  intro char first
  rcases follows char first with rfl | rfl <;> decide

/-- Quoted values are delimited, and so are those that are bare. -/
theorem delimited_quoteChars : Delimited quoteChars (fun _ => True) (Leaves isBare) := by
  have bareFirst : ∀ value rest after : List Char, (!value.isEmpty && value.all isBare) = true →
      value ++ rest ≠ '"' :: after := by
    intro value rest after bare same
    cases value with
    | nil => simp at bare
    | cons char value =>
        rw [List.cons_append, List.cons.injEq] at same
        obtain ⟨rfl, _⟩ := same
        exact absurd bare (by simp [show isBare '"' = false by decide])
  have quoted : Delimited (List.flatMap quotedChar) (fun _ => True) (Begins '"') :=
    @delimited_slashes (fun char => (char = '"' || char = '\\') = true) _ '"' (by decide)
      (by decide) (by decide)
  intro value other rest after _ _ leaves otherLeaves same
  unfold quoteChars at same
  split at same
  · rename_i bare
    split at same
    · rename_i otherBare
      simp only [Bool.and_eq_true, List.all_eq_true] at bare otherBare
      exact delimited_run isBare value other rest after bare.2 otherBare.2 leaves otherLeaves same
    · exact absurd same (bareFirst _ _ _ bare)
  · split at same
    · rename_i otherBare
      exact absurd same.symm (bareFirst _ _ _ otherBare)
    · simp only [List.cons_append, List.append_assoc, List.cons.injEq, true_and,
        List.nil_append] at same
      obtain ⟨rfl, final⟩ := quoted value other _ _ trivial trivial ⟨_, rfl⟩ ⟨_, rfl⟩ same
      exact ⟨rfl, List.tail_eq_of_cons_eq final⟩

/-- Behind backslashes, no value begins with syntax. -/
theorem escapeChars_append_ne {stop : Char} (syntactic : isSyntax stop = true)
    (noSlash : stop ≠ '\\') (noStar : stop ≠ '*') (value rest after : List Char) :
    escapeChars value ++ '*' :: rest ≠ stop :: after := by
  intro same
  cases value with
  | nil => exact noStar (List.head_eq_of_cons_eq same).symm
  | cons char value =>
      rw [escapeChars, List.flatMap_cons, List.append_assoc] at same
      exact @slashed_append_ne (isSyntax · = true) _ stop syntactic noSlash _ _ _ same

theorem bare_append_ne {rest value : List Char} (follows : Follows rest)
    (bare : ∀ char ∈ value, isBare char = true) (other after : List Char) :
    value ++ rest ≠ escapeChars other ++ '*' :: after := by
  intro same
  induction value generalizing other with
  | nil =>
      cases rest with
      | nil => simp at same
      | cons char rest =>
          have final : isSyntax char = true ∧ char ≠ '\\' ∧ char ≠ '*' := by
            rcases follows char rfl with rfl | rfl <;> decide
          exact escapeChars_append_ne final.1 final.2.1 final.2.2 other _ _ same.symm
  | cons char value induction =>
      obtain ⟨bareChar, bare⟩ := List.forall_mem_cons.mp bare
      cases other with
      | nil =>
          obtain rfl : char = '*' := List.head_eq_of_cons_eq same
          exact absurd bareChar (by decide)
      | cons first other =>
          rw [escapeChars, List.flatMap_cons, List.append_assoc, escapedChar] at same
          split at same
          · obtain rfl : char = '\\' := List.head_eq_of_cons_eq same
            exact absurd bareChar (by decide)
          · exact induction bare other (List.tail_eq_of_cons_eq same)

/-- No value is quoted to what another is behind backslashes. -/
theorem quoteChars_append_ne {rest : List Char} (follows : Follows rest)
    (value other after : List Char) :
    quoteChars value ++ rest ≠ escapeChars other ++ '*' :: after := by
  unfold quoteChars
  split
  · rename_i bare
    simp only [Bool.and_eq_true, List.all_eq_true] at bare
    exact bare_append_ne follows bare.2 other after
  · exact (escapeChars_append_ne (by decide) (by decide) (by decide) _ _ _).symm

theorem isSpace_of_isBare {char : Char} (bare : isBare char = true) :
    Text.isSpace char = false := by
  refine Bool.eq_false_iff.mpr fun space => ?_
  simp only [isBare, Text.isAlphanumeric_of_isSpace space, Bool.false_or, Bool.or_eq_true,
    beq_iff_eq] at bare
  rcases bare with (rfl | rfl) | rfl <;> exact absurd space (by decide)

/-- A quoted value ends neither in white space nor in the end of a group. -/
theorem quoteChars_ends (value : List Char) : ∃ front char,
    quoteChars value = front ++ [char] ∧ Text.isSpace char = false ∧ char ≠ ')' := by
  unfold quoteChars
  split
  · rename_i bare
    simp only [Bool.and_eq_true, Bool.not_eq_true', List.isEmpty_eq_false_iff,
      List.all_eq_true] at bare
    obtain ⟨given, bare⟩ := bare
    have last := bare _ (List.getLast_mem given)
    refine ⟨value.dropLast, value.getLast given, (List.dropLast_concat_getLast given).symm,
      isSpace_of_isBare last, fun closing => ?_⟩
    rw [closing] at last
    exact absurd last (by decide)
  · exact ⟨'"' :: value.flatMap quotedChar, '"', by simp, by decide, by decide⟩

end Retrieval.Fragment
