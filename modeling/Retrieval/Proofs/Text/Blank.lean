import Mathlib.Data.List.DropRight
import Mathlib.Data.List.TakeWhile
import Retrieval.Text.Blank

namespace Retrieval.Text

theorem trimEndChars_eq_nil_iff {chars : List Char} :
    trimEndChars chars = [] ↔ ∀ char ∈ chars, isSpace char = true := by
  simp [trimEndChars]

theorem trimChars_eq_nil_iff {chars : List Char} :
    trimChars chars = [] ↔ ∀ char ∈ chars, isSpace char = true := by
  induction chars with
  | nil => simp [trimChars, trimStartChars, trimEndChars]
  | cons char rest induction =>
      by_cases space : isSpace char = true
      · have skipped : trimChars (char :: rest) = trimChars rest := by
          simp [trimChars, trimStartChars, space]
        simp [skipped, induction, space]
      · have kept : trimChars (char :: rest) = trimEndChars (char :: rest) := by
          simp [trimChars, trimStartChars, space]
        rw [kept, trimEndChars_eq_nil_iff]

theorem isBlank_iff_trim_eq {text : String} : isBlank text = true ↔ trim text = "" := by
  rw [isBlank, List.all_eq_true, ← trimChars_eq_nil_iff, trim, ← String.toList_inj,
    String.toList_ofList, String.toList_empty]

theorem mem_trimStartChars {char : Char} {chars : List Char} (member : char ∈ chars)
    (solid : isSpace char = false) : char ∈ trimStartChars chars := by
  induction chars with
  | nil => contradiction
  | cons first rest induction =>
      by_cases space : isSpace first = true
      · have later : char ∈ rest := by
          rcases List.mem_cons.mp member with rfl | later
          · simp [space] at solid
          · exact later
        simpa [trimStartChars, space] using induction later
      · simpa [trimStartChars, space] using member

/-- Trimming keeps every character that is no white space. -/
theorem mem_trimChars {char : Char} {chars : List Char} (member : char ∈ chars)
    (solid : isSpace char = false) : char ∈ trimChars chars := by
  unfold trimChars trimEndChars
  rw [List.mem_reverse]
  refine mem_trimStartChars ?_ solid
  rw [List.mem_reverse]
  exact mem_trimStartChars member solid

theorem mem_of_mem_trimStartChars {char : Char} {chars : List Char}
    (member : char ∈ trimStartChars chars) : char ∈ chars :=
  (List.dropWhile_sublist isSpace).subset member

theorem mem_of_mem_trimEndChars {char : Char} {chars : List Char}
    (member : char ∈ trimEndChars chars) : char ∈ chars := by
  rw [trimEndChars, List.mem_reverse] at member
  exact List.mem_reverse.mp ((List.dropWhile_sublist isSpace).subset member)

theorem isBlank_eq_false_iff {text : String} :
    isBlank text = false ↔ ∃ char ∈ text.toList, isSpace char = false := by
  simp [isBlank]

theorem hasSpace_eq_false_iff {text : String} :
    hasSpace text = false ↔ ∀ char ∈ text.toList, isSpace char = false := by
  simp [hasSpace]

theorem isBlank_append (left right : String) :
    isBlank (left ++ right) = (isBlank left && isBlank right) := by
  simp [isBlank]

@[simp] theorem isBlank_trim (text : String) : isBlank (trim text) = isBlank text := by
  cases blank : isBlank text with
  | true =>
      rw [isBlank_iff_trim_eq.mp blank]
      rfl
  | false =>
      obtain ⟨char, member, solid⟩ := isBlank_eq_false_iff.mp blank
      refine isBlank_eq_false_iff.mpr ⟨char, ?_, solid⟩
      rw [trim, String.toList_ofList]
      exact mem_trimChars member solid

theorem trimChars_eq_self {chars : List Char}
    (start : ∀ char, chars.head? = some char → isSpace char = false)
    (finish : ∀ char, chars.getLast? = some char → isSpace char = false) :
    trimChars chars = chars := by
  have starts : trimStartChars chars = chars := by
    cases chars with
    | nil => rfl
    | cons char rest => simp [trimStartChars, start char rfl]
  have ends : chars.reverse.dropWhile isSpace = chars.reverse := by
    cases backwards : chars.reverse with
    | nil => rfl
    | cons char rest =>
        have last : chars.getLast? = some char := by
          rw [← List.head?_reverse, backwards, List.head?_cons]
        simp [finish char last]
  rw [trimChars, starts, trimEndChars, ends, List.reverse_reverse]

/-- White space is looked for up to the first character that is none. -/
theorem trimStartChars_append_cons {char : Char} (front rest : List Char)
    (solid : isSpace char = false) :
    trimStartChars (front ++ char :: rest) = trimStartChars front ++ char :: rest := by
  induction front with
  | nil => simp [trimStartChars, solid]
  | cons first front induction =>
      by_cases space : isSpace first = true
      · simpa [trimStartChars, space] using induction
      · simp [trimStartChars, space]

theorem trimEndChars_append_cons {char : Char} (front rest : List Char)
    (solid : isSpace char = false) :
    trimEndChars (front ++ char :: rest) = front ++ char :: trimEndChars rest := by
  have backwards : (front ++ char :: rest).reverse =
      rest.reverse ++ char :: front.reverse := by simp
  have skipped := trimStartChars_append_cons rest.reverse front.reverse solid
  unfold trimStartChars at skipped
  rw [trimEndChars, backwards, skipped]
  simp [trimEndChars]

/-- What is between the outermost characters that are no white space stays as it is. -/
theorem trimChars_append_cons {char : Char} (front rest : List Char)
    (solid : isSpace char = false) :
    trimChars (front ++ char :: rest) = trimStartChars front ++ char :: trimEndChars rest := by
  rw [trimChars, trimStartChars_append_cons front rest solid, trimEndChars_append_cons _ _ solid]

@[simp] theorem trimStartChars_trimStartChars (chars : List Char) :
    trimStartChars (trimStartChars chars) = trimStartChars chars :=
  List.dropWhile_idempotent isSpace chars

@[simp] theorem trimEndChars_trimEndChars (chars : List Char) :
    trimEndChars (trimEndChars chars) = trimEndChars chars := by
  simp [trimEndChars, List.dropWhile_idempotent]

@[simp] theorem trimChars_trimChars (chars : List Char) :
    trimChars (trimChars chars) = trimChars chars := by
  by_cases blank : ∀ char ∈ chars, isSpace char = true
  · rw [trimChars_eq_nil_iff.mpr blank]
    rfl
  · simp only [not_forall, Bool.not_eq_true] at blank
    obtain ⟨char, member, solid⟩ := blank
    obtain ⟨front, rest, rfl⟩ := List.append_of_mem member
    simp only [trimChars_append_cons _ _ solid, trimStartChars_trimStartChars,
      trimEndChars_trimEndChars]

end Retrieval.Text
