import Mathlib.Data.List.Sort
import Mathlib.Data.List.TakeWhile
import Retrieval.Text.Words

/-!
What the tables of lower case and of letters and numbers say together. The lower case of a character
is one character, which belongs to a word if the character does and is its own lower case. The only
exception is the capital I with a dot above, of which two characters are left.
-/

namespace Retrieval.Text

/-- What the lower case of a character should be. -/
structure Lowers (char lowered : Char) : Prop where
  kind : isAlphanumeric lowered = isAlphanumeric char
  fixed : lowerChar lowered = [lowered]

def lowersAlike (char : Char) : Bool :=
  match lowerChar char with
  | [lowered] => isAlphanumeric lowered == isAlphanumeric char && lowerChar lowered == [lowered]
  | _ => false

variable {ranges spans : Ranges} {span : Nat × Nat} {run other : CaseRun}
  {char : Char} {code : Nat}

theorem exists_lowers_of_lowersAlike (alike : lowersAlike char = true) :
    ∃ lowered, lowerChar char = [lowered] ∧ Lowers char lowered := by
  unfold lowersAlike at alike
  split at alike
  · rename_i lowered found
    rw [Bool.and_eq_true, beq_iff_eq, beq_iff_eq] at alike
    exact ⟨lowered, found, alike.1, alike.2⟩
  · contradiction

namespace Ranges

def encloses (range span : Nat × Nat) : Bool :=
  range.1.ble span.1 && span.2.ble range.2

/-- Each span is within a range. Both lists are looked through once, so they have to be in the same
order. -/
def covers (ranges : Ranges) (spans : Ranges) : Bool :=
  (ranges.foldl (fun spans range => spans.dropWhile (encloses range)) spans).isEmpty

theorem exists_encloses_of_covers (covered : ranges.covers spans = true) (listed : span ∈ spans) :
    ∃ range ∈ ranges, encloses range span = true := by
  induction ranges generalizing spans with
  | nil =>
      rw [covers, List.foldl_nil, List.isEmpty_iff] at covered
      rw [covered] at listed
      contradiction
  | cons range ranges induction =>
      rw [← List.takeWhile_append_dropWhile (p := encloses range) (l := spans),
        List.mem_append] at listed
      cases listed with
      | inl here => exact ⟨range, List.mem_cons_self, List.mem_takeWhile_imp here⟩
      | inr later =>
          obtain ⟨found, member, within⟩ := induction covered later
          exact ⟨found, List.mem_cons_of_mem _ member, within⟩

theorem holds_of_covers (covered : ranges.covers spans = true) (first last : Nat)
    (listed : (first, last) ∈ spans) (lower : first ≤ code) (upper : code ≤ last) :
    ranges.holds code = true := by
  obtain ⟨range, member, within⟩ := exists_encloses_of_covers covered listed
  rw [encloses, Bool.and_eq_true, Nat.ble_eq, Nat.ble_eq] at within
  apply List.any_eq_true.mpr
  refine ⟨range, member, ?_⟩
  rw [Bool.and_eq_true, decide_eq_true_eq, decide_eq_true_eq]
  omega

end Ranges

namespace CaseRun

def lowered (run : CaseRun) (code : Nat) : Nat :=
  (code + run.shift).toNat

/-- The code points that a run holds. -/
def codes (run : CaseRun) : List Nat :=
  (List.range ((run.last - run.first) / run.step + 1)).map fun index =>
    run.first + run.step * index

theorem holds_iff : run.holds code = true ↔
    run.first ≤ code ∧ code ≤ run.last ∧ (code - run.first) % run.step = 0 := by
  simp only [CaseRun.holds, Bool.and_eq_true, decide_eq_true_eq, beq_iff_eq, and_assoc]

theorem mem_codes_of_holds (holds : run.holds code = true) : code ∈ run.codes := by
  obtain ⟨lower, upper, stepped⟩ := holds_iff.mp holds
  refine List.mem_map.mpr ⟨(code - run.first) / run.step, ?_, ?_⟩
  · rw [List.mem_range, Nat.lt_succ_iff]
    exact Nat.div_le_div_right (by omega)
  · have parts := Nat.mod_add_div (code - run.first) run.step
    omega

/-- No lower case of the run has a lower case by the other: they are outside of that, or between its
steps. -/
def apart (run other : CaseRun) : Bool :=
  other.last.blt (run.lowered run.first) || (run.lowered run.last).blt other.first ||
    run.step == 2 && other.step == 2 && (run.lowered run.first + other.first) % 2 == 1

/-- The run and its lower case are beyond ASCII, and none of its lower cases has another. -/
def settled (run : CaseRun) : Bool :=
  Nat.ble 0x80 run.first && Nat.ble 0x80 (run.lowered run.first) &&
    (Nat.blt (run.lowered run.last) 0x130 || Nat.blt 0x130 (run.lowered run.first)) &&
    lowerCaseRuns.all run.apart

theorem not_holds_of_apart (apart : run.apart other = true) (high : 0x80 ≤ run.lowered run.first)
    (holds : run.holds code = true) : other.holds (run.lowered code) = false := by
  obtain ⟨lower, upper, stepped⟩ := holds_iff.mp holds
  rw [Bool.eq_false_iff]
  intro held
  obtain ⟨otherLower, otherUpper, otherStepped⟩ := holds_iff.mp held
  simp only [CaseRun.apart, Bool.or_eq_true, Bool.and_eq_true, Nat.blt_eq, beq_iff_eq] at apart
  unfold lowered at *
  rcases apart with (above | below) | ⟨⟨two, otherTwo⟩, odd⟩
  · omega
  · omega
  · rw [two] at stepped
    rw [otherTwo] at otherStepped
    omega

end CaseRun

/-- The runs are settled, but for those that reach ASCII and two that begin with a pair of letters;
their characters are looked at one by one. -/
theorem settled_or_lowersAlike : ∀ run ∈ lowerCaseRuns,
    run.settled = true ∨ ∀ code ∈ run.codes, lowersAlike (Char.ofNat code) = true := by
  decide +kernel

theorem lowersAlike_ascii : ∀ code < 0x80, lowersAlike (Char.ofNat code) = true := by
  decide +kernel

theorem capitals_covered : alphanumericRanges.covers
    ((lowerCaseRuns.filter fun run => Nat.ble 0x80 run.first).flatMap fun run =>
      run.codes.map fun code => (code, code)) = true := by
  decide +kernel

theorem lowered_covered : alphanumericRanges.covers
    (((lowerCaseRuns.filter fun run => Nat.ble 0x80 (run.lowered run.first)).map fun run =>
      (run.lowered run.first, run.lowered run.last)).insertionSort
        fun one next => one.1.ble next.1 = true) = true := by
  decide +kernel

theorem alphanumericRanges_valid : ∀ range ∈ alphanumericRanges,
    range.2 < 0xD800 ∨ 0xDFFF < range.1 ∧ range.2 < 0x110000 := by
  decide +kernel

theorem toNat_ofNat_of_holds (holds : alphanumericRanges.holds code = true) :
    (Char.ofNat code).toNat = code := by
  obtain ⟨range, member, within⟩ := List.any_eq_true.mp holds
  rw [Bool.and_eq_true, decide_eq_true_eq, decide_eq_true_eq] at within
  have valid : code.isValidChar := by
    have outside := alphanumericRanges_valid range member
    unfold Nat.isValidChar
    omega
  rw [Char.ofNat, dif_pos valid]
  rfl

theorem isAlphanumeric_of_holds (high : 0x80 ≤ char.toNat)
    (holds : alphanumericRanges.holds char.toNat = true) : isAlphanumeric char = true := by
  rw [isAlphanumeric, if_neg (Nat.not_lt.mpr high), holds]

namespace CaseRun

theorem settled_iff : run.settled = true ↔
    0x80 ≤ run.first ∧ 0x80 ≤ run.lowered run.first ∧
      (run.lowered run.last < 0x130 ∨ 0x130 < run.lowered run.first) ∧
      ∀ other ∈ lowerCaseRuns, run.apart other = true := by
  simp only [settled, Bool.and_eq_true, Bool.or_eq_true, Nat.ble_eq, Nat.blt_eq, List.all_eq_true,
    and_assoc]

theorem isAlphanumeric_capital (listed : run ∈ lowerCaseRuns) (high : 0x80 ≤ run.first)
    (holds : run.holds char.toNat = true) : isAlphanumeric char = true := by
  obtain ⟨lower, -, -⟩ := holds_iff.mp holds
  apply isAlphanumeric_of_holds (Nat.le_trans high lower)
  apply Ranges.holds_of_covers capitals_covered char.toNat char.toNat
  · refine List.mem_flatMap.mpr ⟨run, ?_, List.mem_map_of_mem (mem_codes_of_holds holds)⟩
    exact List.mem_filter.mpr ⟨listed, Nat.ble_eq.mpr high⟩
  · exact Nat.le_refl _
  · exact Nat.le_refl _

theorem holds_lowered (listed : run ∈ lowerCaseRuns) (high : 0x80 ≤ run.lowered run.first)
    (holds : run.holds code = true) : alphanumericRanges.holds (run.lowered code) = true := by
  obtain ⟨lower, upper, -⟩ := holds_iff.mp holds
  apply Ranges.holds_of_covers lowered_covered (run.lowered run.first) (run.lowered run.last)
  · rw [List.mem_insertionSort]
    refine List.mem_map.mpr ⟨run, ?_, rfl⟩
    exact List.mem_filter.mpr ⟨listed, Nat.ble_eq.mpr high⟩
  · unfold lowered
    omega
  · unfold lowered
    omega

/-- A code point that no run holds has no other lower case. -/
theorem lowerChar_eq_self (high : 0x80 ≤ char.toNat) (undotted : char ≠ 'İ')
    (free : ∀ run ∈ lowerCaseRuns, run.holds char.toNat = false) : lowerChar char = [char] := by
  have none : lowerCaseRuns.find? (·.holds char.toNat) = none := by
    rw [List.find?_eq_none]
    intro run listed
    rw [free run listed]
    exact Bool.false_ne_true
  rw [lowerChar, if_neg (Nat.not_lt.mpr high), if_neg undotted, none]

theorem lowers_of_settled (listed : run ∈ lowerCaseRuns) (settled : run.settled = true)
    (holds : run.holds char.toNat = true) :
    Lowers char (Char.ofNat (run.lowered char.toNat)) := by
  obtain ⟨capital, high, beside, apart⟩ := settled_iff.mp settled
  obtain ⟨lower, upper, -⟩ := holds_iff.mp holds
  have letter := holds_lowered listed high holds
  have code := toNat_ofNat_of_holds letter
  have above : 0x80 ≤ (Char.ofNat (run.lowered char.toNat)).toNat := by
    rw [code]
    unfold lowered at *
    omega
  refine ⟨?_, ?_⟩
  · rw [isAlphanumeric_capital listed capital holds]
    apply isAlphanumeric_of_holds above
    rw [code]
    exact letter
  · apply lowerChar_eq_self above
    · intro dotted
      rw [dotted] at code
      have dottedCode : 'İ'.toNat = 0x130 := rfl
      unfold lowered at *
      omega
    · intro other otherListed
      rw [code]
      exact not_holds_of_apart (apart other otherListed) high holds

end CaseRun

/-- All characters but the capital I with a dot above have one character as their lower case. -/
theorem exists_lowers (undotted : char ≠ 'İ') :
    ∃ lowered, lowerChar char = [lowered] ∧ Lowers char lowered := by
  by_cases high : 0x80 ≤ char.toNat
  · cases found : lowerCaseRuns.find? (·.holds char.toNat) with
    | none =>
        have own : lowerChar char = [char] := by
          apply CaseRun.lowerChar_eq_self high undotted
          intro run listed
          exact Bool.eq_false_iff.mpr (List.find?_eq_none.mp found run listed)
        exact ⟨char, own, rfl, own⟩
    | some run =>
        have listed := List.mem_of_find?_eq_some found
        have holds := List.find?_some found
        cases settled_or_lowersAlike run listed with
        | inl settled =>
            refine ⟨_, ?_, CaseRun.lowers_of_settled listed settled holds⟩
            rw [lowerChar, if_neg (Nat.not_lt.mpr high), if_neg undotted, found]
            rfl
        | inr alike =>
            have here := alike char.toNat (CaseRun.mem_codes_of_holds holds)
            rw [Char.ofNat_toNat] at here
            exact exists_lowers_of_lowersAlike here
  · have here := lowersAlike_ascii char.toNat (Nat.not_le.mp high)
    rw [Char.ofNat_toNat] at here
    exact exists_lowers_of_lowersAlike here

end Retrieval.Text
