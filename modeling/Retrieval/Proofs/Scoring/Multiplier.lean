import Mathlib
import Retrieval.Proofs.Decimal.Binary
import Retrieval.Proofs.Outcome
import Retrieval.Proofs.Query.Enrichment
import Retrieval.Scoring.FunctionScore

/-!
How much the rules raise a score. The values of the rules that apply are summed up to a maximum.
With exact numbers this sum is never negative and never falls when a document gains values; that
the settings pass their check is all that it takes of them.
-/

namespace Retrieval

structure Document.Within (poorer richer : Document) : Prop where
  values : ∀ field value, value ∈ poorer.values field → value ∈ richer.values field
  dates : ∀ field, poorer.date? field = richer.date? field

theorem Document.Within.enriched {poorer richer : Document} (within : poorer.Within richer) :
    poorer.Enriched richer where
  values := within.values
  dates field dated := (congrArg Option.isSome (within.dates field)).symm.trans dated

namespace Scoring

/-- The same settings with other numbers. -/
def Settings.map (change : α → β) (settings : Settings α) : Settings β where
  presence := ⟨settings.presence.field, change settings.presence.boost⟩
  terms := settings.terms.map fun term => ⟨term.field, term.value, change term.boost⟩
  decay := ⟨settings.decay.field, settings.decay.scale, settings.decay.offset,
    change settings.decay.decay⟩
  maxBoost := change settings.maxBoost

section Exact

variable {α : Type} [Field α] [LinearOrder α]

/-- Exact numbers, with any curve in the place of the bell curve. -/
def Arithmetic.exact (bell : (scale offset : Nat) → (decay : α) → (distance : Nat) → α) :
    Arithmetic α where
  zero := 0
  one := 1
  add := (· + ·)
  mul := (· * ·)
  least := min
  less left right := left < right
  isFinite _ := true
  bell := bell

/-- No boost lowers a score, the decay is a part of one, and the maximum leaves room. -/
structure Settings.Sound (settings : Settings α) : Prop where
  presence : 0 ≤ settings.presence.boost
  terms : ∀ term ∈ settings.terms, 0 ≤ term.boost
  decayPositive : 0 < settings.decay.decay
  decayPartial : settings.decay.decay < 1
  maximum : 0 < settings.maxBoost

variable (bell : (scale offset : Nat) → (decay : α) → (distance : Nat) → α)

/-- The curve of the settings takes no value outside the unit interval. -/
def DateDecay.Bounded (decay : DateDecay α) : Prop :=
  ∀ distance, bell decay.scale decay.offset decay.decay distance ∈ Set.Icc 0 1

/-- What the age of a document adds. Without a date it counts as new. -/
def DateDecay.valueFor (decay : DateDecay α) (document : Document) (now : Instant) : α :=
  match document.date? decay.field with
  | some date => bell decay.scale decay.offset decay.decay (Instant.millisBetween date now)
  | none => 1

/-- The sum of all that a document shows: the field, the terms and the age. -/
def Settings.total (settings : Settings α) (document : Document) (now : Instant) : α :=
  (if document.has settings.presence.field then settings.presence.boost else 0) +
    (settings.terms.map fun term =>
      if document.holds term.field term.value then term.boost else 0).sum +
    settings.decay.valueFor bell document now

/-- How the rules change scores: by a sum that is never negative, up to the maximum, and by no less
for a document that holds more. -/
structure Settings.Raises (settings : Settings α) : Prop where
  multiplier : ∀ query document now,
    (settings.wrap query).multiplier (.exact bell) document now =
      min (settings.total bell document now) settings.maxBoost
  nonneg : ∀ query document now, 0 ≤ (settings.wrap query).multiplier (.exact bell) document now
  capped : ∀ query document now,
    (settings.wrap query).multiplier (.exact bell) document now ≤ settings.maxBoost
  score : ∀ query base document now,
    (settings.wrap query).score (.exact bell) base document now =
      base * (settings.wrap query).multiplier (.exact bell) document now
  monotone : ∀ query base poorer richer now, Document.Within poorer richer → 0 ≤ base →
    (settings.wrap query).score (.exact bell) base poorer now ≤
      (settings.wrap query).score (.exact bell) base richer now

theorem combined_exact {values : List α} (nonempty : values ≠ []) :
    combined (.exact bell) values = values.sum := by
  cases values with
  | nil => contradiction
  | cons first rest =>
      change rest.foldl (fun sum value => sum + value) first = _
      exact List.foldl_eq_apply_foldr

omit [LinearOrder α] in
theorem sum_filterMap_id (values : List (Option α)) :
    (values.filterMap id).sum = (values.map fun value => value.getD 0).sum := by
  induction values with
  | nil => rfl
  | cons value rest induction => cases value <;> simpa using induction

theorem values_wrap (settings : Settings α) (query : Node) (document : Document)
    (now : Instant) :
    (settings.wrap query).values (.exact bell) document now =
      (if document.has settings.presence.field then some settings.presence.boost else none) ::
        (settings.terms.map fun term =>
          if document.holds term.field term.value then some term.boost else none) ++
        [some (settings.decay.valueFor bell document now)] := by
  simp only [FunctionScore.values, Settings.wrap, Settings.functions, List.map_append,
    List.map_cons, List.map_map, List.map_nil, ScoreFunction.value?, Document.satisfies,
    DateDecay.valueFor]
  -- The weights are the same on both sides, only the curve depends on whether there is a date.
  congr 2
  cases document.date? settings.decay.field <;> rfl

theorem multiplier_wrap (settings : Settings α) (query : Node) (document : Document)
    (now : Instant) :
    (settings.wrap query).multiplier (.exact bell) document now =
      min (settings.total bell document now) settings.maxBoost := by
  -- The curve always applies, so that the sum is never the neutral one of no value at all.
  have nonempty : ((settings.wrap query).values (.exact bell) document now).filterMap id ≠ [] := by
    simp [values_wrap]
  have sum : combined (.exact bell)
      (((settings.wrap query).values (.exact bell) document now).filterMap id) =
        settings.total bell document now := by
    rw [combined_exact bell nonempty, sum_filterMap_id, values_wrap]
    simp [Settings.total, apply_ite (Option.getD · (0 : α)), Function.comp_def, add_assoc]
  exact congrArg (min · settings.maxBoost) sum

variable {bell} {settings : Settings α}

theorem granted_nonneg {shown : Bool} {boost : α} (nonneg : 0 ≤ boost) :
    0 ≤ if shown then boost else 0 := by
  split
  · exact nonneg
  · exact le_refl 0

theorem granted_le {poorer richer : Bool} {boost : α} (nonneg : 0 ≤ boost)
    (kept : poorer = true → richer = true) :
    (if poorer then boost else 0) ≤ if richer then boost else 0 := by
  cases poorer with
  | false => simpa using granted_nonneg nonneg
  | true => simp [kept rfl]

variable [IsStrictOrderedRing α]

theorem valueFor_nonneg {decay : DateDecay α} (bounded : decay.Bounded bell) (document : Document)
    (now : Instant) : 0 ≤ decay.valueFor bell document now := by
  unfold DateDecay.valueFor
  cases document.date? decay.field with
  | none => exact zero_le_one
  | some date => exact (bounded _).1

theorem Settings.Sound.total_nonneg (sound : settings.Sound)
    (bounded : settings.decay.Bounded bell) (document : Document) (now : Instant) :
    0 ≤ settings.total bell document now := by
  have terms : 0 ≤ (settings.terms.map fun term =>
      if document.holds term.field term.value then term.boost else 0).sum := by
    refine List.sum_nonneg fun value member => ?_
    obtain ⟨term, listed, rfl⟩ := List.mem_map.mp member
    exact granted_nonneg (sound.terms term listed)
  exact add_nonneg (add_nonneg (granted_nonneg sound.presence) terms)
    (valueFor_nonneg bounded document now)

theorem Settings.Sound.total_le (sound : settings.Sound) {poorer richer : Document}
    (within : poorer.Within richer) (now : Instant) :
    settings.total bell poorer now ≤ settings.total bell richer now := by
  have terms : (settings.terms.map fun term =>
        if poorer.holds term.field term.value then term.boost else 0).sum ≤
      (settings.terms.map fun term =>
        if richer.holds term.field term.value then term.boost else 0).sum :=
    List.sum_le_sum fun term listed =>
      granted_le (sound.terms term listed) within.enriched.any_values
  have aged : settings.decay.valueFor bell poorer now =
      settings.decay.valueFor bell richer now := by
    simp only [DateDecay.valueFor, within.dates]
  exact add_le_add (add_le_add (granted_le sound.presence within.enriched.has) terms) aged.le

theorem Settings.Sound.raises (sound : settings.Sound) (bounded : settings.decay.Bounded bell) :
    settings.Raises bell where
  multiplier := multiplier_wrap bell settings
  nonneg query document now := by
    rw [multiplier_wrap]
    exact le_min (sound.total_nonneg bounded document now) sound.maximum.le
  capped query document now := by
    rw [multiplier_wrap]
    exact min_le_right _ _
  score _ _ _ _ := rfl
  monotone query base poorer richer now within nonneg := by
    change base * _ ≤ base * _
    rw [multiplier_wrap, multiplier_wrap]
    exact mul_le_mul_of_nonneg_left (min_le_min_right _ (sound.total_le within now)) nonneg

end Exact

namespace Settings

theorem checkBoost_eq_ok_iff {numbers : Arithmetic α} {field : String} {boost : α} :
    checkBoost numbers field boost = .ok () ↔
      Text.isBlank field = false ∧ numbers.isFinite boost = true ∧
        numbers.less boost numbers.zero = false := by
  simp [checkBoost, throw_bind, ite_throw_eq_ok_iff, pure, Except.pure]

theorem checkTerm_eq_ok_iff {numbers : Arithmetic α} {term : TermBoost α} :
    checkTerm numbers term = .ok () ↔
      checkBoost numbers term.field term.boost = .ok () ∧ Text.isBlank term.value = false := by
  simp only [checkTerm, check_bind_eq_ok_iff, ite_throw_eq_ok_iff]
  simp [pure, Except.pure]

theorem checkDecay_eq_ok_iff {numbers : Arithmetic α} {decay : DateDecay α} :
    checkDecay numbers decay = .ok () ↔
      Text.isBlank decay.field = false ∧ decay.scale ≠ 0 ∧
        numbers.less numbers.zero decay.decay = true ∧
        numbers.less decay.decay numbers.one = true := by
  simp [checkDecay, throw_bind, ite_throw_eq_ok_iff, pure, Except.pure]

theorem check_eq_ok_iff {numbers : Arithmetic α} {settings : Settings α} :
    settings.check numbers = .ok () ↔
      checkBoost numbers settings.presence.field settings.presence.boost = .ok () ∧
      (∀ term ∈ settings.terms, checkTerm numbers term = .ok ()) ∧
      checkDecay numbers settings.decay = .ok () ∧
      numbers.isFinite settings.maxBoost = true ∧
      numbers.less numbers.zero settings.maxBoost = true := by
  simp only [check, check_bind_eq_ok_iff, forM_eq_ok_iff, ite_throw_eq_ok_iff]
  simp [pure, Except.pure]

variable [Field α] [LinearOrder α] [IsStrictOrderedRing α]

theorem exactly_nonneg_of_checkBoost {field : String} {boost : Float}
    (accepted : checkBoost .floating field boost = .ok ()) :
    0 ≤ (Decimal.exactly boost : α) := by
  obtain ⟨_, finite, notBelow⟩ := checkBoost_eq_ok_iff.mp accepted
  have notLess : ¬ boost < 0 := of_decide_eq_false notBelow
  rw [Decimal.lt_iff_exactly_lt (α := α) finite rfl, Decimal.exactly_zero] at notLess
  exact not_lt.mp notLess

/-- Settings that are accepted as they are computed with have their exact numbers in place. -/
theorem sound_of_check {settings : Settings Float} (accepted : settings.check .floating = .ok ()) :
    (settings.map (Decimal.exactly : Float → α)).Sound := by
  obtain ⟨presence, terms, decay, finite, positive⟩ := check_eq_ok_iff.mp accepted
  obtain ⟨_, _, above, below⟩ := checkDecay_eq_ok_iff.mp decay
  have above : 0 < settings.decay.decay := of_decide_eq_true above
  have below : settings.decay.decay < 1 := of_decide_eq_true below
  have positive : 0 < settings.maxBoost := of_decide_eq_true positive
  have decayFinite : settings.decay.decay.isFinite = true :=
    Decimal.isFinite_of_between rfl rfl above below
  rw [Decimal.lt_iff_exactly_lt (α := α) rfl decayFinite, Decimal.exactly_zero] at above
  rw [Decimal.lt_iff_exactly_lt (α := α) decayFinite rfl, Decimal.exactly_one] at below
  rw [Decimal.lt_iff_exactly_lt (α := α) rfl finite, Decimal.exactly_zero] at positive
  refine ⟨exactly_nonneg_of_checkBoost presence, ?_, above, below, positive⟩
  intro term member
  obtain ⟨original, listed, rfl⟩ := List.mem_map.mp member
  exact exactly_nonneg_of_checkBoost (checkTerm_eq_ok_iff.mp (terms original listed)).1

/-- Rules with accepted settings, read with exact numbers and a curve within the unit interval. -/
theorem raises_of_check {settings : Settings Float}
    {bell : (scale offset : Nat) → (decay : α) → (distance : Nat) → α}
    (accepted : settings.check .floating = .ok ())
    (bounded : (settings.map Decimal.exactly).decay.Bounded bell) :
    (settings.map Decimal.exactly).Raises bell :=
  (sound_of_check accepted).raises bounded

end Settings

/-- The bell curve over the real numbers. -/
noncomputable def bellReal (scale offset : Nat) (decay : ℝ) (distance : Nat) : ℝ :=
  let past := (distance : ℝ) / 1000 - offset
  let beyond := if past < 0 then 0 else past
  let variance := -(scale * scale : ℝ) / ((2 : Nat) * Real.log decay)
  Real.exp (-(beyond * beyond) / ((2 : Nat) * variance))

theorem bounded_bellReal {decay : DateDecay ℝ} (positive : 0 < decay.decay)
    (partly : decay.decay < 1) : decay.Bounded bellReal := by
  intro distance
  have falling : Real.log decay.decay < 0 := Real.log_neg positive partly
  have variance : 0 ≤ -(decay.scale * decay.scale : ℝ) / ((2 : Nat) * Real.log decay.decay) :=
    div_nonneg_of_nonpos (neg_nonpos.mpr (mul_self_nonneg _))
      (mul_nonpos_of_nonneg_of_nonpos (Nat.cast_nonneg 2) falling.le)
  refine ⟨(Real.exp_pos _).le, Real.exp_le_one_iff.mpr ?_⟩
  exact div_nonpos_of_nonpos_of_nonneg (neg_nonpos.mpr (mul_self_nonneg _))
    (mul_nonneg (Nat.cast_nonneg 2) variance)

/-- A broadcast with an address but without a date gets what the two boosts add up to, and one for
the missing date. -/
theorem raises_standard :
    let settings : Settings ℝ := Settings.standard.map Decimal.exactly
    let broadcast : Document :=
      { id := "1"
        fields := ⟨[("type", ["BROADCAST"]), ("locations.programUrl", ["odi+http://vpro"])],
          by decide⟩ }
    Settings.standard.check .floating = .ok () ∧ settings.decay.Bounded bellReal ∧
      settings.Raises bellReal ∧
      ∀ query now,
        (settings.wrap query).multiplier (.exact bellReal) broadcast now = 3 / 2 + 5 / 4 + 1 := by
  intro settings broadcast
  have accepted : Settings.standard.check .floating = .ok () := rfl
  have sound := Settings.sound_of_check (α := ℝ) accepted
  have bounded : settings.decay.Bounded bellReal :=
    bounded_bellReal sound.decayPositive sound.decayPartial
  have raises : settings.Raises bellReal := Settings.raises_of_check accepted bounded
  refine ⟨accepted, bounded, raises, fun query now => ?_⟩
  have presence : (Decimal.exactly (1.5 : Float) : ℝ) = 3 / 2 := by
    rw [Decimal.exactly_of_ofFloat? (show _ = some ⟨false, 3 * 2 ^ 51, -52⟩ from rfl)]
    norm_num [Decimal.Binary.value, Decimal.magnitude]
  have term : (Decimal.exactly (1.25 : Float) : ℝ) = 5 / 4 := by
    rw [Decimal.exactly_of_ofFloat? (show _ = some ⟨false, 5 * 2 ^ 50, -52⟩ from rfl)]
    norm_num [Decimal.Binary.value, Decimal.magnitude]
  have maximum : (Decimal.exactly (4 : Float) : ℝ) = 4 := by
    rw [Decimal.exactly_of_ofFloat? (show _ = some ⟨false, 2 ^ 52, -50⟩ from rfl)]
    norm_num [Decimal.Binary.value, Decimal.magnitude]
  have shown : broadcast.has "locations.programUrl" = true ∧
      broadcast.holds "type" "BROADCAST" = true ∧ broadcast.holds "avType" "VIDEO" = false ∧
      broadcast.date? "sortDate" = none := by
    decide +kernel
  have total : settings.total bellReal broadcast now = 3 / 2 + 5 / 4 + 1 := by
    simp [settings, Settings.total, Settings.map, Settings.standard, DateDecay.valueFor, shown,
      presence, term]
  rw [raises.multiplier, total]
  change min _ (Decimal.exactly (4 : Float)) = _
  rw [maximum]
  norm_num

end Scoring

end Retrieval
