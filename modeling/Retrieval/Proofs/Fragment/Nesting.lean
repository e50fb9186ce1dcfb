import Mathlib.Data.List.Infix
import Mathlib.Tactic.SplitIfs
import Retrieval.Proofs.Fragment.Delimiting
import Retrieval.Proofs.Fragment.Grouping

/-!
Parentheses in query text. They count outside of double quotes and where no backslash takes them away.
A text is balanced if it closes all that it opens, and nothing else; then, and only then, do parentheses
around it belong together.
-/

namespace Retrieval.Fragment

/-- What has been opened so far in a text that is read from left to right. -/
structure Nesting where
  depth : Int := 0
  quoted : Bool := false
  escaped : Bool := false
  deriving DecidableEq, Repr

namespace Nesting

/-- The characters that open or close something. -/
def marks : List Char := ['(', ')', '"', '\\']

/-- A backslash takes the next character away, in quotes and outside of them. Parentheses in quotes are
characters like others. -/
def next (nesting : Nesting) (char : Char) : Nesting :=
  if nesting.escaped then
    { nesting with escaped := false }
  else if char = '\\' then
    { nesting with escaped := true }
  else if char = '"' then
    { nesting with quoted := !nesting.quoted }
  else if nesting.quoted then
    nesting
  else if char = '(' then
    { nesting with depth := nesting.depth + 1 }
  else if char = ')' then
    { nesting with depth := nesting.depth - 1 }
  else
    nesting

def read (nesting : Nesting) (chars : List Char) : Nesting :=
  chars.foldl next nesting

/-- The same place in a text that is inside of more parentheses. -/
def deeper (nesting : Nesting) (levels : Int) : Nesting :=
  { nesting with depth := nesting.depth + levels }

variable {nesting start middle finish : Nesting} {levels : Int} {char : Char}
  {chars front back : List Char}

@[simp] theorem read_nil : nesting.read [] = nesting := rfl

@[simp] theorem read_cons : nesting.read (char :: chars) = (nesting.next char).read chars := rfl

@[simp] theorem read_append : nesting.read (front ++ back) = (nesting.read front).read back :=
  List.foldl_append

@[simp] theorem depth_deeper : (nesting.deeper levels).depth = nesting.depth + levels := rfl

theorem next_deeper : (nesting.deeper levels).next char = (nesting.next char).deeper levels := by
  unfold next deeper
  split_ifs <;> simp <;> omega

theorem read_deeper : (nesting.deeper levels).read chars = (nesting.read chars).deeper levels := by
  induction chars generalizing nesting with
  | nil => rfl
  | cons char chars induction => rw [read_cons, next_deeper, induction, read_cons]

theorem next_of_neutral (plain : nesting.escaped = false) (neutral : char ∉ marks) :
    nesting.next char = nesting := by
  simp only [marks, List.mem_cons, List.not_mem_nil, or_false, not_or] at neutral
  simp [next, plain, neutral]

/-- A backslash reaches no further than to the next character. -/
theorem escaped_next_of_neutral (neutral : char ∉ marks) :
    (nesting.next char).escaped = false := by
  cases escaped : nesting.escaped with
  | true => simp [next, escaped]
  | false => rw [next_of_neutral escaped neutral, escaped]

/-- Whether a parenthesis counts: outside of quotes and behind no backslash. -/
def counting (nesting : Nesting) : Bool :=
  !nesting.quoted && !nesting.escaped

theorem depth_next_open :
    (nesting.next '(').depth = nesting.depth + if nesting.counting then 1 else 0 := by
  obtain ⟨depth, quoted, escaped⟩ := nesting
  cases quoted <;> cases escaped <;> simp [next, counting]

theorem depth_next_close :
    (nesting.next ')').depth = nesting.depth - if nesting.counting then 1 else 0 := by
  obtain ⟨depth, quoted, escaped⟩ := nesting
  cases quoted <;> cases escaped <;> simp [next, counting]

theorem eq_deeper (counts : nesting.counting = true) :
    nesting = ({} : Nesting).deeper nesting.depth := by
  obtain ⟨depth, quoted, escaped⟩ := nesting
  obtain ⟨rfl, rfl⟩ : quoted = false ∧ escaped = false := by simpa [counting] using counts
  rw [deeper, Int.zero_add]

/-- A text leads from one nesting to another and closes nothing but what it has opened. -/
structure Leads (start : Nesting) (chars : List Char) (finish : Nesting) : Prop where
  settled : start.read chars = finish
  stays : ∀ beginning, beginning <+: chars → 0 ≤ (start.read beginning).depth

theorem leads_nil_iff : Leads start [] finish ↔ 0 ≤ start.depth ∧ start = finish := by
  constructor
  · intro leads
    exact ⟨leads.stays [] List.nil_prefix, leads.settled⟩
  · rintro ⟨nonnegative, rfl⟩
    refine ⟨rfl, ?_⟩
    intro beginning starts
    rw [List.prefix_nil.mp starts]
    exact nonnegative

theorem leads_cons_iff :
    Leads start (char :: chars) finish ↔ 0 ≤ start.depth ∧ Leads (start.next char) chars finish := by
  constructor
  · intro leads
    refine ⟨leads.stays [] List.nil_prefix, leads.settled, ?_⟩
    intro beginning starts
    exact leads.stays (char :: beginning) ((List.prefix_cons_inj char).mpr starts)
  · rintro ⟨nonnegative, leads⟩
    refine ⟨leads.settled, ?_⟩
    intro beginning starts
    rcases List.prefix_cons_iff.mp starts with rfl | ⟨rest, rfl, restStarts⟩
    · exact nonnegative
    · exact leads.stays rest restStarts

instance decidableLeads : (start : Nesting) → (chars : List Char) → (finish : Nesting) →
    Decidable (Leads start chars finish)
  | _, [], _ => decidable_of_iff _ leads_nil_iff.symm
  | start, char :: chars, finish =>
      have := decidableLeads (start.next char) chars finish
      decidable_of_iff _ leads_cons_iff.symm

theorem Leads.append (first : Leads start front middle) (second : Leads middle back finish) :
    Leads start (front ++ back) finish := by
  induction front generalizing start with
  | nil =>
      obtain ⟨_, rfl⟩ := leads_nil_iff.mp first
      exact second
  | cons char front induction =>
      obtain ⟨nonnegative, later⟩ := leads_cons_iff.mp first
      exact leads_cons_iff.mpr ⟨nonnegative, induction later⟩

theorem Leads.deeper (leads : Leads start chars finish) (nonnegative : 0 ≤ levels) :
    Leads (start.deeper levels) chars (finish.deeper levels) := by
  refine ⟨by rw [read_deeper, leads.settled], ?_⟩
  intro beginning starts
  have shallow := leads.stays beginning starts
  rw [read_deeper]
  exact Int.add_nonneg shallow nonnegative

theorem leads_flatMap {code : α → List Char} {items : List α} (nonnegative : 0 ≤ start.depth)
    (each : ∀ item ∈ items, Leads start (code item) start) :
    Leads start (items.flatMap code) start := by
  induction items with
  | nil => exact leads_nil_iff.mpr ⟨nonnegative, rfl⟩
  | cons item items induction =>
      obtain ⟨first, others⟩ := List.forall_mem_cons.mp each
      exact first.append (induction others)

end Nesting

open Nesting

variable {chars front back before inside : List Char}

/-- A text that closes all the parentheses and quotes that it opens, and no others. -/
def Balanced (chars : List Char) : Prop :=
  Leads {} chars {}

instance : Decidable (Balanced chars) :=
  inferInstanceAs (Decidable (Leads {} chars {}))

namespace Balanced

theorem nil : Balanced [] :=
  leads_nil_iff.mpr ⟨Int.le_refl 0, rfl⟩

theorem append (first : Balanced front) (second : Balanced back) : Balanced (front ++ back) :=
  Leads.append first second

theorem of_neutral (neutral : ∀ char ∈ chars, char ∉ marks) : Balanced chars := by
  induction chars with
  | nil => exact nil
  | cons char chars induction =>
      obtain ⟨first, others⟩ := List.forall_mem_cons.mp neutral
      refine leads_cons_iff.mpr ⟨Int.le_refl 0, ?_⟩
      rw [next_of_neutral rfl first]
      exact induction others

theorem parenthesized (balanced : Balanced inside) : Balanced ('(' :: (inside ++ [')'])) := by
  have opens : Leads {} ['('] (({} : Nesting).deeper 1) := by decide
  have closes : Leads (({} : Nesting).deeper 1) [')'] {} := by decide
  exact opens.append ((Leads.deeper balanced (by decide)).append closes)

theorem intercalate {separator : List Char} {parts : List (List Char)}
    (between : Balanced separator) (each : ∀ part ∈ parts, Balanced part) :
    Balanced (separator.intercalate parts) := by
  cases parts with
  | nil => exact nil
  | cons part parts =>
      obtain ⟨first, others⟩ := List.forall_mem_cons.mp each
      rw [Delimited.intercalate_cons]
      apply first.append
      apply leads_flatMap (Int.le_refl 0)
      intro other member
      exact between.append (others other member)

theorem enclosed {separator : List Char} {parts : List (List Char)} (between : Balanced separator)
    (each : ∀ part ∈ parts, Balanced part) : Balanced (enclosed separator parts) := by
  unfold Fragment.enclosed
  split
  · exact (intercalate between each).parenthesized
  · exact intercalate between each

end Balanced

theorem neutral_of_isBare {char : Char} (bare : isBare char = true) : char ∉ marks := by
  have others : marks.any isBare = false := by decide +kernel
  intro member
  rw [List.any_eq_false] at others
  exact others char member bare

theorem leads_quotedChar (char : Char) :
    Leads { quoted := true } (quotedChar char) { quoted := true } := by
  by_cases special : char = '"' ∨ char = '\\'
  · rcases special with rfl | rfl <;> decide
  · obtain ⟨noQuote, noBackslash⟩ := not_or.mp special
    simp [quotedChar, leads_cons_iff, leads_nil_iff, next, noQuote, noBackslash]

/-- Values are balanced in their quotes, whatever they hold. -/
theorem balanced_quoteChars (value : List Char) : Balanced (quoteChars value) := by
  unfold quoteChars
  split
  · rename_i bare
    simp only [Bool.and_eq_true, List.all_eq_true] at bare
    exact .of_neutral fun char member => neutral_of_isBare (bare.2 char member)
  · have opens : Leads {} ['"'] { quoted := true } := by decide
    have inside : Leads { quoted := true } (value.flatMap quotedChar) { quoted := true } :=
      leads_flatMap (Int.le_refl 0) fun char _ => leads_quotedChar char
    have closes : Leads { quoted := true } ['"'] {} := by decide
    exact opens.append (inside.append closes)

/-- Behind backslashes, no character of a value opens or closes anything. -/
theorem balanced_escapeChars (value : List Char) : Balanced (escapeChars value) := by
  apply leads_flatMap (Int.le_refl 0)
  intro char _
  unfold escapedChar
  split
  · simp [leads_cons_iff, leads_nil_iff, next]
  · rename_i ordinary
    apply Balanced.of_neutral
    intro other only special
    obtain rfl := List.mem_singleton.mp only
    have escaped : marks.all isSyntax = true := by decide
    exact ordinary (List.all_eq_true.mp escaped other special)

/-- Parentheses behind `before` belong together: the first is opened there, and all that is read from
then on is inside of it, up to the second. -/
structure Encloses (before inside : List Char) : Prop where
  opens : (read {} (before ++ ['('])).depth = (read {} before).depth + 1
  within : ∀ beginning, beginning <+: inside →
    (read {} before).depth < (read {} (before ++ '(' :: beginning)).depth
  closes : (read {} (before ++ '(' :: (inside ++ [')']))).depth = (read {} before).depth

theorem read_open (counts : (read {} before).counting = true) (chars : List Char) :
    read {} (before ++ '(' :: chars) =
      (read {} chars).deeper ((read {} before).depth + 1) := by
  have opened : (read {} before).next '(' =
      ({} : Nesting).deeper ((read {} before).depth + 1) := by
    rw [eq_deeper counts, next_deeper]
    simp [next, deeper, Int.add_comm]
  rw [read_append, read_cons, opened, read_deeper]

/-- Parentheses belong together exactly if the first of them counts and what is between them is
balanced. -/
theorem encloses_iff :
    Encloses before inside ↔ (read {} before).counting = true ∧ Balanced inside := by
  constructor
  · intro encloses
    have counts : (read {} before).counting = true := by
      by_contra quiet
      have opens := encloses.opens
      rw [read_append, read_cons, read_nil, depth_next_open, if_neg quiet] at opens
      omega
    have stays : ∀ beginning, beginning <+: inside → 0 ≤ (read {} beginning).depth := by
      intro beginning starts
      have deep := encloses.within beginning starts
      rw [read_open counts, depth_deeper] at deep
      omega
    have final := stays inside (List.prefix_refl inside)
    have closes := encloses.closes
    rw [read_open counts, read_append, read_cons, read_nil, depth_deeper,
      depth_next_close] at closes
    -- The last parenthesis has to close one level, so it counts, and there is no other to close.
    have ends : (read {} inside).counting = true := by
      by_contra quiet
      rw [if_neg quiet] at closes
      omega
    have level : (read {} inside).depth = 0 := by
      rw [if_pos ends] at closes
      omega
    refine ⟨counts, ?_, stays⟩
    rw [eq_deeper ends, level]
    rfl
  · rintro ⟨counts, balanced⟩
    refine ⟨?_, ?_, ?_⟩
    · rw [read_open counts, read_nil, depth_deeper, Int.zero_add]
    · intro beginning starts
      have shallow := balanced.stays beginning starts
      rw [read_open counts, depth_deeper]
      omega
    · have closed : (next {} ')').depth = -1 := rfl
      rw [read_open counts, read_append, balanced.settled, read_cons, read_nil, depth_deeper, closed]
      omega

instance : Decidable (Encloses before inside) :=
  decidable_of_iff _ encloses_iff.symm

end Retrieval.Fragment
