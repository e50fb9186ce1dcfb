import Mathlib.Algebra.GroupWithZero.Nat
import Retrieval.Directory

namespace Retrieval.Directory

theorem findNamed_eq_some_iff {name : String} {value : α} {entries : List (String × α)}
    (distinct : (entries.map Prod.fst).Nodup) :
    findNamed name entries = some value ↔ (name, value) ∈ entries := by
  induction entries with
  | nil => simp [findNamed]
  | cons entry rest induction =>
      obtain ⟨fresh, others⟩ := List.nodup_cons.mp distinct
      by_cases here : entry.1 = name
      · subst here
        have absent : (entry.1, value) ∉ rest := fun member =>
          fresh (List.mem_map.mpr ⟨_, member, rfl⟩)
        simp [findNamed, absent, Prod.ext_iff, eq_comm]
      · have elsewhere : (name, value) ≠ entry := fun same => here (same ▸ rfl)
        simp [findNamed, here, elsewhere, induction others]

theorem find?_eq_some_iff {directory : Directory α} {name : String} {value : α} :
    directory.find? name = some value ↔ (name, value) ∈ directory.entries :=
  findNamed_eq_some_iff directory.distinct

theorem ext {left right : Directory α} (same : left.entries = right.entries) : left = right := by
  obtain ⟨entries, _⟩ := left
  cases same
  rfl

theorem filter_eq_self {directory : Directory α} {keep : α → Bool}
    (kept : ∀ entry ∈ directory.entries, keep entry.2 = true) : directory.filter keep = directory :=
  ext (List.filter_eq_self.mpr kept)

theorem map_eq_self {directory : Directory α} {change : α → α}
    (same : ∀ entry ∈ directory.entries, change entry.2 = entry.2) :
    directory.map change = directory := by
  refine ext ((List.map_congr_left fun entry listed => ?_).trans (List.map_id _))
  rw [same entry listed]
  rfl

theorem find?_filter (directory : Directory α) (keep : α → Bool) (name : String) :
    (directory.filter keep).find? name = (directory.find? name).filter keep := by
  refine Option.ext fun value => ?_
  simp [find?_eq_some_iff, Option.filter_eq_some_iff, filter]

theorem sum_putNamed (measure : α → Nat) (name : String) (value : α)
    (entries : List (String × α)) :
    ((putNamed name value entries).map fun entry => measure entry.2).sum +
        ((findNamed name entries).map measure).getD 0 =
      (entries.map fun entry => measure entry.2).sum + measure value := by
  induction entries with
  | nil => simp [putNamed, findNamed]
  | cons entry rest induction =>
      by_cases here : entry.1 = name
      · simp only [putNamed, findNamed, if_pos here, List.map_cons, List.sum_cons, Option.map_some,
          Option.getD_some]
        omega
      · simp only [putNamed, findNamed, if_neg here, List.map_cons, List.sum_cons]
        omega

@[simp] theorem isEmpty_insert (directory : Directory α) (name : String) (value : α) :
    (directory.insert name value).isEmpty = false := by
  obtain ⟨entries, distinct⟩ := directory
  cases entries with
  | nil => rfl
  | cons entry rest =>
      simp only [isEmpty, insert, putNamed]
      split <;> rfl

theorem size_insert (directory : Directory α) (name : String) (value : α) :
    (directory.insert name value).size =
      directory.size + if (directory.find? name).isNone then 1 else 0 := by
  have counted := sum_putNamed (fun _ => 1) name value directory.entries
  simp only [List.map_const', List.sum_replicate_nat, Nat.mul_one] at counted
  cases found : findNamed name directory.entries with
  | none =>
      rw [found] at counted
      simpa [size, insert, find?, found] using counted
  | some old =>
      rw [found] at counted
      simpa [size, insert, find?, found] using counted

end Retrieval.Directory
