import Mathlib.Data.List.Nodup
import Mathlib.Data.List.Perm.Basic
import Retrieval.Facet

/-!
The order of facet buckets does not depend on the order in which they come. Comparing buckets is
comparing by keys one after the other, in one direction or the other, so it is lawful; and buckets
that compare equal are equal, unless they are compared by their terms only and share one.
-/

namespace Retrieval.Facet.BucketOrder

variable {order : BucketOrder} {left right : Bucket} {buckets others : List Bucket}

instance : ∀ order : BucketOrder, Std.TransCmp order.compare
  | ⟨.term, .ascending⟩ => inferInstanceAs (Std.TransCmp (compareOn Bucket.value))
  | ⟨.term, .descending⟩ => @Std.TransCmp.opposite _ (compareOn Bucket.value) _
  | ⟨.count, .ascending⟩ =>
      inferInstanceAs (Std.TransCmp (compareLex (compareOn Bucket.count) (compareOn Bucket.value)))
  | ⟨.count, .descending⟩ =>
      @Std.instTransCmpCompareLex _ _ (compareOn Bucket.value)
        (@Std.TransCmp.opposite _ (compareOn Bucket.count) _) _

/-- Buckets compare equal if they have the same term and, where counts are looked at, the same
count. -/
theorem compare_eq_eq_iff : order.compare left right = .eq ↔
    left.value = right.value ∧ (order.key = .count → left.count = right.count) := by
  obtain ⟨key, direction⟩ := order
  cases key <;> cases direction <;>
    simp [compare, Ordering.then_eq_eq, and_comm, @eq_comm _ right.value, @eq_comm _ right.count]

theorem sort_perm (order : BucketOrder) (buckets : List Bucket) :
    (order.sort buckets).Perm buckets :=
  List.mergeSort_perm buckets _

/-- No bucket stands before one that it comes after. -/
def Sorted (order : BucketOrder) (buckets : List Bucket) : Prop :=
  buckets.Pairwise fun left right => (order.compare left right).isLE = true

theorem sorted_sort (order : BucketOrder) (buckets : List Bucket) :
    order.Sorted (order.sort buckets) := by
  apply List.pairwise_mergeSort
  · intro left middle right before after
    exact Std.TransCmp.isLE_trans before after
  · intro left right
    have swapped : order.compare right left = (order.compare left right).swap :=
      Std.OrientedCmp.eq_swap
    rw [swapped]
    cases order.compare left right <;> rfl

/-- No two of the buckets compare equal unless they are the same: where they are compared by their
terms only, these are distinct. -/
def Separates (order : BucketOrder) (buckets : List Bucket) : Prop :=
  order.key = .term → (buckets.map Bucket.value).Nodup

theorem Separates.eq_of_compare (separate : order.Separates buckets) (member : left ∈ buckets)
    (otherMember : right ∈ buckets) (same : order.compare left right = .eq) : left = right := by
  obtain ⟨values, counts⟩ := compare_eq_eq_iff.mp same
  cases key : order.key with
  | term => exact List.inj_on_of_nodup_map (separate key) member otherMember values
  | count =>
      obtain ⟨value, count⟩ := left
      obtain rfl : value = right.value := values
      obtain rfl : count = right.count := counts key
      rfl

/-- There is one way only to sort buckets that can be told apart. -/
theorem eq_sort_of_sorted (separate : order.Separates buckets) (perm : others.Perm buckets)
    (sorted : order.Sorted others) : others = order.sort buckets := by
  refine List.Perm.eq_of_pairwise ?_ sorted (sorted_sort order buckets)
    (perm.trans (sort_perm order buckets).symm)
  intro left right member otherMember before after
  apply separate.eq_of_compare (perm.mem_iff.mp member)
    ((sort_perm order buckets).mem_iff.mp otherMember)
  exact Std.OrientedCmp.isLE_antisymm before after

theorem sort_eq_of_perm (separate : order.Separates buckets) (perm : buckets.Perm others) :
    order.sort buckets = order.sort others := by
  symm
  apply eq_sort_of_sorted separate ((sort_perm order others).trans perm.symm)
  exact sorted_sort order others

/-- Distinct terms in descending order are those in ascending order backwards. -/
theorem sort_descending (distinct : (buckets.map Bucket.value).Nodup) :
    sort ⟨.term, .descending⟩ buckets = (sort ⟨.term, .ascending⟩ buckets).reverse := by
  symm
  apply eq_sort_of_sorted (fun _ => distinct)
  · exact (List.reverse_perm _).trans (sort_perm _ buckets)
  · exact List.pairwise_reverse.mpr (sorted_sort ⟨.term, .ascending⟩ buckets)

theorem value_le_of_count_eq {direction : Direction}
    (before : (compare ⟨.count, direction⟩ left right).isLE = true)
    (same : left.count = right.count) : left.value ≤ right.value := by
  have terms : (Ord.compare left.value right.value).isLE = true := by
    cases direction <;> simpa [compare, same] using before
  exact (isLE_compareOfLessAndEq String.le_antisymm String.not_le String.le_total).mp terms

/-- What sorting by an order promises: the order is a total one up to buckets that compare equal,
sorting gives the same buckets in that order, and its result depends on nothing else. -/
structure Canonical (order : BucketOrder) : Prop where
  oriented : ∀ left right, order.compare right left = (order.compare left right).swap
  transitive : ∀ left middle right, (order.compare left middle).isLE = true →
    (order.compare middle right).isLE = true → (order.compare left right).isLE = true
  permuted : ∀ buckets, (order.sort buckets).Perm buckets
  sorted : ∀ buckets, order.Sorted (order.sort buckets)
  unique : ∀ buckets others, order.Separates buckets → buckets.Perm others →
    order.sort buckets = order.sort others

/-- Every order sorts canonically. On distinct terms the descending order is the ascending one
backwards; but equal counts are ordered by ascending terms in either direction. -/
theorem canonical (order : BucketOrder) :
    order.Canonical ∧
      (∀ buckets : List Bucket, (buckets.map Bucket.value).Nodup →
        sort ⟨.term, .descending⟩ buckets = (sort ⟨.term, .ascending⟩ buckets).reverse) ∧
      ∀ direction buckets, (sort ⟨.count, direction⟩ buckets).Pairwise fun left right =>
        left.count = right.count → left.value ≤ right.value := by
  refine ⟨⟨?_, ?_, order.sort_perm, order.sorted_sort, ?_⟩, fun _ => sort_descending, ?_⟩
  · intro left right
    exact Std.OrientedCmp.eq_swap
  · intro left middle right before after
    exact Std.TransCmp.isLE_trans before after
  · intro buckets others separate perm
    exact sort_eq_of_perm separate perm
  · intro direction buckets
    exact (sorted_sort ⟨.count, direction⟩ buckets).imp value_le_of_count_eq

end Retrieval.Facet.BucketOrder
