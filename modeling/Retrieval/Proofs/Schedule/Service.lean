import Mathlib.Data.List.Nodup
import Mathlib.Data.String.Basic
import Retrieval.Schedule.Service

namespace Retrieval.Schedule.Service

variable {service : Service τ}

structure Orderly (service : Service τ) : Prop where
  distinct : (service.jobs.map Prod.fst).Nodup
  below : ∀ entry ∈ service.jobs, entry.1 < service.next

def registered (service : Service τ) (job : Job τ) : Service τ :=
  { service with jobs := service.jobs ++ [(service.next, job)], next := service.next + 1 }

def without (service : Service τ) (id : JobId) : Service τ :=
  { service with jobs := service.jobs.filter fun entry => entry.1 != id }

def replaced (service : Service τ) (id : JobId) (job : Job τ) : Service τ :=
  { service with jobs := service.jobs.map fun entry => if entry.1 == id then (id, job) else entry }

theorem eq_of_find?_eq_some {id : JobId} {entry : JobId × Job τ}
    (found : (service.jobs.find? fun entry => entry.1 == id) = some entry) : entry.1 = id := by
  simpa using List.find?_some found

theorem job?_eq_some_iff (orderly : service.Orderly) {id : JobId} {job : Job τ} :
    service.job? id = some job ↔ (id, job) ∈ service.jobs := by
  simp only [job?, Option.map_eq_some_iff]
  constructor
  · rintro ⟨entry, found, rfl⟩
    have same := eq_of_find?_eq_some found
    subst same
    exact List.mem_of_find?_eq_some found
  · intro member
    cases found : service.jobs.find? fun entry => entry.1 == id with
    | none => exact absurd (List.find?_eq_none.mp found _ member) (by simp)
    | some entry =>
        have same : entry = (id, job) :=
          List.inj_on_of_nodup_map orderly.distinct (List.mem_of_find?_eq_some found) member
            (eq_of_find?_eq_some found)
        exact ⟨entry, rfl, by rw [same]⟩

theorem isSome_job?_iff {id : JobId} :
    (service.job? id).isSome = true ↔ id ∈ service.jobs.map Prod.fst := by
  simp [job?]

theorem lt_next (orderly : service.Orderly) {id : JobId} {job : Job τ}
    (found : service.job? id = some job) : id < service.next :=
  orderly.below _ ((job?_eq_some_iff orderly).mp found)

theorem job?_next (orderly : service.Orderly) : service.job? service.next = none := by
  cases found : service.job? service.next with
  | none => rfl
  | some job => exact absurd (lt_next orderly found) (lt_irrefl _)

theorem job?_registered (orderly : service.Orderly) (job : Job τ) (id : JobId) :
    (service.registered job).job? id = if id = service.next then some job else service.job? id := by
  by_cases same : id = service.next
  · subst same
    have absent : (service.jobs.find? fun entry => entry.1 == service.next) = none :=
      Option.map_eq_none_iff.mp (job?_next orderly)
    simp [job?, registered, List.find?_append, absent]
  · simp [job?, registered, List.find?_append, same, Ne.symm same]

theorem job?_without (service : Service τ) (id other : JobId) :
    (service.without id).job? other = if other = id then none else service.job? other := by
  simp only [job?, without, List.find?_filter]
  split
  · rename_i same
    simp [same]
  · rename_i different
    congr 2
    funext entry
    by_cases named : entry.1 = other <;> simp [named, different]

theorem job?_without_self (service : Service τ) (id : JobId) :
    (service.without id).job? id = none := by
  rw [job?_without, if_pos rfl]

theorem job?_replaced {id : JobId} {job old : Job τ} (found : service.job? id = some old)
    (other : JobId) :
    (service.replaced id job).job? other =
      if other = id then some job else service.job? other := by
  have sameIds : ((fun entry : JobId × Job τ => entry.1 == other) ∘ fun entry =>
      if entry.1 == id then (id, job) else entry) = fun entry => entry.1 == other := by
    funext entry
    by_cases named : entry.1 = id <;> simp [named]
  simp only [job?, replaced, List.find?_map, sameIds, Option.map_map]
  by_cases same : other = id
  · subst same
    obtain ⟨entry, first, rfl⟩ := Option.map_eq_some_iff.mp found
    simp [first, eq_of_find?_eq_some first]
  · rw [if_neg same]
    refine Option.map_congr fun entry first => ?_
    have named : entry.1 = other := by simpa using List.find?_some first
    simp [named, same]

theorem orderly_registered (orderly : service.Orderly) (job : Job τ) :
    (service.registered job).Orderly where
  distinct := by
    have fresh : service.next ∉ service.jobs.map Prod.fst := by
      intro listed
      obtain ⟨entry, member, same⟩ := List.mem_map.mp listed
      exact absurd (orderly.below entry member) (by rw [same]; exact lt_irrefl _)
    simp only [registered, List.map_append, List.map_cons, List.map_nil]
    refine List.nodup_append.mpr ⟨orderly.distinct, List.nodup_singleton _, ?_⟩
    intro id listed new single same
    rw [same, List.mem_singleton.mp single] at listed
    exact fresh listed
  below entry member := by
    rcases List.mem_append.mp member with old | new
    · exact Nat.lt_succ_of_lt (orderly.below entry old)
    · rw [List.mem_singleton.mp new]
      exact Nat.lt_succ_self _

theorem orderly_without (orderly : service.Orderly) (id : JobId) :
    (service.without id).Orderly where
  distinct := orderly.distinct.sublist (List.filter_sublist.map Prod.fst)
  below entry member := orderly.below entry (List.mem_of_mem_filter member)

theorem orderly_replaced (orderly : service.Orderly) (id : JobId) (job : Job τ) :
    (service.replaced id job).Orderly where
  distinct := by
    have sameIds : (service.replaced id job).jobs.map Prod.fst = service.jobs.map Prod.fst := by
      simp only [replaced, List.map_map]
      refine List.map_congr_left fun entry _ => ?_
      by_cases named : entry.1 = id <;> simp [named]
    rw [sameIds]
    exact orderly.distinct
  below entry member := by
    obtain ⟨old, listed, rfl⟩ := List.mem_map.mp member
    have below := orderly.below old listed
    by_cases named : old.1 = id <;> simp_all [replaced]

theorem byName_perm (service : Service τ) : service.byName.Perm service.jobs :=
  List.mergeSort_perm _ _

theorem pairwise_byName (service : Service τ) :
    service.byName.Pairwise fun left right => left.2.name ≤ right.2.name := by
  have ordered : service.byName.Pairwise fun left right =>
      decide (left.2.name ≤ right.2.name) = true := by
    refine List.pairwise_mergeSort ?_ ?_ service.jobs
    · intro first second third below above
      simp only [decide_eq_true_eq] at below above ⊢
      exact le_trans below above
    · intro first second
      simp only [Bool.or_eq_true, decide_eq_true_eq]
      exact le_total _ _
  simpa only [decide_eq_true_eq] using ordered

theorem pairwise_reports (service : Service τ) :
    service.reports.Pairwise fun left right => left.name ≤ right.name :=
  List.pairwise_map.mpr (pairwise_byName service)

theorem nodup_reports (orderly : service.Orderly) : (service.reports.map Report.id).Nodup := by
  have ids : service.reports.map Report.id = service.byName.map Prod.fst := by
    simp [reports, Job.report, Function.comp_def]
  rw [ids]
  exact ((byName_perm service).map Prod.fst).nodup_iff.mpr orderly.distinct

theorem mem_reports_iff (orderly : service.Orderly) {report : Report} :
    report ∈ service.reports ↔ service.report? report.id = some report := by
  simp only [reports, List.mem_map, (byName_perm service).mem_iff, report?,
    Option.map_eq_some_iff, job?_eq_some_iff orderly]
  constructor
  · rintro ⟨⟨id, job⟩, listed, rfl⟩
    exact ⟨job, listed, rfl⟩
  · rintro ⟨job, listed, told⟩
    exact ⟨(report.id, job), listed, told⟩

end Retrieval.Schedule.Service
