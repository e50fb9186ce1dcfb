import Mathlib.Data.List.Induction
import Retrieval.Proofs.Schedule.Session

/-!
The books of a maintenance service. After every run its reports tell of each registered job what
was answered whenever it ran, from its registration on.
-/

namespace Retrieval.Workspace

open Schedule

variable {calls : List Call} {call : Call} {id : JobId} {plan : Plan} {since : List Call}

/-- The calls end with those `since` a job was registered under an id, and none of them has removed
it. -/
def Standing (calls : List Call) (id : JobId) (plan : Plan) (since : List Call) : Prop :=
  ∃ earlier call, calls = earlier ++ call :: since ∧ call.request = .add plan ∧
    plan.interval ≠ 0 ∧ call.answer = .added (.ok id) ∧
    ∀ later ∈ since, later.request ≠ .remove id

/-- When and how a job has run, if the call has made it run. -/
def Call.outcome? (id : JobId) (call : Call) : Option (Instant × Except Failure Unit) :=
  match call.request, call.answer with
  | .runNow ran, .ran result => if ran = id then some (call.before.wall, result) else none
  | _, _ => none

def outcomes (id : JobId) (calls : List Call) : List (Instant × Except Failure Unit) :=
  calls.filterMap (Call.outcome? id)

theorem standing_concat :
    Standing (calls ++ [call]) id plan since ↔
      (since = [] ∧ call.request = .add plan ∧ plan.interval ≠ 0 ∧
        call.answer = .added (.ok id)) ∨
      ∃ before, since = before ++ [call] ∧ Standing calls id plan before ∧
        call.request ≠ .remove id := by
  constructor
  · rintro ⟨earlier, added, split, asked, repeated, answered, kept⟩
    -- The last call is the registration itself if there is none since, and else the last of those.
    cases since using List.reverseRecOn with
    | nil =>
        obtain ⟨_, same⟩ := List.append_inj' split rfl
        obtain rfl := List.singleton_inj.mp same
        exact .inl ⟨rfl, asked, repeated, answered⟩
    | append_singleton before last =>
        rw [← List.cons_append, ← List.append_assoc] at split
        obtain ⟨rest, same⟩ := List.append_inj' split rfl
        obtain rfl := List.singleton_inj.mp same
        exact .inr ⟨before, rfl, ⟨earlier, added, rest, asked, repeated, answered,
          fun later member => kept later (by simp [member])⟩, kept call (by simp)⟩
  · rintro (⟨rfl, asked, repeated, answered⟩ |
      ⟨before, rfl, ⟨earlier, added, rfl, asked, repeated, answered, kept⟩, stays⟩)
    · exact ⟨calls, call, rfl, asked, repeated, answered, List.forall_mem_nil _⟩
    · refine ⟨earlier, added, by simp, asked, repeated, answered, fun later member => ?_⟩
      rcases List.mem_append.mp member with old | new
      · exact kept later old
      · rw [List.mem_singleton.mp new]
        exact stays

theorem outcomes_concat (id : JobId) (calls : List Call) (call : Call) :
    outcomes id (calls ++ [call]) = outcomes id calls ++ (call.outcome? id).toList := by
  cases found : call.outcome? id <;> simp [outcomes, found]

theorem outcome?_eq_none (other : call.request ≠ .runNow id) : call.outcome? id = none := by
  unfold Call.outcome?
  split
  · rename_i ran result asked _
    exact if_neg fun same => other (by rw [asked, same])
  · rfl

theorem outcome?_ran {result : Except Failure Unit} (asked : call.request = .runNow id)
    (answered : call.answer = .ran result) :
    call.outcome? id = some (call.before.wall, result) := by
  simp [Call.outcome?, asked, answered]

/-- A job that was registered with a plan and has run with some outcomes since. -/
structure Logged (job : Job Task) (plan : Plan)
    (outcomes : List (Instant × Except Failure Unit)) : Prop where
  name : job.name = plan.name
  interval : job.interval = plan.interval
  task : job.task = plan.task
  runs : job.runs = outcomes.length
  failures : job.failures = outcomes.countP fun outcome => (Job.failureOf outcome.2).isSome
  last : (job.lastRun.map fun last => (last.started, last.failure)) =
    outcomes.getLast?.map fun outcome => (outcome.1, Job.failureOf outcome.2)

theorem logged_new (plan : Plan) : Logged plan.job plan [] :=
  ⟨rfl, rfl, rfl, rfl, rfl, rfl⟩

theorem Logged.record {job : Job Task} {outcomes : List (Instant × Except Failure Unit)}
    (logged : Logged job plan outcomes) (started : Instant) (ending : Ending) :
    Logged (job.record started ending) plan (outcomes ++ [(started, ending.result)]) where
  name := logged.name
  interval := logged.interval
  task := logged.task
  runs := by simp [Job.record, logged.runs]
  failures := by
    simp only [Job.record, logged.failures, List.countP_append, List.countP_singleton]
    split <;> rfl
  last := by simp [Job.record]

/-- What a service with some history holds of its jobs. -/
structure Recorded (settings : Schedule.Settings) (calls : List Call) (service : Service Task) :
    Prop where
  settings : service.settings = settings
  orderly : service.Orderly
  handed : ∀ call ∈ calls, ∀ id, call.answer = .added (.ok id) → id < service.next
  standing : ∀ id job, service.job? id = some job → ∃ plan since, Standing calls id plan since
  logged : ∀ id plan since, Standing calls id plan since →
    ∃ job, service.job? id = some job ∧ Logged job plan (outcomes id since)

theorem recorded_nil (settings : Schedule.Settings) : Recorded settings [] { settings } where
  settings := rfl
  orderly := ⟨List.nodup_nil, List.forall_mem_nil _⟩
  handed := List.forall_mem_nil _
  standing _ _ found := by contradiction
  logged _ _ _ standing := by
    obtain ⟨earlier, call, split, _⟩ := standing
    simp at split

section Step

variable {settings : Schedule.Settings} (recorded : Recorded settings calls call.before.service)

include recorded

theorem Recorded.logged_kept (standing : Standing calls id plan since)
    (other : call.request ≠ .runNow id) :
    ∃ job, call.before.service.job? id = some job ∧
      Logged job plan (outcomes id (since ++ [call])) := by
  obtain ⟨job, found, logged⟩ := recorded.logged id plan since standing
  rw [outcomes_concat, outcome?_eq_none other]
  exact ⟨job, found, by simpa using logged⟩

theorem Recorded.standing_kept {job : Job Task} (found : call.before.service.job? id = some job)
    (stays : call.request ≠ .remove id) :
    ∃ plan since, Standing (calls ++ [call]) id plan since := by
  obtain ⟨plan, since, standing⟩ := recorded.standing id job found
  exact ⟨plan, since ++ [call], standing_concat.mpr (.inr ⟨since, rfl, standing, stays⟩)⟩

theorem Recorded.handed_kept (noneAdded : ∀ id, call.answer ≠ .added (.ok id)) :
    ∀ other ∈ calls ++ [call], ∀ id, other.answer = .added (.ok id) →
      id < call.before.service.next := by
  intro other member id answered
  rcases List.mem_append.mp member with old | new
  · exact recorded.handed other old id answered
  · rw [List.mem_singleton.mp new] at answered
    exact absurd answered (noneAdded id)

theorem Recorded.add (asked : call.request = .add plan) (repeated : plan.interval ≠ 0)
    (answered : call.answer = .added (.ok call.before.service.next)) :
    Recorded settings (calls ++ [call]) (call.before.service.registered plan.job) where
  settings := recorded.settings
  orderly := Service.orderly_registered recorded.orderly plan.job
  handed other member id added := by
    rcases List.mem_append.mp member with old | new
    · exact Nat.lt_succ_of_lt (recorded.handed other old id added)
    · rw [List.mem_singleton.mp new, answered] at added
      cases added
      exact Nat.lt_succ_self _
  standing id job found := by
    rw [Service.job?_registered recorded.orderly] at found
    split at found
    · rename_i same
      exact ⟨plan, [], standing_concat.mpr (.inl ⟨rfl, asked, repeated, same ▸ answered⟩)⟩
    · exact recorded.standing_kept found (by simp [asked])
  logged id other since standing := by
    rw [Service.job?_registered recorded.orderly]
    rcases standing_concat.mp standing with ⟨rfl, again, _, same⟩ | ⟨before, rfl, standing, _⟩
    · rw [asked] at again
      rw [answered] at same
      cases again
      cases same
      exact ⟨plan.job, if_pos rfl, logged_new plan⟩
    · obtain ⟨job, found, logged⟩ := recorded.logged_kept standing (by simp [asked])
      have old : id ≠ call.before.service.next := (Service.lt_next recorded.orderly found).ne
      exact ⟨job, by rw [if_neg old, found], logged⟩

theorem Recorded.remove {gone : JobId} (asked : call.request = .remove gone)
    (answered : call.answer = .removed (.ok ())) :
    Recorded settings (calls ++ [call]) (call.before.service.without gone) where
  settings := recorded.settings
  orderly := Service.orderly_without recorded.orderly gone
  handed := recorded.handed_kept (by simp [answered])
  standing id job found := by
    rw [Service.job?_without] at found
    split at found
    · contradiction
    · rename_i other
      exact recorded.standing_kept found (by simp [asked, Ne.symm other])
  logged id plan since standing := by
    rcases standing_concat.mp standing with ⟨_, added, _⟩ | ⟨before, rfl, standing, stays⟩
    · simp [asked] at added
    · obtain ⟨job, found, logged⟩ := recorded.logged_kept standing (by simp [asked])
      have other : id ≠ gone := fun same => stays (by rw [asked, same])
      exact ⟨job, by rw [Service.job?_without, if_neg other, found], logged⟩

theorem Recorded.ran {ran : JobId} {job : Job Task} (asked : call.request = .runNow ran)
    (known : call.before.service.job? ran = some job)
    (answered : call.answer = .ran (call.before.ending job).result) :
    Recorded settings (calls ++ [call]) (call.before.service.replaced ran
      (job.record call.before.wall (call.before.ending job))) where
  settings := recorded.settings
  orderly := Service.orderly_replaced recorded.orderly ran _
  handed := recorded.handed_kept (by simp [answered])
  standing id _ found := by
    rw [Service.job?_replaced known] at found
    split at found
    · rename_i same
      exact recorded.standing_kept (same ▸ known) (by simp [asked])
    · exact recorded.standing_kept found (by simp [asked])
  logged id plan since standing := by
    rw [Service.job?_replaced known]
    rcases standing_concat.mp standing with ⟨_, added, _⟩ | ⟨before, rfl, standing, _⟩
    · simp [asked] at added
    · by_cases same : id = ran
      · subst same
        -- Both the service and the history know the job, so it is the one that has just run.
        obtain ⟨old, found, logged⟩ := recorded.logged id plan before standing
        rw [known] at found
        cases found
        rw [outcomes_concat, outcome?_ran asked answered, if_pos rfl]
        exact ⟨_, rfl, logged.record _ _⟩
      · rw [if_neg same]
        exact recorded.logged_kept standing (by simp [asked, Ne.symm same])

/-- A call that finds no job to change. -/
theorem Recorded.quiet (noneAdded : ∀ id, call.answer ≠ .added (.ok id))
    (unknown : ∀ id, call.request = .remove id ∨ call.request = .runNow id →
      call.before.service.job? id = none) :
    Recorded settings (calls ++ [call]) call.before.service where
  settings := recorded.settings
  orderly := recorded.orderly
  handed := recorded.handed_kept noneAdded
  standing id job found := by
    refine recorded.standing_kept found fun asked => ?_
    rw [unknown id (.inl asked)] at found
    contradiction
  logged id plan since standing := by
    rcases standing_concat.mp standing with ⟨_, _, _, added⟩ | ⟨before, rfl, standing, _⟩
    · exact absurd added (noneAdded id)
    · refine recorded.logged_kept standing fun asked => ?_
      obtain ⟨job, found, _⟩ := recorded.logged id plan before standing
      rw [unknown id (.inr asked)] at found
      contradiction

theorem Recorded.step :
    Recorded settings (calls ++ [call]) (call.before.step call.request).2.service := by
  rcases step_cases call.before call.request with
    ⟨plan, asked, repeated, answered, after⟩ | ⟨gone, job, asked, _, answered, after⟩ |
      ⟨ran, job, asked, known, answered, after⟩ | ⟨noneAdded, unknown, after⟩
  · rw [after]
    exact recorded.add asked repeated answered
  · rw [after]
    exact recorded.remove asked answered
  · rw [after]
    exact recorded.ran asked known answered
  · rw [after]
    exact recorded.quiet noneAdded unknown

end Step

theorem recorded_run (workspace : Workspace) (settings : Schedule.Settings)
    (requests : List Request) :
    Recorded settings ((workspace.opened settings).calls requests)
      ((workspace.opened settings).run requests).service := by
  induction requests using List.reverseRecOn with
  | nil => exact recorded_nil settings
  | append_singleton requests request induction =>
      rw [run_concat, calls_concat]
      exact induction.step

/-- What a report has to tell of a job that was registered with a plan and has run with some
outcomes since. -/
structure Tells (report : Report) (id : JobId) (plan : Plan)
    (outcomes : List (Instant × Except Failure Unit)) : Prop where
  id : report.id = id
  name : report.name = plan.name
  intervalSeconds : report.intervalSeconds = plan.interval / nanosPerSecond
  runs : report.runs = outcomes.length
  failures : report.failures = outcomes.countP fun outcome => (Job.failureOf outcome.2).isSome
  ran : report.lastRun.isSome = true ↔ 0 < report.runs
  lastRun : report.lastRun = outcomes.getLast?.map Prod.fst
  lastError : report.lastError =
    (outcomes.getLast?.bind fun outcome => Job.failureOf outcome.2).map Failure.message

theorem Logged.tells {job : Job Task} {outcomes : List (Instant × Except Failure Unit)}
    (logged : Logged job plan outcomes) (id : JobId) : Tells (job.report id) id plan outcomes := by
  have lastRun : job.lastRun.map LastRun.started = outcomes.getLast?.map Prod.fst := by
    simpa [Function.comp_def] using congrArg (Option.map Prod.fst) logged.last
  have lastFailure : job.lastFailure =
      outcomes.getLast?.bind fun outcome => Job.failureOf outcome.2 := by
    have failures := congrArg (fun last => last.bind Prod.snd) logged.last
    simpa [Job.lastFailure, Option.bind_map, Function.comp_def] using failures
  exact {
    id := rfl
    name := logged.name
    intervalSeconds := by rw [← logged.interval]; rfl
    runs := logged.runs
    failures := logged.failures
    ran := by
      change (job.lastRun.map LastRun.started).isSome = true ↔ 0 < job.runs
      rw [lastRun, logged.runs]
      cases outcomes using List.reverseRecOn <;> simp
    lastRun := lastRun
    lastError := by rw [← lastFailure]; rfl }

/-- The request is about the job with that id: it adds it, or removes it, or makes it run. -/
def Concerns (workspace : Workspace) (request : Request) (id : JobId) : Prop :=
  (workspace.step request).1 = .added (.ok id) ∨ request = .remove id ∨ request = .runNow id

variable {workspace : Workspace}

theorem report?_step (orderly : workspace.service.Orderly) {request : Request} {id : JobId}
    (other : ¬ Concerns workspace request id) :
    (workspace.step request).2.service.report? id = workspace.service.report? id := by
  unfold Service.report?
  rcases step_cases workspace request with
    ⟨plan, rfl, _, answered, after⟩ | ⟨gone, job, rfl, _, _, after⟩ |
      ⟨ran, job, rfl, known, _, after⟩ | ⟨_, _, after⟩
  · have different : id ≠ workspace.service.next := fun same => other (.inl (same ▸ answered))
    rw [after, Service.job?_registered orderly, if_neg different]
  · have different : id ≠ gone := fun same => other (.inr (.inl (by rw [same])))
    rw [after, Service.job?_without, if_neg different]
  · have different : id ≠ ran := fun same => other (.inr (.inr (by rw [same])))
    rw [after, Service.job?_replaced known, if_neg different]
  · rw [after]

/-- What a cleanup job does in a run that nothing cuts short: one cleanup of its store. -/
structure Swept (before : Workspace) (number : Nat) (slot : Slot) (after : Workspace) : Prop where
  store : after.slots[number]? =
    some { slot with store := (slot.store.cleanup (before.now slot)).2 }
  others : ∀ other, other ≠ number → after.slots[other]? = before.slots[other]?
  tally : after.tally =
    { before.tally with
      evicted := before.tally.evicted + (slot.store.cleanup (before.now slot)).1
      cleanups := before.tally.cleanups + 1
      completed := before.tally.completed + 1 }
  clock : after.clock = before.clock
  wall : after.wall = before.wall

/-- What is known of a service after a run. Its reports are those of the jobs that were added with
an interval and have not been removed since, and they tell what the calls were answered. -/
structure Reported (settings : Schedule.Settings) (calls : List Call) (workspace : Workspace) :
    Prop where
  registered : ∀ id, (workspace.service.report? id).isSome = true ↔
    ∃ plan since, Standing calls id plan since
  told : ∀ id plan since, Standing calls id plan since →
    ∃ report, workspace.service.report? id = some report ∧
      Tells report id plan (outcomes id since)
  /-- A job that is added is known by an id that no job has had before. -/
  added : ∀ plan, plan.interval ≠ 0 → ∃ id,
    (workspace.step (.add plan)).1 = .added (.ok id) ∧
      ∀ call ∈ calls, call.answer ≠ .added (.ok id)
  refused : ∀ plan, plan.interval = 0 → ∃ failure, failure.kind = .configuration ∧
    workspace.step (.add plan) = (.added (.error failure), workspace)
  unknown : ∀ id, workspace.service.report? id = none → ∃ failure,
    failure.kind = .invalidArgument ∧
      workspace.step (.remove id) = (.removed (.error failure), workspace) ∧
      workspace.step (.runNow id) = (.ran (.error failure), workspace)
  others : ∀ request id, ¬ Concerns workspace request id →
    (workspace.step request).2.service.report? id = workspace.service.report? id
  listed : ∀ report, report ∈ workspace.service.reports ↔
    workspace.service.report? report.id = some report
  listedOnce : (workspace.service.reports.map Report.id).Nodup
  ordered : workspace.service.reports.Pairwise fun left right => left.name ≤ right.name
  /-- A run that ends in time is answered with what its task came to. -/
  ended : ∀ id plan since, Standing calls id plan since →
    (plan.task.course (outcomes id since).length).endsWithin settings.timeout = true →
    (workspace.step (.runNow id)).1 = .ran (plan.task.course (outcomes id since).length).result
  cleaned : ∀ id plan since number sweep slot, Standing calls id plan since →
    plan.task = .cleanup number sweep → workspace.slots[number]? = some slot →
    (sweep (outcomes id since).length).course.endsWithin settings.timeout = true →
    (sweep (outcomes id since).length).aborted = none →
    Swept workspace number slot (workspace.step (.runNow id)).2
  /-- A run that is aborted leaves the stores as they are. -/
  aborted : ∀ id plan since number sweep reason, Standing calls id plan since →
    plan.task = .cleanup number sweep →
    (sweep (outcomes id since).length).course.endsWithin settings.timeout = true →
    (sweep (outcomes id since).length).aborted = some reason →
    (workspace.step (.runNow id)).2.slots = workspace.slots ∧
      (workspace.step (.runNow id)).2.tally =
        { workspace.tally with aborted := workspace.tally.aborted + 1 }

theorem ending_in_time {job : Job Task}
    (inTime : (nextCourse job).endsWithin workspace.service.settings.timeout = true) :
    (workspace.ending job).result = (nextCourse job).result := by
  unfold Course.endsWithin at inTime
  unfold ending Course.within
  cases ends : (nextCourse job).duration with
  | none => simp [ends] at inTime
  | some duration =>
      rw [ends, Option.any_some] at inTime
      rw [Option.filter_some, if_pos inTime]

theorem swept_perform {job : Job Task} {number : Nat} {sweep : Nat → Sweep} {slot : Slot}
    (task : job.task = .cleanup number sweep) (there : workspace.slots[number]? = some slot)
    (inTime : (sweep job.runs).course.endsWithin workspace.service.settings.timeout = true)
    (whole : (sweep job.runs).aborted = none) :
    Swept workspace number slot (workspace.perform job) := by
  have performed : workspace.perform job =
      let after := (workspace.cleanup number slot).2
      { after with tally := { after.tally with completed := after.tally.completed + 1 } } := by
    simp only [perform, task, whole, there, inTime, if_true]
  rw [performed]
  exact {
    store := by simp [cleanup, setStore, there]
    others := fun other different => by simp [cleanup, setStore, Ne.symm different]
    tally := rfl
    clock := rfl
    wall := rfl }

theorem perform_aborted {job : Job Task} {number : Nat} {sweep : Nat → Sweep} {reason : String}
    (task : job.task = .cleanup number sweep)
    (inTime : (sweep job.runs).course.endsWithin workspace.service.settings.timeout = true)
    (given : (sweep job.runs).aborted = some reason) :
    workspace.perform job =
      { workspace with
        tally := { workspace.tally with aborted := workspace.tally.aborted + 1 } } := by
  simp only [perform, task, given, inTime, if_true]

section Reports

variable {settings : Schedule.Settings} (recorded : Recorded settings calls workspace.service)

include recorded

theorem Recorded.told (standing : Standing calls id plan since) :
    ∃ report, workspace.service.report? id = some report ∧
      Tells report id plan (outcomes id since) := by
  obtain ⟨job, found, logged⟩ := recorded.logged id plan since standing
  exact ⟨job.report id, by rw [Service.report?, found]; rfl, logged.tells id⟩

theorem Recorded.registered_iff (id : JobId) :
    (workspace.service.report? id).isSome = true ↔ ∃ plan since, Standing calls id plan since := by
  constructor
  · intro there
    obtain ⟨report, told⟩ := Option.isSome_iff_exists.mp there
    obtain ⟨job, found, _⟩ := Option.map_eq_some_iff.mp told
    exact recorded.standing id job found
  · rintro ⟨plan, since, standing⟩
    obtain ⟨report, told, _⟩ := recorded.told standing
    rw [told]
    rfl

theorem Recorded.ended (standing : Standing calls id plan since)
    (inTime : (plan.task.course (outcomes id since).length).endsWithin settings.timeout = true) :
    (workspace.step (.runNow id)).1 =
      .ran (plan.task.course (outcomes id since).length).result := by
  obtain ⟨job, found, logged⟩ := recorded.logged id plan since standing
  have next : nextCourse job = plan.task.course (outcomes id since).length := by
    rw [nextCourse, logged.task, logged.runs]
  rw [← next, ← recorded.settings] at inTime
  rw [step_runNow found, ending_in_time inTime, next]

theorem Recorded.cleaned {number : Nat} {sweep : Nat → Sweep} {slot : Slot}
    (standing : Standing calls id plan since) (task : plan.task = .cleanup number sweep)
    (there : workspace.slots[number]? = some slot)
    (inTime : (sweep (outcomes id since).length).course.endsWithin settings.timeout = true)
    (whole : (sweep (outcomes id since).length).aborted = none) :
    Swept workspace number slot (workspace.step (.runNow id)).2 := by
  obtain ⟨job, found, logged⟩ := recorded.logged id plan since standing
  rw [← logged.runs] at inTime whole
  rw [← recorded.settings] at inTime
  have swept := swept_perform (logged.task.trans task) there inTime whole
  rw [step_runNow found]
  exact ⟨swept.store, swept.others, swept.tally, swept.clock, swept.wall⟩

theorem Recorded.aborted {number : Nat} {sweep : Nat → Sweep} {reason : String}
    (standing : Standing calls id plan since) (task : plan.task = .cleanup number sweep)
    (inTime : (sweep (outcomes id since).length).course.endsWithin settings.timeout = true)
    (given : (sweep (outcomes id since).length).aborted = some reason) :
    (workspace.step (.runNow id)).2.slots = workspace.slots ∧
      (workspace.step (.runNow id)).2.tally =
        { workspace.tally with aborted := workspace.tally.aborted + 1 } := by
  obtain ⟨job, found, logged⟩ := recorded.logged id plan since standing
  rw [← logged.runs] at inTime given
  rw [← recorded.settings] at inTime
  rw [step_runNow found, perform_aborted (logged.task.trans task) inTime given]
  exact ⟨rfl, rfl⟩

theorem Recorded.reported : Reported settings calls workspace := by
  have absent : ∀ id, workspace.service.report? id = none → workspace.service.job? id = none :=
    fun id => Option.map_eq_none_iff.mp
  exact {
    registered := recorded.registered_iff
    told := fun _ _ _ => recorded.told
    added := fun plan repeated => ⟨workspace.service.next, by rw [step_add repeated],
      fun call member again => lt_irrefl _ (recorded.handed call member _ again)⟩
    refused := fun plan never => ⟨_, rfl, step_add_refused never⟩
    unknown := fun id unknown => ⟨_, rfl, step_remove_unknown (absent id unknown),
      step_runNow_unknown (absent id unknown)⟩
    others := fun _ _ => report?_step recorded.orderly
    listed := fun _ => Service.mem_reports_iff recorded.orderly
    listedOnce := Service.nodup_reports recorded.orderly
    ordered := Service.pairwise_reports workspace.service
    ended := fun _ _ _ => recorded.ended
    cleaned := fun _ _ _ _ _ _ => recorded.cleaned
    aborted := fun _ _ _ _ _ _ => recorded.aborted }

end Reports

/-- The reports of a service that starts without jobs tell of all that has become of them since,
whatever the stores beside it hold. -/
theorem run_reported (workspace : Workspace) (settings : Schedule.Settings)
    (requests : List Request) :
    Reported settings ((workspace.opened settings).calls requests)
      ((workspace.opened settings).run requests) :=
  (recorded_run workspace settings requests).reported

/-- One job fails at first, the other cleans up a store with an expired entry. -/
theorem reported_news_and_cleanup :
    let store : Suggestion.Store :=
      { settings := { ttl := 60 }
        groups := ⟨[("drinks", ⟨[("tea", ⟨{ second := 0 }, 0⟩), ("tent", ⟨{ second := 30 }, 1⟩)],
          by decide⟩)], by decide⟩
        indexed := 2
        gauge := 2 }
    let workspace : Workspace :=
      { wall := { second := 1000 }
        clock := { second := 0 }
        slots := [{ store, source := .manual }]
        service := { settings := {} } }
    let failure : Failure := .reported .internal "no news"
    let news : Plan := ⟨"news", nanosPerSecond, .courses fun runs =>
      ⟨some 0, if runs = 0 then .error failure else .ok ()⟩⟩
    let upkeep : Plan := ⟨cleanupJobName, 30 * nanosPerSecond, .cleanup 0 fun _ => {}⟩
    let requests : List Request :=
      [.add news, .add upkeep, .moveClock { second := 61 }, .runNow 0, .runNow 1,
        .moveWall { second := 2000 }, .runNow 0]
    let after := (workspace.opened {}).run requests
    Reported {} ((workspace.opened {}).calls requests) after ∧
      after.tally = { evicted := 1, cleanups := 1, completed := 1 } ∧
      (after.slots.map fun slot => slot.store.entries) =
        [[("drinks", "tent", ⟨{ second := 30 }, 1⟩)]] ∧
      ((after.service.report? 0).map fun told =>
        (told.runs, told.failures, told.lastRun, told.lastError)) =
          some (2, 1, some { second := 2000 }, none) ∧
      ((after.service.report? 1).map fun told => (told.runs, told.failures, told.lastRun)) =
        some (1, 0, some { second := 1000 }) := by
  intro store workspace failure news upkeep requests after
  exact ⟨run_reported workspace {} requests, by decide +kernel, by decide +kernel,
    by decide +kernel, by decide +kernel⟩

end Retrieval.Workspace
