import Mathlib.Algebra.Group.Nat.Defs
import SourceAtlas.Proofs.Build.Parts
import SourceAtlas.Proofs.Rebuild.Requests

/-! The published version, the status and the worker agree. The worker publishes and reports in two
moves, so readers may see a version that the status does not count yet; nothing else ever tells the
two apart. What the status says is what the reports of the run add up to. -/
namespace SourceAtlas

namespace RebuildPhase

/-- Snapshots that are published and not yet counted by the status. -/
def uncounted : RebuildPhase → Nat
  | .published | .reporting none => 1
  | _ => 0

/-- What is to be reported of a build that has ended. -/
def owed : RebuildPhase → List (Option String)
  | .built _ | .published => [none]
  | .reporting error => [error]
  | _ => []

/-- Whether the status has been told of a build, and not yet of its end. -/
def announces : RebuildPhase → Bool
  | .idle | .received => false
  | _ => true

/-- What the worker holds: the snapshot that it builds on is the one that is served, and what it has
built is one version above. -/
def Holds (served : Snapshot) : RebuildPhase → Prop
  | .building base => base = served
  | .built next => next.version = served.version + 1
  | _ => True

end RebuildPhase

namespace Scheduler

def reports (events : List RebuildEvent) : List (Option String) :=
  events.filterMap RebuildEvent.report?

def outcomes (events : List RebuildEvent) : List BuildOutcome :=
  events.filterMap RebuildEvent.outcome?

variable {source : SnapshotSource} {s t : Scheduler} {event : RebuildEvent}
  {events : List RebuildEvent}

@[simp] theorem reports_snoc (events : List RebuildEvent) (event : RebuildEvent) :
    reports (events ++ [event]) = reports events ++ event.report?.toList := by
  cases h : event.report? <;> simp [reports, h]

@[simp] theorem outcomes_snoc (events : List RebuildEvent) (event : RebuildEvent) :
    outcomes (events ++ [event]) = outcomes events ++ event.outcome?.toList := by
  cases h : event.outcome? <;> simp [outcomes, h]

theorem countP_isEnding (events : List RebuildEvent) :
    events.countP RebuildEvent.isEnding = (outcomes events).length := by
  induction events using List.reverseRecOn with
  | nil => rfl
  | append_singleton events event ih =>
    rw [countP_snoc, outcomes_snoc, List.length_append, ih]
    cases event <;> rfl

/-- A request changes nothing but the slot, or the error and the flag of the status. -/
theorem trigger_frame (s : Scheduler) : s.trigger.1.served = s.served ∧
    s.trigger.1.status.completed = s.status.completed ∧
    s.trigger.1.status.failed = s.status.failed := by
  rcases s.trigger_cases with ⟨_, _, state⟩ | ⟨_, _, result⟩ | ⟨_, _, result⟩ <;> simp [*]

/-- The end of a build is not seen before it is published or reported. -/
theorem finish_frame (s : Scheduler) (outcome : BuildOutcome) :
    (s.finish outcome).status = s.status ∧ (s.finish outcome).served = s.served ∧
    (s.finish outcome).phase.owed = [outcome.error?] := by
  cases outcome <;> exact ⟨rfl, rfl, rfl⟩

theorem version_of_built [Tools] {config : BuildConfig} {root : BuildRoot} {base next : Snapshot}
    (allowed : SnapshotSource.ofTree config root base (.built next)) :
    next.version = base.version + 1 := by
  obtain ⟨tree, result⟩ := allowed
  exact eq_of_nextVersion (SourceTree.version_of_build result)

/-- A source whose snapshots are one version above what they are built on. -/
def Increments (source : SnapshotSource) : Prop :=
  ∀ base next, source base (.built next) → next.version = base.version + 1

/-- What holds of the worker's build in every state. -/
structure Sound (initial : Snapshot) (s : Scheduler) : Prop where
  holds : s.phase.Holds s.served
  version : s.served.version = initial.version + .ofNat (s.status.completed + s.phase.uncounted)
  flag : s.alive = true → s.status.inProgress = s.phase.announces

namespace Sound

variable {initial : Snapshot}

theorem ask (h : Sound initial s) : Sound initial s.trigger.1 := by
  obtain ⟨served, completed, _⟩ := s.trigger_frame
  constructor
  case holds =>
    rw [trigger_phase, served]
    exact h.holds
  case version =>
    rw [served, completed, trigger_phase]
    exact h.version
  case flag =>
    intro alive
    rw [trigger_alive] at alive
    obtain ⟨dead, _⟩ | ⟨_, _, result⟩ | ⟨_, _, result⟩ := s.trigger_cases
    · rw [alive] at dead
      cases dead
    · rw [result]
      exact h.flag alive
    · rw [result]
      exact h.flag alive

theorem finish (increments : Increments source) (h : Sound initial s) (here : s.alive = true)
    {base : Snapshot} (building : s.phase = .building base) {outcome : BuildOutcome}
    (allowed : source base outcome) : Sound initial (s.finish outcome) := by
  obtain ⟨holds, version, flag⟩ := h
  have busy := flag here
  rw [building] at version busy holds
  cases outcome with
  | built made =>
    have next : made.version = s.served.version + 1 :=
      (increments base made allowed).trans (congrArg (·.version + 1) holds)
    exact ⟨next, version, fun _ => busy⟩
  | failed fault => exact ⟨trivial, version, fun _ => busy⟩
  | panicked cause => exact ⟨trivial, version, fun _ => busy⟩

theorem publish (h : Sound initial s) (here : s.alive = true) {made : Snapshot}
    (built : s.phase = .built made) : Sound initial (s.publish made) := by
  obtain ⟨holds, version, flag⟩ := h
  have busy := flag here
  rw [built] at version busy holds
  refine ⟨trivial, ?_, fun _ => busy⟩
  -- The snapshot is published now and counted with the report, so the sum grows by one at once.
  calc made.version
      = s.served.version + 1 := holds
    _ = initial.version + .ofNat s.status.completed + 1 := by rw [version]; rfl
    _ = initial.version + .ofNat (s.status.completed + 1) := by
        rw [UInt64.ofNat_add, UInt64.add_assoc]; rfl

theorem step (increments : Increments source) (h : Sound initial s) (step : Step source s event t) :
    Sound initial t := by
  have version := h.version
  have flag := h.flag
  cases step with
  | ask => exact h.ask
  | readStatus => exact h
  | readServed => exact h
  | receive here idle =>
    rw [idle] at version
    exact ⟨trivial, version, fun _ => by rw [take, flag here, idle]; rfl⟩
  | announce _ received =>
    rw [received] at version
    exact ⟨trivial, version, fun _ => rfl⟩
  | begin here announced =>
    rw [announced] at version
    exact ⟨rfl, version, fun _ => by rw [begin, flag here, announced]; rfl⟩
  | finish here building allowed => exact h.finish increments here building allowed
  | publish here built => exact h.publish here built
  | persist _ _ here published =>
    have busy := flag here
    rw [published] at version busy
    exact ⟨trivial, version, fun _ => busy⟩
  | @report error _ reporting =>
    rw [reporting] at version
    refine ⟨trivial, ?_, fun _ => by cases error <;> rfl⟩
    cases error <;> exact version
  | die =>
    refine ⟨h.holds, version, fun alive => ?_⟩
    cases alive

end Sound

/-- What the status owes to the builds that ended and were reported. -/
structure Ledger (events : List RebuildEvent) (s : Scheduler) : Prop where
  owed : (outcomes events).map BuildOutcome.error? = reports events ++ s.phase.owed
  completed : s.status.completed = (reports events).countP (·.isNone)
  failed : s.status.failed = (reports events).countP (·.isSome)
  latest : (∀ handle, RebuildEvent.asked handle .stopped ∉ events) →
    s.status.lastError = (reports events).getLast?.join

namespace Ledger

/-- A move that neither ends a build nor reports one, and leaves the status to its counts. -/
theorem quiet (h : Ledger events s) (silent : event.report? = none) (running : event.outcome? = none)
    (owed : t.phase.owed = s.phase.owed) (completed : t.status.completed = s.status.completed)
    (failed : t.status.failed = s.status.failed)
    (latest : (∀ handle, event ≠ .asked handle .stopped) →
      t.status.lastError = s.status.lastError) : Ledger (events ++ [event]) t := by
  constructor
  case owed => simpa [silent, running, owed] using h.owed
  case completed => simpa [silent, completed] using h.completed
  case failed => simpa [silent, failed] using h.failed
  case latest =>
    intro never
    have before : ∀ handle, RebuildEvent.asked handle .stopped ∉ events := fun handle asked =>
      never handle (List.mem_append_left _ asked)
    have now : ∀ handle, event ≠ .asked handle .stopped := fun handle same =>
      never handle (by simp [same])
    simpa [silent, latest now] using h.latest before

theorem finish (h : Ledger events s) {base : Snapshot} (building : s.phase = .building base)
    (outcome : BuildOutcome) : Ledger (events ++ [.ended outcome]) (s.finish outcome) := by
  have before : (outcomes events).map BuildOutcome.error? = reports events := by
    simpa [building, RebuildPhase.owed] using h.owed
  obtain ⟨status, _, owed⟩ := s.finish_frame outcome
  constructor
  case owed => simp [owed, before, RebuildEvent.report?, RebuildEvent.outcome?]
  case completed => simpa [status, RebuildEvent.report?] using h.completed
  case failed => simpa [status, RebuildEvent.report?] using h.failed
  case latest =>
    intro never
    have before := h.latest fun handle asked => never handle (List.mem_append_left _ asked)
    simpa [status, RebuildEvent.report?] using before

theorem report (h : Ledger events s) {error : Option String} (reporting : s.phase = .reporting error) :
    Ledger (events ++ [.reported error]) (s.report error) := by
  have owed := h.owed
  rw [reporting] at owed
  cases error with
  | none =>
    constructor
    case owed => simpa [Scheduler.report, RebuildPhase.owed, RebuildEvent.report?,
      RebuildEvent.outcome?] using owed
    case completed => simp [Scheduler.report, RebuildStatus.reported, RebuildEvent.report?, h.completed]
    case failed => simp [Scheduler.report, RebuildStatus.reported, RebuildEvent.report?, h.failed]
    case latest =>
      intro _
      simp [Scheduler.report, RebuildStatus.reported, RebuildEvent.report?]
  | some message =>
    constructor
    case owed => simpa [Scheduler.report, RebuildPhase.owed, RebuildEvent.report?,
      RebuildEvent.outcome?] using owed
    case completed => simp [Scheduler.report, RebuildStatus.reported, RebuildEvent.report?, h.completed]
    case failed => simp [Scheduler.report, RebuildStatus.reported, RebuildEvent.report?, h.failed]
    case latest =>
      intro _
      simp [Scheduler.report, RebuildStatus.reported, RebuildEvent.report?]

theorem step (h : Ledger events s) (step : Step source s event t) :
    Ledger (events ++ [event]) t := by
  cases step with
  | ask handle =>
    obtain ⟨_, completed, failed⟩ := s.trigger_frame
    refine h.quiet rfl rfl (by rw [trigger_phase]) completed failed fun accepted => ?_
    obtain ⟨_, stopped, _⟩ | ⟨_, _, result⟩ | ⟨_, _, result⟩ := s.trigger_cases
    · exact absurd (by rw [stopped]) (accepted handle)
    · rw [result]
    · rw [result]
  | readStatus => exact h.quiet rfl rfl rfl rfl rfl fun _ => rfl
  | readServed => exact h.quiet rfl rfl rfl rfl rfl fun _ => rfl
  | receive _ idle => exact h.quiet rfl rfl (by rw [idle]; rfl) rfl rfl fun _ => rfl
  | announce _ received => exact h.quiet rfl rfl (by rw [received]; rfl) rfl rfl fun _ => rfl
  | begin _ announced => exact h.quiet rfl rfl (by rw [announced]; rfl) rfl rfl fun _ => rfl
  | @finish _ outcome _ building => exact h.finish building outcome
  | publish _ built => exact h.quiet rfl rfl (by rw [built]; rfl) rfl rfl fun _ => rfl
  | persist _ _ _ published => exact h.quiet rfl rfl (by rw [published]; rfl) rfl rfl fun _ => rfl
  | report _ reporting => exact h.report reporting
  | die => exact h.quiet rfl rfl rfl rfl rfl fun _ => rfl

theorem finished (h : Ledger events s) :
    s.status.completed + s.status.failed = (reports events).length := by
  rw [h.completed, h.failed, List.length_eq_countP_add_countP (·.isNone)]
  congr 2
  funext error
  cases error <;> rfl

/-- What is published was built, counted or not. -/
theorem published_le (h : Ledger events s) :
    s.status.completed + s.phase.uncounted ≤ events.countP RebuildEvent.isEnding := by
  have lengths := congrArg List.length h.owed
  rw [List.length_map, List.length_append, ← countP_isEnding] at lengths
  have counted : s.phase.uncounted ≤ s.phase.owed.length := by
    cases s.phase with
    | reporting error => cases error <;> simp [RebuildPhase.uncounted, RebuildPhase.owed]
    | _ => simp [RebuildPhase.uncounted, RebuildPhase.owed]
  have finished := h.finished
  omega

end Ledger

theorem Run.ledger {served : Snapshot} (run : Run source (.start served) events s) :
    Ledger events s := by
  induction run with
  | start => exact ⟨rfl, rfl, rfl, fun _ => rfl⟩
  | snoc _ step ih => exact ih.step step

theorem Run.sound {initial : Snapshot} (increments : Increments source)
    (run : Run source (.start initial) events s) : Sound initial s := by
  induction run with
  | start =>
    have version : initial.version = initial.version + .ofNat (0 + 0) := (UInt64.add_zero _).symm
    exact ⟨trivial, version, fun _ => rfl⟩
  | snoc _ step ih => exact ih.step increments step

/-- A version that has room counts every snapshot that was published. -/
theorem version_eq {initial : Snapshot} (increments : Increments source)
    (run : Run source (.start initial) events s)
    (room : initial.version.toNat + events.countP RebuildEvent.isBeginning < 2 ^ 64) :
    s.served.version.toNat =
      initial.version.toNat + s.status.completed + s.phase.uncounted := by
  have published := run.ledger.published_le
  have begun := run.accounts.beginnings
  have small : initial.version.toNat + (s.status.completed + s.phase.uncounted) < 2 ^ 64 := by omega
  rw [(run.sound increments).version, UInt64.toNat_add, UInt64.toNat_ofNat', Nat.add_mod_mod,
    Nat.mod_eq_of_lt small, Nat.add_assoc]

theorem Step.counts_on (step : Step source s event t) :
    s.status.completed + s.phase.uncounted ≤ t.status.completed + t.phase.uncounted := by
  cases step with
  | ask =>
    obtain ⟨_, completed, _⟩ := s.trigger_frame
    exact Nat.le_of_eq (by rw [completed, trigger_phase])
  | receive _ idle => exact idle ▸ Nat.le_refl _
  | announce _ received => exact received ▸ Nat.le_refl _
  | begin _ announced => exact announced ▸ Nat.le_refl _
  | @finish _ outcome _ building =>
    rw [(s.finish_frame outcome).1, building]
    exact Nat.le_add_right _ _
  | publish _ built => exact built ▸ Nat.le_succ _
  | persist _ _ _ published => exact published ▸ Nat.le_refl _
  | @report error _ reporting => cases error <;> exact reporting ▸ Nat.le_refl _
  | readStatus => exact Nat.le_refl _
  | readServed => exact Nat.le_refl _
  | die => exact Nat.le_refl _

theorem Run.counts_on (run : Run source s events t) :
    s.status.completed + s.phase.uncounted ≤ t.status.completed + t.phase.uncounted := by
  induction run with
  | start => exact Nat.le_refl _
  | snoc _ step ih => exact Nat.le_trans ih step.counts_on

/-- While a report is due, nothing but the report touches the counts, and nothing is published. -/
theorem Step.waits_for_report {error : Option String} (step : Step source s event t)
    (due : s.phase = .reporting error) (other : event.report? = none) :
    t.phase = .reporting error ∧ t.served = s.served ∧ t.status.failed = s.status.failed := by
  cases step with
  | ask =>
    obtain ⟨served, _, failed⟩ := s.trigger_frame
    exact ⟨by rw [trigger_phase, due], served, failed⟩
  | readStatus => exact ⟨due, rfl, rfl⟩
  | readServed => exact ⟨due, rfl, rfl⟩
  | die => exact ⟨due, rfl, rfl⟩
  | report => cases other
  | receive _ idle => cases due.symm.trans idle
  | announce _ received => cases due.symm.trans received
  | begin _ announced => cases due.symm.trans announced
  | finish _ building => cases due.symm.trans building
  | publish _ built => cases due.symm.trans built
  | persist _ _ _ published => cases due.symm.trans published

theorem Run.waits_for_report {error : Option String} (run : Run source s events t)
    (due : s.phase = .reporting error) (other : reports events = []) :
    t.phase = .reporting error ∧ t.served = s.served ∧ t.status.failed = s.status.failed := by
  induction run with
  | start => exact ⟨due, rfl, rfl⟩
  | @snoc events _ _ event _ step ih =>
    rw [reports_snoc, List.append_eq_nil_iff] at other
    obtain ⟨phase, served, failed⟩ := ih other.1
    have silent : event.report? = none := by simpa using other.2
    obtain ⟨phase', served', failed'⟩ := step.waits_for_report phase silent
    exact ⟨phase', served'.trans served, failed'.trans failed⟩

/-- A build that leaves no snapshot is due to be reported, and nothing is published. -/
theorem Step.reporting_of_error {outcome : BuildOutcome} {message : String}
    (step : Step source s (.ended outcome) t) (error : outcome.error? = some message) :
    t.phase = .reporting (some message) ∧ t.served = s.served ∧
    t.status.failed = s.status.failed := by
  cases step with
  | finish =>
    cases outcome with
    | built next => cases error
    | failed fault => exact ⟨by rw [← error]; rfl, rfl, rfl⟩
    | panicked cause => exact ⟨by rw [← error]; rfl, rfl, rfl⟩

theorem Run.failed_build {outcome : BuildOutcome} {message : String} {middle : List RebuildEvent}
    (run : Run source s (.ended outcome :: middle) t) (error : outcome.error? = some message)
    (due : reports middle = []) : t.phase = .reporting (some message) ∧ t.served = s.served ∧
      t.status.failed = s.status.failed := by
  obtain ⟨u, step, rest⟩ := run.uncons
  obtain ⟨phase, served, failed⟩ := step.reporting_of_error error
  obtain ⟨phase', served', failed'⟩ := rest.waits_for_report phase due
  exact ⟨phase', served'.trans served, failed'.trans failed⟩

theorem Step.after_death (step : Step source s event t) (dead : s.alive = false) :
    t.alive = false ∧ t.served = s.served ∧
    (s.status.inProgress = false → t.status.inProgress = false) ∧
    ∀ handle answer, event = .asked handle answer → answer = .stopped := by
  have gone : ∀ {p : Prop}, s.alive = true → p := fun alive => by
    rw [dead] at alive
    cases alive
  cases step with
  | ask asker =>
    obtain ⟨_, stopped, state⟩ | ⟨alive, _⟩ | ⟨alive, _⟩ := s.trigger_cases
    · refine ⟨by rw [trigger_alive, dead], s.trigger_frame.1, fun _ => by rw [state], ?_⟩
      intro handle answer same
      cases same
      exact stopped
    · exact gone alive
    · exact gone alive
  | readStatus => exact ⟨dead, rfl, id, by rintro _ _ ⟨⟩⟩
  | readServed => exact ⟨dead, rfl, id, by rintro _ _ ⟨⟩⟩
  | receive alive => exact gone alive
  | announce alive => exact gone alive
  | begin alive => exact gone alive
  | finish alive => exact gone alive
  | publish alive => exact gone alive
  | persist _ _ alive => exact gone alive
  | report alive => exact gone alive
  | die alive => exact gone alive

theorem Run.after_death (run : Run source s events t) (dead : s.alive = false) :
    t.alive = false ∧ t.served = s.served ∧
    (s.status.inProgress = false → t.status.inProgress = false) ∧
    ∀ handle answer, RebuildEvent.asked handle answer ∈ events → answer = .stopped := by
  induction run with
  | start => exact ⟨dead, rfl, id, by rintro _ _ ⟨⟩⟩
  | snoc _ step ih =>
    obtain ⟨alive, served, flag, answers⟩ := ih
    obtain ⟨alive', served', flag', answer'⟩ := step.after_death alive
    refine ⟨alive', served'.trans served, flag' ∘ flag, ?_⟩
    intro handle answer asked
    rcases List.mem_append.mp asked with earlier | now
    · exact answers handle answer earlier
    · exact answer' handle answer (List.mem_singleton.mp now).symm

/-- After the answer that the worker is gone, it is gone and the status says that nothing goes on. -/
theorem Run.stopped {handle : Nat} (run : Run source s events t)
    (asked : RebuildEvent.asked handle .stopped ∈ events) :
    t.alive = false ∧ t.status.inProgress = false := by
  obtain ⟨before, after, rfl⟩ := List.append_of_mem asked
  obtain ⟨u, _, rest⟩ := run.split
  obtain ⟨v, step, later⟩ := rest.uncons
  have dead := dead_of_stopped step
  have flag : v.status.inProgress = false := by
    generalize answered : RebuildEvent.asked handle .stopped = event at step
    cases step with
    | ask =>
      obtain ⟨_, _, state⟩ | ⟨alive, _⟩ | ⟨alive, _⟩ := u.trigger_cases
      · rw [state]
      · cases alive.symm.trans dead
      · cases alive.symm.trans dead
    | _ => cases answered
  obtain ⟨alive, _, kept, _⟩ := later.after_death (step.after_death dead).1
  exact ⟨alive, kept flag⟩

/-- What the published version and the status say in a state of a run. -/
structure Consistent (initial : Snapshot) (events : List RebuildEvent) (s : Scheduler) : Prop where
  version : s.served.version.toNat =
    initial.version.toNat + s.status.completed + s.phase.uncounted
  settled : s.alive = true → s.status.inProgress = false →
    s.served.version.toNat = initial.version.toNat + s.status.completed
  finished : s.status.completed + s.status.failed = (reports events).length
  reported : (outcomes events).map BuildOutcome.error? = reports events ++ s.phase.owed
  latest : (∀ handle, RebuildEvent.asked handle .stopped ∉ events) →
    (s.status.lastError = none ↔ reports events = [] ∨ (reports events).getLast? = some none)

theorem Run.consistent {initial : Snapshot} (increments : Increments source)
    (run : Run source (.start initial) events s)
    (room : initial.version.toNat + events.countP RebuildEvent.isBeginning < 2 ^ 64) :
    Consistent initial events s := by
  have version := version_eq increments run room
  have ledger := run.ledger
  constructor
  case version => exact version
  case settled =>
    intro alive quiet
    have flag := (run.sound increments).flag alive
    rw [quiet] at flag
    have counted : s.phase.uncounted = 0 := by
      cases phase : s.phase <;> rw [phase] at flag <;> first | rfl | cases flag
    rw [version, counted]
    rfl
  case finished => exact ledger.finished
  case reported => exact ledger.owed
  case latest =>
    intro never
    rw [ledger.latest never]
    cases reports events using List.reverseRecOn with
    | nil => simp
    | append_singleton _ error => cases error <;> simp

/-- Publication and status over any two states of a run, one before the other: what each of them says,
that the version never goes down, what a build that fails leaves, and that a worker that is gone
stays so. -/
theorem published_versions_follow_status [Tools] {config : BuildConfig} {root : BuildRoot}
    {initial : Snapshot} {before after : List RebuildEvent}
    (first : Run (.ofTree config root) (.start initial) before s)
    (rest : Run (.ofTree config root) s after t)
    (room : initial.version.toNat + (before ++ after).countP RebuildEvent.isBeginning < 2 ^ 64) :
    Consistent initial before s ∧ s.served.version ≤ t.served.version ∧
    (∀ outcome message middle, outcome.error? = some message → reports middle = [] →
      (after = .ended outcome :: middle → t.served = s.served) ∧
      (∀ error, after = .ended outcome :: (middle ++ [.reported error]) →
        t.served = s.served ∧ t.status.failed = s.status.failed + 1)) ∧
    (∀ handle, RebuildEvent.asked handle .stopped ∈ before →
      (∀ handle answer, RebuildEvent.asked handle answer ∈ after → answer = .stopped) ∧
      t.status.inProgress = false ∧ t.served = s.served) := by
  have increments : Increments (.ofTree config root) := fun _ _ => version_of_built
  have early : initial.version.toNat + before.countP RebuildEvent.isBeginning < 2 ^ 64 := by
    rw [List.countP_append] at room
    omega
  refine ⟨first.consistent increments early, ?_, ?_, ?_⟩
  · have here := version_eq increments first early
    have there := version_eq increments (first.append rest) room
    have later := rest.counts_on
    rw [UInt64.le_iff_toNat_le]
    omega
  · intro outcome message middle error due
    constructor
    · rintro rfl
      exact (rest.failed_build error due).2.1
    · rintro last rfl
      obtain ⟨u, ended, reported⟩ : ∃ u, Run _ s (.ended outcome :: middle) u ∧
          Run _ u [.reported last] t := rest.split
      obtain ⟨phase, served, failed⟩ := ended.failed_build error due
      obtain ⟨v, step, nothing⟩ := reported.uncons
      obtain ⟨_, rfl⟩ | ⟨_, _, _, more, _⟩ := nothing.last
      · cases step with
        | report _ reporting =>
          cases phase.symm.trans reporting
          exact ⟨served, congrArg (· + 1) failed⟩
      · simp at more
  · intro handle asked
    obtain ⟨dead, flag⟩ := first.stopped asked
    obtain ⟨_, served, kept, answers⟩ := rest.after_death dead
    exact ⟨answers, kept flag, served⟩

/-- One build is published and reported, and the next one begins. -/
def publishedBuild : List RebuildEvent :=
  [.asked 0 .scheduled, .received, .announced, .begun .empty, .ended (.built sampleSnapshot),
    .published sampleSnapshot, .asked 0 .scheduled, .persisted, .reported none, .received, .announced,
    .begun sampleSnapshot]

def secondBuild : Scheduler :=
  ⟨false, .building sampleSnapshot, true, ⟨true, 1, 0, none⟩, sampleSnapshot⟩

def nothingLeft : Fault := .buildFailure (.nothingIndexable "sample")

/-- It fails, for all files are gone by then. -/
def failedBuild : List RebuildEvent :=
  [.ended (.failed nothingLeft), .servedRead sampleSnapshot, .reported (some nothingLeft.message)]

open Scanners

theorem sample_built_again :
    sampleTree.build sampleConfig sampleRoot (some .empty) = .ok sampleSnapshot := by
  decide +kernel

theorem nothing_left_built :
    SourceTree.empty.build sampleConfig sampleRoot (some sampleSnapshot) = .error nothingLeft := by
  decide +kernel

theorem failed_build_follows_published : ∃ t,
    Run (.ofTree sampleConfig sampleRoot) (.start .empty) publishedBuild secondBuild ∧
    Run (.ofTree sampleConfig sampleRoot) secondBuild failedBuild t ∧
    Snapshot.empty.version.toNat +
      (publishedBuild ++ failedBuild).countP RebuildEvent.isBeginning < 2 ^ 64 ∧
    Consistent .empty publishedBuild secondBuild ∧ secondBuild.served.version ≤ t.served.version ∧
    t.served = sampleSnapshot ∧ t.status.failed = 1 := by
  have allowed : SnapshotSource.ofTree sampleConfig sampleRoot .empty (.built sampleSnapshot) :=
    ⟨sampleTree, sample_built_again⟩
  have refused : SnapshotSource.ofTree sampleConfig sampleRoot sampleSnapshot (.failed nothingLeft) :=
    ⟨.empty, nothing_left_built, by decide⟩
  have begun : Run (.ofTree sampleConfig sampleRoot) (.start .empty) (publishedBuild.take 4) _ :=
    (((Run.start.snoc (.ask _ 0)).snoc (.receive rfl rfl rfl)).snoc (.announce rfl rfl)).snoc
      (.begin rfl rfl)
  have reported : Run (.ofTree sampleConfig sampleRoot) (.start .empty) (publishedBuild.take 9) _ :=
    ((((begun.snoc (.finish rfl rfl allowed)).snoc (.publish rfl rfl)).snoc (.ask _ 0)).snoc
      (.persist false .empty rfl rfl)).snoc (.report rfl rfl)
  have first : Run (.ofTree sampleConfig sampleRoot) (.start .empty) publishedBuild secondBuild :=
    ((reported.snoc (.receive rfl rfl rfl)).snoc (.announce rfl rfl)).snoc (.begin rfl rfl)
  have ended : Run (.ofTree sampleConfig sampleRoot) secondBuild (failedBuild.take 1) _ :=
    Run.start.snoc (.finish rfl rfl refused)
  have rest : Run (.ofTree sampleConfig sampleRoot) secondBuild failedBuild _ :=
    (ended.snoc (.readServed _)).snoc (.report rfl rfl)
  have room : Snapshot.empty.version.toNat +
      (publishedBuild ++ failedBuild).countP RebuildEvent.isBeginning < 2 ^ 64 := by decide
  obtain ⟨consistent, later, failed, _⟩ := published_versions_follow_status first rest room
  have kept := (failed _ _ [.servedRead sampleSnapshot] rfl rfl).2 _ rfl
  exact ⟨_, first, rest, room, consistent, later, kept⟩

end Scheduler

end SourceAtlas
