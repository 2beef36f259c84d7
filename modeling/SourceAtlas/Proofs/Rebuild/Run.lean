import SourceAtlas.Rebuild
import Mathlib.Data.List.Induction

/-! Runs of the scheduler: every interleaving of what handles, readers and the worker do, one move at a
time. Any number of handles ask whenever they like, and the worker may go away between any two of its
moves.

A handle that finds the worker gone sees that first and writes the status after that. Both are one move
here: nothing brings a worker back, so the answer is the same whenever the status is written. -/
namespace SourceAtlas

/-- What a build on top of a snapshot may end in. -/
abbrev SnapshotSource := Snapshot → BuildOutcome → Prop

/-- Builds of a tree, whatever its files are by then. A build may also go down. -/
def SnapshotSource.ofTree [Tools] (config : BuildConfig) (root : BuildRoot) : SnapshotSource
  | base, .built next => ∃ t : SourceTree, t.build config root (some base) = .ok next
  | base, .failed fault =>
    ∃ t : SourceTree, t.build config root (some base) = .error fault ∧ fault ≠ .overflow
  | _, .panicked _ => True

theorem BuildOutcome.ok_of_built {result : Except Fault Snapshot} {next : Snapshot}
    (built : ofResult result = .built next) : result = .ok next := by
  cases result with
  | ok made =>
    cases built
    rfl
  | error fault => cases fault <;> cases built

theorem SnapshotSource.ofTree_ofResult [Tools] (config : BuildConfig) (root : BuildRoot) (t : SourceTree)
    (base : Snapshot) : ofTree config root base (.ofResult (t.build config root (some base))) := by
  cases result : t.build config root (some base) with
  | ok next => exact ⟨t, result⟩
  | error fault =>
    by_cases down : fault = .overflow
    · subst down
      trivial
    · have failed : BuildOutcome.ofResult (.error fault) = .failed fault := by
        cases fault <;> first | rfl | exact absurd rfl down
      rw [failed]
      exact ⟨t, result, down⟩

inductive RebuildEvent where
  | asked (handle : Nat) (answer : Trigger)
  | statusRead (seen : RebuildStatus)
  | servedRead (seen : Snapshot)
  | received
  | announced
  | begun (base : Snapshot)
  | ended (outcome : BuildOutcome)
  | published (next : Snapshot)
  | persisted
  | reported (error : Option String)
  | died

namespace RebuildEvent

def isScheduled : RebuildEvent → Bool
  | .asked _ .scheduled => true
  | _ => false

def isReceipt : RebuildEvent → Bool
  | .received => true
  | _ => false

def isBeginning : RebuildEvent → Bool
  | .begun _ => true
  | _ => false

def isEnding : RebuildEvent → Bool
  | .ended _ => true
  | _ => false

def outcome? : RebuildEvent → Option BuildOutcome
  | .ended outcome => some outcome
  | _ => none

/-- What a report says: nothing, or the error of the build. -/
def report? : RebuildEvent → Option (Option String)
  | .reported error => some error
  | _ => none

end RebuildEvent

namespace Scheduler

variable {source : SnapshotSource}

/-- Handles and readers can always move; every other move is the worker's. -/
inductive Step (source : SnapshotSource) : Scheduler → RebuildEvent → Scheduler → Prop where
  | ask (s : Scheduler) (handle : Nat) : Step source s (.asked handle s.trigger.2) s.trigger.1
  | readStatus (s : Scheduler) : Step source s (.statusRead s.status) s
  | readServed (s : Scheduler) : Step source s (.servedRead s.served) s
  | receive {s : Scheduler} : s.alive = true → s.phase = .idle → s.queued = true →
      Step source s .received s.take
  | announce {s : Scheduler} : s.alive = true → s.phase = .received →
      Step source s .announced s.announce
  | begin {s : Scheduler} : s.alive = true → s.phase = .announced →
      Step source s (.begun s.served) s.begin
  | finish {s : Scheduler} {base : Snapshot} {outcome : BuildOutcome} : s.alive = true →
      s.phase = .building base → source base outcome → Step source s (.ended outcome) (s.finish outcome)
  | publish {s : Scheduler} {next : Snapshot} : s.alive = true → s.phase = .built next →
      Step source s (.published next) (s.publish next)
  | persist {s : Scheduler} (enabled : Bool) (t : SourceTree) : s.alive = true →
      s.phase = .published → Step source s .persisted (s.persist enabled t).1
  | report {s : Scheduler} {error : Option String} : s.alive = true → s.phase = .reporting error →
      Step source s (.reported error) (s.report error)
  | die {s : Scheduler} : s.alive = true → Step source s .died s.stop

inductive Run (source : SnapshotSource) (s : Scheduler) : List RebuildEvent → Scheduler → Prop where
  | start : Run source s [] s
  | snoc {events : List RebuildEvent} {t u : Scheduler} {event : RebuildEvent} :
      Run source s events t → Step source t event u → Run source s (events ++ [event]) u

variable {s t u : Scheduler} {before after : List RebuildEvent}

theorem Run.append (first : Run source s before t) (rest : Run source t after u) :
    Run source s (before ++ after) u := by
  induction rest with
  | start => simpa using first
  | snoc _ step ih =>
    rw [← List.append_assoc]
    exact ih.snoc step

theorem Run.last {events : List RebuildEvent} (run : Run source s events u) :
    events = [] ∧ u = s ∨ ∃ before t event, events = before ++ [event] ∧
      Run source s before t ∧ Step source t event u := by
  cases run with
  | start => exact .inl ⟨rfl, rfl⟩
  | snoc earlier step => exact .inr ⟨_, _, _, rfl, earlier, step⟩

theorem Run.split (run : Run source s (before ++ after) u) :
    ∃ t, Run source s before t ∧ Run source t after u := by
  -- Runs grow at their end, so the second part is taken down from there.
  induction after using List.reverseRecOn generalizing u with
  | nil => exact ⟨u, by simpa using run, .start⟩
  | append_singleton after event ih =>
    rw [← List.append_assoc] at run
    obtain ⟨empty, _⟩ | ⟨earlier, v, last, whole, first, step⟩ := run.last
    · simp at empty
    · obtain ⟨rfl, same⟩ := List.append_inj' whole rfl
      cases same
      obtain ⟨t, first, rest⟩ := ih first
      exact ⟨t, first, rest.snoc step⟩

/-- A run that goes on with an event makes the step of that event first. -/
theorem Run.uncons {event : RebuildEvent} (run : Run source s (event :: after) u) :
    ∃ t, Step source s event t ∧ Run source t after u := by
  obtain ⟨t, first, rest⟩ : ∃ t, Run source s [event] t ∧ Run source t after u := run.split
  obtain ⟨empty, _⟩ | ⟨earlier, v, last, whole, nothing, step⟩ := first.last
  · cases empty
  · obtain ⟨rfl, same⟩ : [] = earlier ∧ [event] = [last] := List.append_inj' whole rfl
    cases same
    obtain ⟨_, rfl⟩ | ⟨_, _, _, more, _⟩ := nothing.last
    · exact ⟨t, step, rest⟩
    · simp at more

/-- The worker that takes a request and begins to build makes three of its moves in a row. -/
theorem run_of_receive (h : s.receive? = some t) :
    Run source s [.received, .announced, .begun s.served] t := by
  unfold receive? at h
  split at h
  · next ready =>
    obtain ⟨alive, idle, queued⟩ := ready
    cases h
    have taken : Run source s [.received] s.take := .snoc .start (.receive alive idle queued)
    have announced : Run source s [.received, .announced] s.take.announce :=
      taken.snoc (.announce alive rfl)
    exact announced.snoc (.begin alive rfl)
  · cases h

theorem run_of_conclude [Tools] (options : RebuildOptions) (tree : SourceTree) {base : Snapshot}
    (alive : s.alive = true) (building : s.phase = .building base) {outcome : BuildOutcome}
    (allowed : SnapshotSource.ofTree options.config options.root base outcome) :
    ∃ events, Run (.ofTree options.config options.root) s events (s.conclude options tree outcome).1 := by
  have ended := Run.start.snoc (.finish alive building allowed)
  cases outcome with
  | built next =>
    have published := ended.snoc (.publish alive rfl)
    have stored := published.snoc (.persist options.persist tree alive rfl)
    exact ⟨_, stored.snoc (.report alive rfl)⟩
  | failed fault => exact ⟨_, ended.snoc (.report alive rfl)⟩
  | panicked cause => exact ⟨_, ended.snoc (.report alive rfl)⟩

theorem run_of_complete [Tools] (options : RebuildOptions) (tree : SourceTree) :
    ∃ events, Run (.ofTree options.config options.root) s events (s.complete options tree).1 := by
  unfold complete
  split
  · next alive =>
    split
    · next base building =>
      exact run_of_conclude options tree alive building (SnapshotSource.ofTree_ofResult ..)
    · exact ⟨[], .start⟩
  · exact ⟨[], .start⟩

/-- Whatever the program makes the worker do is a run. -/
theorem run_of_settle [Tools] (options : RebuildOptions) (tree : SourceTree) :
    ∃ events, Run (.ofTree options.config options.root) s events (s.settle options tree).1 := by
  obtain ⟨events, first⟩ := run_of_complete options tree (s := s)
  rcases done : s.complete options tree with ⟨middle, later⟩
  rw [done] at first
  simp only [settle, done]
  cases received : middle.receive? with
  | none => exact ⟨events, first⟩
  | some next =>
    obtain ⟨more, second⟩ := run_of_complete (s := next) options later
    exact ⟨_, (first.append (run_of_receive received)).append second⟩

end Scheduler

end SourceAtlas
