import SourceAtlas.Build
import SourceAtlas.Snapshot.Store

/-! Rebuilds in the background. One worker owns every build; requests go to it through a single slot,
so a request while a build runs queues one more build, and further requests join that one. A build
that fails leaves the published snapshot as it is.

The worker goes through a build in moves that everybody else can come between: it takes the request,
says so in the status, looks up the published snapshot, builds, publishes, stores and reports. -/
namespace SourceAtlas

/-- What became of a request. -/
inductive Trigger where
  /-- A build will start. -/
  | scheduled
  /-- A build is queued already. -/
  | coalesced
  /-- The worker is gone. -/
  | stopped
  deriving DecidableEq, Repr

def Trigger.name : Trigger → String
  | .scheduled => "scheduled" | .coalesced => "coalesced" | .stopped => "stopped"

/-- How a build ends. -/
inductive BuildOutcome where
  | built (next : Snapshot)
  | failed (fault : Fault)
  /-- The build went down; its runtime says why. -/
  | panicked (cause : String)
  deriving DecidableEq

/-- How a build ends that gives this result. One whose sums outgrow their words goes down. -/
def BuildOutcome.ofResult : Except Fault Snapshot → BuildOutcome
  | .ok next => .built next
  | .error .overflow => .panicked Fault.overflow.message
  | .error fault => .failed fault

/-- What is reported of a build that leaves no snapshot. -/
def BuildOutcome.error? : BuildOutcome → Option String
  | .built _ => none
  | .failed fault => some fault.message
  | .panicked cause => some ("rebuild task failed: " ++ cause)

structure RebuildStatus where
  inProgress : Bool
  completed : Nat
  failed : Nat
  /-- What the latest build failed of; nothing if it succeeded. -/
  lastError : Option String
  deriving DecidableEq, Repr

namespace RebuildStatus

def initial : RebuildStatus := ⟨false, 0, 0, none⟩

/-- The status after a build, with the error that it ended in. -/
def reported (s : RebuildStatus) : Option String → RebuildStatus
  | none => { s with inProgress := false, completed := s.completed + 1, lastError := none }
  | some message =>
    { s with inProgress := false, failed := s.failed + 1, lastError := some message }

end RebuildStatus

/-- How far the worker is with its current build, or was when it went away. -/
inductive RebuildPhase where
  | idle
  /-- The request is out of the slot, and the status does not say so yet. -/
  | received
  | announced
  /-- A build on top of the snapshot that was published when it began. -/
  | building (base : Snapshot)
  /-- The build is done and not yet published. -/
  | built (next : Snapshot)
  /-- The build is published and not yet stored. -/
  | published
  /-- Only the report is left. -/
  | reporting (error : Option String)
  deriving DecidableEq

structure Scheduler where
  /-- Whether the slot is taken. -/
  queued : Bool
  phase : RebuildPhase
  alive : Bool
  status : RebuildStatus
  /-- The published snapshot. -/
  served : Snapshot
  deriving DecidableEq

namespace Scheduler

def workerStopped : String := "rebuild worker has stopped"

def start (served : Snapshot) : Scheduler := ⟨false, .idle, true, .initial, served⟩

/-- Asks for a build. -/
def trigger (s : Scheduler) : Scheduler × Trigger :=
  if !s.alive then
    ({ s with status := { s.status with inProgress := false, lastError := some workerStopped } },
      .stopped)
  else if s.queued then (s, .coalesced)
  else ({ s with queued := true }, .scheduled)

/-- The request leaves the slot, which is free from then on. -/
def take (s : Scheduler) : Scheduler := { s with queued := false, phase := .received }

def announce (s : Scheduler) : Scheduler :=
  { s with phase := .announced, status := { s.status with inProgress := true } }

def begin (s : Scheduler) : Scheduler := { s with phase := .building s.served }

/-- The idle worker takes the request from the slot and begins to build. -/
def receive? (s : Scheduler) : Option Scheduler :=
  if s.alive ∧ s.phase = .idle ∧ s.queued then some s.take.announce.begin else none

/-- The end of the build itself. -/
def finish (s : Scheduler) : BuildOutcome → Scheduler
  | .built next => { s with phase := .built next }
  | outcome => { s with phase := .reporting outcome.error? }

def publish (s : Scheduler) (next : Snapshot) : Scheduler :=
  { s with phase := .published, served := next }

/-- What is published is stored; a failure to store it changes nothing else. -/
def persist (s : Scheduler) (enabled : Bool) (t : SourceTree) : Scheduler × SourceTree :=
  ({ s with phase := .reporting none }, if enabled then (t.save s.served).1 else t)

def report (s : Scheduler) (error : Option String) : Scheduler :=
  { s with phase := .idle, status := s.status.reported error }

/-- The worker goes away. What is queued is lost, and so is all that it has not finished. -/
def stop (s : Scheduler) : Scheduler := { s with alive := false, queued := false }

end Scheduler

/-- Where the builds of a worker come from, and whether they are stored. -/
structure RebuildOptions where
  config : BuildConfig
  root : BuildRoot
  persist : Bool
  deriving DecidableEq, Repr

namespace Scheduler

variable [Tools]

/-- What follows a build of the tree as it is now. -/
def conclude (s : Scheduler) (options : RebuildOptions) (t : SourceTree) :
    BuildOutcome → Scheduler × SourceTree
  | .built next =>
    let (s, t) := ((s.finish (.built next)).publish next).persist options.persist t
    (s.report none, t)
  | outcome => ((s.finish outcome).report outcome.error?, t)

/-- Runs the current build to its end, unless the worker is gone. -/
def complete (s : Scheduler) (options : RebuildOptions) (t : SourceTree) : Scheduler × SourceTree :=
  if s.alive then
    match s.phase with
    | .building base =>
      s.conclude options t (.ofResult (t.build options.config options.root (some base)))
    | _ => (s, t)
  else (s, t)

/-- Runs until nothing is queued and nothing is built: the current build and the one that is queued
behind it. -/
def settle (s : Scheduler) (options : RebuildOptions) (t : SourceTree) : Scheduler × SourceTree :=
  let (s, t) := s.complete options t
  match s.receive? with
  | some s => s.complete options t
  | none => (s, t)

end Scheduler

end SourceAtlas
