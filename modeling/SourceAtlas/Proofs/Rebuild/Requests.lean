import SourceAtlas.Proofs.Rebuild.Run

/-! No request that was accepted is lost, and builds never overlap. What the worker has done is counted
along a run: requests that were scheduled, requests that were taken from the slot, builds that began
and builds that ended. The counts differ by what the slot and the worker hold. -/
namespace SourceAtlas

namespace RebuildPhase

/-- Builds whose request is taken and that have not begun. -/
def awaited : RebuildPhase → Nat
  | .received | .announced => 1
  | _ => 0

/-- Builds that run. -/
def inFlight : RebuildPhase → Nat
  | .building _ => 1
  | _ => 0

end RebuildPhase

namespace Scheduler

variable {source : SnapshotSource} {s t : Scheduler} {event : RebuildEvent}
  {events after : List RebuildEvent}

theorem trigger_cases (s : Scheduler) :
    s.alive = false ∧ s.trigger.2 = .stopped ∧ s.trigger.1 = { s with
        status := { s.status with inProgress := false, lastError := some workerStopped } } ∨
    s.alive = true ∧ s.queued = true ∧ s.trigger = (s, .coalesced) ∨
    s.alive = true ∧ s.queued = false ∧ s.trigger = ({ s with queued := true }, .scheduled) := by
  unfold trigger
  cases alive : s.alive with
  | false => simp
  | true => cases queued : s.queued <;> simp

@[simp] theorem trigger_phase (s : Scheduler) : s.trigger.1.phase = s.phase := by
  rcases s.trigger_cases with ⟨_, _, state⟩ | ⟨_, _, result⟩ | ⟨_, _, result⟩ <;> simp [*]

@[simp] theorem trigger_alive (s : Scheduler) : s.trigger.1.alive = s.alive := by
  rcases s.trigger_cases with ⟨_, _, state⟩ | ⟨_, _, result⟩ | ⟨_, _, result⟩ <;> simp [*]

theorem countP_snoc (p : RebuildEvent → Bool) (events : List RebuildEvent) (event : RebuildEvent) :
    (events ++ [event]).countP p = events.countP p + (p event).toNat := by
  rw [List.countP_append, List.countP_singleton]
  cases p event <;> rfl

/-- What the slot and the worker hold is what tells the counts apart. -/
structure Accounts (events : List RebuildEvent) (s : Scheduler) : Prop where
  requests : s.alive = true → events.countP RebuildEvent.isScheduled =
    events.countP RebuildEvent.isReceipt + s.queued.toNat
  receipts : events.countP RebuildEvent.isReceipt =
    events.countP RebuildEvent.isBeginning + s.phase.awaited
  beginnings : events.countP RebuildEvent.isBeginning =
    events.countP RebuildEvent.isEnding + s.phase.inFlight

namespace Accounts

theorem requests_step (h : Accounts events s) (step : Step source s event t)
    (alive : t.alive = true) : (events ++ [event]).countP RebuildEvent.isScheduled =
      (events ++ [event]).countP RebuildEvent.isReceipt + t.queued.toNat := by
  simp only [countP_snoc]
  cases step with
  | ask =>
    rw [trigger_alive] at alive
    have before := h.requests alive
    obtain ⟨dead, _⟩ | ⟨_, _, result⟩ | ⟨_, free, result⟩ := s.trigger_cases
    · rw [alive] at dead
      cases dead
    · simpa [result, RebuildEvent.isScheduled, RebuildEvent.isReceipt] using before
    · rw [free] at before
      simpa [result, RebuildEvent.isScheduled, RebuildEvent.isReceipt] using before
  | receive _ _ queued =>
    have before := h.requests alive
    rw [queued] at before
    simpa [take, RebuildEvent.isScheduled, RebuildEvent.isReceipt] using before
  | die => cases alive
  | @finish _ outcome => cases outcome <;> exact h.requests alive
  | readStatus => exact h.requests alive
  | readServed => exact h.requests alive
  | announce => exact h.requests alive
  | begin => exact h.requests alive
  | publish => exact h.requests alive
  | persist => exact h.requests alive
  | report => exact h.requests alive

theorem receipts_step (h : Accounts events s) (step : Step source s event t) :
    (events ++ [event]).countP RebuildEvent.isReceipt =
      (events ++ [event]).countP RebuildEvent.isBeginning + t.phase.awaited := by
  have before := h.receipts
  simp only [countP_snoc]
  cases step with
  | ask => simpa [RebuildEvent.isReceipt, RebuildEvent.isBeginning] using before
  | receive _ idle =>
    rw [idle] at before
    simpa [take, RebuildPhase.awaited, RebuildEvent.isReceipt, RebuildEvent.isBeginning] using before
  | announce _ received => rwa [received] at before
  | begin _ announced =>
    rw [announced] at before
    simpa [begin, RebuildPhase.awaited, RebuildEvent.isReceipt, RebuildEvent.isBeginning] using before
  | @finish _ outcome _ building =>
    rw [building] at before
    cases outcome <;> exact before
  | publish _ built => rwa [built] at before
  | persist _ _ _ published => rwa [published] at before
  | report _ reporting => rwa [reporting] at before
  | readStatus => exact before
  | readServed => exact before
  | die => exact before

theorem beginnings_step (h : Accounts events s) (step : Step source s event t) :
    (events ++ [event]).countP RebuildEvent.isBeginning =
      (events ++ [event]).countP RebuildEvent.isEnding + t.phase.inFlight := by
  have before := h.beginnings
  simp only [countP_snoc]
  cases step with
  | ask => simpa [RebuildEvent.isBeginning, RebuildEvent.isEnding] using before
  | receive _ idle => rwa [idle] at before
  | announce _ received => rwa [received] at before
  | begin _ announced =>
    rw [announced] at before
    simpa [begin, RebuildPhase.inFlight, RebuildEvent.isBeginning, RebuildEvent.isEnding] using before
  | @finish _ outcome _ building =>
    rw [building] at before
    cases outcome <;>
      simpa [finish, RebuildPhase.inFlight, RebuildEvent.isBeginning, RebuildEvent.isEnding] using
        before
  | publish _ built => rwa [built] at before
  | persist _ _ _ published => rwa [published] at before
  | report _ reporting => rwa [reporting] at before
  | readStatus => exact before
  | readServed => exact before
  | die => exact before

theorem step (h : Accounts events s) (step : Step source s event t) :
    Accounts (events ++ [event]) t where
  requests := h.requests_step step
  receipts := h.receipts_step step
  beginnings := h.beginnings_step step

end Accounts

theorem Run.accounts {served : Snapshot} (run : Run source (.start served) events s) :
    Accounts events s := by
  induction run with
  | start => exact ⟨fun _ => rfl, rfl, rfl⟩
  | snoc _ step ih => exact ih.step step

/-- Nothing brings a worker back. -/
theorem Step.alive_before (step : Step source s event t) (alive : t.alive = true) :
    s.alive = true := by
  cases step with
  | ask => rwa [trigger_alive] at alive
  | readStatus => exact alive
  | readServed => exact alive
  | receive here => exact here
  | announce here => exact here
  | begin here => exact here
  | finish here => exact here
  | publish here => exact here
  | persist _ _ here => exact here
  | report here => exact here
  | die here => exact here

/-- A queued request stays in the slot until the worker takes it. -/
theorem Step.keeps_request (step : Step source s event t) (alive : t.alive = true)
    (queued : s.queued = true) : t.queued = true ∨ event = .received := by
  cases step with
  | ask =>
    obtain ⟨dead, _⟩ | ⟨_, _, result⟩ | ⟨_, _, result⟩ := s.trigger_cases
    · rw [trigger_alive, dead] at alive
      cases alive
    · exact .inl (result ▸ queued)
    · exact .inl (result ▸ rfl)
  | receive => exact .inr rfl
  | @finish _ outcome => cases outcome <;> exact .inl queued
  | die => cases alive
  | readStatus => exact .inl queued
  | readServed => exact .inl queued
  | announce => exact .inl queued
  | begin => exact .inl queued
  | publish => exact .inl queued
  | persist => exact .inl queued
  | report => exact .inl queued

theorem Run.alive_before (run : Run source s events t) (alive : t.alive = true) :
    s.alive = true := by
  induction run with
  | start => exact alive
  | snoc _ step ih => exact ih (step.alive_before alive)

theorem Run.keeps_request (run : Run source s events t) (alive : t.alive = true)
    (queued : s.queued = true) : t.queued = true ∨ .received ∈ events := by
  induction run with
  | start => exact .inl queued
  | @snoc earlier middle last event _ step ih =>
    rcases ih (step.alive_before alive) with still | taken
    · rcases step.keeps_request alive still with later | now
      · exact .inl later
      · exact .inr (by simp [now])
    · exact .inr (List.mem_append_left _ taken)

/-- A request that is accepted stands in the slot right after the answer. -/
theorem queued_of_accepted {handle : Nat} {answer : Trigger}
    (step : Step source s (.asked handle answer) t) (accepted : answer ≠ .stopped) :
    t.queued = true := by
  cases step with
  | ask =>
    obtain ⟨_, stopped, _⟩ | ⟨_, queued, result⟩ | ⟨_, _, result⟩ := s.trigger_cases
    · exact absurd stopped accepted
    · exact result ▸ queued
    · exact result ▸ rfl

theorem queued_of_coalesced {handle : Nat} (step : Step source s (.asked handle .coalesced) t) :
    s.alive = true ∧ s.queued = true := by
  generalize asked : RebuildEvent.asked handle .coalesced = event at step
  cases step with
  | ask =>
    obtain ⟨_, stopped, _⟩ | ⟨alive, queued, _⟩ | ⟨_, _, result⟩ := s.trigger_cases
    · rw [stopped] at asked
      cases asked
    · exact ⟨alive, queued⟩
    · rw [result] at asked
      cases asked
  | _ => cases asked

theorem dead_of_stopped {handle : Nat} (step : Step source s (.asked handle .stopped) t) :
    s.alive = false := by
  generalize asked : RebuildEvent.asked handle .stopped = event at step
  cases step with
  | ask =>
    obtain ⟨dead, _⟩ | ⟨_, _, result⟩ | ⟨_, _, result⟩ := s.trigger_cases
    · exact dead
    · rw [result] at asked
      cases asked
    · rw [result] at asked
      cases asked
  | _ => cases asked

/-- Whatever comes between: at most one build runs; every request that was scheduled has been taken or
is still queued; a request joins another one only while that is queued; and after a request that was
accepted a build starts, or a request is queued for it, for as long as there is a worker. Only a
worker that is gone accepts none. -/
theorem accepted_requests_are_kept {served : Snapshot}
    (run : Run source (.start served) events s) :
    (events.countP RebuildEvent.isEnding ≤ events.countP RebuildEvent.isBeginning ∧
      events.countP RebuildEvent.isBeginning ≤ events.countP RebuildEvent.isEnding + 1) ∧
    (s.alive = true → events.countP RebuildEvent.isScheduled =
      events.countP RebuildEvent.isReceipt + s.queued.toNat) ∧
    (∀ before handle after, events = before ++ .asked handle .coalesced :: after →
      ∃ t, Run source (.start served) before t ∧ t.queued = true ∧
        before.countP RebuildEvent.isScheduled = before.countP RebuildEvent.isReceipt + 1) ∧
    (∀ before handle answer after, events = before ++ .asked handle answer :: after →
      s.alive = true → answer ≠ .stopped ∧ (s.queued = true ∨ .received ∈ after)) := by
  have accounts := run.accounts
  refine ⟨?_, accounts.requests, ?_, ?_⟩
  · have beginnings := accounts.beginnings
    have single : s.phase.inFlight ≤ 1 := by
      cases s.phase <;> simp [RebuildPhase.inFlight]
    omega
  · rintro before handle after rfl
    obtain ⟨t, first, rest⟩ := run.split
    obtain ⟨u, step, _⟩ := rest.uncons
    obtain ⟨alive, queued⟩ := queued_of_coalesced step
    have requests := first.accounts.requests alive
    rw [queued] at requests
    exact ⟨t, first, queued, requests⟩
  · rintro before handle answer after rfl alive
    obtain ⟨t, first, rest⟩ := run.split
    obtain ⟨u, step, later⟩ := rest.uncons
    have accepted : answer ≠ .stopped := by
      rintro rfl
      have dead := dead_of_stopped step
      rw [rest.alive_before alive] at dead
      cases dead
    exact ⟨accepted, later.keeps_request alive (queued_of_accepted step accepted)⟩

/-- Two handles ask before the first build begins and again while it runs; then it goes down. -/
def overlappingRequests : List RebuildEvent :=
  [.asked 0 .scheduled, .asked 1 .coalesced, .received, .asked 1 .scheduled, .announced,
    .begun .empty, .asked 0 .coalesced, .ended (.panicked "out of memory"),
    .reported (some "rebuild task failed: out of memory"), .received]

theorem overlapping_requests_are_kept : ∃ s,
    Run (fun _ _ => True) (.start .empty) overlappingRequests s ∧ s.alive = true ∧
    (s.queued = true ∨ RebuildEvent.received ∈ overlappingRequests.drop 7) := by
  have first : Run (fun _ _ => True) (.start .empty) (overlappingRequests.take 3) _ :=
    ((Run.start.snoc (.ask _ 0)).snoc (.ask _ 1)).snoc (.receive rfl rfl rfl)
  have second : Run (fun _ _ => True) (.start .empty) (overlappingRequests.take 7) _ :=
    (((first.snoc (.ask _ 1)).snoc (.announce rfl rfl)).snoc (.begin rfl rfl)).snoc (.ask _ 0)
  have run : Run (fun _ _ => True) (.start .empty) overlappingRequests _ :=
    ((second.snoc (.finish rfl rfl trivial)).snoc (.report rfl rfl)).snoc (.receive rfl rfl rfl)
  have kept := (accepted_requests_are_kept run).2.2.2 (overlappingRequests.take 6) 0 .coalesced
    (overlappingRequests.drop 7) rfl rfl
  exact ⟨_, run, rfl, kept.2⟩

end Scheduler

end SourceAtlas
