import SourceAtlas.Proofs.Rebuild.Publication
import SourceAtlas.Proofs.Snapshot.Store

/-! The stored snapshot follows the published one. Between a publication and its storing the tree still
holds the snapshot before; that is the one phase in which the two differ. A build that leaves no snapshot
never comes to that phase, so it leaves the stored one alone. -/
namespace SourceAtlas

namespace RebuildEvent

def built? : RebuildEvent → Option Snapshot
  | .ended (.built next) => some next
  | _ => none

def published? : RebuildEvent → Option Snapshot
  | .published next => some next
  | _ => none

end RebuildEvent

namespace RebuildPhase

/-- The snapshot that is built and not yet published. -/
def unpublished : RebuildPhase → List Snapshot
  | .built next => [next]
  | _ => []

/-- A snapshot is built, and not yet stored. -/
def unsaved : RebuildPhase → Bool
  | .built _ | .published => true
  | _ => false

end RebuildPhase

/-- What makes a snapshot come back from its bytes as it is. -/
def Snapshot.Sound (s : Snapshot) : Prop := s.graph.WellFormed ∧ s.Keyed

theorem Snapshot.sound_of_build [Tools] {t : SourceTree} {config : BuildConfig} {root : BuildRoot}
    {previous : Option Snapshot} {s : Snapshot} (built : t.build config root previous = .ok s) :
    s.Sound := by
  obtain ⟨d, _, _, _, made⟩ := SourceTree.build_ok_iff.mp built
  obtain ⟨g, _, assembled, _, rfl⟩ := Discovery.build_ok_iff.mp made
  have wf : g.WellFormed := Assembly.graph_eq_after assembled ▸ Graph.after_wellFormed _
  exact ⟨wf, Snapshot.new_keyed _ _ _ _ _⟩

namespace Scheduler

variable {source : SnapshotSource} {s u v : Scheduler} {t t' t'' : SourceTree} {event : RebuildEvent}
  {events before after : List RebuildEvent}

/-- The snapshots that builds ended in. -/
def successes (events : List RebuildEvent) : List Snapshot := events.filterMap RebuildEvent.built?

def publications (events : List RebuildEvent) : List Snapshot :=
  events.filterMap RebuildEvent.published?

@[simp] theorem successes_snoc (events : List RebuildEvent) (event : RebuildEvent) :
    successes (events ++ [event]) = successes events ++ event.built?.toList := by
  cases h : event.built? <;> simp [successes, h]

@[simp] theorem publications_snoc (events : List RebuildEvent) (event : RebuildEvent) :
    publications (events ++ [event]) = publications events ++ event.published?.toList := by
  cases h : event.published? <;> simp [publications, h]

/-- Runs of a worker that stores what it publishes, together with the tree. Others may change the tree at
any time, except for the stored snapshot; the worker changes it when it stores one, and nothing is in the
way of that. -/
inductive StoringRun (source : SnapshotSource) (s : Scheduler) (t : SourceTree) :
    List RebuildEvent → Scheduler → SourceTree → Prop where
  | start : StoringRun source s t [] s t
  | edit {events : List RebuildEvent} {u : Scheduler} {t' t'' : SourceTree} :
      StoringRun source s t events u t' →
      t''.content? SourceTree.snapshotPath = t'.content? SourceTree.snapshotPath →
      StoringRun source s t events u t''
  | move {events : List RebuildEvent} {u v : Scheduler} {t' : SourceTree} {event : RebuildEvent} :
      StoringRun source s t events u t' → Step source u event v → event ≠ .persisted →
      StoringRun source s t (events ++ [event]) v t'
  | store {events : List RebuildEvent} {u : Scheduler} {t' : SourceTree} :
      StoringRun source s t events u t' → u.alive = true → u.phase = .published →
      u.served.toBytes.length < 2 ^ 64 → (t'.save u.served).2 = none →
      StoringRun source s t (events ++ [.persisted]) (u.persist true t').1 (u.persist true t').2

theorem StoringRun.run (run : StoringRun source s t events u t') : Run source s events u := by
  induction run with
  | start => exact .start
  | edit _ _ ih => exact ih
  | move _ step _ ih => exact ih.snoc step
  | @store _ _ t' _ alive published _ _ ih => exact ih.snoc (.persist true t' alive published)

theorem StoringRun.append (first : StoringRun source s t before u t')
    (rest : StoringRun source u t' after v t'') : StoringRun source s t (before ++ after) v t'' := by
  induction rest with
  | start => simpa using first
  | edit _ same ih => exact ih.edit same
  | move _ step other ih =>
    rw [← List.append_assoc]
    exact ih.move step other
  | store _ alive published short saved ih =>
    rw [← List.append_assoc]
    exact ih.store alive published short saved

/-- A run in which nothing is stored leaves the tree alone. -/
theorem StoringRun.of_run (run : Run source s events u) (never : .persisted ∉ events) :
    StoringRun source s t events u t := by
  induction run with
  | start => exact .start
  | snoc _ step ih =>
    have earlier := ih fun stored => never (List.mem_append_left _ stored)
    exact earlier.move step fun same => never (by simp [same])

section Program

variable [Tools]

/-- The tree takes whatever the current build of the worker leaves. -/
def Room (options : RebuildOptions) (s : Scheduler) (t : SourceTree) : Prop :=
  ∀ base next, s.phase = .building base → t.build options.config options.root (some base) = .ok next →
    next.toBytes.length < 2 ^ 64 ∧ (t.save next).2 = none

variable {options : RebuildOptions}

theorem storingRun_of_complete (stores : options.persist = true) (room : Room options s t) :
    ∃ events, StoringRun (.ofTree options.config options.root) s t events
      (s.complete options t).1 (s.complete options t).2 := by
  unfold complete
  split
  · next alive =>
    split
    · next base building =>
      have allowed := SnapshotSource.ofTree_ofResult options.config options.root t base
      have built : ∀ next, BuildOutcome.ofResult (t.build options.config options.root (some base)) =
          .built next → t.build options.config options.root (some base) = .ok next :=
        fun _ => BuildOutcome.ok_of_built
      generalize BuildOutcome.ofResult (t.build options.config options.root (some base)) = outcome
        at allowed built
      have ended := (StoringRun.start (t := t)).move (.finish alive building allowed) (by simp)
      cases outcome with
      | built next =>
        obtain ⟨short, saved⟩ := room base next building (built next rfl)
        have published := ended.move (.publish alive rfl) (by simp)
        have stored := published.store alive rfl short saved
        have reported := stored.move (.report alive rfl) (by simp)
        simp only [conclude, stores]
        exact ⟨_, reported⟩
      | failed fault => exact ⟨_, ended.move (.report alive rfl) (by simp)⟩
      | panicked cause => exact ⟨_, ended.move (.report alive rfl) (by simp)⟩
    · exact ⟨[], .start⟩
  · exact ⟨[], .start⟩

/-- Whatever the program makes a worker do that stores its snapshots is such a run. -/
theorem storingRun_of_settle (stores : options.persist = true) (room : Room options s t)
    (later : ∀ next, (s.complete options t).1.receive? = some next →
      Room options next (s.complete options t).2) :
    ∃ events, StoringRun (.ofTree options.config options.root) s t events
      (s.settle options t).1 (s.settle options t).2 := by
  obtain ⟨events, first⟩ := storingRun_of_complete stores room
  rcases done : s.complete options t with ⟨middle, tree⟩
  rw [done] at first later
  simp only [settle, done]
  cases received : middle.receive? with
  | none => exact ⟨events, first⟩
  | some next =>
    obtain ⟨more, second⟩ := storingRun_of_complete stores (later next received)
    have begun : StoringRun (.ofTree options.config options.root) middle tree _ next tree :=
      .of_run (run_of_receive received) (by simp)
    exact ⟨_, (first.append begun).append second⟩

end Program

/-- Only a publication changes what is served; storing it does not. -/
theorem Step.serves (step : Step source s event u) :
    u.served = event.published?.toList.getLast?.getD s.served := by
  cases step with
  | ask => exact s.trigger_frame.1
  | @finish _ outcome => exact (s.finish_frame outcome).2.1
  | readStatus => rfl
  | readServed => rfl
  | receive => rfl
  | announce => rfl
  | begin => rfl
  | publish => rfl
  | persist => rfl
  | report => rfl
  | die => rfl

theorem Run.serves (run : Run source s events u) :
    u.served = (publications events).getLast?.getD s.served := by
  induction run with
  | start => rfl
  | @snoc events middle _ event _ step ih =>
    rw [publications_snoc, step.serves, ih]
    cases event.published? with
    | none => simp
    | some next => simp

theorem Step.publishes (step : Step source s event u) :
    s.phase.unpublished ++ event.built?.toList = event.published?.toList ++ u.phase.unpublished := by
  cases step with
  | ask => simp [RebuildEvent.built?, RebuildEvent.published?]
  | receive _ idle =>
    rw [idle]
    rfl
  | announce _ received =>
    rw [received]
    rfl
  | begin _ announced =>
    rw [announced]
    rfl
  | @finish _ outcome _ building =>
    rw [building]
    cases outcome <;> rfl
  | publish _ built =>
    rw [built]
    rfl
  | persist _ _ _ published =>
    rw [published]
    rfl
  | report _ reporting =>
    rw [reporting]
    rfl
  | readStatus => simp [RebuildEvent.built?, RebuildEvent.published?]
  | readServed => simp [RebuildEvent.built?, RebuildEvent.published?]
  | die => simp [RebuildEvent.built?, RebuildEvent.published?, stop]

/-- What builds end in is published, each snapshot once and in their order. -/
theorem Run.publishes (run : Run source s events u) :
    s.phase.unpublished ++ successes events = publications events ++ u.phase.unpublished := by
  induction run with
  | start => simp [successes, publications]
  | snoc _ step ih =>
    rw [successes_snoc, publications_snoc, ← List.append_assoc, ih, List.append_assoc, step.publishes,
      List.append_assoc]

theorem mem_successes_iff {next : Snapshot} :
    next ∈ successes events ↔ .built next ∈ outcomes events := by
  have each : ∀ event : RebuildEvent, event.built? = some next ↔ event.outcome? = some (.built next) := by
    intro event
    cases event with
    | ended outcome => cases outcome <;> simp [RebuildEvent.built?, RebuildEvent.outcome?]
    | _ => simp [RebuildEvent.built?, RebuildEvent.outcome?]
  simp only [successes, outcomes, List.mem_filterMap, each]

theorem Run.successes_sound [Tools] {config : BuildConfig} {root : BuildRoot}
    (run : Run (.ofTree config root) s events u) : ∀ next ∈ successes events, next.Sound := by
  induction run with
  | start => simp [successes]
  | @snoc events _ _ event _ step ih =>
    intro next made
    rw [successes_snoc, List.mem_append] at made
    rcases made with earlier | now
    · exact ih next earlier
    · cases step with
      | @finish base outcome _ _ allowed =>
        cases outcome with
        | built made =>
          obtain ⟨tree, result⟩ := allowed
          cases List.mem_singleton.mp now
          exact Snapshot.sound_of_build result
        | failed => cases now
        | panicked => cases now
      | _ => cases now

/-- From a phase in which nothing waits to be stored, only the end of a build that succeeds leads to one
in which something does. -/
theorem Step.unsaved (step : Step source s event u) (nothing : s.phase.unsaved = false)
    (failing : event.built? = none) : u.phase.unsaved = false := by
  cases step with
  | ask => rwa [trigger_phase]
  | readStatus => exact nothing
  | readServed => exact nothing
  | receive => rfl
  | announce => rfl
  | begin => rfl
  | @finish _ outcome =>
    cases outcome with
    | built next => cases failing
    | failed => rfl
    | panicked => rfl
  | publish _ built =>
    rw [built] at nothing
    cases nothing
  | persist => rfl
  | report => rfl
  | die => exact nothing

/-- A publication stays the last thing that the worker did until it is stored. -/
theorem Step.waits_for_storing (step : Step source s event u)
    (published : s.phase = .published) (other : event ≠ .persisted) : u.phase = .published := by
  cases step with
  | ask => rwa [trigger_phase]
  | readStatus => exact published
  | readServed => exact published
  | die => exact published
  | persist => exact absurd rfl other
  | receive _ idle => cases published.symm.trans idle
  | announce _ received => cases published.symm.trans received
  | begin _ announced => cases published.symm.trans announced
  | finish _ building => cases published.symm.trans building
  | publish _ built => cases published.symm.trans built
  | report _ reporting => cases published.symm.trans reporting

theorem Step.phase_of_publication {next : Snapshot} (step : Step source s event u)
    (publication : event.published? = some next) : u.phase = .published := by
  cases step with
  | publish => rfl
  | _ => cases publication

/-- Builds that fail or go down leave what is stored as it is. -/
theorem StoringRun.failing (run : StoringRun source s t events u t')
    (nothing : s.phase.unsaved = false) (failing : successes events = []) :
    u.phase.unsaved = false ∧
      t'.content? SourceTree.snapshotPath = t.content? SourceTree.snapshotPath := by
  induction run with
  | start => exact ⟨nothing, rfl⟩
  | edit _ same ih =>
    obtain ⟨phase, content⟩ := ih failing
    exact ⟨phase, same.trans content⟩
  | move _ step _ ih =>
    rw [successes_snoc, List.append_eq_nil_iff, Option.toList_eq_nil_iff] at failing
    obtain ⟨phase, content⟩ := ih failing.1
    exact ⟨step.unsaved phase failing.2, content⟩
  | store _ _ published _ _ ih =>
    rw [successes_snoc, List.append_eq_nil_iff] at failing
    obtain ⟨phase, _⟩ := ih failing.1
    rw [published] at phase
    cases phase

/-- After the first publication the tree holds the snapshot that is served, but for the time between a
publication and its storing. -/
theorem StoringRun.stored (run : StoringRun source s t events u t')
    (published : publications events ≠ []) (settled : u.phase ≠ .published) :
    t'.content? SourceTree.snapshotPath = some u.served.toBytes ∧
      u.served.toBytes.length < 2 ^ 64 := by
  induction run with
  | start => exact absurd rfl published
  | edit _ same ih =>
    obtain ⟨content, short⟩ := ih published settled
    exact ⟨same.trans content, short⟩
  | @move events middle v _ event _ step other ih =>
    cases publication : event.published? with
    | some next => exact absurd (step.phase_of_publication publication) settled
    | none =>
      have earlier : publications events ≠ [] := by simpa [publication] using published
      have before : middle.phase ≠ .published := fun here => settled (step.waits_for_storing here other)
      have served : v.served = middle.served := by simpa [publication] using step.serves
      rw [served]
      exact ih earlier before
  | @store _ u t' _ _ _ short saved ih =>
    have written : t'.save u.served = ((t'.save u.served).1, none) := Prod.ext rfl saved
    exact ⟨SourceTree.content_of_save written, short⟩

/-- With storing on, nothing in the way of it and nobody else at the stored snapshot: an idle worker that
has built something leaves the served snapshot in the tree, and it is read back as it is served. Whatever
comes next, builds that leave no snapshot do not touch the stored one, and only publications change what
is served. -/
theorem stored_snapshot_follows_served [Tools] {config : BuildConfig} {root : BuildRoot} {initial : Snapshot}
    (first : StoringRun (.ofTree config root) (.start initial) t before u t')
    (rest : StoringRun (.ofTree config root) u t' after v t'') :
    (u.phase = .idle → (∃ next, .built next ∈ outcomes before) →
      ∃ r, t'.load = .ok (some r) ∧ r.SameStored u.served) ∧
    (u.phase.unsaved = false → (∀ outcome ∈ outcomes after, outcome.error? ≠ none) →
      t''.content? SourceTree.snapshotPath = t'.content? SourceTree.snapshotPath ∧
      v.served = u.served) ∧
    v.served = (publications after).getLast?.getD u.served := by
  have served := rest.run.serves
  refine ⟨?_, ?_, served⟩
  · rintro idle ⟨next, built⟩
    have all : successes before = publications before := by
      simpa [idle, start, RebuildPhase.unpublished] using first.run.publishes
    have published : publications before ≠ [] := by
      rw [← all]
      exact List.ne_nil_of_mem (mem_successes_iff.mpr built)
    obtain ⟨content, short⟩ := first.stored published (by rw [idle]; simp)
    have last : u.served = (publications before).getLast published := by
      rw [first.run.serves, List.getLast?_eq_some_getLast published]
      rfl
    have sound : u.served.Sound := by
      apply first.run.successes_sound
      rw [all, last]
      exact List.getLast_mem published
    obtain ⟨r, read, same, _, _⟩ := Snapshot.ofBytes_toBytes sound.1 sound.2 short
    refine ⟨r, ?_, same⟩
    rw [SourceTree.load_of_content content]
    simpa using read []
  · intro nothing failing
    have none : successes after = [] := by
      rw [List.eq_nil_iff_forall_not_mem]
      intro next built
      exact failing _ (mem_successes_iff.mp built) rfl
    obtain ⟨phase, content⟩ := rest.failing nothing none
    have unpublished : publications after = [] := by
      have all := rest.run.publishes
      rw [none, List.append_nil] at all
      have waiting : u.phase.unpublished = [] := by
        cases here : u.phase <;> rw [here] at nothing <;> first | rfl | cases nothing
      rw [waiting] at all
      exact (List.append_eq_nil_iff.mp all.symm).1
    exact ⟨content, by rw [served, unpublished]; rfl⟩

/-- The tree with the sample stored in it, and without one of its files. -/
def sampleStored : SourceTree := ⟨(sampleTree.save sampleSnapshot).1.entries.erase "guide.md"⟩

/-- Between the two builds, with the request for the second one in the slot. -/
def betweenBuilds : Scheduler := ⟨true, .idle, true, ⟨false, 1, 0, none⟩, sampleSnapshot⟩

open Scanners

theorem sample_snapshot_follows_served : ∃ v,
    StoringRun (.ofTree sampleConfig sampleRoot) (.start .empty) sampleTree
      (publishedBuild.take 9) betweenBuilds sampleStored ∧
    StoringRun (.ofTree sampleConfig sampleRoot) betweenBuilds sampleStored
      (publishedBuild.drop 9 ++ failedBuild) v sampleStored ∧
    betweenBuilds.phase = .idle ∧ (∃ next, .built next ∈ outcomes (publishedBuild.take 9)) ∧
    (∀ outcome ∈ outcomes (publishedBuild.drop 9 ++ failedBuild), outcome.error? ≠ none) ∧
    (∃ r, sampleStored.load = .ok (some r) ∧ r.SameStored sampleSnapshot) ∧
    v.served = sampleSnapshot := by
  have allowed : SnapshotSource.ofTree sampleConfig sampleRoot .empty (.built sampleSnapshot) :=
    ⟨sampleTree, sample_built_again⟩
  have refused : SnapshotSource.ofTree sampleConfig sampleRoot sampleSnapshot (.failed nothingLeft) :=
    ⟨.empty, nothing_left_built, by decide⟩
  have short : sampleSnapshot.toBytes.length < 2 ^ 64 := by decide +kernel
  have saved : (sampleTree.save sampleSnapshot).2 = none := by decide +kernel
  have published : Run (.ofTree sampleConfig sampleRoot) (.start .empty) (publishedBuild.take 7) _ :=
    ((((((Run.start.snoc (.ask _ 0)).snoc (.receive rfl rfl rfl)).snoc (.announce rfl rfl)).snoc
      (.begin rfl rfl)).snoc (.finish rfl rfl allowed)).snoc (.publish rfl rfl)).snoc (.ask _ 0)
  have stored : StoringRun (.ofTree sampleConfig sampleRoot) (.start .empty) sampleTree
      (publishedBuild.take 8) _ _ :=
    (StoringRun.of_run published (by simp [publishedBuild])).store rfl rfl short saved
  have edited : StoringRun (.ofTree sampleConfig sampleRoot) (.start .empty) sampleTree
      (publishedBuild.take 8) _ sampleStored :=
    stored.edit (by decide +kernel)
  have first : StoringRun (.ofTree sampleConfig sampleRoot) (.start .empty) sampleTree
      (publishedBuild.take 9) betweenBuilds sampleStored :=
    edited.move (.report rfl rfl) (by simp)
  have again : Run (.ofTree sampleConfig sampleRoot) betweenBuilds
      (publishedBuild.drop 9 ++ failedBuild) _ :=
    (((((Run.start.snoc (.receive rfl rfl rfl)).snoc (.announce rfl rfl)).snoc (.begin rfl rfl)).snoc
      (.finish rfl rfl refused)).snoc (.readServed _)).snoc (.report rfl rfl)
  have rest : StoringRun (.ofTree sampleConfig sampleRoot) betweenBuilds sampleStored _ _ sampleStored :=
    .of_run again (by simp [publishedBuild, failedBuild])
  have built : ∃ next, .built next ∈ outcomes (publishedBuild.take 9) :=
    ⟨sampleSnapshot, by decide +kernel⟩
  have failing : ∀ outcome ∈ outcomes (publishedBuild.drop 9 ++ failedBuild),
      outcome.error? ≠ none := by decide +kernel
  obtain ⟨loaded, kept, _⟩ := stored_snapshot_follows_served first rest
  exact ⟨_, first, rest, rfl, built, failing, loaded rfl built, (kept rfl failing).2⟩

end Scheduler

end SourceAtlas
