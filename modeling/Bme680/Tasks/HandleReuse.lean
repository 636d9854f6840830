import Bme680.Tasks.HandleLifeCycle

/-!
# Handles closed again or used late

A handle that was closed and that a task may still touch: the producer and the netlink task come to
the test of it in their handler, which finds it open, and the consumer comes to its `sem_wait`. Each
lemma here takes a task from one place of its code on to the call that matters, so that from every
close that is not safe a run can go on to a ledger that is not sound (`doomed_of_mayTouch`).

With the invariant of the runs whose closes are safe this makes the condition exact
(`task_handles_closed_once_iff`).
-/

set_option autoImplicit false
set_option relaxedAutoImplicit false

namespace Bme680.Tasks

open Concurrency

variable {capacity : ℤ} {state successor : TaskState} {label : TaskLabel} {Position : Type}

/-! ### Runs to a second close or a late use -/

/-- The state can go on to one whose ledger is not sound. -/
def Doomed (capacity : ℤ) (state : TaskState) : Prop :=
  ∃ final, (taskSystem capacity).Continuation (fun _ _ ↦ True) state final ∧ ¬ final.ledger.Sound

theorem Doomed.of_next (label : TaskLabel) (hdoomed : Doomed capacity successor)
    (hnext : taskNext capacity state label = some successor) : Doomed capacity state := by
  obtain ⟨final, hmore, hunsound⟩ := hdoomed
  exact ⟨final, .head ⟨label, trivial, hnext⟩ hmore, hunsound⟩

/-- A step that does nothing with a handle leaves the ledger. -/
theorem Doomed.of_quiet (label : TaskLabel) (hdoomed : Doomed capacity successor)
    (hstep : taskStep capacity state label = some successor)
    (haction : handleAction state label = none) (hledger : successor.ledger = state.ledger) :
    Doomed capacity state := by
  refine hdoomed.of_next label ?_
  simp only [taskNext, hstep, haction, Option.map_some, Option.toList_none,
    ResourceLedger.perform_nil, ← hledger]

/-- A task that has the test of a handle before it in its handler comes to close it a second
time. -/
theorem doomed_of_cleaning {place : TaskState → TaskPhase Position → TaskState}
    (hstep : ∀ state cancelled first remaining,
      taskNext capacity (place state (.cleaning cancelled (first :: remaining))) label =
        some (place
          { state with
            ledger := state.ledger.perform (cleanupAction state.targ
              (.cleaning cancelled (first :: remaining) : TaskPhase Position)).toList }
          (.cleaning cancelled remaining)))
    (hledger : ∀ state phase, (place state phase).ledger = state.ledger)
    {handle : Handle} {remaining : List Handle} (cancelled : Bool) (hmember : handle ∈ remaining)
    (hheld : state.targ.Holds handle) (hclosed : ¬ state.ledger.Live handle) :
    Doomed capacity (place state (.cleaning cancelled remaining)) := by
  induction remaining generalizing state with
  | nil => cases hmember
  | cons first remaining ih =>
    by_cases hsame : first = handle
    · subst hsame
      refine Doomed.of_next label ⟨_, .refl, fun hsound ↦ ?_⟩
        (hstep state cancelled first remaining)
      simp only [hledger, cleanupAction, if_pos hheld, Option.toList_some,
        ResourceLedger.perform_cons, ResourceLedger.perform_nil] at hsound
      exact hclosed (ResourceLedger.live_of_sound_release hsound)
    · have hlater : handle ∈ remaining :=
        (List.mem_cons.mp hmember).resolve_left fun heq ↦ hsame heq.symm
      refine Doomed.of_next label ?_ (hstep state cancelled first remaining)
      refine ih hlater hheld ?_
      by_cases hfirst : state.targ.Holds first
      · simpa [cleanupAction, hfirst,
          ResourceLedger.live_release_of_ne (Ne.symm hsame)] using hclosed
      · simpa [cleanupAction, hfirst] using hclosed

/-- What a read or a wait that fails leaves in the record it was given. -/
def staleRecord : Bme680FifoData :=
  { temp := 0, pressure := 0, humidity := 0, gasResistance := 0 }

/-- The producer in its handler closes a handle a second time. -/
theorem doomed_of_producer_cleaning {cancelled : Bool} {remaining : List Handle} {handle : Handle}
    (hphase : state.producer = .cleaning cancelled remaining) (hmember : handle ∈ remaining)
    (hheld : state.targ.Holds handle) (hclosed : ¬ state.ledger.Live handle) :
    Doomed capacity state := by
  have hdoomed := @doomed_of_cleaning capacity state (.producer 0 staleRecord) _
    (fun state phase ↦ { state with producer := phase }) (fun _ _ _ _ ↦ rfl) (fun _ _ ↦ rfl)
    handle remaining cancelled hmember hheld hclosed
  simpa only [← hphase] using hdoomed

/-- The netlink task in its handler closes a handle a second time. -/
theorem doomed_of_netlink_cleaning {cancelled : Bool} {remaining : List Handle} {handle : Handle}
    (hphase : state.netlink = .cleaning cancelled remaining) (hmember : handle ∈ remaining)
    (hheld : state.targ.Holds handle) (hclosed : ¬ state.ledger.Live handle) :
    Doomed capacity state := by
  have hdoomed := @doomed_of_cleaning capacity state (.netlink 0) _
    (fun state phase ↦ { state with netlink := phase }) (fun _ _ _ _ ↦ rfl) (fun _ _ ↦ rfl)
    handle remaining cancelled hmember hheld hclosed
  simpa only [← hphase] using hdoomed

theorem mem_cleanupHandler (handle : Handle) : handle ∈ cleanupHandler := by
  cases handle <;> decide

/-- The producer cancelled in its loop closes a handle a second time. -/
theorem doomed_of_producer_cancelled {position : ProducerPosition} {handle : Handle}
    (hphase : state.producer = .running position) (hpoint : position.cancellationPoint = true)
    (hheld : state.targ.Holds handle) (hclosed : ¬ state.ledger.Live handle) :
    Doomed capacity state := by
  have hdoomed : Doomed capacity { state with producer := .cleaning true cleanupHandler } :=
    doomed_of_producer_cleaning rfl (mem_cleanupHandler handle) hheld hclosed
  refine hdoomed.of_quiet (.cancel .producer) ?_ rfl rfl
  simp only [taskStep, cancelTask, hphase, TaskPhase.cancelHandled, if_pos hpoint, Option.map_some]

/-- The producer comes to close a handle a second time. -/
theorem doomed_of_producer {handle : Handle} (hpends : state.producer.Pends handle)
    (hheld : state.targ.Holds handle) (hclosed : ¬ state.ledger.Live handle) :
    Doomed capacity state := by
  -- an `ioctl` that fails leads on to `usleep`
  have hreading : ∀ before : TaskState, before.producer = .running .reading →
      before.targ.Holds handle → ¬ before.ledger.Live handle → Doomed capacity before := by
    intro before hphase hbefore hdead
    have hdoomed : Doomed capacity
        { before with
          producer := .running .sleeping
          ledger := before.ledger.act (.use .devFd) } :=
      doomed_of_producer_cancelled rfl rfl hbefore (mt ResourceLedger.live_use.mp hdead)
    refine hdoomed.of_next (.producer (-1) staleRecord) ?_
    simp [taskNext, taskStep, producerTask, handleAction, hphase]
  cases hphase : state.producer with
  | ended => simp only [hphase, TaskPhase.Pends] at hpends
  | cleaning cancelled remaining =>
    simp only [hphase, TaskPhase.Pends] at hpends
    exact doomed_of_producer_cleaning hphase hpends hheld hclosed
  | running position =>
    cases position with
    | testing =>
      cases htest : (producerTest state.keepRunning state.numReads).1 with
      | true =>
        refine (hreading { state with
          numReads := (producerTest state.keepRunning state.numReads).2
          producer := .running .reading } rfl hheld hclosed).of_quiet
          (.producer 0 staleRecord) ?_ ?_ rfl
        · simp [taskStep, producerTask, hphase, htest]
        · simp [handleAction, hphase, cleanupAction]
      | false =>
        have hdoomed : Doomed capacity
            { state with
              numReads := (producerTest state.keepRunning state.numReads).2
              producer := .cleaning false cleanupHandler } :=
          doomed_of_producer_cleaning rfl (mem_cleanupHandler handle) hheld hclosed
        refine hdoomed.of_quiet (.producer 0 staleRecord) ?_ ?_ rfl
        · simp [taskStep, producerTask, hphase, htest]
        · simp [handleAction, hphase, cleanupAction]
    | reading => exact hreading state hphase hheld hclosed
    | writing | publishing | logging | sending | queueing | sleeping | testingCancel =>
      exact doomed_of_producer_cancelled hphase rfl hheld hclosed

/-- The netlink task cancelled comes to close a handle a second time. -/
theorem doomed_of_netlink_cancelled {position : NetlinkPosition} {handle : Handle}
    (hphase : state.netlink = .running position) (hpoint : position.cancellationPoint = true)
    (hheld : state.targ.Holds handle) (hclosed : ¬ state.ledger.Live handle) :
    Doomed capacity state := by
  have hdoomed : Doomed capacity { state with netlink := .cleaning true cleanupHandler } :=
    doomed_of_netlink_cleaning rfl (mem_cleanupHandler handle) hheld hclosed
  refine hdoomed.of_quiet (.cancel .netlink) ?_ rfl rfl
  simp only [taskStep, cancelTask, hphase, TaskPhase.cancelHandled, if_pos hpoint, Option.map_some]

/-- The netlink task at the test of its loop comes to close a handle a second time. -/
theorem doomed_of_netlink_testing {handle : Handle} (hphase : state.netlink = .running .testing)
    (hheld : state.targ.Holds handle) (hclosed : ¬ state.ledger.Live handle) :
    Doomed capacity state := by
  cases hrunning : state.keepRunning with
  | true =>
    have hdoomed : Doomed capacity { state with netlink := .running .receiving } :=
      doomed_of_netlink_cancelled rfl rfl hheld hclosed
    refine hdoomed.of_quiet (.netlink 0) ?_ ?_ rfl
    · simp [taskStep, netlinkTask, hphase, hrunning]
    · simp [handleAction, hphase, cleanupAction]
  | false =>
    have hdoomed : Doomed capacity { state with netlink := .cleaning false cleanupHandler } :=
      doomed_of_netlink_cleaning rfl (mem_cleanupHandler handle) hheld hclosed
    refine hdoomed.of_quiet (.netlink 0) ?_ ?_ rfl
    · simp [taskStep, netlinkTask, hphase, hrunning]
    · simp [handleAction, hphase, cleanupAction]

/-- The netlink task before `bind` comes to close a handle a second time. -/
theorem doomed_of_netlink_binding {handle : Handle} (hphase : state.netlink = .running .binding)
    (hheld : state.targ.Holds handle) (hclosed : ¬ state.ledger.Live handle) :
    Doomed capacity state := by
  have hdoomed : Doomed capacity { state with netlink := .running .testing } :=
    doomed_of_netlink_testing rfl hheld hclosed
  refine hdoomed.of_quiet (.netlink 0) ?_ ?_ rfl
  · simp [taskStep, netlinkTask, hphase]
  · simp [handleAction, hphase, cleanupAction]

/-- The netlink task comes to close a handle a second time. -/
theorem doomed_of_netlink {handle : Handle} (hfits : NetlinkFits state.targ state.netlink)
    (hpends : state.netlink.Pends handle) (hheld : state.targ.Holds handle)
    (hclosed : ¬ state.ledger.Live handle) : Doomed capacity state := by
  cases hphase : state.netlink with
  | ended => simp only [hphase, TaskPhase.Pends] at hpends
  | cleaning cancelled remaining =>
    simp only [hphase, TaskPhase.Pends] at hpends
    exact doomed_of_netlink_cleaning hphase hpends hheld hclosed
  | running position =>
    cases position with
    | opening =>
      -- the socket is not open yet, so the handle is another one
      rw [hphase] at hfits
      have hother : handle ≠ .nlSock := fun hsocket ↦ hfits (hsocket ▸ hheld)
      have hdoomed : Doomed capacity
          { state with
            targ := { state.targ with nlSock := 0 }
            netlink := .running .binding
            ledger := state.ledger.act (.create .nlSock) } := by
        refine doomed_of_netlink_binding rfl ?_
          (mt (ResourceLedger.live_create_of_ne hother).mp hclosed)
        cases handle with
        | nlSock => exact absurd rfl hother
        | devFd | mq | sem => exact hheld
      refine hdoomed.of_next (.netlink 0) ?_
      simp [taskNext, taskStep, netlinkTask, handleAction, hphase]
    | binding => exact doomed_of_netlink_binding hphase hheld hclosed
    | testing => exact doomed_of_netlink_testing hphase hheld hclosed
    | socketFailed | bindFailed | receiving | logging | testingCancel =>
      exact doomed_of_netlink_cancelled hphase rfl hheld hclosed

/-- The consumer before `sem_wait` comes to wait for the closed semaphore. -/
theorem doomed_of_consumer_waiting {data : Bme680FifoData}
    (hphase : state.consumer = .running (.waiting data)) (hclosed : ¬ state.ledger.Live .sem) :
    Doomed capacity state := by
  have hdoomed : Doomed capacity
      { state with
        consumer := .running (.logging data)
        ledger := state.ledger.act (.use .sem) } :=
    ⟨_, .refl, mt ResourceLedger.live_of_sound_use hclosed⟩
  refine hdoomed.of_next (.consumer 0 staleRecord) ?_
  simp [taskNext, taskStep, consumerTask, handleAction, hphase]

/-- The consumer before its read comes to wait for the closed semaphore. -/
theorem doomed_of_consumer_reading (hphase : state.consumer = .running .reading)
    (hclosed : ¬ state.ledger.Live .sem) : Doomed capacity state := by
  have hdoomed : Doomed capacity { state with consumer := .running (.waiting staleRecord) } :=
    doomed_of_consumer_waiting rfl hclosed
  refine hdoomed.of_quiet (.consumer (-ETIMEDOUT) staleRecord) ?_ ?_ rfl
  · simp [taskStep, consumerTask, hphase, bme680MonitorReadReturns, ETIMEDOUT]
  · simp [handleAction, hphase]

/-- A step of the consumer that does nothing with a handle. -/
theorem Doomed.of_consumer (hdoomed : Doomed capacity successor)
    (hstep : consumerTask capacity state 0 staleRecord = some successor)
    (hquiet : ∀ data, state.consumer ≠ .running (.waiting data)) : Doomed capacity state := by
  obtain ⟨_, _, _, rfl⟩ := consumerTask_effect hstep
  refine hdoomed.of_quiet (.consumer 0 staleRecord) hstep ?_ rfl
  simp only [handleAction]

/-- The consumer in its loop comes to wait for the closed semaphore. -/
theorem doomed_of_consumer_looping {position : ConsumerPosition}
    (hphase : state.consumer = .running position) (hrunning : state.keepRunning = true)
    (hclosed : ¬ state.ledger.Live .sem) : Doomed capacity state := by
  have htesting : ∀ before : TaskState, before.consumer = .running .testing →
      before.keepRunning = true → ¬ before.ledger.Live .sem → Doomed capacity before := by
    intro before hat hloops hdead
    have hdoomed : Doomed capacity { before with consumer := .running .reading } :=
      doomed_of_consumer_reading rfl hdead
    exact hdoomed.of_consumer (by simp [consumerTask, hat, hloops]) (by simp [hat])
  have hcancel : ∀ before : TaskState, before.consumer = .running .testingCancel →
      before.keepRunning = true → ¬ before.ledger.Live .sem → Doomed capacity before := by
    intro before hat hloops hdead
    have hdoomed := htesting { before with consumer := .running .testing } rfl hloops hdead
    exact hdoomed.of_consumer (by simp [consumerTask, hat]) (by simp [hat])
  have hposting : ∀ before : TaskState, before.consumer = .running .posting →
      before.keepRunning = true → ¬ before.ledger.Live .sem → Doomed capacity before := by
    intro before hat hloops hdead
    have hdoomed := hcancel { before with consumer := .running .testingCancel } rfl hloops hdead
    exact hdoomed.of_consumer (by simp [consumerTask, hat]) (by simp [hat])
  cases position with
  | reading => exact doomed_of_consumer_reading hphase hclosed
  | waiting data => exact doomed_of_consumer_waiting hphase hclosed
  | testing => exact htesting state hphase hrunning hclosed
  | testingCancel => exact hcancel state hphase hrunning hclosed
  | posting => exact hposting state hphase hrunning hclosed
  | logging data =>
    have hdoomed := hposting
      { state with logged := state.logged ++ [data], consumer := .running .posting }
      rfl hrunning hclosed
    exact hdoomed.of_consumer (by simp [consumerTask, hphase]) (by simp [hphase])

/-- The consumer comes to wait for the closed semaphore. -/
theorem doomed_of_consumer (hwait : state.MayWait) (hclosed : ¬ state.ledger.Live .sem) :
    Doomed capacity state := by
  unfold TaskState.MayWait at hwait
  split at hwait
  case h_1 hphase => exact doomed_of_consumer_reading hphase hclosed
  case h_2 data hphase => exact doomed_of_consumer_waiting hphase hclosed
  case h_3 position _ _ hphase => exact doomed_of_consumer_looping hphase hwait hclosed
  all_goals exact hwait.elim

/-- A closed handle that a task may touch is closed again or used. -/
theorem doomed_of_mayTouch {task : Task} {handle : Handle}
    (hfits : NetlinkFits state.targ state.netlink) (hmay : MayTouch state task handle)
    (hheld : state.targ.Holds handle) (hclosed : ¬ state.ledger.Live handle) :
    Doomed capacity state := by
  cases task with
  | producer => exact doomed_of_producer hmay hheld hclosed
  | consumer =>
    obtain ⟨rfl, hwait⟩ := hmay
    exact doomed_of_consumer hwait hclosed
  | netlink => exact doomed_of_netlink hfits hmay hheld hclosed
  | sysv => exact hmay.elim

/-- A step that closes a handle leaves what the other tasks may touch. -/
theorem mayTouch_of_closes {handle : Handle} {task : Task}
    (haction : handleAction state label = some (.release handle))
    (htask : label.task ≠ some task) (hmay : MayTouch state task handle)
    (hstep : taskStep capacity state label = some successor) : MayTouch successor task handle := by
  cases label with
  | producer ret data =>
    obtain ⟨_, _, _, rfl, -⟩ := producerTask_effect hstep
    cases task with
    | producer => exact absurd rfl htask
    | consumer | netlink | sysv => exact hmay
  | netlink ret =>
    obtain ⟨_, _, rfl, -⟩ := netlinkTask_effect hstep
    cases task with
    | netlink => exact absurd rfl htask
    | producer | consumer | sysv => exact hmay
  | consumer ret data =>
    simp only [handleAction] at haction
    split at haction <;> cases haction
  | stop | sysv | cancel => cases haction

/-- The tasks close each handle once and use none that is closed exactly while every task closes a
handle only where it is open and no other task may touch it. -/
theorem task_handles_closed_once_iff (capacity : ℤ) :
    (taskSystem capacity).ExactFor ClosesSafely fun state ↦ state.ledger.Sound := by
  refine ⟨fun state hreach ↦ (handleInvariant_reachable hreach).sound,
    fun state label successor hreach hnot hnext ↦ ?_⟩
  have hinv := handleInvariant_reachable hreach
  simp only [ClosesSafely, not_forall] at hnot
  obtain ⟨handle, haction, hforbidden⟩ := hnot
  obtain ⟨stepped, hstep, rfl⟩ := Option.map_eq_some_iff.mp hnext
  have hframe := hinv.frame hstep
  simp only [haction, Option.toList_some, ResourceLedger.perform_cons, ResourceLedger.perform_nil]
  by_cases hlive : state.ledger.Live handle
  · -- another task may still touch the handle
    have hother : ∃ task, label.task ≠ some task ∧ MayTouch state task handle := by
      by_contra hnone
      exact hforbidden ⟨hlive, fun task htask hmay ↦ hnone ⟨task, htask, hmay⟩⟩
    obtain ⟨task, htask, hmay⟩ := hother
    have hlater : MayTouch stepped task handle :=
      mayTouch_of_closes haction htask hmay hstep
    exact doomed_of_mayTouch hframe.fits hlater (hframe.held_of_closes haction)
      (ResourceLedger.not_live_release (hinv.once handle))
  · exact ⟨_, .refl, mt ResourceLedger.live_of_sound_release hlive⟩

/-- Signalled to stop, the producer leaves its loop and closes the handles, and the netlink task,
which opens its socket after that, leaves its loop and closes the device once more. -/
theorem device_closed_twice :
    ∃ state, (taskSystem 1).Reachable state ∧ state.ledger.released .devFd = 2 ∧
      ¬ state.ledger.Sound := by
  obtain ⟨final, hrun, hcreated, hreleased⟩ : ∃ final,
      (taskSystem 1).run startedTasks
        [.stop, .producer 0 staleRecord, .producer 0 staleRecord, .producer 0 staleRecord,
          .producer 0 staleRecord, .producer 0 staleRecord, .producer 0 staleRecord,
          .netlink 3, .netlink 0, .netlink 0, .netlink 0] = some final ∧
        final.ledger.created .devFd = 1 ∧ final.ledger.released .devFd = 2 :=
    ⟨_, rfl, rfl, rfl⟩
  refine ⟨final, TransitionSystem.reachable_of_run (startedTasks_initial 1) _ hrun, hreleased,
    fun hsound ↦ ?_⟩
  have hcount := hsound.1 .devFd
  omega

end Bme680.Tasks
