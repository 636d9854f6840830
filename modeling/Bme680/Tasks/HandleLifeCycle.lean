import Bme680.Tasks.TaskProgram

/-!
# The life cycle of the handles

`producer_task` and `netlink_task` run the same `cleanup_handler` on the same arguments, and it does
not mark what it closed: each of the two closes the device, the message queue and the semaphore,
and the socket where it is open, while the other tasks may still be using them.

A task may touch a handle while its code can still come to a call that uses or closes it
(`MayTouch`). A step of a task brings no handle into reach, uses only what the task may touch, and
puts what it closes behind the task (`HandleInvariant.frame`). So the ledger of the handles stays
sound while a task closes a handle only where it is open and no other task may touch it
(`handleInvariant_reachable`).
-/

set_option autoImplicit false
set_option relaxedAutoImplicit false

namespace Bme680.Tasks

open Concurrency

variable {capacity : ℤ} {state successor : TaskState} {label : TaskLabel} {Position : Type}

/-! ### Handles a task may touch -/

/-- The task has the test of a handle in `cleanup_handler` still before it. -/
def TaskPhase.Pends (handle : Handle) : TaskPhase Position → Prop
  | .running _ => True
  | .cleaning _ remaining => handle ∈ remaining
  | .ended => False

/-- The consumer can still come to `sem_wait`. -/
def TaskState.MayWait (state : TaskState) : Prop :=
  match state.consumer with
  | .running .reading | .running (.waiting _) => True
  | .running _ => state.keepRunning = true
  | .cleaning _ _ | .ended => False

/-- The task can still come to a call that uses or closes a handle. -/
def MayTouch (state : TaskState) : Task → Handle → Prop
  | .producer, handle => state.producer.Pends handle
  | .consumer, handle => handle = .sem ∧ state.MayWait
  | .netlink, handle => state.netlink.Pends handle
  | .sysv, _ => False

/-- A task closes a handle only where it is open and no other task may touch it. -/
def ClosesSafely (state : TaskState) (label : TaskLabel) : Prop :=
  ∀ handle, handleAction state label = some (.release handle) →
    state.ledger.Live handle ∧
      ∀ task, label.task ≠ some task → ¬ MayTouch state task handle

/-! ### The phases of a task with a handler -/

/-- The handles that are left to test in the handler are different. -/
def TaskPhase.Tidy : TaskPhase Position → Prop
  | .cleaning _ remaining => remaining.Nodup
  | .running _ | .ended => True

/-- What a step of a task keeps: it has no test before it that it did not have before, and not that
of the handle it closed. -/
structure TaskPhase.Advances (targ : TaskArg) (before after : TaskPhase Position) : Prop where
  pends : ∀ handle, after.Pends handle → before.Pends handle
  tidy : before.Tidy → after.Tidy
  closed : ∀ handle, before.Tidy → cleanupAction targ before = some (.release handle) →
    ¬ after.Pends handle

theorem tidy_cleanupHandler (cancelled : Bool) :
    (TaskPhase.cleaning cancelled cleanupHandler : TaskPhase Position).Tidy := by
  change cleanupHandler.Nodup
  decide

/-- A running task has everything before it. -/
theorem TaskPhase.Advances.of_running {targ : TaskArg} {position : Position}
    {after : TaskPhase Position} (htidy : after.Tidy) :
    (TaskPhase.running position).Advances targ after where
  pends := fun _ _ ↦ trivial
  tidy := fun _ ↦ htidy
  closed := fun _ _ haction ↦ by cases haction

/-- A task that has ended has nothing before it. -/
theorem TaskPhase.Advances.ended {targ : TaskArg} (before : TaskPhase Position) :
    before.Advances targ .ended where
  pends := fun _ hpends ↦ hpends.elim
  tidy := fun _ ↦ trivial
  closed := fun _ _ _ hpends ↦ hpends

/-- A test of the handler puts its handle behind the task. -/
theorem TaskPhase.Advances.cleaning {targ : TaskArg} (cancelled : Bool) (handle : Handle)
    (remaining : List Handle) :
    (TaskPhase.cleaning cancelled (handle :: remaining) : TaskPhase Position).Advances targ
      (.cleaning cancelled remaining) where
  pends := fun _ hpends ↦ List.mem_cons_of_mem _ hpends
  tidy := fun htidy ↦ (List.nodup_cons.mp htidy).2
  closed := by
    intro other htidy haction
    simp only [cleanupAction, Option.ite_none_right_eq_some, Option.some.injEq,
      ResourceAction.release.injEq] at haction
    obtain ⟨-, rfl⟩ := haction
    exact (List.nodup_cons.mp htidy).1

/-- Where a cancelled task with a handler goes. -/
theorem TaskPhase.cancelHandled_cases {targ : TaskArg} {cancellationPoint : Position → Bool}
    {before after : TaskPhase Position}
    (hcancel : before.cancelHandled targ cancellationPoint = some after) :
    (∃ position, before = .running position ∧ after = .cleaning true cleanupHandler) ∨
      after = .ended := by
  unfold TaskPhase.cancelHandled at hcancel
  split at hcancel
  · split_ifs at hcancel
    exact .inl ⟨_, rfl, (Option.some.inj hcancel).symm⟩
  · split_ifs at hcancel
    exact .inr (Option.some.inj hcancel).symm
  all_goals cases hcancel

/-- A cancelled task with a handler has the tests of its handler before it, or nothing. -/
theorem TaskPhase.Advances.of_cancel {targ : TaskArg} {cancellationPoint : Position → Bool}
    {before after : TaskPhase Position}
    (hcancel : before.cancelHandled targ cancellationPoint = some after) :
    before.Advances targ after := by
  obtain ⟨position, rfl, rfl⟩ | rfl := TaskPhase.cancelHandled_cases hcancel
  · exact .of_running (tidy_cleanupHandler true)
  · exact .ended before

/-! ### The steps of the tasks -/

/-- A step of the producer has nothing before it that was not before it already. -/
theorem producerTask_advances {ret : ℤ} {data : Bme680FifoData}
    (hstep : producerTask capacity state ret data = some successor) :
    state.producer.Advances state.targ successor.producer := by
  unfold producerTask at hstep
  split at hstep
  case h_1 hphase =>
    obtain rfl := Option.some.inj hstep
    rw [hphase]
    apply TaskPhase.Advances.of_running
    dsimp only
    split
    · trivial
    · exact tidy_cleanupHandler false
  case h_3 fdata hphase =>
    obtain ⟨history, -, rfl⟩ := Option.map_eq_some_iff.mp hstep
    rw [hphase]
    exact .of_running trivial
  case h_10 cancelled hphase =>
    obtain rfl := Option.some.inj hstep
    exact .ended _
  case h_11 cancelled handle remaining hphase =>
    obtain rfl := Option.some.inj hstep
    rw [hphase]
    exact .cleaning cancelled handle remaining
  case h_12 => cases hstep
  all_goals
    rename_i hphase
    obtain rfl := Option.some.inj hstep
    rw [hphase]
    exact .of_running trivial

/-- A step of the consumer leads to `sem_wait` only where it could be reached before. -/
theorem consumerTask_mayWait {ret : ℤ} {data : Bme680FifoData}
    (hstep : consumerTask capacity state ret data = some successor) (hmay : successor.MayWait) :
    state.MayWait := by
  unfold consumerTask at hstep
  split at hstep
  case h_1 hphase =>
    obtain rfl := Option.some.inj hstep
    cases hrunning : state.keepRunning with
    | true => simpa [TaskState.MayWait, hphase] using hrunning
    | false => simp [TaskState.MayWait, hrunning] at hmay
  case h_2 hphase => simp [TaskState.MayWait, hphase]
  case h_3 fdata hphase => simp [TaskState.MayWait, hphase]
  case h_7 | h_8 => cases hstep
  all_goals
    rename_i hphase
    obtain rfl := Option.some.inj hstep
    simpa [TaskState.MayWait, hphase] using hmay

/-- What the place of the netlink task says about the socket: it is not open before it was opened,
and from then on until the task ends or runs its handler it is. -/
def NetlinkFits (targ : TaskArg) : TaskPhase NetlinkPosition → Prop
  | .running .opening => ¬ targ.Holds .nlSock
  | .running .socketFailed | .cleaning _ _ | .ended => True
  | .running _ => targ.Holds .nlSock

/-- A step of the netlink task has nothing before it that was not before it already, and its
arguments have the socket from the step that opened it. -/
theorem netlinkTask_advances {ret : ℤ} (hfits : NetlinkFits state.targ state.netlink)
    (hstep : netlinkTask state ret = some successor) :
    state.netlink.Advances state.targ successor.netlink ∧
      NetlinkFits successor.targ successor.netlink := by
  unfold netlinkTask at hstep
  split at hstep
  case h_1 hphase =>
    obtain rfl := Option.some.inj hstep
    rw [hphase]
    refine ⟨.of_running trivial, ?_⟩
    dsimp only
    split_ifs with hret
    · trivial
    · exact not_lt.mp hret
  case h_3 hphase =>
    obtain rfl := Option.some.inj hstep
    rw [hphase] at hfits ⊢
    refine ⟨.of_running trivial, ?_⟩
    dsimp only
    split_ifs <;> exact hfits
  case h_5 hphase =>
    obtain rfl := Option.some.inj hstep
    rw [hphase] at hfits ⊢
    dsimp only
    cases state.keepRunning with
    | true => exact ⟨.of_running trivial, hfits⟩
    | false => exact ⟨.of_running (tidy_cleanupHandler false), trivial⟩
  case h_6 hphase =>
    obtain rfl := Option.some.inj hstep
    rw [hphase] at hfits ⊢
    refine ⟨.of_running trivial, ?_⟩
    dsimp only
    split_ifs <;> exact hfits
  case h_7 hphase =>
    obtain rfl := Option.some.inj hstep
    rw [hphase] at hfits ⊢
    exact ⟨.of_running trivial, hfits⟩
  case h_8 hphase =>
    obtain rfl := Option.some.inj hstep
    rw [hphase] at hfits ⊢
    exact ⟨.of_running trivial, hfits⟩
  case h_10 cancelled handle remaining hphase =>
    obtain rfl := Option.some.inj hstep
    rw [hphase]
    exact ⟨.cleaning cancelled handle remaining, trivial⟩
  case h_11 => cases hstep
  all_goals
    obtain rfl := Option.some.inj hstep
    exact ⟨.ended _, trivial⟩

/-! ### The invariant -/

/-- The ledger is sound, every handle was opened at most once, the socket not before the arguments
hold it, and a handle that a task may touch is open. -/
structure HandleInvariant (state : TaskState) : Prop where
  sound : state.ledger.Sound
  once : ∀ handle, state.ledger.created handle ≤ 1
  absent : ¬ state.targ.Holds .nlSock → state.ledger.created .nlSock = 0
  holds : ∀ handle, handle ≠ .nlSock → state.targ.Holds handle
  live : ∀ task handle, MayTouch state task handle → state.targ.Holds handle →
    state.ledger.Live handle
  fits : NetlinkFits state.targ state.netlink
  tidy : state.producer.Tidy ∧ state.netlink.Tidy

/-- What a step of the code does with the handles: nothing, a use of one that its task may touch,
the opening of the socket, or the closing of one that its task then has behind it. Only the opening
changes what the arguments hold. -/
inductive HandleStep (state : TaskState) (label : TaskLabel) (stepped : TaskState) : Prop
  | quiet (haction : handleAction state label = none)
      (hholds : ∀ handle, stepped.targ.Holds handle ↔ state.targ.Holds handle)
  | uses (task : Task) (handle : Handle) (haction : handleAction state label = some (.use handle))
      (hholds : ∀ other, stepped.targ.Holds other ↔ state.targ.Holds other)
      (hmay : MayTouch state task handle) (hheld : state.targ.Holds handle)
  | opens (haction : handleAction state label = some (.create .nlSock))
      (habsent : ¬ state.targ.Holds .nlSock)
      (hholds : ∀ other, stepped.targ.Holds other ↔ other = .nlSock ∨ state.targ.Holds other)
  | closes (handle : Handle) (haction : handleAction state label = some (.release handle))
      (hholds : ∀ other, stepped.targ.Holds other ↔ state.targ.Holds other)
      (hheld : state.targ.Holds handle)
      (hbehind : ∀ task, label.task = some task → ¬ MayTouch stepped task handle)

/-- What a step of the code keeps: no handle comes into reach, and the places of the tasks stay in
order. -/
structure StepFrame (state : TaskState) (label : TaskLabel) (stepped : TaskState) : Prop where
  touch : ∀ task handle, MayTouch stepped task handle → MayTouch state task handle
  fits : NetlinkFits stepped.targ stepped.netlink
  tidy : stepped.producer.Tidy ∧ stepped.netlink.Tidy
  handles : HandleStep state label stepped

/-- The arguments still hold a handle that a step closed. -/
theorem StepFrame.held_of_closes {stepped : TaskState} (hframe : StepFrame state label stepped)
    {handle : Handle} (haction : handleAction state label = some (.release handle)) :
    stepped.targ.Holds handle := by
  cases hframe.handles with
  | quiet hother | uses _ _ hother | opens hother => cases haction.symm.trans hother
  | closes closed hother hholds hheld =>
    obtain rfl := ResourceAction.release.inj (Option.some.inj (haction.symm.trans hother))
    exact (hholds handle).mpr hheld

/-- A test of the handler closes a handle that is held, or does nothing. -/
theorem cleanupAction_cases (targ : TaskArg) (phase : TaskPhase Position) :
    cleanupAction targ phase = none ∨
      ∃ handle, targ.Holds handle ∧ cleanupAction targ phase = some (.release handle) := by
  unfold cleanupAction
  split
  · split_ifs with hholds
    · exact .inr ⟨_, hholds, rfl⟩
    · exact .inl rfl
  all_goals exact .inl rfl

/-- A step whose task is at a test of its handler, or does nothing with a handle. -/
theorem handleStep_of_cleanup {stepped : TaskState} {before after : TaskPhase Position}
    {task : Task}
    (haction : handleAction state label = cleanupAction state.targ before)
    (hadvances : before.Advances state.targ after) (htidy : before.Tidy)
    (htask : label.task = some task)
    (hafter : ∀ handle, MayTouch stepped task handle → after.Pends handle)
    (hholds : ∀ handle, stepped.targ.Holds handle ↔ state.targ.Holds handle) :
    HandleStep state label stepped := by
  obtain hnone | ⟨handle, hheld, hrelease⟩ := cleanupAction_cases state.targ before
  · exact .quiet (haction.trans hnone) hholds
  · refine .closes handle (haction.trans hrelease) hholds hheld fun other hother hmay ↦ ?_
    obtain rfl : task = other := Option.some.inj (htask.symm.trans hother)
    exact hadvances.closed handle htidy hrelease (hafter handle hmay)

/-- A step of the producer uses the device and the message queue in its loop. -/
theorem HandleInvariant.frame_producer (hinv : HandleInvariant state) {ret : ℤ}
    {data : Bme680FifoData} (hstep : producerTask capacity state ret data = some successor) :
    StepFrame state (.producer ret data) successor := by
  have hadvances := producerTask_advances hstep
  obtain ⟨numReads, history, phase, rfl, -⟩ := producerTask_effect hstep
  refine ⟨?_, hinv.fits, ⟨hadvances.tidy hinv.tidy.1, hinv.tidy.2⟩, ?_⟩
  · rintro (_ | _ | _ | _) handle hmay
    · exact hadvances.pends handle hmay
    all_goals exact hmay
  · by_cases hreading : state.producer = .running .reading
    · refine .uses .producer .devFd ?_ (fun _ ↦ Iff.rfl) ?_ (hinv.holds _ (by decide))
      · simp only [handleAction, hreading]
      · simp only [MayTouch, hreading, TaskPhase.Pends]
    · by_cases hsending : ∃ fdata, state.producer = .running (.sending fdata)
      · obtain ⟨fdata, hsending⟩ := hsending
        refine .uses .producer .mq ?_ (fun _ ↦ Iff.rfl) ?_ (hinv.holds _ (by decide))
        · simp only [handleAction, hsending]
        · simp only [MayTouch, hsending, TaskPhase.Pends]
      · have hnot := not_exists.mp hsending
        refine handleStep_of_cleanup ?_ hadvances hinv.tidy.1 rfl (fun _ hmay ↦ hmay)
          fun _ ↦ Iff.rfl
        simp only [handleAction]

/-- A step of the consumer uses the semaphore where it waits for it. -/
theorem HandleInvariant.frame_consumer (hinv : HandleInvariant state) {ret : ℤ}
    {data : Bme680FifoData} (hstep : consumerTask capacity state ret data = some successor) :
    StepFrame state (.consumer ret data) successor := by
  have hwait := consumerTask_mayWait hstep
  obtain ⟨history, logged, phase, rfl⟩ := consumerTask_effect hstep
  refine ⟨?_, hinv.fits, hinv.tidy, ?_⟩
  · rintro (_ | _ | _ | _) handle hmay
    · exact hmay
    · exact ⟨hmay.1, hwait hmay.2⟩
    all_goals exact hmay
  · by_cases hwaiting : ∃ fdata, state.consumer = .running (.waiting fdata)
    · obtain ⟨fdata, hwaiting⟩ := hwaiting
      refine .uses .consumer .sem ?_ (fun _ ↦ Iff.rfl) ⟨rfl, ?_⟩ (hinv.holds _ (by decide))
      · simp only [handleAction, hwaiting]
      · simp only [TaskState.MayWait, hwaiting]
    · have hnot := not_exists.mp hwaiting
      refine .quiet ?_ fun _ ↦ Iff.rfl
      simp only [handleAction]

/-- What the first step of the netlink task does with the socket. -/
theorem HandleInvariant.handles_opening (hinv : HandleInvariant state) {ret : ℤ}
    (hopening : state.netlink = .running .opening)
    (hstep : netlinkTask state ret = some successor) :
    HandleStep state (.netlink ret) successor := by
  have habsent := hinv.fits
  rw [hopening] at habsent
  simp only [netlinkTask, hopening] at hstep
  obtain rfl := Option.some.inj hstep
  by_cases hret : ret < 0
  · refine .quiet ?_ ?_
    · simp only [handleAction, hopening, if_pos hret]
    · rintro (_ | _ | _ | _)
      · exact Iff.rfl
      · exact iff_of_false (not_le.mpr hret) habsent
      all_goals exact Iff.rfl
  · refine .opens ?_ habsent ?_
    · simp only [handleAction, hopening, if_neg hret]
    · rintro (_ | _ | _ | _)
      · simp [TaskArg.Holds]
      · simpa [TaskArg.Holds] using hret
      all_goals simp [TaskArg.Holds]

/-- A step of the netlink task opens the socket, uses it in its loop, and closes it where `bind`
failed. -/
theorem HandleInvariant.frame_netlink (hinv : HandleInvariant state) {ret : ℤ}
    (hstep : netlinkTask state ret = some successor) :
    StepFrame state (.netlink ret) successor := by
  obtain ⟨hadvances, hfits⟩ := netlinkTask_advances hinv.fits hstep
  have hopens := fun hopening ↦ hinv.handles_opening hopening hstep
  obtain ⟨targ, phase, rfl, htarg⟩ := netlinkTask_effect hstep
  refine ⟨?_, hfits, ⟨hinv.tidy.1, hadvances.tidy hinv.tidy.2⟩, ?_⟩
  · rintro (_ | _ | _ | _) handle hmay
    · exact hmay
    · exact hmay
    · exact hadvances.pends handle hmay
    · exact hmay
  · by_cases hopening : state.netlink = .running .opening
    · exact hopens hopening
    · obtain rfl := htarg hopening
      have hkept := hinv.fits
      by_cases hfailed : state.netlink = .running .bindFailed
      · rw [hfailed] at hkept
        obtain rfl : TaskPhase.ended = phase := by
          simpa [netlinkTask, hfailed] using congrArg (Option.map TaskState.netlink) hstep
        refine .closes .nlSock ?_ (fun _ ↦ Iff.rfl) hkept ?_
        · simp only [handleAction, hfailed]
        · intro task htask hmay
          cases htask
          exact hmay
      · by_cases hreceiving : state.netlink = .running .receiving
        · rw [hreceiving] at hkept
          refine .uses .netlink .nlSock ?_ (fun _ ↦ Iff.rfl) ?_ hkept
          · simp only [handleAction, hreceiving]
          · simp only [MayTouch, hreceiving, TaskPhase.Pends]
        · refine handleStep_of_cleanup ?_ hadvances hinv.tidy.2 rfl (fun _ hmay ↦ hmay)
            fun _ ↦ Iff.rfl
          simp only [handleAction]

/-- A step of the System V task touches no handle. -/
theorem HandleInvariant.frame_sysv (hinv : HandleInvariant state) {ret : ℤ}
    (hstep : sysvMsgTask state ret = some successor) : StepFrame state (.sysv ret) successor := by
  obtain ⟨phase, rfl⟩ := sysvMsgTask_effect hstep
  refine ⟨?_, hinv.fits, hinv.tidy, .quiet rfl fun _ ↦ Iff.rfl⟩
  rintro (_ | _ | _ | _) handle hmay
  all_goals exact hmay

/-- The cancellation of a task touches no handle. -/
theorem HandleInvariant.frame_cancel (hinv : HandleInvariant state) {task : Task}
    (hstep : cancelTask state task = some successor) :
    StepFrame state (.cancel task) successor := by
  cases task with
  | producer =>
    obtain ⟨phase, hcancel, rfl⟩ := Option.map_eq_some_iff.mp hstep
    have hadvances := TaskPhase.Advances.of_cancel hcancel
    refine ⟨?_, hinv.fits, ⟨hadvances.tidy hinv.tidy.1, hinv.tidy.2⟩,
      .quiet rfl fun _ ↦ Iff.rfl⟩
    rintro (_ | _ | _ | _) handle hmay
    · exact hadvances.pends handle hmay
    all_goals exact hmay
  | consumer =>
    obtain ⟨phase, hcancel, rfl⟩ := Option.map_eq_some_iff.mp hstep
    obtain rfl := TaskPhase.cancelUnhandled_ended hcancel
    refine ⟨?_, hinv.fits, hinv.tidy, .quiet rfl fun _ ↦ Iff.rfl⟩
    rintro (_ | _ | _ | _) handle hmay
    · exact hmay
    · exact hmay.2.elim
    all_goals exact hmay
  | netlink =>
    obtain ⟨phase, hcancel, rfl⟩ := Option.map_eq_some_iff.mp hstep
    have hadvances := TaskPhase.Advances.of_cancel hcancel
    refine ⟨?_, ?_, ⟨hinv.tidy.1, hadvances.tidy hinv.tidy.2⟩,
      .quiet rfl fun _ ↦ Iff.rfl⟩
    · rintro (_ | _ | _ | _) handle hmay
      · exact hmay
      · exact hmay
      · exact hadvances.pends handle hmay
      · exact hmay
    · obtain ⟨position, -, rfl⟩ | rfl := TaskPhase.cancelHandled_cases hcancel
      · trivial
      · trivial
  | sysv =>
    obtain ⟨phase, -, rfl⟩ := Option.map_eq_some_iff.mp hstep
    refine ⟨?_, hinv.fits, hinv.tidy, .quiet rfl fun _ ↦ Iff.rfl⟩
    rintro (_ | _ | _ | _) handle hmay
    all_goals exact hmay

/-- Every step of the code keeps the frame. -/
theorem HandleInvariant.frame (hinv : HandleInvariant state)
    (hstep : taskStep capacity state label = some successor) :
    StepFrame state label successor := by
  cases label with
  | stop =>
    obtain rfl := Option.some.inj hstep
    refine ⟨?_, hinv.fits, hinv.tidy, .quiet rfl fun _ ↦ Iff.rfl⟩
    rintro (_ | _ | _ | _) handle hmay
    · exact hmay
    · refine ⟨hmay.1, ?_⟩
      have hwait := hmay.2
      unfold TaskState.MayWait at hwait ⊢
      dsimp only at hwait
      split at hwait
      all_goals simp_all
    · exact hmay
    · exact hmay
  | producer ret data => exact hinv.frame_producer hstep
  | consumer ret data => exact hinv.frame_consumer hstep
  | netlink ret => exact hinv.frame_netlink hstep
  | sysv ret => exact hinv.frame_sysv hstep
  | cancel task => exact hinv.frame_cancel hstep

/-- A step that leaves the ledger as it is and opens nothing keeps the invariant. -/
theorem HandleInvariant.of_same_ledger (hinv : HandleInvariant state) {stepped : TaskState}
    (hframe : StepFrame state label stepped)
    (hholds : ∀ handle, stepped.targ.Holds handle ↔ state.targ.Holds handle) :
    HandleInvariant { stepped with ledger := state.ledger } where
  sound := hinv.sound
  once := hinv.once
  absent := fun habsent ↦ hinv.absent (mt (hholds _).mpr habsent)
  holds := fun handle hother ↦ (hholds _).mpr (hinv.holds handle hother)
  live := fun task handle hmay hheld ↦
    hinv.live task handle (hframe.touch task handle hmay) ((hholds _).mp hheld)
  fits := hframe.fits
  tidy := hframe.tidy

/-- The step that opens the socket keeps the invariant. -/
theorem HandleInvariant.of_opens (hinv : HandleInvariant state) {stepped : TaskState}
    (hframe : StepFrame state label stepped) (habsent : ¬ state.targ.Holds .nlSock)
    (hholds : ∀ other, stepped.targ.Holds other ↔ other = .nlSock ∨ state.targ.Holds other) :
    HandleInvariant { stepped with ledger := state.ledger.act (.create .nlSock) } where
  sound := ResourceLedger.sound_create hinv.sound
  once := by
    intro handle
    by_cases hsocket : handle = .nlSock
    · subst hsocket
      simp [hinv.absent habsent]
    · simpa [ResourceLedger.created_create_of_ne hsocket] using hinv.once handle
  absent := fun hnot ↦ absurd ((hholds _).mpr (.inl rfl)) hnot
  holds := fun handle hother ↦ (hholds _).mpr (.inr (hinv.holds handle hother))
  live := by
    intro task handle hmay hheld
    by_cases hsocket : handle = .nlSock
    · subst hsocket
      have hreleased := hinv.sound.1 .nlSock
      simp only [ResourceLedger.Live, ResourceLedger.released_create,
        ResourceLedger.created_create_self]
      omega
    · have hbefore := ((hholds handle).mp hheld).resolve_left hsocket
      exact (ResourceLedger.live_create_of_ne hsocket).mpr
        (hinv.live task handle (hframe.touch task handle hmay) hbefore)
  fits := hframe.fits
  tidy := hframe.tidy

/-- A step that closes a handle safely keeps the invariant. -/
theorem HandleInvariant.of_closes (hinv : HandleInvariant state) {stepped : TaskState}
    (hframe : StepFrame state label stepped) {handle : Handle}
    (hlive : state.ledger.Live handle)
    (hothers : ∀ task, label.task ≠ some task → ¬ MayTouch state task handle)
    (hbehind : ∀ task, label.task = some task → ¬ MayTouch stepped task handle)
    (hholds : ∀ other, stepped.targ.Holds other ↔ state.targ.Holds other) :
    HandleInvariant { stepped with ledger := state.ledger.act (.release handle) } where
  sound := ResourceLedger.sound_release hinv.sound hlive
  once := hinv.once
  absent := fun habsent ↦ hinv.absent (mt (hholds _).mpr habsent)
  holds := fun other hother ↦ (hholds _).mpr (hinv.holds other hother)
  live := by
    intro task other hmay hheld
    have hbefore := hframe.touch task other hmay
    by_cases hsame : other = handle
    · subst hsame
      by_cases htask : label.task = some task
      · exact absurd hmay (hbehind task htask)
      · exact absurd hbefore (hothers task htask)
    · exact (ResourceLedger.live_release_of_ne hsame).mpr
        (hinv.live task other hbefore ((hholds _).mp hheld))
  fits := hframe.fits
  tidy := hframe.tidy

/-- A step that closes safely keeps the invariant. -/
theorem HandleInvariant.next (hinv : HandleInvariant state) (hsafe : ClosesSafely state label)
    (hnext : taskNext capacity state label = some successor) : HandleInvariant successor := by
  obtain ⟨stepped, hstep, rfl⟩ := Option.map_eq_some_iff.mp hnext
  have hframe := hinv.frame hstep
  cases hframe.handles with
  | quiet haction hholds =>
    simp only [haction, Option.toList_none, ResourceLedger.perform_nil]
    exact hinv.of_same_ledger hframe hholds
  | uses task handle haction hholds hmay hheld =>
    have hlive := hinv.live task handle hmay hheld
    simp only [haction, Option.toList_some, ResourceLedger.perform_cons,
      ResourceLedger.perform_nil, ResourceLedger.act_use hlive]
    exact hinv.of_same_ledger hframe hholds
  | opens haction habsent hholds =>
    simp only [haction, Option.toList_some, ResourceLedger.perform_cons,
      ResourceLedger.perform_nil]
    exact hinv.of_opens hframe habsent hholds
  | closes handle haction hholds hheld hbehind =>
    obtain ⟨hlive, hothers⟩ := hsafe handle haction
    simp only [haction, Option.toList_some, ResourceLedger.perform_cons,
      ResourceLedger.perform_nil]
    exact hinv.of_closes hframe hlive hothers hbehind hholds

/-- The invariant holds in every run whose closes are safe. -/
theorem handleInvariant_reachable
    (hreach : (taskSystem capacity).ReachableUnder ClosesSafely state) :
    HandleInvariant state := by
  refine hreach.invariant ?_ fun _ _ _ hinv hsafe hnext ↦ hinv.next hsafe hnext
  rintro start ⟨-, ⟨hdevFd, hnlSock, hmq, hsem⟩, -, -, -, hproducer, -, hnetlink, -, hledger⟩
  have habsent : ¬ start.targ.Holds .nlSock := by
    simp [TaskArg.Holds, hnlSock]
  have hcreated : ∀ handle, start.ledger.created handle = if handle = .nlSock then 0 else 1 := by
    rw [hledger]
    rintro (_ | _ | _ | _) <;> rfl
  have hreleased : ∀ handle, start.ledger.released handle = 0 := by
    rw [hledger]
    rintro (_ | _ | _ | _) <;> rfl
  refine
    { sound := ⟨fun handle ↦ by simp [hreleased], by rw [hledger]; rfl⟩
      once := fun handle ↦ ?_
      absent := fun _ ↦ by simp [hcreated]
      holds := ?_
      live := fun task handle hmay hheld ↦ ?_
      fits := ?_
      tidy := ?_ }
  · rw [hcreated]
    split_ifs <;> decide
  · rintro (_ | _ | _ | _) hother
    · exact hdevFd
    · exact absurd rfl hother
    · exact hmq
    · exact hsem
  · have hother : handle ≠ .nlSock := fun hsocket ↦ habsent (hsocket ▸ hheld)
    rw [ResourceLedger.Live, hreleased, hcreated, if_neg hother]
    exact Nat.one_pos
  · rw [hnetlink]
    exact habsent
  · rw [hproducer, hnetlink]
    exact ⟨trivial, trivial⟩

end Bme680.Tasks
