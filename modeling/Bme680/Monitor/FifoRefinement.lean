import Bme680.Monitor.SensorMonitor

/-!
# The sensor monitor refines a bounded queue

Under the invariant that the ring buffer represents the records that are pending, a section of
either call leaves the monitor as it is and does not succeed, or succeeds and puts in or takes out
one record of the queue (`monitorWoken_cases`). `StepEffect` says the same of every step of the
system, and what the step does to the codes the threads return; `MonitorInvariant` and the
simulation by the abstract queue are read off it.

`monitor_refines_fifo` collects the results, for every size including zero: the positions stay
inside the ring, what the reads returned is a prefix of what the writes stored and the rest are the
stored slots, a call that fails has changed nothing, and every section has a result.
-/

set_option autoImplicit false
set_option relaxedAutoImplicit false

namespace Bme680.Monitor

open Concurrency Deadlock ReadWriteLock

/-! ### What a section does -/

section Sections

variable {Thread : Type*} {monitor : Bme680Monitor Thread} {queue rest : List Bme680FifoData}

/-- A successful call takes the records that are pending to others: a write, where there is room,
puts in its record, and a read takes out the oldest one and stores it. -/
def MonitorCall.Serves (size : ℤ) (queue rest : List Bme680FifoData)
    (received : Option Bme680FifoData) : MonitorCall → Prop
  | .write data => (queue.length : ℤ) < size ∧ rest = queue ++ [data]
  | .read => ∃ data, queue = data :: rest ∧ received = some data

/-- A section that does not succeed and leaves the monitor as it is. -/
def Declined (monitor : Bme680Monitor Thread) (result : Option (MonitorSection Thread)) : Prop :=
  ∃ ending, ending ≠ .returns 0 ∧ result = some (monitor.leftBy ending)

/-- A section that succeeds and leaves a monitor of the same size that represents the records
pending after it. -/
def Served (monitor : Bme680Monitor Thread) (queue : List Bme680FifoData) (call : MonitorCall)
    (result : Option (MonitorSection Thread)) : Prop :=
  ∃ served rest, result = some served ∧ served.ending = .returns 0 ∧
    served.monitor.size = monitor.size ∧
    call.Serves monitor.size queue rest served.received ∧ served.monitor.ring.Represents rest

/-- The calls of a side that the ring has records or room for. -/
def Bme680Monitor.serviceable (monitor : Bme680Monitor Thread) : MonitorRole → ℤ
  | .writer => monitor.size - monitor.count
  | .reader => monitor.count

/-- A section that sleeps since the ring has nothing for its side. -/
def SleptOn (monitor : Bme680Monitor Thread) (role : MonitorRole)
    (result : Option (MonitorSection Thread)) : Prop :=
  monitor.serviceable role = 0 ∧ result = some (monitor.leftBy .sleeps)

/-- A section that sleeps declines. -/
theorem SleptOn.declined {role : MonitorRole} {result : Option (MonitorSection Thread)}
    (hslept : SleptOn monitor role result) : Declined monitor result :=
  ⟨.sleeps, nofun, hslept.2⟩

/-- A write that gets to the head of its wait loop sleeps while the ring is full, and puts in its
record otherwise. -/
theorem bme680MonitorWriteLoop_cases (hrepresents : monitor.ring.Represents queue)
    (data : Bme680FifoData) (rwlockWaits : List ℕ) :
    SleptOn monitor .writer (bme680MonitorWriteLoop monitor data rwlockWaits) ∨
      Served monitor queue (.write data) (bme680MonitorWriteLoop monitor data rwlockWaits) := by
  have hcount : monitor.count = queue.length := hrepresents.count_eq
  have hbound : monitor.count ≤ monitor.size := hrepresents.count_le
  by_cases hfull : monitor.count = monitor.size
  · exact Or.inl ⟨sub_eq_zero.mpr hfull.symm, if_pos hfull⟩
  · have hroom : monitor.ring.count < monitor.ring.size := lt_of_le_of_ne hbound hfull
    have hvalid : ¬ (monitor.count < 0 ∨ monitor.count > monitor.size) := by omega
    obtain ⟨pushed, hpush, -, hpushed⟩ := hrepresents.push hroom data
    simp only [RingBuffer.push, Option.bind_eq_some_iff, Option.map_eq_some_iff] at hpush
    obtain ⟨stored, hstored, tail, htail, rfl⟩ := hpush
    refine Or.inr ⟨{ ending := .returns 0, received := none, monitor := { monitor with
      data := stored
      tail := tail
      count := monitor.count + 1
      rwlock := (rwlockUnlock
        (rwlockLockAlone .write (rwlockWrlock monitor.rwlock) rwlockWaits)).1 } },
      queue ++ [data], ?_, rfl, rfl, ⟨?_, rfl⟩, hpushed⟩
    · rw [bme680MonitorWriteLoop, if_neg hfull, if_neg hvalid]
      change (setElement monitor.ring.slots monitor.ring.tail data).bind _ = _
      rw [hstored]
      change (remainder (monitor.ring.tail + 1) monitor.ring.size).map _ = _
      rw [htail]
      rfl
    · rw [← hcount]
      exact hroom

/-- A read that gets to the head of its wait loop sleeps while the ring is empty, and takes out the
oldest record otherwise. -/
theorem bme680MonitorReadLoop_cases (hrepresents : monitor.ring.Represents queue)
    (rwlockWaits : List ℕ) :
    SleptOn monitor .reader (bme680MonitorReadLoop monitor rwlockWaits) ∨
      Served monitor queue .read (bme680MonitorReadLoop monitor rwlockWaits) := by
  have hcount : monitor.count = queue.length := hrepresents.count_eq
  have hbound : monitor.count ≤ monitor.size := hrepresents.count_le
  cases queue with
  | nil => exact Or.inl ⟨hcount, if_pos hcount⟩
  | cons data rest =>
    rw [List.length_cons] at hcount
    push_cast at hcount
    have hnonempty : monitor.count ≠ 0 := by omega
    have hvalid : ¬ (monitor.count < 0 ∨ monitor.count > monitor.size) := by omega
    obtain ⟨popped, hpop, -, hpopped⟩ := hrepresents.pop
    simp only [RingBuffer.pop, Option.bind_eq_some_iff, Option.map_eq_some_iff,
      Prod.mk.injEq] at hpop
    obtain ⟨value, hvalue, head, hhead, rfl, rfl⟩ := hpop
    refine Or.inr ⟨{ ending := .returns 0, received := some value, monitor := { monitor with
      head := head
      count := monitor.count - 1
      rwlock := (rwlockUnlock
        (rwlockLockAlone .read (rwlockRdlock monitor.rwlock) rwlockWaits)).1 } },
      rest, ?_, rfl, rfl, ⟨value, rfl, rfl⟩, hpopped⟩
    · rw [bme680MonitorReadLoop, if_neg hnonempty, if_neg hvalid]
      change (element monitor.ring.slots monitor.ring.head).bind _ = _
      rw [hvalue]
      change (remainder (monitor.ring.head + 1) monitor.ring.size).map _ = _
      rw [hhead]
      rfl

/-- A section that has got to the head of its wait loop sleeps where the ring has nothing for its
side, and serves its call otherwise. -/
theorem monitorWoken_zero_cases (hrepresents : monitor.ring.Represents queue)
    (rwlockWaits : List ℕ) (call : MonitorCall) :
    SleptOn monitor call.role (monitorWoken monitor 0 rwlockWaits call) ∨
      Served monitor queue call (monitorWoken monitor 0 rwlockWaits call) := by
  cases call with
  | write data => exact bme680MonitorWriteLoop_cases hrepresents data rwlockWaits
  | read => exact bme680MonitorReadLoop_cases hrepresents rwlockWaits

/-- A section after a wait that returned an error number returns an error code. -/
theorem monitorWoken_error (monitor : Bme680Monitor Thread) {ret : ℕ} (hret : ret ≠ 0)
    (rwlockWaits : List ℕ) (call : MonitorCall) :
    ∃ code, code ≠ 0 ∧
      monitorWoken monitor ret rwlockWaits call = some (monitor.leftBy (.returns code)) := by
  have hfailed (loop : Option (MonitorSection Thread)) : ∃ code, code ≠ 0 ∧
      (if ret = ETIMEDOUT then some (monitor.leftBy (.returns (-ETIMEDOUT)))
        else if ret ≠ 0 then some (monitor.leftBy (.returns ret)) else loop) =
      some (monitor.leftBy (.returns code)) := by
    by_cases htimedOut : ret = ETIMEDOUT
    · exact ⟨-ETIMEDOUT, by decide, if_pos htimedOut⟩
    · exact ⟨ret, Nat.cast_ne_zero.mpr hret, (if_neg htimedOut).trans (if_pos hret)⟩
  cases call with
  | write data => exact hfailed _
  | read => exact hfailed _

/-- A section of either call declines or serves, whatever its wait returned. -/
theorem monitorWoken_cases (hrepresents : monitor.ring.Represents queue) (ret : ℕ)
    (rwlockWaits : List ℕ) (call : MonitorCall) :
    Declined monitor (monitorWoken monitor ret rwlockWaits call) ∨
      Served monitor queue call (monitorWoken monitor ret rwlockWaits call) := by
  by_cases hret : ret = 0
  · subst hret
    exact (monitorWoken_zero_cases hrepresents rwlockWaits call).imp_left SleptOn.declined
  · obtain ⟨code, hcode, hresult⟩ := monitorWoken_error monitor hret rwlockWaits call
    refine Or.inl ⟨.returns code, ?_, hresult⟩
    rwa [ne_eq, SectionEnd.returns.injEq]

/-- The history of the queue follows a served call. -/
theorem record_of_serves {size : ℤ} {history : FifoHistory Bme680FifoData} {call : MonitorCall}
    {served : MonitorSection Thread} (hpending : history.Pending queue)
    (hending : served.ending = .returns 0)
    (hserves : call.Serves size queue rest served.received) :
    ∃ move, fifoNext size history move = some (served.record call history) ∧
      (served.record call history).Pending rest := by
  unfold MonitorSection.record
  rw [if_pos hending]
  cases call with
  | write data =>
    obtain ⟨hroom, rfl⟩ := hserves
    exact ⟨.put data, fifoNext_put hpending hroom data, hpending.put data⟩
  | read =>
    obtain ⟨data, rfl, hreceived⟩ := hserves
    rw [hreceived]
    exact ⟨.take data, fifoNext_take hpending, hpending.take⟩

end Sections

/-! ### What a step does -/

/-- A thread that returns is not asleep. -/
theorem MonitorClient.Returned.not_asleep {client : MonitorClient} {ret : ℤ}
    (hreturned : client.Returned ret) (role : MonitorRole) : ¬ client.AsleepAs role := by
  unfold MonitorClient.AsleepAs
  rcases hreturned with ⟨hidle, -⟩ | ⟨call, hleaving⟩
  · rw [hidle]
    exact not_false
  · rw [hleaving]
    exact not_false

/-- A thread returns one code. -/
theorem MonitorClient.Returned.unique {client : MonitorClient} {first second : ℤ}
    (hfirst : client.Returned first) (hsecond : client.Returned second) : first = second := by
  rcases hfirst with ⟨hphase, rfl⟩ | ⟨call, hphase⟩
  · rcases hsecond with ⟨-, rfl⟩ | ⟨other, hother⟩
    · rfl
    · rw [hphase] at hother
      cases hother
  · rcases hsecond with ⟨hother, -⟩ | ⟨other, hother⟩
    · rw [hphase] at hother
      cases hother
    · rw [hphase] at hother
      exact (MonitorPhase.leaving.inj hother).2

variable {Thread : Type*} [DecidableEq Thread] {state successor : MonitorState Thread}
  {queue : List Bme680FifoData}

/-- What a step of a thread does to the monitor and to the codes the threads return: the ring and
the history of the queue stay, or the thread comes to return zero and one record is put in or taken
out; and zero codes stay. -/
structure StepEffect (thread : Thread) (starts : Bool) (before after : MonitorState Thread) :
    Prop where
  fault : after.fault = before.fault
  size : after.monitor.size = before.monitor.size
  ring : (after.monitor.ring = before.monitor.ring ∧ after.history = before.history) ∨
    ∃ move queue, fifoNext before.monitor.size before.history move = some after.history ∧
      after.history.Pending queue ∧ after.monitor.ring.Represents queue ∧
      (after.clients thread).Returned 0
  returned : starts = false → (before.clients thread).Returned 0 →
    (after.clients thread).Returned 0
  others : ∀ other, other ≠ thread → (before.clients other).Returned 0 →
    (after.clients other).Returned 0

/-- A step that only moves its thread and leaves the ring as it is. -/
theorem StepEffect.of_move {thread : Thread} {starts : Bool} {monitor : Bme680Monitor Thread}
    {client : MonitorClient} (hring : monitor.ring = state.monitor.ring)
    (hreturned : starts = false → (state.clients thread).Returned 0 → client.Returned 0) :
    StepEffect thread starts state { state with
      monitor := monitor
      clients := Function.update state.clients thread client } where
  fault := rfl
  size := congrArg RingBuffer.size hring
  ring := Or.inl ⟨hring, rfl⟩
  returned := fun hstarts hbefore ↦ by
    dsimp only
    rw [Function.update_self]
    exact hreturned hstarts hbefore
  others := fun other hother hbefore ↦ by
    dsimp only
    rwa [Function.update_of_ne hother]

/-- Asking the detector leaves the ring as it is. -/
theorem monitorEnter_ring (monitor : Bme680Monitor Thread) (thread : Thread) (obtained : Bool)
    (call : MonitorCall) : (monitorEnter monitor thread obtained call).1.ring = monitor.ring := by
  cases call with
  | write data =>
    unfold monitorEnter bme680MonitorWrite
    dsimp only
    split_ifs <;> rfl
  | read => rfl

variable [Fintype Thread]

/-- A signal does not move a thread that returns. -/
theorem wakeOther_apply {call : MonitorCall} {ending : SectionEnd}
    {clients woken : Thread → MonitorClient} {sleeper : Option Thread}
    (hwake : wakeOther call ending clients sleeper = some woken) {thread : Thread} {ret : ℤ}
    (hreturned : (clients thread).Returned ret) : woken thread = clients thread := by
  unfold wakeOther at hwake
  split_ifs at hwake
  · exact (signal_apply hwake thread).resolve_right fun hasleep ↦
      hreturned.not_asleep _ hasleep.1
  · rw [Option.some.inj hwake]

/-- What the end of a section does, of a thread whose call was not returning before. -/
theorem finish_effect (hpending : state.history.Pending queue)
    (hrepresents : state.monitor.ring.Represents queue) {thread : Thread} {call : MonitorCall}
    {woken : Option Thread} {ret : ℕ} {rwlockWaits : List ℕ}
    (hbusy : ¬ (state.clients thread).Returned 0)
    (hfinish : state.finish thread call woken
      (monitorWoken state.monitor ret rwlockWaits call) = some successor) :
    StepEffect thread false state successor := by
  rcases monitorWoken_cases hrepresents ret rwlockWaits call with
    ⟨ending, hending, hresult⟩ | ⟨served, rest, hresult, hending, hsize, hserves, hafter⟩
  · rw [hresult] at hfinish
    simp only [MonitorState.finish, wakeOther, MonitorSection.record, Bme680Monitor.leftBy,
      hending, if_false, Option.map_some, Option.some.injEq] at hfinish
    subst hfinish
    exact .of_move rfl fun _ hreturned ↦ absurd hreturned hbusy
  · obtain ⟨move, hmove, hpendingAfter⟩ := record_of_serves hpending hending hserves
    rw [hresult] at hfinish
    simp only [MonitorState.finish, Option.map_eq_some_iff] at hfinish
    obtain ⟨clients, hwake, rfl⟩ := hfinish
    have hfinished : ((state.clients thread).finish call served).Returned 0 := by
      unfold MonitorClient.finish
      rw [hending]
      exact Or.inr ⟨call, rfl⟩
    have hmover : (clients thread).Returned 0 := by
      have hbefore : (Function.update state.clients thread
          ((state.clients thread).finish call served) thread).Returned 0 := by
        rwa [Function.update_self]
      rw [wakeOther_apply hwake hbefore]
      exact hbefore
    refine ⟨rfl, hsize, Or.inr ⟨move, rest, hmove, hpendingAfter, hafter, hmover⟩,
      fun _ _ ↦ hmover, fun other hother hreturned ↦ ?_⟩
    have hbefore : (Function.update state.clients thread
        ((state.clients thread).finish call served) other).Returned 0 := by
      rwa [Function.update_of_ne hother]
    dsimp only
    rw [wakeOther_apply hwake hbefore]
    exact hbefore

/-- What a step does. -/
theorem monitorStep_effect (hpending : state.history.Pending queue)
    (hrepresents : state.monitor.ring.Represents queue) {label : MonitorLabel Thread}
    (hstep : monitorStep state label = some successor) :
    StepEffect label.thread label.starts state successor := by
  cases label with
  | call thread call obtained =>
    simp only [monitorStep, Option.ite_none_right_eq_some, Option.some.injEq] at hstep
    obtain ⟨-, rfl⟩ := hstep
    exact .of_move (monitorEnter_ring _ _ _ _) nofun
  | check thread rwlockWaits woken =>
    unfold monitorStep at hstep
    cases hphase : (state.clients thread).phase with
    | entering call | awake call =>
      simp only [hphase] at hstep
      have hbusy : ¬ (state.clients thread).Returned 0 := by
        simp [MonitorClient.Returned, hphase]
      exact finish_effect hpending hrepresents hbusy hstep
    | idle | asleep call | leaving call ret => simp [hphase] at hstep
  | spurious thread =>
    unfold monitorStep at hstep
    cases hphase : (state.clients thread).phase with
    | asleep call =>
      simp only [hphase, Option.some.injEq] at hstep
      subst hstep
      have hbusy : ¬ (state.clients thread).Returned 0 := by
        simp [MonitorClient.Returned, hphase]
      exact .of_move rfl fun _ hreturned ↦ absurd hreturned hbusy
    | idle | entering call | awake call | leaving call ret => simp [hphase] at hstep
  | giveUp thread ret =>
    unfold monitorStep at hstep
    cases hphase : (state.clients thread).phase with
    | asleep call =>
      simp only [hphase, Option.ite_none_right_eq_some] at hstep
      have hbusy : ¬ (state.clients thread).Returned 0 := by
        simp [MonitorClient.Returned, hphase]
      exact finish_effect hpending hrepresents hbusy hstep.2
    | idle | entering call | awake call | leaving call code => simp [hphase] at hstep
  | leave thread =>
    unfold monitorStep at hstep
    cases hphase : (state.clients thread).phase with
    | leaving call ret =>
      simp only [hphase, Option.some.injEq] at hstep
      subst hstep
      refine .of_move rfl fun _ hreturned ↦ Or.inl ⟨rfl, ?_⟩
      change (state.clients thread).Returned 0 at hreturned
      simpa [MonitorClient.Returned, hphase] using hreturned
    | idle | entering call | asleep call | awake call => simp [hphase] at hstep

/-! ### Runs -/

/-- The ring buffer represents the records that are pending, only calls that return zero have
changed it, and every section had a result. -/
structure MonitorInvariant (size : ℤ) (state : MonitorState Thread) : Prop where
  size_eq : state.monitor.size = size
  represents : ∃ queue, state.history.Pending queue ∧ state.monitor.ring.Represents queue
  changed : ∀ thread, state.changed thread = true → (state.clients thread).Returned 0
  no_fault : state.fault = false

omit [Fintype Thread] [DecidableEq Thread] in
/-- An initialized monitor satisfies the invariant. -/
theorem MonitorInvariant.init {size : ℤ} (hsize : 0 ≤ size)
    (hinit : ∃ allocated dataAllocated memory dataMemory,
      bme680MonitorInit size allocated dataAllocated memory dataMemory = .ok state.monitor)
    (hhistory : state.history = { accepted := [], delivered := [] })
    (hchanged : ∀ thread, state.changed thread = false) (hfault : state.fault = false) :
    MonitorInvariant size state := by
  obtain ⟨allocated, dataAllocated, memory, dataMemory, hmonitor⟩ := hinit
  unfold bme680MonitorInit at hmonitor
  split_ifs at hmonitor
  have hring : state.monitor.ring =
      { slots := List.ofFn dataMemory, head := 0, tail := 0, size := size, count := 0 } := by
    rw [← Except.ok.inj hmonitor]
    rfl
  have hlength : ((List.ofFn dataMemory).length : ℤ) = size := by
    rw [List.length_ofFn, Int.toNat_of_nonneg hsize]
  refine ⟨congrArg RingBuffer.size hring, ⟨[], ?_, ?_⟩, fun thread htrue ↦ ?_, hfault⟩
  · rw [hhistory]
    rfl
  · rw [hring]
    exact .empty hsize hlength
  · rw [hchanged thread] at htrue
    cases htrue

/-- Every step keeps the invariant, and is a step of the queue or leaves its history as it is. -/
theorem MonitorInvariant.step {size : ℤ} (hinvariant : MonitorInvariant size state)
    {label : MonitorLabel Thread} (hnext : monitorNext state label = some successor) :
    MonitorInvariant size successor ∧
      (successor.history = state.history ∨
        ∃ move, fifoNext size state.history move = some successor.history) := by
  obtain ⟨queue, hpending, hrepresents⟩ := hinvariant.represents
  obtain ⟨moved, hstep, rfl⟩ := Option.map_eq_some_iff.mp hnext
  have heffect := monitorStep_effect hpending hrepresents hstep
  have hchanged : ∀ thread, Function.update state.changed label.thread
      (decide (moved.monitor.ring ≠ state.monitor.ring) ||
        (!label.starts && state.changed label.thread)) thread = true →
      (moved.clients thread).Returned 0 := by
    intro thread htrue
    by_cases hthread : thread = label.thread
    · rw [hthread, Function.update_self, Bool.or_eq_true, decide_eq_true_eq, Bool.and_eq_true,
        Bool.not_eq_true'] at htrue
      rw [hthread]
      rcases htrue with hring | ⟨hstarts, hbefore⟩
      · -- a step that changes the ring serves its call
        rcases heffect.ring with ⟨hsame, -⟩ | ⟨_, _, _, _, _, hreturned⟩
        · exact absurd hsame hring
        · exact hreturned
      · exact heffect.returned hstarts (hinvariant.changed _ hbefore)
    · rw [Function.update_of_ne hthread] at htrue
      exact heffect.others thread hthread (hinvariant.changed thread htrue)
  have hsize := heffect.size.trans hinvariant.size_eq
  have hfault := heffect.fault.trans hinvariant.no_fault
  rcases heffect.ring with ⟨hring, hhistory⟩ | ⟨move, rest, hmove, hrest, hafter, -⟩
  · refine ⟨⟨hsize, ⟨queue, ?_, ?_⟩, hchanged, hfault⟩, Or.inl hhistory⟩
    · rw [hhistory]
      exact hpending
    · rw [hring]
      exact hrepresents
  · refine ⟨⟨hsize, ⟨rest, hrest, hafter⟩, hchanged, hfault⟩, Or.inr ⟨move, ?_⟩⟩
    rw [← hinvariant.size_eq]
    exact hmove

/-- Every reachable state satisfies the invariant. -/
theorem monitorInvariant_reachable {size : ℤ} (hsize : 0 ≤ size)
    (hreach : (monitorSystem Thread size).Reachable state) : MonitorInvariant size state :=
  hreach.invariant
    (fun _ ⟨hinit, _, hhistory, hchanged, hfault⟩ ↦
      .init hsize hinit hhistory hchanged hfault)
    fun _ _ _ hinvariant _ hnext ↦ (hinvariant.step hnext).1

/-- The history of the monitor is that of a queue of its size. -/
theorem monitor_simulates_fifo {size : ℤ} (hsize : 0 ≤ size) :
    Simulation (monitorSystem Thread size) (fun _ _ ↦ True) (fifoSystem Bme680FifoData size)
      (fun _ _ ↦ True) MonitorState.history where
  initial := fun state hinitial ↦ by
    rw [hinitial.2.2.1]
    exact ⟨rfl, rfl⟩
  step := fun state label successor hreach _ _ hnext ↦ by
    have hinvariant := monitorInvariant_reachable hsize hreach
    rcases (hinvariant.step hnext).2 with hsame | ⟨move, hmove⟩
    · exact Or.inl hsame
    · exact Or.inr ⟨move, trivial, hmove⟩

/-- In every run of the monitor, what the reads returned is a prefix of what the writes stored, and
no more than its size is pending. -/
theorem history_bounded {size : ℤ} (hsize : 0 ≤ size)
    (hreach : (monitorSystem Thread size).Reachable state) : state.history.Bounded size :=
  FifoHistory.bounded_of_reachable hsize ((monitor_simulates_fifo hsize).reachable hreach)

/-- In every reachable state of a monitor of a size that is not negative: its history is that of a
queue of that size; the count and the positions lie within the ring, the tail the count behind the
head; what the reads returned is a prefix of what the writes stored, and the rest is what the slots
from the head on hold; a call that has come to return a code other than zero has changed nothing;
and no section was without result. -/
theorem monitor_refines_fifo {size : ℤ} (hsize : 0 ≤ size)
    (hreach : (monitorSystem Thread size).Reachable state) :
    (fifoSystem Bme680FifoData size).Reachable state.history ∧
      (0 ≤ state.monitor.count ∧ state.monitor.count ≤ size) ∧
      (0 < size →
        (0 ≤ state.monitor.head ∧ state.monitor.head < size) ∧
        (0 ≤ state.monitor.tail ∧ state.monitor.tail < size) ∧
        state.monitor.tail = (state.monitor.head + state.monitor.count) % size) ∧
      (∃ queue, state.history.accepted = state.history.delivered ++ queue ∧
        (queue.length : ℤ) = state.monitor.count ∧
        state.monitor.ring.stored = queue.map some) ∧
      (∀ thread ret, (state.clients thread).Returned ret → ret ≠ 0 →
        state.changed thread = false) ∧
      state.fault = false := by
  have hinvariant := monitorInvariant_reachable hsize hreach
  obtain ⟨queue, hpending, hrepresents⟩ := hinvariant.represents
  have hcount : state.monitor.count = queue.length := hrepresents.count_eq
  have hbound : state.monitor.count ≤ state.monitor.size := hrepresents.count_le
  rw [hinvariant.size_eq] at hbound
  refine ⟨(monitor_simulates_fifo hsize).reachable hreach, ⟨by omega, hbound⟩, ?_,
    ⟨queue, hpending, hcount.symm, hrepresents.stored⟩, ?_, hinvariant.no_fault⟩
  · intro hpositive
    rw [← hinvariant.size_eq] at hpositive ⊢
    exact ⟨hrepresents.head hpositive, hrepresents.tail_bounds hpositive,
      hrepresents.tail hpositive⟩
  · intro thread ret hreturned hret
    by_contra hchanged
    rw [Bool.not_eq_false] at hchanged
    exact hret (MonitorClient.Returned.unique hreturned (hinvariant.changed thread hchanged))

/-- A reading in range with a given pressure. -/
def readingOf (pressure : UInt32) : Bme680FifoData :=
  { temp := 21, pressure := pressure, humidity := 40, gasResistance := 50000 }

/-- Two threads that share a monitor of one slot. -/
def oneSlot : MonitorState (Fin 2) where
  monitor :=
    { data := [readingOf 0]
      head := 0
      tail := 0
      size := 1
      count := 0
      rwlock := { activeReaders := 0, activeWriters := 0, waitingReaders := 0, waitingWriters := 0 }
      dd := { locks := fun _ ↦ { owner := none, locked := false } } }
  clients := fun _ ↦ .fresh
  history := { accepted := [], delivered := [] }
  changed := fun _ ↦ false
  fault := false

/-- A write fills the only slot, a second one sleeps until a read signals it and then fills the slot
again, and a third one times out and leaves the ring as it is. -/
theorem monitor_refines_fifo_one_slot :
    ∃ state : MonitorState (Fin 2), (monitorSystem (Fin 2) 1).Reachable state ∧
      state.history = { accepted := [readingOf 90000, readingOf 95000],
                        delivered := [readingOf 90000] } ∧
      (state.clients 0).Returned (-ETIMEDOUT) ∧ state.changed 0 = false ∧
      state.monitor.tail = (state.monitor.head + state.monitor.count) % 1 ∧
      state.fault = false := by
  obtain ⟨final, hrun, hhistory, hreturned⟩ : ∃ final,
      (monitorSystem (Fin 2) 1).run oneSlot
        [.call 0 (.write (readingOf 90000)) true, .check 0 [] none, .leave 0,
          .call 1 (.write (readingOf 95000)) true, .check 1 [] none,
          .call 0 .read true, .check 0 [] (some 1), .leave 0,
          .check 1 [] none, .leave 1,
          .call 0 (.write (readingOf 100000)) true, .check 0 [] none, .giveUp 0 ETIMEDOUT,
          .leave 0] = some final ∧
        final.history = { accepted := [readingOf 90000, readingOf 95000],
                          delivered := [readingOf 90000] } ∧
        (final.clients 0).Returned (-ETIMEDOUT) :=
    ⟨_, rfl, rfl, Or.inl ⟨rfl, rfl⟩⟩
  have hreach : (monitorSystem (Fin 2) 1).Reachable final :=
    TransitionSystem.reachable_of_run
      ⟨⟨true, true, oneSlot.monitor, fun _ ↦ readingOf 0, rfl⟩, fun _ ↦ rfl, rfl,
        fun _ ↦ rfl, rfl⟩ _ hrun
  obtain ⟨-, -, hpositions, -, hunchanged, hfault⟩ := monitor_refines_fifo (by decide) hreach
  exact ⟨final, hreach, hhistory, hreturned, hunchanged 0 _ hreturned (by decide),
    (hpositions (by decide)).2.2, hfault⟩

end Bme680.Monitor
