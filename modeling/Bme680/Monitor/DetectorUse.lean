import Bme680.Deadlock.HolderRecords
import Bme680.Monitor.FifoRefinement

/-!
# The monitor's own use of the deadlock detector

A write reports to the detector with the number 0 and a read with the number 1, before it locks the
mutex and after it has unlocked it. Several threads can be granted the same number at once, and
then only the last one is its recorded owner; the unlock calls of the others are refused, which
nothing looks at.

The invariant is that a recorded owner is inside a call of that number (`DetectorInvariant`). A
thread on its way out clears its record where it is the recorded owner, and where it is not there
is nothing to clear. So a thread outside the monitor is recorded nowhere, and the detector cannot
find that it holds a mutex of greater number than one it asks for: no call is refused for a
potential deadlock (`monitor_no_false_deadlock`).
-/

set_option autoImplicit false
set_option relaxedAutoImplicit false

namespace Bme680.Monitor

open Concurrency Deadlock ReadWriteLock

/-! ### The call a thread is in -/

/-- The call a thread is in, from the detector's grant to its unlock call. -/
def MonitorPhase.current : MonitorPhase → Option MonitorCall
  | .idle => none
  | .entering call | .asleep call | .awake call | .leaving call _ => some call

/-- Being made awake does not take a thread out of its call. -/
theorem MonitorClient.current_awaken (client : MonitorClient) :
    client.awaken.phase.current = client.phase.current := by
  unfold MonitorClient.awaken
  cases hphase : client.phase <;> simp [hphase, MonitorPhase.current]

/-- A thread that is made awake returns no code. -/
theorem MonitorClient.not_returned_awaken {client : MonitorClient} {role : MonitorRole} {ret : ℤ}
    (hasleep : client.AsleepAs role) : ¬ client.awaken.Returned ret := by
  unfold MonitorClient.AsleepAs at hasleep
  unfold MonitorClient.awaken MonitorClient.Returned
  cases hphase : client.phase <;> simp_all

variable {Thread : Type*}

/-- The end of a section leaves a thread in its call. -/
theorem MonitorClient.current_finish (client : MonitorClient) (call : MonitorCall)
    (result : MonitorSection Thread) :
    (client.finish call result).phase.current = some call := by
  unfold MonitorClient.finish
  cases result.ending <;> rfl

/-- After a section a thread has come to return a code where the section has. -/
theorem MonitorClient.returned_finish {client : MonitorClient} {call : MonitorCall}
    {result : MonitorSection Thread} {ret : ℤ}
    (hreturned : (client.finish call result).Returned ret) :
    result.ending = .returns ret := by
  unfold MonitorClient.finish at hreturned
  cases hending : result.ending with
  | sleeps => simp [hending, MonitorClient.Returned] at hreturned
  | returns code =>
    simp only [hending, MonitorClient.Returned, reduceCtorEq, false_and, false_or,
      MonitorPhase.leaving.injEq] at hreturned
    obtain ⟨-, -, rfl⟩ := hreturned
    rfl

/-! ### What the calls do to the detector -/

/-- A section that changes neither the detector nor reports a deadlock. -/
def MonitorSection.Quiet (monitor : Bme680Monitor Thread) (result : MonitorSection Thread) : Prop :=
  result.monitor.dd = monitor.dd ∧ result.ending ≠ .returns (-EDEADLK)

/-- A section that leaves the monitor is quiet where it sleeps or returns another code. -/
theorem MonitorSection.Quiet.of_leftBy {monitor : Bme680Monitor Thread} {ending : SectionEnd}
    {result : MonitorSection Thread} (hending : ending ≠ .returns (-EDEADLK))
    (hresult : some (monitor.leftBy ending) = some result) : result.Quiet monitor := by
  obtain rfl := Option.some.inj hresult
  exact ⟨rfl, hending⟩

theorem bme680MonitorWriteLoop_quiet {monitor : Bme680Monitor Thread} {data : Bme680FifoData}
    {rwlockWaits : List ℕ} {result : MonitorSection Thread}
    (hresult : bme680MonitorWriteLoop monitor data rwlockWaits = some result) :
    result.Quiet monitor := by
  unfold bme680MonitorWriteLoop at hresult
  split_ifs at hresult
  · exact .of_leftBy (by decide) hresult
  · exact .of_leftBy (by decide) hresult
  · obtain ⟨stored, -, hstored⟩ := Option.bind_eq_some_iff.mp hresult
    obtain ⟨tail, -, rfl⟩ := Option.map_eq_some_iff.mp hstored
    have hzero : SectionEnd.returns 0 ≠ .returns (-EDEADLK) := by decide
    exact ⟨rfl, hzero⟩

theorem bme680MonitorReadLoop_quiet {monitor : Bme680Monitor Thread} {rwlockWaits : List ℕ}
    {result : MonitorSection Thread}
    (hresult : bme680MonitorReadLoop monitor rwlockWaits = some result) : result.Quiet monitor := by
  unfold bme680MonitorReadLoop at hresult
  split_ifs at hresult
  · exact .of_leftBy (by decide) hresult
  · exact .of_leftBy (by decide) hresult
  · obtain ⟨data, -, hdata⟩ := Option.bind_eq_some_iff.mp hresult
    obtain ⟨head, -, rfl⟩ := Option.map_eq_some_iff.mp hdata
    have hzero : SectionEnd.returns 0 ≠ .returns (-EDEADLK) := by decide
    exact ⟨rfl, hzero⟩

/-- A section does not touch the detector, and returns no code of it. -/
theorem monitorWoken_quiet {monitor : Bme680Monitor Thread} {ret : ℕ} {rwlockWaits : List ℕ}
    {call : MonitorCall} {result : MonitorSection Thread}
    (hresult : monitorWoken monitor ret rwlockWaits call = some result) : result.Quiet monitor := by
  have hfailed : SectionEnd.returns ret ≠ .returns (-EDEADLK) := by
    simp only [ne_eq, SectionEnd.returns.injEq, EDEADLK]
    omega
  cases call with
  | write data =>
    simp only [monitorWoken, bme680MonitorWriteWoken] at hresult
    split_ifs at hresult
    · exact .of_leftBy (by decide) hresult
    · exact .of_leftBy hfailed hresult
    · exact bme680MonitorWriteLoop_quiet hresult
  | read =>
    simp only [monitorWoken, bme680MonitorReadWoken] at hresult
    split_ifs at hresult
    · exact .of_leftBy (by decide) hresult
    · exact .of_leftBy hfailed hresult
    · exact bme680MonitorReadLoop_quiet hresult

/-! ### Recorded owners -/

/-- A recorded owner of a mutex is inside a call of its number, and no call has returned
`-EDEADLK`. -/
structure DetectorInvariant (state : MonitorState Thread) : Prop where
  inside : ∀ thread (mutex : Fin 2), state.monitor.dd.LockedBy thread mutex →
    ∃ call, (state.clients thread).phase.current = some call ∧ call.mutexId = (mutex : ℕ)
  codes : ∀ thread, ¬ (state.clients thread).Returned (-EDEADLK)

variable {state successor : MonitorState Thread}

/-- A thread outside the monitor is recorded nowhere. -/
theorem DetectorInvariant.not_lockedBy (hinvariant : DetectorInvariant state) {thread : Thread}
    (hidle : (state.clients thread).phase = .idle) (mutex : Fin 2) :
    ¬ state.monitor.dd.LockedBy thread mutex := by
  intro hlocked
  obtain ⟨call, hcurrent, -⟩ := hinvariant.inside thread mutex hlocked
  rw [hidle] at hcurrent
  exact absurd hcurrent nofun

/-- The detector sees no potential deadlock of a thread outside the monitor. -/
theorem DetectorInvariant.not_potentialDeadlock (hinvariant : DetectorInvariant state)
    {thread : Thread} (hidle : (state.clients thread).phase = .idle) :
    ¬ state.monitor.dd.PotentialDeadlock thread := by
  rintro ⟨-, -, mutex, hlocked, -⟩
  exact hinvariant.not_lockedBy hidle mutex hlocked

/-- A step that leaves the detector and every thread in its call, and after which no thread has come
to return `-EDEADLK`, keeps the invariant. -/
theorem DetectorInvariant.of_same (hinvariant : DetectorInvariant state)
    (hdd : successor.monitor.dd = state.monitor.dd)
    (hcurrent : ∀ thread, (successor.clients thread).phase.current =
      (state.clients thread).phase.current)
    (hcodes : ∀ thread, ¬ (successor.clients thread).Returned (-EDEADLK)) :
    DetectorInvariant successor := by
  refine ⟨fun thread mutex hlocked ↦ ?_, hcodes⟩
  rw [hdd] at hlocked
  rw [hcurrent thread]
  exact hinvariant.inside thread mutex hlocked

/-! ### The steps -/

/-- A thread that stays in its call, or outside, and does not come to return `-EDEADLK` keeps the
invariant. -/
theorem DetectorInvariant.move [DecidableEq Thread] (hinvariant : DetectorInvariant state)
    {thread : Thread} {client : MonitorClient}
    (hcurrent : client.phase.current = (state.clients thread).phase.current)
    (hcode : ¬ client.Returned (-EDEADLK)) :
    DetectorInvariant { state with
      clients := Function.update state.clients thread client } := by
  refine hinvariant.of_same rfl (fun other ↦ ?_) fun other hreturned ↦ ?_
  · dsimp only
    by_cases hsame : other = thread
    · rw [hsame, Function.update_self, hcurrent]
    · rw [Function.update_of_ne hsame]
  · dsimp only at hreturned
    by_cases hsame : other = thread
    · rw [hsame, Function.update_self] at hreturned
      exact hcode hreturned
    · rw [Function.update_of_ne hsame] at hreturned
      exact hinvariant.codes other hreturned

variable [DecidableEq Thread]

/-- With the detector's mutex obtained and no potential deadlock in its table, a call is granted its
number and recorded as its owner, or returns `-EINVAL` and leaves the table. -/
theorem monitorEnter_cases {monitor : Bme680Monitor Thread} {thread : Thread}
    (hnone : ¬ monitor.dd.PotentialDeadlock thread) (call : MonitorCall) :
    monitorEnter monitor thread true call = (monitor, -(EINVAL : ℤ)) ∨
      ∃ mutex : Fin 2, call.mutexId = (mutex : ℕ) ∧
        monitorEnter monitor thread true call =
          ({ monitor with
              dd := monitor.dd.record mutex { owner := some thread, locked := true } }, 0) := by
  have hgranted (mutex : Fin 2) : deadlockDetectorLock monitor.dd thread (mutex : ℕ) true =
      (monitor.dd.record mutex { owner := some thread, locked := true }, 0) := by
    simp [deadlockDetectorLock, hnone]
  cases call with
  | write data =>
    by_cases hinvalid : InvalidSensorData data
    · exact .inl (if_pos hinvalid)
    · refine .inr ⟨0, rfl, ?_⟩
      have hzero : deadlockDetectorLock monitor.dd thread 0 true = _ := hgranted 0
      simp only [monitorEnter, bme680MonitorWrite, hinvalid, if_false, hzero]
      rfl
  | read =>
    refine .inr ⟨1, rfl, ?_⟩
    have hone : deadlockDetectorLock monitor.dd thread 1 true = _ := hgranted 1
    simp only [monitorEnter, bme680MonitorRead, hone]
    rfl

/-- A thread that is granted a number is recorded as its owner, inside its call. -/
theorem DetectorInvariant.grant (hinvariant : DetectorInvariant state) {thread : Thread}
    (hidle : (state.clients thread).phase = .idle) {call : MonitorCall} {mutex : Fin 2}
    (hmutex : call.mutexId = (mutex : ℕ)) :
    DetectorInvariant { state with
      monitor := { state.monitor with
        dd := state.monitor.dd.record mutex { owner := some thread, locked := true } }
      clients := Function.update state.clients thread ((state.clients thread).enter call 0) } := by
  have hother : ∀ other, other ≠ thread →
      Function.update state.clients thread ((state.clients thread).enter call 0) other =
        state.clients other := fun other hne ↦ Function.update_of_ne hne _ _
  constructor
  · intro owner index hlocked
    by_cases howner : owner = thread
    · subst owner
      dsimp only
      rw [Function.update_self]
      refine ⟨call, rfl, ?_⟩
      by_cases hindex : index = mutex
      · rw [hindex, hmutex]
      · have hbefore : state.monitor.dd.LockedBy thread index := by
          unfold DeadlockDetector.LockedBy at hlocked ⊢
          rwa [DeadlockDetector.locks_record_of_ne _ hindex] at hlocked
        exact absurd hbefore (hinvariant.not_lockedBy hidle index)
    · dsimp only
      rw [hother owner howner]
      by_cases hindex : index = mutex
      · subst hindex
        unfold DeadlockDetector.LockedBy at hlocked
        rw [DeadlockDetector.locks_record_self] at hlocked
        exact absurd (Option.some.inj hlocked.2).symm howner
      · unfold DeadlockDetector.LockedBy at hlocked
        rw [DeadlockDetector.locks_record_of_ne _ hindex] at hlocked
        exact hinvariant.inside owner index hlocked
  · intro other hreturned
    by_cases hsame : other = thread
    · subst other
      dsimp only at hreturned
      rw [Function.update_self] at hreturned
      simp [MonitorClient.enter, MonitorClient.Returned] at hreturned
    · dsimp only at hreturned
      rw [hother other hsame] at hreturned
      exact hinvariant.codes other hreturned

/-- After an unlock call of a thread that is recorded with no other number, what a thread has in the
table was there before, and is another thread's. -/
theorem lockedBy_unlock {m : ℕ} {dd : DeadlockDetector Thread m} {thread owner : Thread}
    {mutexId : ℤ} {index : Fin m}
    (hinside : ∀ index : Fin m, dd.LockedBy thread index → mutexId = (index : ℕ))
    (hlocked : (deadlockDetectorUnlock dd thread mutexId).1.LockedBy owner index) :
    dd.LockedBy owner index ∧ owner ≠ thread := by
  rcases deadlockDetectorUnlock_cases dd thread mutexId with
    ⟨code, -, hrefused, hnone⟩ | ⟨mutex, hmutex, hown, hunlocked⟩
  · rw [hrefused] at hlocked
    refine ⟨hlocked, ?_⟩
    rintro rfl
    refine hnone index ?_ hlocked
    rw [hinside index hlocked]
    exact mutexIndex_natCast index
  · rw [hunlocked] at hlocked
    by_cases hindex : index = mutex
    · rw [hindex] at hlocked
      unfold DeadlockDetector.LockedBy at hlocked
      rw [DeadlockDetector.locks_record_self] at hlocked
      exact absurd hlocked.1 Bool.false_ne_true
    · unfold DeadlockDetector.LockedBy at hlocked
      rw [DeadlockDetector.locks_record_of_ne _ hindex] at hlocked
      refine ⟨hlocked, ?_⟩
      rintro rfl
      rw [hinside index hlocked, mutexIndex_natCast] at hmutex
      exact hindex (Option.some.inj hmutex)

/-- A thread that reports to the detector on its way out is recorded nowhere afterwards: its record
is cleared, or there was none. -/
theorem DetectorInvariant.leave (hinvariant : DetectorInvariant state) {thread : Thread}
    {call : MonitorCall} {ret : ℤ} (hphase : (state.clients thread).phase = .leaving call ret) :
    DetectorInvariant { state with
      monitor := { state.monitor with
        dd := (deadlockDetectorUnlock state.monitor.dd thread call.mutexId).1 }
      clients := Function.update state.clients thread
        { state.clients thread with phase := .idle, lastReturn := ret } } := by
  have hother : ∀ other, other ≠ thread →
      Function.update state.clients thread
          { state.clients thread with phase := .idle, lastReturn := ret } other =
        state.clients other := fun other hne ↦ Function.update_of_ne hne _ _
  have hcurrent : (state.clients thread).phase.current = some call := by
    rw [hphase]
    rfl
  have hinside : ∀ index : Fin 2, state.monitor.dd.LockedBy thread index →
      call.mutexId = (index : ℕ) := by
    intro index hbefore
    obtain ⟨inner, hinner, hindex⟩ := hinvariant.inside thread index hbefore
    obtain rfl := Option.some.inj (hcurrent.symm.trans hinner)
    exact hindex
  constructor
  · intro owner index hlocked
    obtain ⟨hbefore, howner⟩ := lockedBy_unlock hinside hlocked
    dsimp only
    rw [hother owner howner]
    exact hinvariant.inside owner index hbefore
  · intro other hreturned
    by_cases hsame : other = thread
    · subst other
      dsimp only at hreturned
      rw [Function.update_self] at hreturned
      simp only [MonitorClient.Returned, true_and, reduceCtorEq, exists_false, or_false]
        at hreturned
      refine hinvariant.codes thread (.inr ⟨call, ?_⟩)
      rw [hphase, hreturned]
    · dsimp only at hreturned
      rw [hother other hsame] at hreturned
      exact hinvariant.codes other hreturned

variable [Fintype Thread]

/-- A signal leaves every thread in its call, and no thread comes to return a code by it. -/
theorem wakeOther_current {call : MonitorCall} {ending : SectionEnd}
    {clients woken : Thread → MonitorClient} {sleeper : Option Thread}
    (hwake : wakeOther call ending clients sleeper = some woken) (thread : Thread) :
    (woken thread).phase.current = (clients thread).phase.current ∧
      ∀ ret, (woken thread).Returned ret → (clients thread).Returned ret := by
  unfold wakeOther at hwake
  split_ifs at hwake
  · rcases signal_apply hwake thread with hsame | ⟨hasleep, hawake⟩
    · rw [hsame]
      exact ⟨rfl, fun _ hreturned ↦ hreturned⟩
    · rw [hawake]
      exact ⟨MonitorClient.current_awaken _, fun _ hreturned ↦
        absurd hreturned (MonitorClient.not_returned_awaken hasleep)⟩
  · rw [← Option.some.inj hwake]
    exact ⟨rfl, fun _ hreturned ↦ hreturned⟩

/-- A section keeps the invariant. -/
theorem DetectorInvariant.finish (hinvariant : DetectorInvariant state) {thread : Thread}
    {call : MonitorCall} {woken : Option Thread} {ret : ℕ} {rwlockWaits : List ℕ}
    (hcurrent : (state.clients thread).phase.current = some call)
    (hfinish : state.finish thread call woken
      (monitorWoken state.monitor ret rwlockWaits call) = some successor) :
    DetectorInvariant successor := by
  cases hresult : monitorWoken state.monitor ret rwlockWaits call with
  | none =>
    simp only [hresult, MonitorState.finish, Option.some.injEq] at hfinish
    rw [← hfinish]
    exact hinvariant.of_same rfl (fun _ ↦ rfl) hinvariant.codes
  | some result =>
    obtain ⟨hdd, hending⟩ := monitorWoken_quiet hresult
    simp only [hresult, MonitorState.finish, Option.map_eq_some_iff] at hfinish
    obtain ⟨clients, hwake, rfl⟩ := hfinish
    refine hinvariant.of_same hdd (fun other ↦ ?_) fun other hreturned ↦ ?_
    · rw [(wakeOther_current hwake other).1]
      by_cases hsame : other = thread
      · rw [hsame, Function.update_self, MonitorClient.current_finish, hcurrent]
      · rw [Function.update_of_ne hsame]
    · have hbefore := (wakeOther_current hwake other).2 _ hreturned
      by_cases hsame : other = thread
      · rw [hsame, Function.update_self] at hbefore
        exact hending (MonitorClient.returned_finish hbefore)
      · rw [Function.update_of_ne hsame] at hbefore
        exact hinvariant.codes other hbefore

/-- The step asks the detector with its mutex obtained in time. -/
def DetectorObtained : MonitorLabel Thread → Prop
  | .call _ _ obtained => obtained = true
  | _ => True

/-- Every step that obtains the detector's mutex keeps the invariant. -/
theorem DetectorInvariant.step (hinvariant : DetectorInvariant state)
    {label : MonitorLabel Thread} (hobtained : DetectorObtained label)
    (hstep : monitorStep state label = some successor) : DetectorInvariant successor := by
  cases label with
  | call thread call obtained =>
    obtain rfl : obtained = true := hobtained
    simp only [monitorStep, Option.ite_none_right_eq_some, Option.some.injEq] at hstep
    obtain ⟨hidle, rfl⟩ := hstep
    rcases monitorEnter_cases (hinvariant.not_potentialDeadlock hidle) call with
      hinvalid | ⟨mutex, hmutex, hgranted⟩
    · have henter : (state.clients thread).enter call (-EINVAL) =
          { state.clients thread with lastReturn := -EINVAL } := if_neg (by decide)
      rw [hinvalid, henter]
      refine hinvariant.move rfl ?_
      rintro (⟨-, hcode⟩ | ⟨inner, hleaving⟩)
      · have hother : -(EINVAL : ℤ) ≠ -EDEADLK := by decide
        exact hother hcode
      · cases hidle.symm.trans hleaving
    · rw [hgranted]
      exact hinvariant.grant hidle hmutex
  | check thread rwlockWaits woken =>
    unfold monitorStep at hstep
    cases hphase : (state.clients thread).phase with
    | entering call =>
      simp only [hphase] at hstep
      exact hinvariant.finish (by rw [hphase]; rfl) hstep
    | awake call =>
      simp only [hphase] at hstep
      exact hinvariant.finish (by rw [hphase]; rfl) hstep
    | idle | asleep call | leaving call ret => simp [hphase] at hstep
  | spurious thread =>
    unfold monitorStep at hstep
    cases hphase : (state.clients thread).phase with
    | asleep call =>
      simp only [hphase, Option.some.injEq] at hstep
      rw [← hstep]
      refine hinvariant.move (MonitorClient.current_awaken _) ?_
      have hasleep : (state.clients thread).AsleepAs call.role := by
        simp only [MonitorClient.AsleepAs, hphase]
      exact MonitorClient.not_returned_awaken hasleep
    | idle | entering call | awake call | leaving call ret => simp [hphase] at hstep
  | giveUp thread ret =>
    unfold monitorStep at hstep
    cases hphase : (state.clients thread).phase with
    | asleep call =>
      simp only [hphase, Option.ite_none_right_eq_some] at hstep
      exact hinvariant.finish (by rw [hphase]; rfl) hstep.2
    | idle | entering call | awake call | leaving call ret => simp [hphase] at hstep
  | leave thread =>
    unfold monitorStep at hstep
    cases hphase : (state.clients thread).phase with
    | leaving call ret =>
      simp only [hphase, Option.some.injEq] at hstep
      rw [← hstep]
      exact hinvariant.leave hphase
    | idle | entering call | asleep call | awake call => simp [hphase] at hstep

/-! ### Runs -/

/-- Threads that share a monitor initialized for a size, with the detector that
`deadlock_detector_init` sets up for it. -/
def detectedMonitorSystem (Thread : Type*) [Fintype Thread] [DecidableEq Thread] (size : ℤ) :
    TransitionSystem (MonitorState Thread) (MonitorLabel Thread) where
  initial := fun state ↦ (monitorSystem Thread size).initial state ∧
    deadlockDetectorInit Thread 2 true true = .ok state.monitor.dd
  next := monitorNext

/-- The invariant holds in every run that obtains the detector's mutex. -/
theorem detectorInvariant_reachable {size : ℤ}
    (hreach : (detectedMonitorSystem Thread size).ReachableUnder (fun _ ↦ DetectorObtained)
      state) : DetectorInvariant state := by
  refine hreach.invariant (fun start hstart ↦ ?_)
    fun before label after hinvariant hobtained hnext ↦ ?_
  · obtain ⟨⟨-, hclients, -⟩, hdetector⟩ := hstart
    refine ⟨fun thread mutex hlocked ↦ ?_, fun thread ↦ ?_⟩
    · rw [← Except.ok.inj hdetector] at hlocked
      exact absurd hlocked.1 Bool.false_ne_true
    · rw [hclients thread]
      rintro (⟨-, hcode⟩ | ⟨call, hleaving⟩)
      · exact absurd hcode (by decide)
      · exact absurd hleaving nofun
  · obtain ⟨moved, hstep, rfl⟩ := Option.map_eq_some_iff.mp hnext
    have hmoved : DetectorInvariant moved := hinvariant.step hobtained hstep
    exact hmoved.of_same rfl (fun _ ↦ rfl) hmoved.codes

/-- In every run of any threads that only write to and read from a monitor, in which the detector's
mutex is always obtained in time, no call returns `-EDEADLK`, and a thread outside the monitor is
not recorded as the owner of a locked entry of the detector. -/
theorem monitor_no_false_deadlock {size : ℤ}
    (hreach : (detectedMonitorSystem Thread size).ReachableUnder (fun _ ↦ DetectorObtained)
      state) :
    (∀ thread, ¬ (state.clients thread).Returned (-EDEADLK)) ∧
      ∀ thread, (state.clients thread).phase = .idle →
        ∀ mutex, ¬ state.monitor.dd.LockedBy thread mutex := by
  have hinvariant := detectorInvariant_reachable hreach
  exact ⟨hinvariant.codes, fun thread hidle mutex ↦ hinvariant.not_lockedBy hidle mutex⟩

/-- Two reads are granted the same number, the first one's unlock call is refused when it has timed
out, and the second one is still recorded. -/
theorem monitor_no_false_deadlock_two_reads :
    ∃ state : MonitorState (Fin 2),
      (detectedMonitorSystem (Fin 2) 1).ReachableUnder (fun _ ↦ DetectorObtained) state ∧
      state.monitor.dd.LockedBy 1 1 ∧ (state.clients 0).Returned (-ETIMEDOUT) ∧
      (∀ thread, ¬ (state.clients thread).Returned (-EDEADLK)) ∧
      ∀ mutex, ¬ state.monitor.dd.LockedBy 0 mutex := by
  obtain ⟨final, hrun, hlocked, hidle, hreturned⟩ : ∃ final,
      (detectedMonitorSystem (Fin 2) 1).run oneSlot
        [.call 0 .read true, .call 1 .read true, .check 0 [] none, .giveUp 0 ETIMEDOUT,
          .leave 0] = some final ∧ final.monitor.dd.LockedBy 1 1 ∧
        (final.clients 0).phase = .idle ∧ (final.clients 0).lastReturn = -ETIMEDOUT :=
    ⟨_, rfl, ⟨rfl, rfl⟩, rfl, rfl⟩
  have hreach : (detectedMonitorSystem (Fin 2) 1).ReachableUnder (fun _ ↦ DetectorObtained)
      final := by
    refine TransitionSystem.ReachableUnder.run _ (fun _ label hlabel ↦ ?_) (.initial ⟨?_, rfl⟩) hrun
    · simp only [List.mem_cons, List.not_mem_nil, or_false] at hlabel
      rcases hlabel with rfl | rfl | rfl | rfl | rfl <;> trivial
    · exact ⟨⟨true, true, oneSlot.monitor, fun _ ↦ readingOf 0, rfl⟩, fun _ ↦ rfl, rfl,
        fun _ ↦ rfl, rfl⟩
  obtain ⟨hcodes, hnobody⟩ := monitor_no_false_deadlock hreach
  exact ⟨final, hreach, hlocked, .inl ⟨hidle, hreturned⟩, hcodes, hnobody 0 hidle⟩

end Bme680.Monitor
