import Bme680.ReadWriteLock.LockClients
import Mathlib.Tactic.FinCases

/-!
# Configuration accesses behind the read-write lock

The three setters of `bme680_config.c` take the lock for writing around a call of
`bme680_set_sensor_settings`, and `bme680_config_get_oversampling` takes it for reading around the
copy of the three settings. None of the four looks at the code its lock call returns: a call that
was refused or timed out enters its section all the same, and then unlocks whatever hold it finds.

The configuration threads run over the lock's own code, `lockNext`, without the matching
discipline, since an unlock here may not be of a hold of its thread. `LockCallsSucceed` is the
condition on a step that no lock call is refused or fails to wait. `configExclusive_of_succeed`
shows that in runs all of whose steps satisfy it a thread inside a setter's section is alone in
any section: such runs use the lock in matched pairs, so its invariant applies.

`bme680_set_sensor_settings` is not among the sources; it is a parameter, of which nothing is
assumed.
-/

set_option autoImplicit false
set_option relaxedAutoImplicit false

namespace Bme680.ReadWriteLock

open Concurrency

/-! ### The four calls -/

/-- The settings the setters pass on: `BME680_OS_TEMP`, `BME680_OS_PRESS`, `BME680_OS_HUM`. -/
inductive OversamplingSetting
  | osTemp
  | osPress
  | osHum
  deriving DecidableEq, Repr

/-- The configuration: the device and the three oversampling settings. -/
structure Bme680Config (Device : Type*) where
  dev : Device
  oversamplingTemp : UInt8
  oversamplingPress : UInt8
  oversamplingHum : UInt8

/-- The settings `bme680_config_get_oversampling` copies out. -/
structure OversamplingReading where
  temp : UInt8
  press : UInt8
  hum : UInt8
  deriving DecidableEq, Repr

/-- The calls a thread can make. -/
inductive ConfigCall
  | setTempOversampling (os : UInt8)
  | setPressureOversampling (os : UInt8)
  | setHumidityOversampling (os : UInt8)
  | getOversampling
  deriving DecidableEq, Repr

/-- The mode a call takes the lock in. -/
def ConfigCall.mode : ConfigCall → LockMode
  | .getOversampling => .read
  | _ => .write

section Sections

variable {Device : Type*}
  (bme680SetSensorSettings : Device → OversamplingSetting → UInt8 → Device × ℤ)

/-- The section of a setter: the new configuration and the code the setter returns. -/
def setOversampling (setting : OversamplingSetting) (config : Bme680Config Device) (os : UInt8) :
    Bme680Config Device × ℤ :=
  let result := bme680SetSensorSettings config.dev setting os
  ({ config with dev := result.1 }, result.2)

/-- The section of `bme680_config_set_temp_oversampling`. -/
def bme680ConfigSetTempOversampling : Bme680Config Device → UInt8 → Bme680Config Device × ℤ :=
  setOversampling bme680SetSensorSettings .osTemp

/-- The section of `bme680_config_set_pressure_oversampling`. -/
def bme680ConfigSetPressureOversampling :
    Bme680Config Device → UInt8 → Bme680Config Device × ℤ :=
  setOversampling bme680SetSensorSettings .osPress

/-- The section of `bme680_config_set_humidity_oversampling`. -/
def bme680ConfigSetHumidityOversampling :
    Bme680Config Device → UInt8 → Bme680Config Device × ℤ :=
  setOversampling bme680SetSensorSettings .osHum

/-- The section of `bme680_config_get_oversampling`. -/
def bme680ConfigGetOversampling (config : Bme680Config Device) : OversamplingReading × ℤ :=
  (⟨config.oversamplingTemp, config.oversamplingPress, config.oversamplingHum⟩, 0)

/-- The section of a call: the configuration it leaves, the settings it copied out if it is the
getter, and the code it will return. -/
def ConfigCall.body (config : Bme680Config Device) :
    ConfigCall → Bme680Config Device × Option OversamplingReading × ℤ
  | .setTempOversampling os =>
    let result := bme680ConfigSetTempOversampling bme680SetSensorSettings config os
    (result.1, none, result.2)
  | .setPressureOversampling os =>
    let result := bme680ConfigSetPressureOversampling bme680SetSensorSettings config os
    (result.1, none, result.2)
  | .setHumidityOversampling os =>
    let result := bme680ConfigSetHumidityOversampling bme680SetSensorSettings config os
    (result.1, none, result.2)
  | .getOversampling =>
    let result := bme680ConfigGetOversampling config
    (config, some result.1, result.2)

end Sections

/-! ### The system -/

/-- Where a thread is: outside every call, inside the lock call, between the lock call and its
section's body, or between the body and the unlock call. -/
inductive ConfigPhase
  | outside
  | locking (call : ConfigCall)
  | locked (call : ConfigCall)
  | unlocking (call : ConfigCall) (ret : ℤ)
  deriving DecidableEq, Repr

/-- The call whose section, from the return of its lock call to its unlock call, the thread is
inside. -/
def ConfigPhase.section? : ConfigPhase → Option ConfigCall
  | .locked call => some call
  | .unlocking call _ => some call
  | _ => none

/-- A configuration thread: its phase, the code its last call returned and the settings its last
getter copied out. -/
structure ConfigThread where
  phase : ConfigPhase
  lastReturn : ℤ
  reading : Option OversamplingReading
  deriving DecidableEq, Repr

/-- The lock, the configuration and the threads. -/
structure ConfigState (Thread Device : Type*) where
  locks : LockState Thread
  config : Bme680Config Device
  threads : Thread → ConfigThread

/-- The steps of the threads: a call up to the first wait or the return of its lock call, the
steps inside a lock call, the body of a section, and the unlock call with the return. -/
inductive ConfigLabel (Thread : Type*)
  | call (thread : Thread) (call : ConfigCall)
  | spurious (thread : Thread)
  | recheck (thread : Thread)
  | giveUp (thread : Thread) (ret : ℕ)
  | body (thread : Thread)
  | leave (thread : Thread) (woken : Option Thread)
  deriving DecidableEq

variable {Thread Device : Type*} [Fintype Thread] [DecidableEq Thread]
  (bme680SetSensorSettings : Device → OversamplingSetting → UInt8 → Device × ℤ)

omit [Fintype Thread] in
/-- A thread moves to a phase. -/
def ConfigState.setPhase (state : ConfigState Thread Device) (thread : Thread)
    (phase : ConfigPhase) : ConfigState Thread Device :=
  { state with
    threads := Function.update state.threads thread
      { state.threads thread with phase := phase } }

omit [Fintype Thread] in
/-- The state after a step of the lock call of a thread: whatever code the lock call returned, the
thread goes on to its section. -/
def ConfigState.afterLock (state : ConfigState Thread Device) (thread : Thread)
    (call : ConfigCall) (locks : LockState Thread) : ConfigState Thread Device :=
  { state.setPhase thread
      (if (locks.clients thread).phase = .idle then .locked call else .locking call) with
    locks := locks }

/-- The step a thread inside its lock call takes there. -/
def waitNext (state : ConfigState Thread Device) (thread : Thread) (label : LockLabel Thread) :
    Option (ConfigState Thread Device) :=
  match (state.threads thread).phase with
  | .locking call => (lockNext state.locks label).map (state.afterLock thread call)
  | _ => none

/-- One step of the configuration threads. -/
def configNext (state : ConfigState Thread Device) :
    ConfigLabel Thread → Option (ConfigState Thread Device)
  | .call thread call =>
    if (state.threads thread).phase = .outside then
      (lockNext state.locks (.lock thread call.mode)).map (state.afterLock thread call)
    else none
  | .spurious thread => waitNext state thread (.spurious thread)
  | .recheck thread => waitNext state thread (.recheck thread)
  | .giveUp thread ret => waitNext state thread (.giveUp thread ret)
  | .body thread =>
    match (state.threads thread).phase with
    | .locked call =>
      let result := call.body bme680SetSensorSettings state.config
      some { state with
        config := result.1
        threads := Function.update state.threads thread
          { state.threads thread with
            phase := .unlocking call result.2.2
            reading := result.2.1 } }
    | _ => none
  | .leave thread woken =>
    match (state.threads thread).phase with
    | .unlocking call ret =>
      (lockNext state.locks (.unlock thread call.mode woken)).map fun locks ↦
        { state with
          locks := locks
          threads := Function.update state.threads thread
            { state.threads thread with phase := .outside, lastReturn := ret } }
    | _ => none

/-- Threads calling the setters and the getter of one configuration, all outside at first. -/
def configSystem : TransitionSystem (ConfigState Thread Device) (ConfigLabel Thread) where
  initial := fun state ↦
    (rwlockSystem Thread).initial state.locks ∧
      ∀ thread, (state.threads thread).phase = .outside
  next := configNext bme680SetSensorSettings

/-! ### Mutual exclusion -/

omit [Fintype Thread] [DecidableEq Thread] in
/-- While a thread is inside a setter's section, no other thread is inside any section. -/
def ConfigExclusive (state : ConfigState Thread Device) : Prop :=
  ∀ setter other call, setter ≠ other → (state.threads setter).phase.section? = some call →
    call.mode = .write → (state.threads other).phase.section? = none

omit [Fintype Thread] [DecidableEq Thread] in
/-- The step is neither a lock call that is refused nor a timed wait that fails. -/
def LockCallsSucceed (state : ConfigState Thread Device) : ConfigLabel Thread → Prop
  | .call _ call => call.mode.waiting state.locks.lock < call.mode.maxWaiting
  | .giveUp _ _ => False
  | _ => True

/-- The holds and the phase of a thread in the lock's code are those its configuration call says:
none outside and inside the lock call, one of the call's mode inside its section. -/
def Agrees (phase : ConfigPhase) (client : LockClient) : Prop :=
  match phase with
  | .outside => client.phase = .idle ∧ ∀ mode, client.holds mode = 0
  | .locking call => client.Waiting call.mode ∧ ∀ mode, client.holds mode = 0
  | .locked call | .unlocking call _ =>
    client.phase = .idle ∧ ∀ mode, client.holds mode = if mode = call.mode then 1 else 0

/-- What every state of a run without failing lock calls satisfies: the lock is used in matched
pairs, and every thread agrees with its part in the lock's code. -/
structure ConfigInvariant (state : ConfigState Thread Device) : Prop where
  locks : (rwlockSystem Thread).Reachable state.locks
  agrees : ∀ thread, Agrees (state.threads thread).phase (state.locks.clients thread)

namespace ConfigInvariant

variable {state : ConfigState Thread Device}

/-- Inside a section a thread holds the lock in the mode of its call. -/
theorem holds_of_section (hinvariant : ConfigInvariant state) {thread : Thread}
    {call : ConfigCall} (hsection : (state.threads thread).phase.section? = some call) :
    (state.locks.clients thread).holds call.mode = 1 := by
  have hagrees := hinvariant.agrees thread
  cases hphase : (state.threads thread).phase with
  | outside =>
    rw [hphase] at hsection
    cases hsection
  | locking other =>
    rw [hphase] at hsection
    cases hsection
  | locked other =>
    rw [hphase] at hsection hagrees
    obtain rfl := Option.some.inj hsection
    rw [hagrees.2, if_pos rfl]
  | unlocking other ret =>
    rw [hphase] at hsection hagrees
    obtain rfl := Option.some.inj hsection
    rw [hagrees.2, if_pos rfl]

/-- Under the invariant a thread inside a setter's section is alone. -/
theorem exclusive (hinvariant : ConfigInvariant state) : ConfigExclusive state := by
  intro setter other call hne hsetter hmode
  have hlock := lockInvariant_reachable hinvariant.locks
  have hwrite := hinvariant.holds_of_section hsetter
  rw [hmode] at hwrite
  cases hother : (state.threads other).phase.section? with
  | none => rfl
  | some otherCall =>
    exfalso
    have hheld := hinvariant.holds_of_section hother
    have hwriteHeld : 0 < (state.locks.clients setter).holds .write := by omega
    have hwriter := hlock.active_pos hwriteHeld
    cases hotherMode : otherCall.mode with
    | read =>
      rw [hotherMode] at hheld
      have hreadHeld : 0 < (state.locks.clients other).holds .read := by omega
      have hreader := hlock.active_pos hreadHeld
      rcases hlock.exclusive with hnone | hnone
      · exact absurd hnone hwriter.ne'
      · exact absurd hnone hreader.ne'
    | write =>
      rw [hotherMode] at hheld
      have htwo := add_le_tally (fun client : LockClient ↦ client.holds .write)
        state.locks.clients hne
      have hactive := hlock.accounts.active .write
      have hone := hlock.oneWriter
      simp only [LockMode.active] at hactive
      omega

/-- A step of the lock call of a thread that keeps the other threads where they are keeps the
invariant, provided the thread agrees with where it goes on. -/
theorem afterLock (hinvariant : ConfigInvariant state) {thread : Thread} {call : ConfigCall}
    {label : LockLabel Thread} {locks : LockState Thread} {client : LockClient}
    (hmatched : matchedNext state.locks label = some locks)
    (hclients : locks.clients = Function.update state.locks.clients thread client)
    (hagrees : Agrees (if client.phase = .idle then .locked call else .locking call) client) :
    ConfigInvariant (state.afterLock thread call locks) := by
  refine ⟨.step hinvariant.locks trivial hmatched, fun other ↦ ?_⟩
  simp only [ConfigState.afterLock, ConfigState.setPhase]
  by_cases hother : other = thread
  · subst other
    rw [hclients, Function.update_self, Function.update_self]
    exact hagrees
  · rw [hclients, Function.update_of_ne hother, Function.update_of_ne hother]
    exact hinvariant.agrees other

end ConfigInvariant

omit [Fintype Thread] [DecidableEq Thread] in
/-- A lock call of a thread without holds that did not fail leaves the thread where it goes on. -/
theorem Agrees.finish {client : LockClient} (hnone : ∀ mode, client.holds mode = 0)
    (call : ConfigCall) {outcome : SectionEnd}
    (houtcome : outcome = .sleeps ∨ outcome = .returns 0) :
    Agrees (if (client.finish call.mode outcome).phase = .idle then .locked call
      else .locking call) (client.finish call.mode outcome) := by
  rcases houtcome with rfl | rfl
  · have hwaiting := (client.waiting_finish call.mode call.mode .sleeps).mpr ⟨rfl, rfl⟩
    refine ⟨hwaiting, fun mode ↦ ?_⟩
    rw [LockClient.holds_finish, hnone]
    simp
  · refine ⟨rfl, fun mode ↦ ?_⟩
    rw [LockClient.holds_finish, hnone]
    simp

omit [Fintype Thread] [DecidableEq Thread] in
/-- A sleeper made awake is still where its configuration call says. -/
theorem Agrees.awaken {phase : ConfigPhase} {client : LockClient} {mode : LockMode}
    (hagrees : Agrees phase client) (hasleep : client.Asleep mode) :
    Agrees phase (client.awaken mode) := by
  have hphase : client.phase = .asleep mode := hasleep
  cases phase with
  | locking call =>
    refine ⟨(LockClient.waiting_awaken hasleep call.mode).mpr hagrees.1, fun other ↦ ?_⟩
    rw [LockClient.holds_awaken]
    exact hagrees.2 other
  | outside => cases hphase.symm.trans hagrees.1
  | locked call => cases hphase.symm.trans hagrees.1
  | unlocking call ret => cases hphase.symm.trans hagrees.1

/-- A step inside a lock call is a step of the lock's code by a thread inside that call. -/
theorem waitNext_eq_some {state successor : ConfigState Thread Device} {thread : Thread}
    {label : LockLabel Thread} :
    waitNext state thread label = some successor ↔
      ∃ call locks, (state.threads thread).phase = .locking call ∧
        lockNext state.locks label = some locks ∧
        successor = state.afterLock thread call locks := by
  unfold waitNext
  split
  · rename_i call hphase
    simp [hphase, eq_comm]
  · rename_i hphase
    simp only [reduceCtorEq, false_iff, not_exists, not_and]
    intro call locks hlocking
    exact absurd hlocking (hphase call)

namespace ConfigInvariant

variable {state successor : ConfigState Thread Device} {label : ConfigLabel Thread}

/-- Every step in which no lock call fails keeps the invariant. -/
theorem step (hinvariant : ConfigInvariant state) (hallowed : LockCallsSucceed state label)
    (hnext : configNext bme680SetSensorSettings state label = some successor) :
    ConfigInvariant successor := by
  have hlock := lockInvariant_reachable hinvariant.locks
  cases label with
  | call thread call =>
    simp only [configNext] at hnext
    split_ifs at hnext with houtside
    obtain ⟨locks, hlocks, rfl⟩ := Option.map_eq_some_iff.mp hnext
    have hmatched : matchedNext state.locks (.lock thread call.mode) = some locks :=
      matchedNext_eq_some.mpr ⟨trivial, hlocks⟩
    have hagrees := hinvariant.agrees thread
    rw [houtside] at hagrees
    cases hlock.step_cases hmatched with
    | refused _ hfull => exact absurd hfull (not_le.mpr hallowed)
    | sleeps =>
      exact hinvariant.afterLock hmatched rfl (Agrees.finish hagrees.2 call (Or.inl rfl))
    | acquires =>
      exact hinvariant.afterLock hmatched rfl (Agrees.finish hagrees.2 call (Or.inr rfl))
  | spurious thread =>
    obtain ⟨call, locks, hphase, hlocks, rfl⟩ := waitNext_eq_some.mp hnext
    have hmatched : matchedNext state.locks (.spurious thread) = some locks :=
      matchedNext_eq_some.mpr ⟨trivial, hlocks⟩
    have hagrees := hinvariant.agrees thread
    rw [hphase] at hagrees
    cases hlock.step_cases hmatched with
    | spurious hasleep => exact hinvariant.afterLock hmatched rfl (hagrees.awaken hasleep)
  | recheck thread =>
    obtain ⟨call, locks, hphase, hlocks, rfl⟩ := waitNext_eq_some.mp hnext
    have hmatched : matchedNext state.locks (.recheck thread) = some locks :=
      matchedNext_eq_some.mpr ⟨trivial, hlocks⟩
    have hagrees := hinvariant.agrees thread
    rw [hphase] at hagrees
    obtain ⟨hwaiting, hnone⟩ := hagrees
    cases hlock.step_cases hmatched with
    | sleepsAgain hawake =>
      obtain rfl := (LockClient.waiting_iff (Or.inl hawake) _).mp hwaiting
      exact hinvariant.afterLock hmatched rfl (Agrees.finish hnone call (Or.inl rfl))
    | acquiresAwake hawake =>
      obtain rfl := (LockClient.waiting_iff (Or.inl hawake) _).mp hwaiting
      exact hinvariant.afterLock hmatched rfl (Agrees.finish hnone call (Or.inr rfl))
  | giveUp thread ret => exact hallowed.elim
  | body thread =>
    simp only [configNext] at hnext
    split at hnext
    · rename_i call hphase
      obtain rfl := Option.some.inj hnext
      refine ⟨hinvariant.locks, fun other ↦ ?_⟩
      by_cases hother : other = thread
      · subst other
        have hagrees := hinvariant.agrees thread
        rw [hphase] at hagrees
        simp only [Function.update_self]
        exact hagrees
      · simp only [Function.update_of_ne hother]
        exact hinvariant.agrees other
    · cases hnext
  | leave thread woken =>
    simp only [configNext] at hnext
    split at hnext
    · rename_i call ret hphase
      obtain ⟨locks, hlocks, rfl⟩ := Option.map_eq_some_iff.mp hnext
      have hagrees := hinvariant.agrees thread
      rw [hphase] at hagrees
      -- the section's thread holds the lock in its call's mode, so its unlock is matched
      have hheld : 0 < (state.locks.clients thread).holds call.mode := by
        rw [hagrees.2, if_pos rfl]
        exact Nat.one_pos
      have hmatched : matchedNext state.locks (.unlock thread call.mode woken) = some locks :=
        matchedNext_eq_some.mpr ⟨hheld, hlocks⟩
      refine ⟨.step hinvariant.locks trivial hmatched, fun other ↦ ?_⟩
      cases hlock.step_cases hmatched with
      | unlocks hidle _ hwake =>
        have hbefore : Agrees (Function.update state.threads thread
            { state.threads thread with phase := .outside, lastReturn := ret } other).phase
            (Function.update state.locks.clients thread
              ((state.locks.clients thread).unlocked 0 call.mode) other) := by
          by_cases hother : other = thread
          · subst other
            rw [Function.update_self, Function.update_self]
            refine ⟨(LockClient.phase_unlocked _ _ _).trans hidle, fun mode ↦ ?_⟩
            rw [LockClient.holds_unlocked, hagrees.2]
            exact Nat.sub_self _
          · rw [Function.update_of_ne hother, Function.update_of_ne hother]
            exact hinvariant.agrees other
        rcases wakeSleepers_apply hwake other with hsame | ⟨mode, hasleep, hawake⟩
        · rw [← hsame] at hbefore
          exact hbefore
        · have hafter := hbefore.awaken hasleep
          rw [← hawake] at hafter
          exact hafter
    · cases hnext

end ConfigInvariant

/-- Every state of a run without failing lock calls satisfies the invariant. -/
theorem configInvariant_reachable {state : ConfigState Thread Device}
    (hreach : (configSystem bme680SetSensorSettings).ReachableUnder LockCallsSucceed state) :
    ConfigInvariant state := by
  refine hreach.invariant (fun start hstart ↦ ?_) fun _ _ _ hinvariant hallowed hnext ↦
    hinvariant.step bme680SetSensorSettings hallowed hnext
  obtain ⟨hlocks, hthreads⟩ := hstart
  refine ⟨.initial hlocks, fun thread ↦ ?_⟩
  rw [hthreads thread, hlocks.2 thread]
  exact ⟨rfl, fun mode ↦ by cases mode <;> rfl⟩

/-- In runs none of whose lock calls is refused or fails to wait, a thread inside a setter's section
is alone: no other thread is inside the section of a setter or of the getter. -/
theorem configExclusive_of_succeed {state : ConfigState Thread Device}
    (hreach : (configSystem bme680SetSensorSettings).ReachableUnder LockCallsSucceed state) :
    ConfigExclusive state :=
  (configInvariant_reachable bme680SetSensorSettings hreach).exclusive

/-- Two threads outside every call, on a device of which nothing is kept. -/
def twoConfigThreads : ConfigState (Fin 2) Unit :=
  { locks := { lock := ⟨0, 0, 0, 0⟩, clients := fun _ ↦ LockClient.fresh }
    config := { dev := (), oversamplingTemp := 3, oversamplingPress := 3, oversamplingHum := 3 }
    threads := fun _ ↦ { phase := .outside, lastReturn := 0, reading := none } }

/-- Thread 0 is inside a setter's section when the timed wait of thread 1 expires, and thread 1
enters its own section. -/
theorem setter_timeout_enters :
    ¬ ∀ state : ConfigState (Fin 2) Unit,
      (configSystem fun _ _ _ ↦ ((), 0)).Reachable state → ConfigExclusive state := by
  intro hclaim
  obtain ⟨final, hrun, hfirst, hsecond⟩ : ∃ final : ConfigState (Fin 2) Unit,
      (configSystem fun _ _ _ ↦ ((), 0)).run twoConfigThreads
        [.call 0 (.setTempOversampling 1), .call 1 (.setTempOversampling 2),
          .giveUp 1 ETIMEDOUT] = some final ∧
      (final.threads 0).phase.section? = some (.setTempOversampling 1) ∧
      (final.threads 1).phase.section? = some (.setTempOversampling 2) := ⟨_, rfl, rfl, rfl⟩
  have hinitial : (configSystem fun _ _ _ ↦ ((), 0)).initial twoConfigThreads :=
    ⟨⟨rfl, fun _ ↦ rfl⟩, fun _ ↦ rfl⟩
  have hnone := hclaim final (TransitionSystem.reachable_of_run hinitial _ hrun) 0 1 _ (by decide)
    hfirst rfl
  cases hsecond.symm.trans hnone

/-- Thread 0 is inside a setter's section while thread 1 waits, and is alone there. -/
theorem configExclusive_of_succeed_setter :
    ∃ state : ConfigState (Fin 2) Unit,
      (state.threads 0).phase.section? = some (.setTempOversampling 1) ∧
      (state.threads 1).phase = .locking .getOversampling ∧ ConfigExclusive state := by
  obtain ⟨first, second, hfirst, hsecond, hroom, hsetter, hgetter⟩ :
      ∃ first second : ConfigState (Fin 2) Unit,
        (configSystem fun _ _ _ ↦ ((), 0)).next twoConfigThreads
          (.call 0 (.setTempOversampling 1)) = some first ∧
        (configSystem fun _ _ _ ↦ ((), 0)).next first (.call 1 .getOversampling) = some second ∧
        LockCallsSucceed first (.call 1 .getOversampling) ∧
        (second.threads 0).phase.section? = some (.setTempOversampling 1) ∧
        (second.threads 1).phase = .locking .getOversampling :=
    ⟨_, _, rfl, rfl, by show (0 : ℤ) < 10; decide, rfl, rfl⟩
  have hempty : LockCallsSucceed twoConfigThreads (.call 0 (.setTempOversampling 1)) := by
    show (0 : ℤ) < 5
    decide
  have hreach : (configSystem fun _ _ _ ↦ ((), 0)).ReachableUnder LockCallsSucceed second :=
    .step (.step (.initial ⟨⟨rfl, fun _ ↦ rfl⟩, fun _ ↦ rfl⟩) hempty hfirst) hroom hsecond
  exact ⟨second, hsetter, hgetter, configExclusive_of_succeed _ hreach⟩

end Bme680.ReadWriteLock
