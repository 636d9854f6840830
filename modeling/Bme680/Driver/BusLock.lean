import Bme680.SectionOutcome
import Bme680.Concurrency.ThreadLocks

/-!
# The bus lock of the I2C driver

The four callbacks of `bme680_i2c.c` take `bme680_i2c_lock` around their call into the core driver.
`bme680_core_probe` and `bme680_core_remove` take the same lock again, so a callback that reaches
them waits for itself (`probe_deadlocks`, `remove_deadlocks`). The functions for suspending and
resuming take only the lock of the driver data, and fault without that data.

A callback is what it does with the two locks and the code it returns, given the outcomes of the
allocations and the register accesses. `bme680_probe` and what it calls take neither lock, so they
are no more than the code they return. `busLockBalanced_iff` says which sequences of callbacks never
request the bus lock twice and leave it free each time.
-/

set_option autoImplicit false
set_option relaxedAutoImplicit false

namespace Bme680.Driver

open Concurrency

/-! ### The core driver -/

/-- `bme680_i2c_lock`, and the lock in the driver data. -/
inductive I2cLock
  | bus
  | data
  deriving DecidableEq, Repr

/-- What a callback does with the locks. -/
abbrev I2cActions := List (LockAction I2cLock)

/-- The codes of the calls of `bme680_probe`, in their order: the allocation of the device, the
register accesses of the reset and of the chip identifier, the three reads of the calibration, the
accesses of `bme680_chip_config`, the regulators, the read and the write of `bme680_set_mode`, and
the registrations. -/
structure CoreProbeOutcomes where
  deviceAllocated : Bool
  softReset : ℤ
  chipIdRead : ℤ
  chipIdMatches : Bool
  readCalib : List ℤ
  chipConfig : List ℤ
  regulators : ℤ
  modeRead : ℤ
  modeWrite : ℤ
  bufferSetup : ℤ
  triggerAllocated : Bool
  triggerRegister : ℤ
  runtimeActive : ℤ
  deviceRegister : ℤ

/-- The code of a sequence of register accesses that stops at the first error. -/
def firstError (codes : List ℤ) : ℤ :=
  (codes.find? (· < 0)).getD 0

/-- `bme680_set_mode`. -/
def setModeCode (outcomes : CoreProbeOutcomes) : ℤ :=
  if outcomes.modeRead < 0 then outcomes.modeRead else outcomes.modeWrite

/-- `bme680_probe`. -/
def bme680Probe (outcomes : CoreProbeOutcomes) : ℤ :=
  if !outcomes.deviceAllocated then -ENOMEM
  else if outcomes.softReset < 0 then outcomes.softReset
  else if outcomes.chipIdRead < 0 then outcomes.chipIdRead
  else if !outcomes.chipIdMatches then -ENODEV
  else if firstError outcomes.readCalib < 0 then firstError outcomes.readCalib
  else if firstError outcomes.chipConfig < 0 then firstError outcomes.chipConfig
  else if outcomes.regulators ≠ 0 then outcomes.regulators
  else if setModeCode outcomes < 0 then setModeCode outcomes
  else if outcomes.bufferSetup < 0 then outcomes.bufferSetup
  else if !outcomes.triggerAllocated then -ENOMEM
  else if outcomes.triggerRegister ≠ 0 then outcomes.triggerRegister
  else if outcomes.runtimeActive ≠ 0 then outcomes.runtimeActive
  else outcomes.deviceRegister

/-- `bme680_core_probe`: the code it returns and what it does with the locks. -/
def bme680CoreProbe (outcomes : CoreProbeOutcomes) : ℤ × I2cActions :=
  (bme680Probe outcomes, [.lock .bus, .unlock .bus])

/-- `bme680_core_remove`. -/
def bme680CoreRemove : ℤ × I2cActions :=
  (0, [.lock .bus, .unlock .bus])

/-- `bme680_core_suspend`, given whether the data of the client is set. -/
def bme680CoreSuspend (clientData : Bool) : ℤ × I2cActions :=
  (0, if clientData then [.lock .data, .unlock .data] else [.fault])

/-- `bme680_core_resume`, which is the same. -/
def bme680CoreResume (clientData : Bool) : ℤ × I2cActions :=
  bme680CoreSuspend clientData

/-! ### The callbacks -/

/-- The outcomes of the calls of `bme680_i2c_probe`: whether the data can be allocated, the error of
the register map where it cannot be initialized, and the outcomes inside the core driver. -/
structure ProbeOutcomes where
  dataAllocated : Bool
  regmapError : Option ℤ
  core : CoreProbeOutcomes

/-- A call into the core driver with the bus lock held around it. -/
def underBusLock (actions : I2cActions) : I2cActions :=
  .lock .bus :: (actions ++ [.unlock .bus])

/-- `bme680_i2c_probe`. -/
def bme680I2cProbe (outcomes : ProbeOutcomes) : ℤ × I2cActions :=
  if !outcomes.dataAllocated then (-ENOMEM, [])
  else
    match outcomes.regmapError with
    | some error => (error, [])
    | none =>
      let core := bme680CoreProbe outcomes.core
      (if core.1 ≠ 0 then core.1 else 0, underBusLock core.2)

/-- `bme680_i2c_remove`. -/
def bme680I2cRemove : ℤ × I2cActions :=
  (0, underBusLock bme680CoreRemove.2)

/-- `bme680_i2c_suspend`. -/
def bme680I2cSuspend (clientData : Bool) : ℤ × I2cActions :=
  (0, underBusLock (bme680CoreSuspend clientData).2)

/-- `bme680_i2c_resume`. -/
def bme680I2cResume (clientData : Bool) : ℤ × I2cActions :=
  (0, underBusLock (bme680CoreResume clientData).2)

/-! ### Sequences of callbacks -/

/-- The callbacks. -/
inductive I2cCall
  | probe (outcomes : ProbeOutcomes)
  | remove
  | suspend
  | resume

/-- What a callback does with the locks. -/
def I2cCall.actions (clientData : Bool) : I2cCall → I2cActions
  | .probe outcomes => (bme680I2cProbe outcomes).2
  | .remove => bme680I2cRemove.2
  | .suspend => (bme680I2cSuspend clientData).2
  | .resume => (bme680I2cResume clientData).2

/-- The callback gets as far as `i2c_set_clientdata`, under the bus lock. -/
def I2cCall.setsClientData : I2cCall → Bool
  | .probe outcomes => outcomes.dataAllocated && outcomes.regmapError.isNone
  | .remove | .suspend | .resume => false

/-- The locks held between two callbacks, and whether the data of the client is set. -/
structure I2cState where
  held : I2cLock → Bool
  clientData : Bool

/-- No lock is held. -/
def I2cState.start (clientData : Bool) : I2cState :=
  { held := fun _ ↦ false, clientData := clientData }

/-- Every callback of a sequence returns, without a request for a lock that is held, and leaves the
bus lock free. -/
def BusLockBalanced : I2cState → List I2cCall → Prop
  | _, [] => True
  | state, call :: calls =>
    ∃ held, runThread state.held (call.actions state.clientData) = .returned held ∧
      held .bus = false ∧
      BusLockBalanced { held := held, clientData := state.clientData || call.setsClientData } calls

/-- The callback fails before it takes the bus lock, or suspends or resumes a client whose data is
set. -/
def I2cCall.AvoidsCoreLock (clientData : Bool) : I2cCall → Prop
  | .probe outcomes => outcomes.dataAllocated = false ∨ outcomes.regmapError ≠ none
  | .remove => False
  | .suspend | .resume => clientData = true

/-! ### Single callbacks -/

variable {held : I2cLock → Bool}

/-- A probe whose data and register map are there requests the bus lock while it holds it, whatever
happens in the core driver. -/
theorem probe_deadlocks (hfree : held .bus = false) {outcomes : ProbeOutcomes}
    (hdata : outcomes.dataAllocated = true) (hregmap : outcomes.regmapError = none) :
    runThread held (bme680I2cProbe outcomes).2 = .deadlocked .bus := by
  simp only [bme680I2cProbe, hdata, hregmap, Bool.not_true, Bool.false_eq_true, if_false]
  exact runThread_nested hfree _

/-- Removing the device requests the bus lock while it is held. -/
theorem remove_deadlocks (hfree : held .bus = false) :
    runThread held bme680I2cRemove.2 = .deadlocked .bus :=
  runThread_nested hfree _

/-- A probe that fails before it takes the bus lock does nothing with the locks. -/
theorem probe_returns {outcomes : ProbeOutcomes}
    (hfails : outcomes.dataAllocated = false ∨ outcomes.regmapError ≠ none) :
    (bme680I2cProbe outcomes).2 = [] ∧ (I2cCall.probe outcomes).setsClientData = false := by
  rcases hfails with hdata | hregmap
  · simp [bme680I2cProbe, I2cCall.setsClientData, hdata]
  · obtain ⟨error, herror⟩ := Option.ne_none_iff_exists'.mp hregmap
    simp only [bme680I2cProbe, I2cCall.setsClientData, herror, Option.isNone_some,
      Bool.and_false, and_true]
    split_ifs <;> rfl

/-- Suspending a client whose data is set leaves the locks as they were. -/
theorem suspend_returns (hbus : held .bus = false) (hdata : held .data = false) :
    runThread held (bme680I2cSuspend true).2 = .returned held := by
  refine runThread_section hbus ?_
  have hfree : Function.update held .bus true .data = false := by
    rw [Function.update_of_ne (by decide), hdata]
  have hempty : runThread (Function.update (Function.update held .bus true) .data true) [] =
      .returned (Function.update (Function.update held .bus true) .data true) := rfl
  exact runThread_section hfree hempty

/-- Suspending a client without data faults. -/
theorem suspend_faults (hfree : held .bus = false) :
    runThread held (bme680I2cSuspend false).2 = .faulted :=
  runThread_lock hfree _

/-! ### Every sequence -/

/-- A callback that returns avoided the nested request. -/
theorem I2cCall.avoids_of_returned (hfree : held .bus = false) {clientData : Bool} {call : I2cCall}
    {after : I2cLock → Bool}
    (hreturned : runThread held (call.actions clientData) = .returned after) :
    call.AvoidsCoreLock clientData := by
  cases call with
  | probe outcomes =>
    by_contra hreaches
    obtain ⟨hdata, hregmap⟩ := not_or.mp hreaches
    have hnested := probe_deadlocks hfree (Bool.not_eq_false _ ▸ hdata) (not_not.mp hregmap)
    exact nomatch hnested.symm.trans hreturned
  | remove => exact nomatch (remove_deadlocks hfree).symm.trans hreturned
  | suspend | resume =>
    cases clientData with
    | true => rfl
    | false => exact nomatch (suspend_faults hfree).symm.trans hreturned

/-- A callback that avoids the nested request leaves the locks and the data of the client as they
were. -/
theorem I2cCall.AvoidsCoreLock.unchanged (hbus : held .bus = false) (hdata : held .data = false)
    {clientData : Bool} {call : I2cCall} (havoids : call.AvoidsCoreLock clientData) :
    runThread held (call.actions clientData) = .returned held ∧ call.setsClientData = false := by
  cases call with
  | probe outcomes =>
    obtain ⟨hnothing, hunset⟩ := probe_returns havoids
    refine ⟨?_, hunset⟩
    rw [I2cCall.actions, hnothing, runThread]
  | remove => exact havoids.elim
  | suspend | resume =>
    obtain rfl : clientData = true := havoids
    exact ⟨suspend_returns hbus hdata, rfl⟩

/-- After a callback that avoids the nested request, the rest of a sequence begins where it
began. -/
theorem I2cCall.AvoidsCoreLock.balanced_cons_iff {clientData : Bool} {call : I2cCall}
    (havoids : call.AvoidsCoreLock clientData) (calls : List I2cCall) :
    BusLockBalanced (.start clientData) (call :: calls) ↔
      BusLockBalanced (.start clientData) calls := by
  obtain ⟨hrun, hunset⟩ :
      runThread (I2cState.start clientData).held (call.actions clientData) =
          .returned (I2cState.start clientData).held ∧ call.setsClientData = false :=
    havoids.unchanged rfl rfl
  have hsame : (clientData || call.setsClientData) = clientData := by
    rw [hunset, Bool.or_false]
  constructor
  · rintro ⟨held, hreturned, -, hrest⟩
    obtain rfl := ThreadEnd.returned.inj (hrun.symm.trans hreturned)
    exact hsame ▸ hrest
  · intro hrest
    exact ⟨_, hrun, rfl, hsame.symm ▸ hrest⟩

/-- A sequence of callbacks on a driver with no lock held requests the bus lock only where it is
free, and leaves it free after each, exactly where every callback avoids the nested request. -/
theorem busLockBalanced_iff (clientData : Bool) (calls : List I2cCall) :
    BusLockBalanced (.start clientData) calls ↔
      ∀ call ∈ calls, call.AvoidsCoreLock clientData := by
  induction calls with
  | nil => exact ⟨fun _ _ hmem ↦ absurd hmem List.not_mem_nil, fun _ ↦ trivial⟩
  | cons call calls ih =>
    rw [List.forall_mem_cons]
    constructor
    · intro hbalanced
      have ⟨after, hreturned, _, _⟩ := hbalanced
      have havoids := I2cCall.avoids_of_returned rfl hreturned
      exact ⟨havoids, ih.mp ((havoids.balanced_cons_iff calls).mp hbalanced)⟩
    · rintro ⟨havoids, hrest⟩
      exact (havoids.balanced_cons_iff calls).mpr (ih.mpr hrest)

/-- The outcomes of a probe that succeeds. -/
def probeSucceeds : ProbeOutcomes where
  dataAllocated := true
  regmapError := none
  core :=
    { deviceAllocated := true, softReset := 0, chipIdRead := 0, chipIdMatches := true
      readCalib := [0, 0, 0], chipConfig := [0, 0, 0, 0, 0, 0, 0], regulators := 0, modeRead := 0
      modeWrite := 0, bufferSetup := 0, triggerAllocated := true, triggerRegister := 0
      runtimeActive := 0, deviceRegister := 0 }

/-- A probe every call of which succeeds requests the bus lock while it holds it. -/
theorem successful_probe_deadlocks : ¬ BusLockBalanced (.start false) [.probe probeSucceeds] := by
  rintro ⟨held, hreturned, -, -⟩
  have hnested : runThread (I2cState.start false).held (bme680I2cProbe probeSucceeds).2 =
      .deadlocked .bus := probe_deadlocks rfl rfl rfl
  exact nomatch hnested.symm.trans hreturned

end Bme680.Driver
