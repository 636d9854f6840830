import Bme680.Concurrency.Serialization
import Bme680.Driver.SettingWrites

/-!
# The calls of the driver under its lock

`bme680_read_raw`, `bme680_trigger_handler`, `bme680_write_raw` and `bme680_heater_current_store`
hold `data->lock` from before their first access to the device and to `struct bme680_data` until
behind the last one. The modules on readings and settings look at histories of such calls, each of
them as a whole. Here a call is a program that makes one register access at a time, and any threads
make calls.

`driver_calls_serializable` takes the one to the other: whenever the lock is free, the driver, the
registers and the returned values are those of the calls made one after the other in the order in
which they took the lock, so that what those modules say of histories holds of every interleaving. A
call that has the lock can go on to give it back unless it divides by zero, which the divisors of
the pressure and the gas resistance are not kept from; such a call ends its thread inside, and the
lock is never free again. A text that `kstrtoint` refuses is no call here, since it is refused
before the lock.
-/

set_option autoImplicit false
set_option relaxedAutoImplicit false

namespace Bme680.Driver

open Concurrency

/-! ### The driver and its calls -/

/-- What the lock protects: the measured part of `struct bme680_data`, and its settings beside the
registers of the device. -/
structure KernelDriver where
  data : Bme680Data
  chip : SettingsState

/-- How the accesses of `bme680_get_mode` and `bme680_set_mode` end in a reading. -/
structure ModeAccesses where
  getRead : Option BusError
  setRead : Option BusError
  setWrite : Option BusError

/-- A call that comes to the lock, with how its register accesses end. -/
inductive KernelCall
  | readRaw (accesses : ModeAccesses) (reads : RawReads) (chan : IioChanType) (mask : IioChanInfo)
  | triggerHandler (reads : RawReads)
  | writeRaw (outcomes : BusOutcomes) (chan : IioChanType) (val : Int32) (mask : IioWriteInfo)
  | heaterCurrentStore (outcomes : BusOutcomes) (val : Int32) (count : ℕ)

/-- What a call gives: the reading, the sample of the handler where it measured one, or a code. -/
inductive KernelResult
  | reading (result : ReadRawResult)
  | sample (result : Option TriggerSample)
  | code (ret : ℤ)
  deriving DecidableEq

/-- The code of a register access. -/
def busReturn : Option BusError → ℤ
  | none => 0
  | some error => error.ret

/-! ### The calls as a whole -/

/-- The value `bme680_set_mode` writes to wake the device. -/
def forcedMode (control : UInt8) : UInt8 :=
  (control &&& ~~~BME680_MODE_MASK) ||| (BME680_MODE_FORCED &&& BME680_MODE_MASK)

/-- What the accesses of a reading find where the registers are given. -/
def ModeAccesses.transfers (accesses : ModeAccesses) (registers : RegisterFile)
    (reads : RawReads) : Transfers where
  getMode := (busReturn accesses.getRead, registers BME680_REG_CTRL_MEAS)
  setMode := (busReturn accesses.setRead, registers BME680_REG_CTRL_MEAS)
  writeMode := fun _ ↦ busReturn accesses.setWrite
  reads := reads

/-- The registers behind the part of a reading that wakes a sleeping device. -/
def ModeAccesses.wake (accesses : ModeAccesses) (registers : RegisterFile) : RegisterFile :=
  match bme680GetMode (busReturn accesses.getRead, registers BME680_REG_CTRL_MEAS) with
  | .error _ => registers
  | .ok mode =>
    if mode = BME680_MODE_SLEEP ∧ ¬ busReturn accesses.setRead < 0 then
      (regmapWrite accesses.setWrite BME680_REG_CTRL_MEAS
        (forcedMode (registers BME680_REG_CTRL_MEAS)) registers).registers
    else registers

/-- A sample whose computations have all come to a result; one that divided by zero has none. -/
def TriggerSample.computed (sample : TriggerSample) : Option TriggerSample :=
  if sample.press = none ∨ sample.gas = none then none else some sample

/-- The driver after a call as a whole, and what the call gives; nothing where it divides by
zero. -/
def KernelCall.perform (tables : GasTables) (chip : ChipConstants) (driver : KernelDriver) :
    KernelCall → Option (KernelDriver × KernelResult)
  | .readRaw accesses reads chan mask =>
    match bme680ReadRaw tables driver.data (accesses.transfers driver.chip.registers reads) chan
      mask with
    | (data, result) => result.map fun result ↦
      ({ data := data
         chip := { driver.chip with registers := accesses.wake driver.chip.registers } },
        .reading result)
  | .triggerHandler reads =>
    match bme680TriggerHandler tables driver.data reads with
    | (data, none) => some ({ driver with data := data }, .sample none)
    | (data, some sample) => sample.computed.map fun sample ↦
      ({ driver with data := data }, .sample (some sample))
  | .writeRaw outcomes chan val mask =>
    match bme680WriteRaw chip outcomes driver.chip chan val mask with
    | (state, ret) => some ({ driver with chip := state }, .code ret)
  | .heaterCurrentStore outcomes val count =>
    match bme680HeaterCurrentStore chip outcomes driver.chip (.ok val) count with
    | (state, ret) => some ({ driver with chip := state }, .code ret)

/-- The driver after calls made one after the other, and what they give; nothing where one of them
divides by zero. -/
def performAll {Thread : Type*} (tables : GasTables) (chip : ChipConstants) (start : KernelDriver)
    (calls : List (Thread × KernelCall)) : Option (KernelDriver × List (Thread × KernelResult)) :=
  calls.foldlM
    (fun before call ↦ (call.2.perform tables chip before.1).map fun after ↦
      (after.1, before.2 ++ [(call.1, after.2)]))
    (start, [])

/-! ### The calls access by access -/

/-- The driver after an access to the registers, and the code of the access. -/
def onRegisters (access : RegisterFile → BusResult) (driver : KernelDriver) : KernelDriver × ℤ :=
  ({ driver with
      chip := { driver.chip with registers := (access driver.chip.registers).registers } },
    (access driver.chip.registers).ret)

/-- `regmap_read`. -/
def readRegister (outcome : Option BusError) (reg : UInt8) : Program KernelDriver (ℤ × UInt8) :=
  .atomic fun driver ↦ (driver, (busReturn outcome, driver.chip.registers reg))

/-- An access to the registers, and the rest of a function that stops where it fails. -/
def accessThen (access : RegisterFile → BusResult) (rest : Program KernelDriver ℤ) :
    Program KernelDriver ℤ :=
  (Program.atomic (onRegisters access)).bind fun ret ↦ if ret < 0 then .done ret else rest

/-- `bme680_get_mode` and `bme680_set_mode` in a reading. -/
def wakeProgram (accesses : ModeAccesses) : Program KernelDriver ℤ :=
  (readRegister accesses.getRead BME680_REG_CTRL_MEAS).bind fun read ↦
    match bme680GetMode read with
    | .error ret => .done ret
    | .ok mode =>
      if mode = BME680_MODE_SLEEP then
        (readRegister accesses.setRead BME680_REG_CTRL_MEAS).bind fun read ↦
          if read.1 < 0 then .done read.1
          else .atomic (onRegisters
            (regmapWrite accesses.setWrite BME680_REG_CTRL_MEAS (forcedMode read.2)))
      else .done 0

/-- `bme680_wait_for_eoc` with a number of tries left. -/
def pollProgram (status : ℕ → ℤ × UInt8) (attempt : ℕ) : ℕ → Program KernelDriver ℤ
  | 0 => .done (-ETIMEDOUT)
  | tries + 1 => .act id fun _ ↦
    if (status attempt).1 < 0 then .done (status attempt).1
    else if (status attempt).2 &&& BME680_NEW_DATA_MSK = 0 then .done 0
    else pollProgram status (attempt + 1) tries

/-- `bme680_read_raw_data`: the polls, the burst, and the stores of the raw values. -/
def measureProgram (reads : RawReads) : Program KernelDriver ℤ :=
  (pollProgram reads.status 0 10).bind fun ret ↦
    if ret < 0 then .done ret
    else .act id fun _ ↦
      if reads.bulkRet < 0 then .done reads.bulkRet
      else .atomic fun driver ↦ ({ driver with data := driver.data.measured reads.registers }, 0)

/-- `bme680_set_gas_config`. -/
def gasConfigProgram (chip : ChipConstants) (outcomes : BusOutcomes) : Program KernelDriver ℤ :=
  .act id fun driver ↦
    let data := driver.chip.settings
    accessThen (regmapWrite (outcomes 0) BME680_REG_GAS_WAIT_0 data.heaterDur.toUInt8) <|
    accessThen (regmapWrite (outcomes 1) BME680_REG_RES_HEAT_0 data.resHeatVal.toUInt8) <|
    accessThen (regmapWrite (outcomes 2) BME680_REG_CTRL_GAS_1
      (chip.enableGasMeasL ||| chip.enableHeater)) <|
    .done 0

/-- `bme680_chip_config`. -/
def chipConfigProgram (chip : ChipConstants) (outcomes : BusOutcomes) : Program KernelDriver ℤ :=
  .act id fun driver ↦
    let data := driver.chip.settings
    accessThen (bme680SetOversampling chip (outcomes 0) data.oversamplingTemp
      BME680_REG_CTRL_MEAS) <|
    accessThen (bme680SetOversampling chip (outcomes 1) data.oversamplingPress
      BME680_REG_CTRL_MEAS) <|
    accessThen (bme680SetOversampling chip (outcomes 2) data.oversamplingHumid
      BME680_REG_CTRL_HUM) <|
    accessThen (regmapUpdateBits (outcomes 3) BME680_REG_CONFIG chip.filterMask.mask
      (chip.filterMask.prep chip.filter3)) <|
    (gasConfigProgram chip fun access ↦ outcomes (4 + access)).bind fun ret ↦
      if ret < 0 then .done ret else .done 0

/-- A store to the settings, and the rest of a function. -/
def storeThen (settings : DriverSettings) (rest : Program KernelDriver ℤ) :
    Program KernelDriver ℤ :=
  .act (fun driver ↦ { driver with chip := { driver.chip with settings := settings } }) fun _ ↦ rest

/-- `bme680_write_raw` under the lock. -/
def writeRawProgram (chip : ChipConstants) (outcomes : BusOutcomes) (chan : IioChanType)
    (val : Int32) (mask : IioWriteInfo) : Program KernelDriver ℤ :=
  .act id fun driver ↦
    match mask with
    | .oversamplingRatio =>
      match driver.chip.settings.storeRatio val chan with
      | none => .done (-EINVAL)
      | some settings => storeThen settings (chipConfigProgram chip outcomes)
    | .heaterTemp =>
      storeThen { driver.chip.settings with heaterTemp := val.toUInt32.toUInt16 }
        (gasConfigProgram chip outcomes)
    | .heaterDur =>
      storeThen { driver.chip.settings with heaterDur := val.toUInt32.toUInt16 }
        (gasConfigProgram chip outcomes)
    | .other => .done (-EINVAL)

/-- `bme680_heater_current_store` under the lock and behind it. -/
def heaterCurrentStoreProgram (chip : ChipConstants) (outcomes : BusOutcomes) (val : Int32)
    (count : ℕ) : Program KernelDriver ℤ :=
  .act id fun driver ↦
    (storeThen { driver.chip.settings with preheatCurrMA := val.toUInt32.toUInt8 }
      (gasConfigProgram chip outcomes)).bind fun ret ↦ .done (if ret < 0 then ret else count)

/-- A function of the driver between taking the lock and giving it back. A division by zero ends the
thread there. -/
def KernelCall.program (tables : GasTables) (chip : ChipConstants) :
    KernelCall → Program KernelDriver KernelResult
  | .readRaw accesses reads chan mask =>
    (wakeProgram accesses).bind fun ret ↦
      if ret < 0 then .done (.reading (.failed ret))
      else (measureProgram reads).bind fun ret ↦
        if ret < 0 then .done (.reading (.failed ret))
        else .attempt fun driver ↦
          match readChannel tables driver.data mask chan with
          | (data, result) => ({ driver with data := data }, result.map .reading)
  | .triggerHandler reads =>
    (measureProgram reads).bind fun ret ↦
      if ret < 0 then .done (.sample none)
      else .attempt fun driver ↦
        match computeSample tables driver.data with
        | (data, sample) =>
          ({ driver with data := data }, sample.computed.map fun sample ↦ .sample (some sample))
  | .writeRaw outcomes chan val mask =>
    (writeRawProgram chip outcomes chan val mask).bind fun ret ↦ .done (.code ret)
  | .heaterCurrentStore outcomes val count =>
    (heaterCurrentStoreProgram chip outcomes val count).bind fun ret ↦ .done (.code ret)

/-! ### A program and its call -/

section Programs

variable {driver : KernelDriver} {settings : DriverSettings} {rest : Program KernelDriver ℤ}
  {next : RegisterFile → BusResult}

/-- An access and the rest of a function is `BusResult.andThen`. -/
theorem run_accessThen (access : RegisterFile → BusResult)
    (hrest : ∀ driver : KernelDriver, driver.chip.settings = settings →
      rest.run driver = some (onRegisters next driver))
    (driver : KernelDriver) (hsettings : driver.chip.settings = settings) :
    (accessThen access rest).run driver =
      some (onRegisters (fun registers ↦ (access registers).andThen next) driver) := by
  rw [accessThen, Program.run_bind, Program.run_atomic, Option.bind_some]
  by_cases hret : (access driver.chip.registers).ret < 0
  · simp only [onRegisters, hret, if_true, BusResult.andThen, Program.run_done]
  · have hafter := hrest (onRegisters access driver).1 hsettings
    simp only [onRegisters, hret, if_false, BusResult.andThen] at hafter ⊢
    exact hafter

/-- The programs of the two configuring functions. -/
theorem run_gasConfigProgram (chip : ChipConstants) (outcomes : BusOutcomes)
    (driver : KernelDriver) :
    (gasConfigProgram chip outcomes).run driver =
      some (onRegisters (bme680SetGasConfig chip outcomes driver.chip.settings) driver) := by
  rw [gasConfigProgram, Program.run_act]
  refine run_accessThen _ (run_accessThen _ (run_accessThen _ fun _ _ ↦ ?_)) driver rfl
  rfl

theorem run_chipConfigProgram (chip : ChipConstants) (outcomes : BusOutcomes)
    (driver : KernelDriver) :
    (chipConfigProgram chip outcomes).run driver =
      some (onRegisters (bme680ChipConfig chip outcomes driver.chip.settings) driver) := by
  rw [chipConfigProgram, Program.run_act]
  refine run_accessThen _ (run_accessThen _ (run_accessThen _ (run_accessThen _
    fun later hsettings ↦ ?_))) driver rfl
  rw [Program.run_bind, run_gasConfigProgram, Option.bind_some, hsettings]
  by_cases hret : (bme680SetGasConfig chip (fun access ↦ outcomes (4 + access))
      driver.chip.settings later.chip.registers).ret < 0
  · simp only [onRegisters, BusResult.andThen, hret, if_true, Program.run_done]
  · simp only [onRegisters, BusResult.andThen, hret, if_false, Program.run_done]

/-- The program of the polls. -/
theorem run_pollProgram (status : ℕ → ℤ × UInt8) (attempt tries : ℕ) (driver : KernelDriver) :
    (pollProgram status attempt tries).run driver =
      some (driver, waitForEocLoop status attempt tries) := by
  induction tries generalizing attempt with
  | zero => rfl
  | succ tries ih =>
    rw [pollProgram, Program.run_act, waitForEocLoop]
    split_ifs
    · rfl
    · rfl
    · exact ih (attempt + 1)

/-- The program of a measurement. -/
theorem run_measureProgram (reads : RawReads) (driver : KernelDriver) :
    (measureProgram reads).run driver =
      some ({ driver with data := (bme680ReadRawData driver.data reads).1 },
        (bme680ReadRawData driver.data reads).2) := by
  rw [measureProgram, Program.run_bind, run_pollProgram, Option.bind_some]
  by_cases hwait : bme680WaitForEoc reads.status < 0
  · have hfails : bme680ReadRawData driver.data reads =
        (driver.data, bme680WaitForEoc reads.status) := if_pos hwait
    simp only [hfails]
    exact congrArg (Program.run · driver) (if_pos hwait)
  · have hwaits : ¬ waitForEocLoop reads.status 0 10 < 0 := hwait
    by_cases hbulk : reads.bulkRet < 0
    · have hfails : bme680ReadRawData driver.data reads = (driver.data, reads.bulkRet) :=
        (if_neg hwait).trans (if_pos hbulk)
      simp only [hfails, hwaits, hbulk, if_false, if_true, Program.run_act, Program.run_done, id_eq]
    · have hmeasures := measures_of_accesses hwait hbulk driver.data
      simp only [hmeasures, hwaits, hbulk, if_false, Program.run_act, Program.run_atomic, id_eq]

/-- The program that wakes the device. -/
theorem run_wakeProgram (accesses : ModeAccesses) (reads : RawReads) (driver : KernelDriver) :
    (wakeProgram accesses).run driver =
      some ({ driver with
          chip := { driver.chip with registers := accesses.wake driver.chip.registers } },
        wakeDevice (accesses.transfers driver.chip.registers reads)) := by
  rw [wakeProgram, Program.run_bind, readRegister, Program.run_atomic, Option.bind_some]
  simp only [ModeAccesses.wake, wakeDevice, ModeAccesses.transfers]
  cases hmode : bme680GetMode
      (busReturn accesses.getRead, driver.chip.registers BME680_REG_CTRL_MEAS) with
  | error ret => rfl
  | ok mode =>
    by_cases hsleep : mode = BME680_MODE_SLEEP
    · by_cases hread : busReturn accesses.setRead < 0
      · simp only [hsleep, hread, if_true, not_true_eq_false, and_false, if_false,
          bme680SetMode, Program.run_bind, readRegister, Program.run_atomic, Program.run_done,
          Option.bind_some]
      · simp only [hsleep, hread, if_true, not_false_eq_true, and_true, if_false,
          bme680SetMode, Program.run_bind, readRegister, Program.run_atomic, onRegisters,
          Option.bind_some]
        cases accesses.setWrite with
        | none | some error => rfl
    · simp only [hsleep, false_and, if_false, Program.run_done]

/-- The program of a call does what the call does as a whole, and faults where it divides by
zero. -/
theorem run_program (tables : GasTables) (chip : ChipConstants) (call : KernelCall)
    (driver : KernelDriver) :
    (call.program tables chip).run driver = call.perform tables chip driver := by
  cases call with
  | readRaw accesses reads chan mask =>
    simp only [KernelCall.program, KernelCall.perform, Program.run_bind,
      run_wakeProgram accesses reads, Option.bind_some, bme680ReadRaw]
    by_cases hwake : wakeDevice (accesses.transfers driver.chip.registers reads) < 0
    · simp only [hwake, if_true, Program.run_done, Option.map_some]
    · simp only [hwake, if_false, Program.run_bind, run_measureProgram, Option.bind_some]
      by_cases hret : (bme680ReadRawData driver.data reads).2 < 0
      · rcases bme680ReadRawData_cases reads with ⟨ret, -, hfails⟩ | hmeasures
        · rw [hfails driver.data] at hret
          simp only [ModeAccesses.transfers, hfails driver.data, hret, if_true, Program.run_done,
            Option.map_some]
        · rw [hmeasures driver.data] at hret
          exact absurd hret (lt_irrefl 0)
      · simp only [ModeAccesses.transfers, hret, if_false, Program.run_attempt, Option.map_map]
        rfl
  | triggerHandler reads =>
    simp only [KernelCall.program, KernelCall.perform, Program.run_bind, run_measureProgram,
      Option.bind_some, bme680TriggerHandler]
    by_cases hret : (bme680ReadRawData driver.data reads).2 < 0
    · simp only [hret, if_true, Program.run_done]
    · simp only [hret, if_false, Program.run_attempt, Option.map_map]
      rfl
  | writeRaw outcomes chan val mask =>
    simp only [KernelCall.program, KernelCall.perform, Program.run_bind, writeRawProgram,
      Program.run_act, bme680WriteRaw, Program.run_done]
    cases mask with
    | oversamplingRatio =>
      cases hstored : driver.chip.settings.storeRatio val chan with
      | none => simp only [Program.run_done, Option.bind_some, id_eq]
      | some settings =>
        simp only [storeThen, Program.run_act, run_chipConfigProgram, onRegisters,
          SettingsState.program, Option.bind_some, id_eq]
    | heaterTemp | heaterDur =>
      simp only [storeThen, Program.run_act, run_gasConfigProgram, onRegisters,
        SettingsState.program, Option.bind_some, id_eq]
    | other => simp only [Program.run_done, Option.bind_some, id_eq]
  | heaterCurrentStore outcomes val count =>
    simp only [KernelCall.program, KernelCall.perform, Program.run_bind,
      heaterCurrentStoreProgram, Program.run_act, storeThen, run_gasConfigProgram, onRegisters,
      bme680HeaterCurrentStore, SettingsState.program, Program.run_done, Option.bind_some, id_eq]
    by_cases hret : (bme680SetGasConfig chip outcomes
        { driver.chip.settings with preheatCurrMA := val.toUInt32.toUInt8 }
        driver.chip.registers).ret < 0
    · simp only [hret, if_true]
    · simp only [hret, if_false]

end Programs

/-! ### Every interleaving -/

section Interleavings

variable {Thread : Type*} {tables : GasTables} {chip : ChipConstants} {start : KernelDriver}

/-- Programs carried out one after the other are the calls made one after the other. -/
theorem runAll_program (tables : GasTables) (chip : ChipConstants) (start : KernelDriver)
    (calls : List (Thread × KernelCall)) :
    runAll (KernelCall.program tables chip) start calls = performAll tables chip start calls := by
  simp only [runAll, performAll, run_program]

/-- The measured part of the driver behind a call is that behind the measurement it makes, if it
makes one. -/
theorem perform_data {tables : GasTables} {chip : ChipConstants} {driver after : KernelDriver}
    {call : KernelCall} {result : KernelResult}
    (hperform : call.perform tables chip driver = some (after, result)) :
    after.data = driver.data ∨
      ∃ measurement : DriverCall, after.data = measurement.perform tables driver.data := by
  cases call with
  | readRaw accesses reads chan mask =>
    obtain ⟨reading, -, hafter⟩ := Option.map_eq_some_iff.mp hperform
    obtain ⟨rfl, -⟩ := Prod.ext_iff.mp hafter
    exact .inr ⟨.readRaw (accesses.transfers driver.chip.registers reads) chan mask, rfl⟩
  | triggerHandler reads =>
    refine .inr ⟨.triggerHandler reads, ?_⟩
    simp only [KernelCall.perform] at hperform
    split at hperform
    · rename_i data hhandler
      obtain ⟨rfl, -⟩ := Prod.ext_iff.mp (Option.some.inj hperform)
      exact (congrArg Prod.fst hhandler).symm
    · rename_i data sample hhandler
      obtain ⟨computed, -, hafter⟩ := Option.map_eq_some_iff.mp hperform
      obtain ⟨rfl, -⟩ := Prod.ext_iff.mp hafter
      exact (congrArg Prod.fst hhandler).symm
  | writeRaw outcomes chan val mask | heaterCurrentStore outcomes val count =>
    obtain ⟨rfl, -⟩ := Prod.ext_iff.mp (Option.some.inj hperform)
    exact .inl rfl

/-- The measured part of the driver is that of a history of the calls that measure. -/
theorem performAll_data {tables : GasTables} {chip : ChipConstants} {start final : KernelDriver}
    {calls : List (Thread × KernelCall)} {results : List (Thread × KernelResult)}
    (hperform : performAll tables chip start calls = some (final, results)) :
    ∃ history : List DriverCall,
      final.data = history.foldl (DriverCall.perform tables) start.data := by
  induction calls using List.reverseRecOn generalizing final results with
  | nil =>
    obtain ⟨rfl, -⟩ := Prod.ext_iff.mp (Option.some.inj hperform)
    exact ⟨[], rfl⟩
  | append_singleton calls call ih =>
    rw [← runAll_program, runAll_concat, runAll_program] at hperform
    obtain ⟨before, hbefore, hlast⟩ := Option.bind_eq_some_iff.mp hperform
    obtain ⟨after, hcall, hafter⟩ := Option.map_eq_some_iff.mp hlast
    obtain ⟨rfl, -⟩ := Prod.ext_iff.mp hafter
    obtain ⟨history, hhistory⟩ := ih hbefore
    rw [run_program] at hcall
    rcases perform_data hcall with hsame | ⟨measurement, hmeasures⟩
    · exact ⟨history, hsame.trans hhistory⟩
    · refine ⟨history ++ [measurement], ?_⟩
      rw [List.foldl_append, ← hhistory]
      exact hmeasures

variable [DecidableEq Thread]

/-- Threads in the calls of a driver. -/
def driverSystem (Thread : Type*) [DecidableEq Thread] (tables : GasTables) (chip : ChipConstants)
    (start : KernelDriver) :
    TransitionSystem (SerialState Thread KernelCall KernelDriver KernelResult)
      (SerialLabel Thread KernelCall) :=
  serialSystem Thread (KernelCall.program tables chip) start

/-- In every interleaving of calls, taken down to their register accesses, at most one call is
inside; whenever the lock is free, the driver, its registers and the results are those of the calls
made one after the other in the order in which they took the lock, and the measured part is that of
a history; and unless a call that has taken the lock divides by zero the run can go on so that the
lock is free with no further call inside. A call that divides by zero keeps the lock for ever. -/
theorem driver_calls_serializable {state : SerialState Thread KernelCall KernelDriver KernelResult}
    (hreach : (driverSystem Thread tables chip start).Reachable state) :
    (∀ thread rest, state.points thread = .inside rest → state.lock = some thread) ∧
      (state.lock = none →
        performAll tables chip start state.taken = some (state.shared, state.returned) ∧
          ∃ history : List DriverCall,
            state.shared.data = history.foldl (DriverCall.perform tables) start.data) ∧
      (performAll tables chip start state.taken ≠ none → ∃ final,
        (driverSystem Thread tables chip start).Continuation (fun _ _ ↦ True) state final ∧
          final.lock = none ∧
          performAll tables chip start state.taken = some (final.shared, final.returned)) ∧
      (performAll tables chip start state.taken = none → ∃ thread, ∀ final,
        (driverSystem Thread tables chip start).Continuation (fun _ _ ↦ True) state final →
          final.lock = some thread) := by
  have hfree (later : SerialState Thread KernelCall KernelDriver KernelResult)
      (hlater : (driverSystem Thread tables chip start).Reachable later)
      (hlock : later.lock = none) :
      performAll tables chip start later.taken = some (later.shared, later.returned) := by
    rw [← runAll_program]
    exact serialized_of_reachable hlater hlock
  refine ⟨(serialInvariant_of_reachable hreach).1,
    fun hlock ↦ ⟨hfree state hreach hlock, performAll_data (hfree state hreach hlock)⟩,
    fun hdefined ↦ ?_, fun hdivides ↦ ?_⟩
  · have hlater : ∃ final,
        (driverSystem Thread tables chip start).Continuation (fun _ _ ↦ True) state final ∧
          final.lock = none ∧ final.taken = state.taken := by
      cases hlock : state.lock with
      | none => exact ⟨state, .refl, hlock, rfl⟩
      | some holder =>
        obtain ⟨rest, hpoint, hfaults⟩ := exists_inside hreach hlock
        rw [runAll_program] at hfaults
        exact exists_unlocked hpoint fun hnone ↦ hdefined (hfaults.mp hnone)
    obtain ⟨final, hmore, hlock, htaken⟩ := hlater
    refine ⟨final, hmore, hlock, ?_⟩
    rw [← htaken]
    exact hfree final (hreach.continue hmore) hlock
  · cases hlock : state.lock with
    | none => cases (hfree state hreach hlock).symm.trans hdivides
    | some holder =>
      obtain ⟨rest, hpoint, hfaults⟩ := exists_inside hreach hlock
      rw [runAll_program] at hfaults
      exact ⟨holder, fun final hmore ↦
        never_unlocked hreach ⟨hlock, rest, hpoint, hfaults.mpr hdivides⟩ hmore⟩

/-- A thread writes a duration while another one waits at the lock to store a current, whose first
register access then fails. -/
theorem driver_calls_serializable_two_writers :
    ∃ (tables : GasTables) (start : KernelDriver)
      (state : SerialState Bool KernelCall KernelDriver KernelResult),
      performAll tables headerConstants start state.taken = some (state.shared, state.returned) ∧
        state.returned = [(true, .code 0), (false, .code (-5))] ∧
        state.shared.chip.registers BME680_REG_GAS_WAIT_0 = 30 := by
  let tables : GasTables := { lookupK := fun _ ↦ 0, lookupM := fun _ ↦ 0, rangeRlMask := 0 }
  let start : KernelDriver := { data := unmeasured, chip := probedSettings }
  obtain ⟨final, hrun, hfree, hreturned, hwritten⟩ : ∃ final,
      (driverSystem Bool tables headerConstants start).run
        { shared := start, lock := none, points := fun _ ↦ .outside, taken := [], returned := [] }
        ([.call true (.writeRaw (fun _ ↦ none) .resistance 30 .heaterDur), .step true,
          .call false (.heaterCurrentStore (fun _ ↦ some busFault) 5 2)] ++
          List.replicate 7 (.step true) ++ List.replicate 6 (.step false)) = some final ∧
      final.lock = none ∧ final.returned = [(true, .code 0), (false, .code (-5))] ∧
      final.shared.chip.registers BME680_REG_GAS_WAIT_0 = 30 := ⟨_, rfl, rfl, rfl, rfl⟩
  have hreach : (driverSystem Bool tables headerConstants start).Reachable final :=
    TransitionSystem.reachable_of_run ⟨rfl, rfl, rfl, rfl, rfl⟩ _ hrun
  exact ⟨tables, start, final, ((driver_calls_serializable hreach).2.1 hfree).1, hreturned,
    hwritten⟩

end Interleavings

end Bme680.Driver
