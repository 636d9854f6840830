import Bme680.Concurrency.TransitionSystem
import Bme680.Driver.Settings

/-!
# The oversampling fields of the control registers

The header gives temperature, pressure and mode a field each in the one control register, and the
humidity a field in the other. `bme680_set_oversampling` updates one field for all three ratios, the
one of its mask: the ratio of the pressure replaces that of the temperature, in a field that is the
header's for at most one of them, and what is put there is the logarithm of a ratio where the
header's codes begin with 1.

A run is a sequence of ratios written and modes set, every register access succeeding. Whether a
write leaves each setting in its own field can be said before it, bit by bit (`KeepsFields`):
outside the mask the registers must hold the header's codes already, and inside it the logarithms
of pressure and humidity must have the bits of the codes (`oversampling_fields_exact`).
-/

set_option autoImplicit false
set_option relaxedAutoImplicit false

namespace Bme680.Driver

open Arithmetic Concurrency

/-! ### The header -/

/-- The ratios that `bme680_oversampling_t` has codes for. -/
inductive OversamplingRatio
  | x1
  | x2
  | x4
  | x8
  | x16
  deriving DecidableEq, Repr

/-- The value of a ratio, as it is written. -/
def OversamplingRatio.val : OversamplingRatio → Int32
  | .x1 => 1
  | .x2 => 2
  | .x4 => 4
  | .x8 => 8
  | .x16 => 16

/-- `BME680_OVERSAMPLING_X1` to `BME680_OVERSAMPLING_X16`. -/
def OversamplingRatio.code : OversamplingRatio → UInt8
  | .x1 => 1
  | .x2 => 2
  | .x4 => 3
  | .x8 => 4
  | .x16 => 5

/-- `bme680_mode_t`. -/
inductive Bme680Mode
  | sleep
  | forced
  | continuous
  deriving DecidableEq, Repr

/-- The values of the modes. -/
def Bme680Mode.value : Bme680Mode → UInt8
  | .sleep => 0
  | .forced => 1
  | .continuous => 2

/-! ### Runs -/

/-- The channels with an oversampling ratio. -/
inductive OversampledChannel
  | temp
  | pressure
  | humid
  deriving DecidableEq, Repr

/-- The type of a channel. -/
def OversampledChannel.chanType : OversampledChannel → IioChanType
  | .temp => .temp
  | .pressure => .pressure
  | .humid => .humidityrelative

/-- The driver and the device, with what the fields should hold: the codes of the ratios and the
mode asked for last. The flag says that the last call wrote a ratio. -/
structure FieldsState where
  driver : SettingsState
  code : OversampledChannel → UInt8
  mode : UInt8
  written : Bool

/-- A call of a run. -/
inductive FieldsCall
  | write (chan : OversampledChannel) (ratio : OversamplingRatio)
  | setMode (mode : Bme680Mode)

/-- The stored setting of a channel. -/
def DriverSettings.stored (settings : DriverSettings) : OversampledChannel → UInt8
  | .temp => settings.oversamplingTemp
  | .pressure => settings.oversamplingPress
  | .humid => settings.oversamplingHumid

/-- The state after a call whose register accesses all succeed. -/
def fieldsNext (chip : ChipConstants) (state : FieldsState) : FieldsCall → Option FieldsState
  | .write chan ratio => some {
      driver := (bme680WriteRaw chip (fun _ ↦ none) state.driver chan.chanType ratio.val
        .oversamplingRatio).1
      code := Function.update state.code chan ratio.code
      mode := state.mode
      written := true }
  | .setMode mode => some {
      driver := (state.driver.bme680SetMode chip none none mode.value).1
      code := state.code
      mode := mode.value
      written := false }

/-- Runs from any registers and any stored settings. A stored setting is the logarithm of a ratio,
and its code is one more. -/
def fieldsSystem (chip : ChipConstants) : TransitionSystem FieldsState FieldsCall where
  initial := fun state ↦
    (∀ chan, state.code chan = state.driver.settings.stored chan + 1) ∧
      state.mode = BME680_MODE_MSK.get (state.driver.registers BME680_REG_CTRL_MEAS) ∧
      state.written = false
  next := fieldsNext chip

/-- Every setting stands in its own field of the header. -/
structure FieldsState.OwnFields (state : FieldsState) : Prop where
  temp : BME680_OSRS_TEMP_MSK.get (state.driver.registers BME680_REG_CTRL_MEAS) = state.code .temp
  press : BME680_OSRS_PRESS_MSK.get (state.driver.registers BME680_REG_CTRL_MEAS) =
    state.code .pressure
  humid : BME680_OSRS_HUM_MSK.get (state.driver.registers BME680_REG_CTRL_HUM) = state.code .humid
  mode : BME680_MODE_MSK.get (state.driver.registers BME680_REG_CTRL_MEAS) = state.mode

/-- After a write of a ratio, every setting stands in its own field. -/
def FieldsState.Sound (state : FieldsState) : Prop :=
  state.written = true → state.OwnFields

/-! ### The condition -/

/-- The logarithm of a ratio. -/
def OversamplingRatio.log : OversamplingRatio → UInt8
  | .x1 => 0
  | .x2 => 1
  | .x4 => 2
  | .x8 => 3
  | .x16 => 4

/-- A write finds the bits of the header's codes in the registers outside the mask, and asks for
ratios whose logarithms have them inside the mask: those of temperature, pressure and mode by the
pressure's ratio, those of the humidity by its own. -/
def KeepsFields (chip : ChipConstants) (state : FieldsState) : FieldsCall → Prop
  | .setMode _ => True
  | .write chan ratio =>
    let code := Function.update state.code chan ratio.code
    let stored := Function.update state.driver.settings.stored chan ratio.log
    let meas := state.driver.registers BME680_REG_CTRL_MEAS
    let hum := state.driver.registers BME680_REG_CTRL_HUM
    chip.osrMask.MakesHold BME680_OSRS_TEMP_MSK meas (stored .pressure) (code .temp) ∧
      chip.osrMask.MakesHold BME680_OSRS_PRESS_MSK meas (stored .pressure) (code .pressure) ∧
      chip.osrMask.MakesHold BME680_OSRS_HUM_MSK hum (stored .humid) (code .humid) ∧
      chip.osrMask.MakesHold BME680_MODE_MSK meas (stored .pressure) state.mode

/-! ### What a write leaves -/

/-- The driver stores the logarithm of a ratio. -/
theorem storeRatio_eq (settings : DriverSettings) (chan : OversampledChannel)
    (ratio : OversamplingRatio) :
    ∃ after, settings.storeRatio ratio.val chan.chanType = some after ∧
      after.stored = Function.update settings.stored chan ratio.log := by
  have hlog : (ilog2 ratio.val).toUInt32.toUInt8 = ratio.log := by
    cases ratio <;> decide
  cases chan with
  | temp | pressure | humid =>
    refine ⟨_, rfl, funext fun other ↦ ?_⟩
    cases other <;> simp [DriverSettings.stored, hlog]

/-- The control registers after the chip was programmed. -/
theorem programmed_control (chip : ChipConstants) (data : DriverSettings)
    (registers : RegisterFile) :
    let programmed := heaterRegisters chip data (fieldRegisters chip data registers)
    programmed BME680_REG_CTRL_MEAS =
        chip.osrMask.install (registers BME680_REG_CTRL_MEAS) (data.stored .pressure) ∧
      programmed BME680_REG_CTRL_HUM =
        chip.osrMask.install (registers BME680_REG_CTRL_HUM) (data.stored .humid) := by
  constructor
  · unfold heaterRegisters fieldRegisters
    repeat rw [Function.update_of_ne (by decide)]
    exact Function.update_self _ _ _
  · unfold heaterRegisters fieldRegisters
    repeat rw [Function.update_of_ne (by decide)]
    exact Function.update_self _ _ _

/-- The control registers after a write of a ratio. -/
theorem written_control (chip : ChipConstants) (state : SettingsState) (chan : OversampledChannel)
    (ratio : OversamplingRatio) :
    let after := (bme680WriteRaw chip (fun _ ↦ none) state chan.chanType ratio.val
      .oversamplingRatio).1
    let stored := Function.update state.settings.stored chan ratio.log
    after.registers BME680_REG_CTRL_MEAS =
        chip.osrMask.install (state.registers BME680_REG_CTRL_MEAS) (stored .pressure) ∧
      after.registers BME680_REG_CTRL_HUM =
        chip.osrMask.install (state.registers BME680_REG_CTRL_HUM) (stored .humid) := by
  obtain ⟨settings, hsettings, hstored⟩ := storeRatio_eq state.settings chan ratio
  have hsucceed : BusOutcomes.Succeed (fun _ ↦ none) 7 := fun _ _ ↦ rfl
  unfold bme680WriteRaw
  simp only [hsettings, SettingsState.program, bme680ChipConfig_of_succeed hsucceed, ← hstored]
  exact programmed_control chip settings state.registers

/-- Where the mask of the mode is the header's, setting a mode writes what `bme680SetMode` does. -/
theorem setMode_writes {chip : ChipConstants} (hmask : chip.modeMask = BME680_MODE_MSK)
    (state : SettingsState) (mode : UInt8) (write : UInt8 → ℤ) :
    bme680SetMode (0, state.registers BME680_REG_CTRL_MEAS) write mode =
      write ((state.bme680SetMode chip none none mode).1.registers BME680_REG_CTRL_MEAS) := by
  have hprep : BME680_MODE_MSK.prep mode = mode &&& BME680_MODE_MASK :=
    congrArg (· &&& BME680_MODE_MASK) UInt8.shiftLeft_zero
  have hwritten : (state.bme680SetMode chip none none mode).1.registers BME680_REG_CTRL_MEAS =
      BME680_MODE_MSK.install (state.registers BME680_REG_CTRL_MEAS) mode := by
    simp only [SettingsState.bme680SetMode, regmapWrite, Function.update_self, BitField.install,
      hmask]
  rw [hwritten, BitField.install, hprep]
  rfl

/-! ### The fields after every write -/

/-- A write leaves every setting in its own field exactly when it meets the condition. -/
theorem ownFields_written_iff {chip : ChipConstants} {state successor : FieldsState}
    {chan : OversampledChannel} {ratio : OversamplingRatio}
    (hnext : fieldsNext chip state (.write chan ratio) = some successor) :
    successor.OwnFields ↔ KeepsFields chip state (.write chan ratio) := by
  obtain rfl := Option.some.inj hnext
  obtain ⟨hmeas, hhum⟩ := written_control chip state.driver chan ratio
  unfold KeepsFields
  simp only [← BitField.get_install_iff, ← hmeas, ← hhum]
  constructor
  · rintro ⟨htemp, hpress, hhumid, hmode⟩
    exact ⟨htemp, hpress, hhumid, hmode⟩
  · rintro ⟨htemp, hpress, hhumid, hmode⟩
    exact ⟨htemp, hpress, hhumid, hmode⟩

/-- After every write of a run each setting stands in its own field as long as every write meets the
condition, and the first one that does not leaves a setting out of its field. -/
theorem oversampling_fields_exact (chip : ChipConstants) :
    (fieldsSystem chip).ExactFor (KeepsFields chip) FieldsState.Sound := by
  refine .of_step_iff (fun state hinitial hwritten ↦ ?_) fun state call successor _ hnext ↦ ?_
  · rw [hinitial.2.2] at hwritten
    exact absurd hwritten Bool.false_ne_true
  · cases call with
    | write chan ratio =>
      rw [← ownFields_written_iff hnext]
      obtain rfl := Option.some.inj hnext
      exact ⟨fun hsound ↦ hsound rfl, fun hfields _ ↦ hfields⟩
    | setMode mode =>
      obtain rfl := Option.some.inj hnext
      exact iff_of_true (fun hwritten ↦ absurd hwritten Bool.false_ne_true) trivial

/-- Cleared registers, with the ratio 1 stored for every channel. -/
def clearedFields : FieldsState where
  driver :=
    { settings :=
        { oversamplingTemp := 0, oversamplingPress := 0, oversamplingHumid := 0,
          preheatCurrMA := 0, heaterDur := 150, heaterTemp := 320, resHeatVal := 0 }
      registers := fun _ ↦ 0 }
  code := fun _ ↦ 1
  mode := 0
  written := false

/-- The ratio 16 of the temperature never reaches its field, whatever the mask is: the pressure's
logarithm replaces it. -/
theorem temperature_ratio_replaced :
    ¬ ∃ chip, ∀ state, (fieldsSystem chip).Reachable state → state.Sound := by
  rintro ⟨chip, hall⟩
  obtain ⟨final, hrun, hwritten, hmeas, hcode⟩ : ∃ final,
      (fieldsSystem chip).run clearedFields [.write .temp .x16] = some final ∧
        final.written = true ∧
        final.driver.registers BME680_REG_CTRL_MEAS = chip.osrMask.install 0 0 ∧
        final.code .temp = 5 :=
    ⟨_, rfl, rfl, (written_control chip clearedFields.driver .temp .x16).1, rfl⟩
  have hinitial : (fieldsSystem chip).initial clearedFields := by
    refine ⟨fun chan ↦ ?_, rfl, rfl⟩
    cases chan <;> rfl
  have hfield := (hall final (TransitionSystem.reachable_of_run hinitial _ hrun) hwritten).temp
  rw [hmeas, hcode, BitField.install_zero_zero] at hfield
  exact absurd hfield (by decide)

end Bme680.Driver
