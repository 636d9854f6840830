import Bme680.Arithmetic.BitFields
import Bme680.Driver.ReadRaw
import Bme680.Driver.SpiPages

/-!
# The settings of the kernel driver

`bme680_write_raw` stores a setting and programs the chip with all of them: the oversampling ratios
and the filter by updates of register fields, the gas heater by writes of whole registers.
`bme680_heater_current_store` stores a setting too, and programs the heater.

Every register access may fail, and an access that fails may have taken effect. A function of the
driver stops at the first access that fails, and returns its error.
-/

set_option autoImplicit false
set_option relaxedAutoImplicit false

namespace Bme680.Driver

open Arithmetic

def BME680_REG_CTRL_HUM : UInt8 := 0x72
def BME680_REG_CTRL_MEAS : UInt8 := 0x74
def BME680_REG_CONFIG : UInt8 := 0x75
def BME680_REG_CTRL_GAS_1 : UInt8 := 0x71
def BME680_REG_GAS_WAIT_0 : UInt8 := 0x64
def BME680_REG_RES_HEAT_0 : UInt8 := 0x5A

/-! ### Register accesses -/

/-- The error of a register access, and whether the access took effect all the same. -/
structure BusError where
  ret : ℤ
  negative : ret < 0
  tookEffect : Bool

/-- How the register accesses of a call end, in their order. -/
abbrev BusOutcomes := ℕ → Option BusError

/-- The first accesses succeed, as many as a number says. -/
def BusOutcomes.Succeed (outcomes : BusOutcomes) (count : ℕ) : Prop :=
  ∀ access < count, outcomes access = none

/-- The registers a function of the driver leaves, and the code it returns. -/
structure BusResult where
  registers : RegisterFile
  ret : ℤ

/-- The next access where the code is not an error: `if (ret < 0) return ret;`. -/
def BusResult.andThen (result : BusResult) (next : RegisterFile → BusResult) : BusResult :=
  if result.ret < 0 then result else next result.registers

/-- `regmap_write`. -/
def regmapWrite (outcome : Option BusError) (reg value : UInt8) (registers : RegisterFile) :
    BusResult :=
  match outcome with
  | none => { registers := Function.update registers reg value, ret := 0 }
  | some error => {
      registers := if error.tookEffect then Function.update registers reg value else registers
      ret := error.ret }

/-- `regmap_update_bits`. -/
def regmapUpdateBits (outcome : Option BusError) (reg mask value : UInt8)
    (registers : RegisterFile) : BusResult :=
  regmapWrite outcome reg ((registers reg &&& ~~~mask) ||| (value &&& mask)) registers

/-! ### The masks of the header -/

/-- `GENMASK(7, 5)`. -/
def BME680_OSRS_TEMP_MSK : BitField where
  shift := 5
  width := 3
  positive := by decide
  fits := by decide

/-- `GENMASK(4, 2)`. -/
def BME680_OSRS_PRESS_MSK : BitField where
  shift := 2
  width := 3
  positive := by decide
  fits := by decide

/-- `GENMASK(2, 0)`. -/
def BME680_OSRS_HUM_MSK : BitField where
  shift := 0
  width := 3
  positive := by decide
  fits := by decide

/-- `GENMASK(1, 0)`. -/
def BME680_MODE_MSK : BitField where
  shift := 0
  width := 2
  positive := by decide
  fits := by decide

/-- `GENMASK(4, 2)`. -/
def BME680_FILTER_MSK : BitField where
  shift := 2
  width := 3
  positive := by decide
  fits := by decide

/-! ### Programming the chip -/

/-- What the driver takes from outside the sources: the fields of its masks, and the values it
writes to them and to the gas register. -/
structure ChipConstants where
  osrMask : BitField
  modeMask : BitField
  filterMask : BitField
  filter3 : UInt8
  enableGasMeasL : UInt8
  enableHeater : UInt8

/-- The part of `struct bme680_data` that holds the settings, with the calibration of the heater. -/
structure DriverSettings where
  oversamplingTemp : UInt8
  oversamplingPress : UInt8
  oversamplingHumid : UInt8
  preheatCurrMA : UInt8
  heaterDur : UInt16
  heaterTemp : UInt16
  resHeatVal : Int8
  deriving DecidableEq

/-- `bme680_set_oversampling`. -/
def bme680SetOversampling (chip : ChipConstants) (outcome : Option BusError) (osr reg : UInt8)
    (registers : RegisterFile) : BusResult :=
  regmapUpdateBits outcome reg chip.osrMask.mask (chip.osrMask.prep osr) registers

/-- `bme680_set_gas_config`. -/
def bme680SetGasConfig (chip : ChipConstants) (outcomes : BusOutcomes) (data : DriverSettings)
    (registers : RegisterFile) : BusResult :=
  let heatrDur : UInt8 := data.heaterDur.toUInt8
  let heatrVal : UInt8 := data.resHeatVal.toUInt8
  let heatrConf : UInt8 := chip.enableGasMeasL ||| chip.enableHeater
  (regmapWrite (outcomes 0) BME680_REG_GAS_WAIT_0 heatrDur registers).andThen fun registers ↦
  (regmapWrite (outcomes 1) BME680_REG_RES_HEAT_0 heatrVal registers).andThen fun registers ↦
  (regmapWrite (outcomes 2) BME680_REG_CTRL_GAS_1 heatrConf registers).andThen fun registers ↦
  { registers := registers, ret := 0 }

/-- `bme680_chip_config`. -/
def bme680ChipConfig (chip : ChipConstants) (outcomes : BusOutcomes) (data : DriverSettings)
    (registers : RegisterFile) : BusResult :=
  let osrsP := data.oversamplingPress
  let osrsT := data.oversamplingTemp
  let osrsH := data.oversamplingHumid
  let filter := chip.filter3
  (bme680SetOversampling chip (outcomes 0) osrsT BME680_REG_CTRL_MEAS registers).andThen
    fun registers ↦
  (bme680SetOversampling chip (outcomes 1) osrsP BME680_REG_CTRL_MEAS registers).andThen
    fun registers ↦
  (bme680SetOversampling chip (outcomes 2) osrsH BME680_REG_CTRL_HUM registers).andThen
    fun registers ↦
  (regmapUpdateBits (outcomes 3) BME680_REG_CONFIG chip.filterMask.mask
    (chip.filterMask.prep filter) registers).andThen fun registers ↦
  (bme680SetGasConfig chip (fun access ↦ outcomes (4 + access)) data registers).andThen
    fun registers ↦
  { registers := registers, ret := 0 }

/-! ### Writing a setting -/

/-- The settings beside the registers of the device. -/
structure SettingsState where
  settings : DriverSettings
  registers : RegisterFile

/-- The masks that `bme680_write_raw` tells apart. -/
inductive IioWriteInfo
  | oversamplingRatio
  | heaterTemp
  | heaterDur
  | other
  deriving DecidableEq, Repr

/-- The kernel's `ilog2` of an `int`: the place of the highest bit set in its 32 bits, -1 where
none is. -/
def ilog2 (val : Int32) : Int32 :=
  if val = 0 then -1 else Int32.ofNat val.toUInt32.toNat.log2

/-- The settings with a ratio stored for a channel, where the channel has one. -/
def DriverSettings.storeRatio (settings : DriverSettings) (val : Int32) :
    IioChanType → Option DriverSettings
  | .temp => some { settings with oversamplingTemp := (ilog2 val).toUInt32.toUInt8 }
  | .pressure => some { settings with oversamplingPress := (ilog2 val).toUInt32.toUInt8 }
  | .humidityrelative => some { settings with oversamplingHumid := (ilog2 val).toUInt32.toUInt8 }
  | .resistance | .other => none

/-- A call that stores settings and then programs the chip by one of the functions above. -/
def SettingsState.program (state : SettingsState) (settings : DriverSettings)
    (config : DriverSettings → RegisterFile → BusResult) : SettingsState × ℤ :=
  let result := config settings state.registers
  ({ settings := settings, registers := result.registers }, result.ret)

/-- `bme680_write_raw`. -/
def bme680WriteRaw (chip : ChipConstants) (outcomes : BusOutcomes) (state : SettingsState)
    (chan : IioChanType) (val : Int32) (mask : IioWriteInfo) : SettingsState × ℤ :=
  match mask with
  | .oversamplingRatio =>
    match state.settings.storeRatio val chan with
    | none => (state, -EINVAL)
    | some settings => state.program settings (bme680ChipConfig chip outcomes)
  | .heaterTemp =>
    state.program { state.settings with heaterTemp := val.toUInt32.toUInt16 }
      (bme680SetGasConfig chip outcomes)
  | .heaterDur =>
    state.program { state.settings with heaterDur := val.toUInt32.toUInt16 }
      (bme680SetGasConfig chip outcomes)
  | .other => (state, -EINVAL)

/-- `bme680_heater_current_store`, given what `kstrtoint` makes of its text and the length of the
text. -/
def bme680HeaterCurrentStore (chip : ChipConstants) (outcomes : BusOutcomes)
    (state : SettingsState) (parsed : Except ℤ Int32) (count : ℕ) : SettingsState × ℤ :=
  match parsed with
  | .error ret => (state, ret)
  | .ok val =>
    match state.program { state.settings with preheatCurrMA := val.toUInt32.toUInt8 }
      (bme680SetGasConfig chip outcomes) with
    | (state, ret) => if ret < 0 then (state, ret) else (state, count)

/-- `bme680_set_mode` on the registers, given how its read and its write end. -/
def SettingsState.bme680SetMode (chip : ChipConstants) (state : SettingsState)
    (read write : Option BusError) (mode : UInt8) : SettingsState × ℤ :=
  match read with
  | some error => (state, error.ret)
  | none =>
    let tmp := state.registers BME680_REG_CTRL_MEAS
    let tmp := tmp &&& ~~~chip.modeMask.mask
    let tmp := tmp ||| chip.modeMask.prep mode
    let result := regmapWrite write BME680_REG_CTRL_MEAS tmp state.registers
    ({ state with registers := result.registers }, result.ret)

/-! ### Where a function of the driver fails -/

/-- A sequence of accesses fails where its first part does, or where that succeeds and the rest
fails. -/
theorem andThen_fails_iff {result : BusResult} {next : RegisterFile → BusResult}
    {first rest : Prop} (hfirst : result.ret < 0 ↔ ¬ first)
    (hrest : ∀ registers, (next registers).ret < 0 ↔ ¬ rest) :
    (result.andThen next).ret < 0 ↔ ¬ (first ∧ rest) := by
  unfold BusResult.andThen
  split_ifs with hret
  · exact iff_of_true hret fun hboth ↦ hfirst.mp hret hboth.1
  · have hheld : first := not_not.mp fun hnot ↦ hret (hfirst.mpr hnot)
    rw [hrest]
    exact not_congr (and_iff_right hheld).symm

/-- The next access where the one before succeeds. -/
theorem andThen_of_zero {result : BusResult} {next : RegisterFile → BusResult}
    (hret : result.ret = 0) : result.andThen next = next result.registers :=
  if_neg hret.not_lt

theorem regmapWrite_fails_iff (outcome : Option BusError) (reg value : UInt8)
    (registers : RegisterFile) :
    (regmapWrite outcome reg value registers).ret < 0 ↔ ¬ outcome = none := by
  cases outcome with
  | none => exact iff_of_false (lt_irrefl 0) fun hnot ↦ hnot rfl
  | some error => exact iff_of_true error.negative nofun

@[simp] theorem BusOutcomes.succeed_zero (outcomes : BusOutcomes) : outcomes.Succeed 0 :=
  fun _ haccess ↦ absurd haccess (Nat.not_lt_zero _)

/-- One access more succeeds. -/
theorem BusOutcomes.succeed_succ (outcomes : BusOutcomes) (count : ℕ) :
    outcomes.Succeed (count + 1) ↔ outcomes.Succeed count ∧ outcomes count = none :=
  Nat.forall_lt_succ_right

/-- A number of accesses succeed, and then another number of them. -/
theorem BusOutcomes.succeed_add (outcomes : BusOutcomes) (first rest : ℕ) :
    outcomes.Succeed (first + rest) ↔
      outcomes.Succeed first ∧
        BusOutcomes.Succeed (fun access ↦ outcomes (first + access)) rest := by
  induction rest with
  | zero => simp only [Nat.add_zero, succeed_zero, and_true]
  | succ rest ih => rw [← Nat.add_assoc, succeed_succ, ih, and_assoc, ← succeed_succ]

/-- Programming the heater fails where one of its three accesses does. -/
theorem bme680SetGasConfig_fails_iff (chip : ChipConstants) (outcomes : BusOutcomes)
    (data : DriverSettings) (registers : RegisterFile) :
    (bme680SetGasConfig chip outcomes data registers).ret < 0 ↔ ¬ outcomes.Succeed 3 := by
  have haccesses : outcomes.Succeed 3 ↔
      outcomes 0 = none ∧ outcomes 1 = none ∧ outcomes 2 = none ∧ True := by
    simp only [BusOutcomes.succeed_succ, BusOutcomes.succeed_zero, true_and, and_true, and_assoc]
  rw [haccesses]
  refine andThen_fails_iff (regmapWrite_fails_iff _ _ _ _) fun _ ↦
    andThen_fails_iff (regmapWrite_fails_iff _ _ _ _) fun _ ↦
    andThen_fails_iff (regmapWrite_fails_iff _ _ _ _) fun _ ↦ ?_
  exact iff_of_false (lt_irrefl 0) (not_not.mpr trivial)

/-- Programming the chip fails where one of its seven accesses does. -/
theorem bme680ChipConfig_fails_iff (chip : ChipConstants) (outcomes : BusOutcomes)
    (data : DriverSettings) (registers : RegisterFile) :
    (bme680ChipConfig chip outcomes data registers).ret < 0 ↔ ¬ outcomes.Succeed 7 := by
  have haccesses : outcomes.Succeed 7 ↔
      outcomes 0 = none ∧ outcomes 1 = none ∧ outcomes 2 = none ∧ outcomes 3 = none ∧
        BusOutcomes.Succeed (fun access ↦ outcomes (4 + access)) 3 ∧ True := by
    rw [show 7 = 4 + 3 from rfl, BusOutcomes.succeed_add]
    simp only [BusOutcomes.succeed_succ, BusOutcomes.succeed_zero, true_and, and_true, and_assoc]
  rw [haccesses]
  refine andThen_fails_iff (regmapWrite_fails_iff _ _ _ _) fun _ ↦
    andThen_fails_iff (regmapWrite_fails_iff _ _ _ _) fun _ ↦
    andThen_fails_iff (regmapWrite_fails_iff _ _ _ _) fun _ ↦
    andThen_fails_iff (regmapWrite_fails_iff _ _ _ _) fun _ ↦
    andThen_fails_iff (bme680SetGasConfig_fails_iff _ _ _ _) fun _ ↦ ?_
  exact iff_of_false (lt_irrefl 0) (not_not.mpr trivial)

/-! ### What a successful function leaves in the registers -/

/-- The registers after the three writes of the heater. -/
def heaterRegisters (chip : ChipConstants) (data : DriverSettings) (registers : RegisterFile) :
    RegisterFile :=
  Function.update (Function.update (Function.update registers
    BME680_REG_GAS_WAIT_0 data.heaterDur.toUInt8)
    BME680_REG_RES_HEAT_0 data.resHeatVal.toUInt8)
    BME680_REG_CTRL_GAS_1 (chip.enableGasMeasL ||| chip.enableHeater)

/-- Programming the heater, where it succeeds. -/
theorem bme680SetGasConfig_of_succeed {chip : ChipConstants} {outcomes : BusOutcomes}
    (hsucceed : outcomes.Succeed 3) (data : DriverSettings) (registers : RegisterFile) :
    bme680SetGasConfig chip outcomes data registers =
      { registers := heaterRegisters chip data registers, ret := 0 } := by
  unfold bme680SetGasConfig
  simp only [hsucceed 0 (by decide), hsucceed 1 (by decide), hsucceed 2 (by decide)]
  rfl

/-- An update of a field by its prepared value installs the value in the field. -/
theorem regmapUpdateBits_prep (field : BitField) (reg value : UInt8) (registers : RegisterFile) :
    regmapUpdateBits none reg field.mask (field.prep value) registers =
      { registers := Function.update registers reg (field.install (registers reg) value)
        ret := 0 } := by
  unfold regmapUpdateBits BitField.install
  rw [BitField.prep_and_mask]
  rfl

/-- The registers after the updates of the oversampling fields and of the filter. The pressure's
ratio replaces the temperature's, both having the one field in the one register. -/
def fieldRegisters (chip : ChipConstants) (data : DriverSettings) (registers : RegisterFile) :
    RegisterFile :=
  Function.update (Function.update (Function.update registers
    BME680_REG_CTRL_MEAS
      (chip.osrMask.install (registers BME680_REG_CTRL_MEAS) data.oversamplingPress))
    BME680_REG_CTRL_HUM
      (chip.osrMask.install (registers BME680_REG_CTRL_HUM) data.oversamplingHumid))
    BME680_REG_CONFIG (chip.filterMask.install (registers BME680_REG_CONFIG) chip.filter3)

/-- Programming the chip, where it succeeds. -/
theorem bme680ChipConfig_of_succeed {chip : ChipConstants} {outcomes : BusOutcomes}
    (hsucceed : outcomes.Succeed 7) (data : DriverSettings) (registers : RegisterFile) :
    bme680ChipConfig chip outcomes data registers =
      { registers := heaterRegisters chip data (fieldRegisters chip data registers)
        ret := 0 } := by
  have hheater : BusOutcomes.Succeed (fun access ↦ outcomes (4 + access)) 3 := fun access haccess ↦
    hsucceed (4 + access) (by omega)
  have hmeas (other value : UInt8) (hother : other ≠ BME680_REG_CTRL_MEAS) :
      Function.update registers BME680_REG_CTRL_MEAS value other = registers other :=
    Function.update_of_ne hother _ _
  unfold bme680ChipConfig bme680SetOversampling
  simp only [hsucceed 0 (by decide), hsucceed 1 (by decide), hsucceed 2 (by decide),
    hsucceed 3 (by decide), regmapUpdateBits_prep, andThen_of_zero,
    bme680SetGasConfig_of_succeed hheater]
  rw [Function.update_self, Function.update_idem, BitField.install_install,
    hmeas _ _ (by decide), Function.update_of_ne (by decide), hmeas _ _ (by decide)]
  rfl

end Bme680.Driver
