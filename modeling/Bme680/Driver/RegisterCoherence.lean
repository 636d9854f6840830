import Bme680.Arithmetic.MaskedBytes
import Bme680.Driver.SettingWrites

/-!
# The registers after failed and successful settings

A failed access may have taken effect or not, and the functions of the driver stop at the first one
that fails, so that the registers can be left anywhere between two settings. The stored settings
stay, and the device changes its mode by itself.

In every sequence of calls, with any accesses failing, the driver changes no bit outside the fields
it writes (`chipMask`). The next write of a ratio that succeeds brings every register to what the
stored settings and the registers at the start say, apart from the bits of the mode, whatever failed
before it; one of the heater's settings does so for the registers of the heater
(`registers_follow_settings`).
-/

set_option autoImplicit false
set_option relaxedAutoImplicit false

namespace Bme680.Driver

open Arithmetic

/-! ### The bits the driver writes -/

/-- The bits of each register that the driver and the mode of the device change. -/
def chipMask (chip : ChipConstants) (reg : UInt8) : UInt8 :=
  if reg = BME680_REG_CTRL_MEAS then chip.osrMask.mask ||| chip.modeMask.mask
  else if reg = BME680_REG_CTRL_HUM then chip.osrMask.mask
  else if reg = BME680_REG_CONFIG then chip.filterMask.mask
  else if reg = BME680_REG_GAS_WAIT_0 ∨ reg = BME680_REG_RES_HEAT_0 ∨
      reg = BME680_REG_CTRL_GAS_1 then 255
  else 0

/-- The bits of the mode that no ratio is written to. -/
def modeBits (chip : ChipConstants) (reg : UInt8) : UInt8 :=
  if reg = BME680_REG_CTRL_MEAS then
    (chip.osrMask.mask ||| chip.modeMask.mask) &&& ~~~chip.osrMask.mask
  else 0

/-- The registers that programming the chip with given settings makes of others. -/
def chipRegisters (chip : ChipConstants) (data : DriverSettings) (registers : RegisterFile) :
    RegisterFile :=
  heaterRegisters chip data (fieldRegisters chip data registers)

theorem covers_or_left (first second : UInt8) : Covers (first ||| second) first := by
  rw [covers_iff]
  intro bit _ hset
  simp [UInt8.toNat_or, Nat.testBit_or, hset]

theorem covers_or_right (first second : UInt8) : Covers (first ||| second) second := by
  rw [covers_iff]
  intro bit _ hset
  simp [UInt8.toNat_or, Nat.testBit_or, hset]

/-! ### What an access keeps -/

/-- What holds of the registers after an access, and is kept by the rest, holds at the end, wherever
the sequence stops. -/
theorem andThen_registers {result : BusResult} {next : RegisterFile → BusResult}
    (property : RegisterFile → Prop) (hfirst : property result.registers)
    (hrest : ∀ registers, property registers → property (next registers).registers) :
    property (result.andThen next).registers := by
  unfold BusResult.andThen
  split_ifs
  · exact hfirst
  · exact hrest _ hfirst

section Frame

variable {mask start registers : RegisterFile}

/-- A write keeps the agreement with the start, if what it writes does. -/
theorem regmapWrite_agrees (hagree : AgreeOutside mask start registers)
    (outcome : Option BusError) {reg value : UInt8}
    (hvalue : AgreeOutside mask start (Function.update registers reg value)) :
    AgreeOutside mask start (regmapWrite outcome reg value registers).registers := by
  cases outcome with
  | none => exact hvalue
  | some error =>
    simp only [regmapWrite]
    split_ifs
    · exact hvalue
    · exact hagree

theorem regmapUpdateBits_agrees (hagree : AgreeOutside mask start registers)
    (outcome : Option BusError) {reg bits : UInt8} (hbits : Covers (mask reg) bits)
    (value : UInt8) :
    AgreeOutside mask start (regmapUpdateBits outcome reg bits value registers).registers :=
  regmapWrite_agrees hagree outcome (hagree.update_bits hbits value)

/-- A register all of whose bits are the driver's can be written. -/
theorem regmapWrite_whole_agrees (hagree : AgreeOutside mask start registers)
    (outcome : Option BusError) {reg : UInt8} (hmask : mask reg = 255) (value : UInt8) :
    AgreeOutside mask start (regmapWrite outcome reg value registers).registers := by
  refine regmapWrite_agrees hagree outcome (hagree.update ?_)
  rw [hmask, show ~~~(255 : UInt8) = 0 from rfl, UInt8.and_zero, UInt8.and_zero]

end Frame

section Calls

variable {chip : ChipConstants} {start registers : RegisterFile}

theorem bme680SetGasConfig_agrees (hagree : AgreeOutside (chipMask chip) start registers)
    (outcomes : BusOutcomes) (data : DriverSettings) :
    AgreeOutside (chipMask chip) start
      (bme680SetGasConfig chip outcomes data registers).registers := by
  unfold bme680SetGasConfig
  apply andThen_registers (AgreeOutside (chipMask chip) start)
  · exact regmapWrite_whole_agrees hagree _ rfl _
  intro registers hagree
  apply andThen_registers (AgreeOutside (chipMask chip) start)
  · exact regmapWrite_whole_agrees hagree _ rfl _
  intro registers hagree
  apply andThen_registers (AgreeOutside (chipMask chip) start)
  · exact regmapWrite_whole_agrees hagree _ rfl _
  exact fun _ hagree ↦ hagree

theorem bme680ChipConfig_agrees (hagree : AgreeOutside (chipMask chip) start registers)
    (outcomes : BusOutcomes) (data : DriverSettings) :
    AgreeOutside (chipMask chip) start
      (bme680ChipConfig chip outcomes data registers).registers := by
  have hmeas : Covers (chipMask chip BME680_REG_CTRL_MEAS) chip.osrMask.mask :=
    covers_or_left _ _
  have hhum : Covers (chipMask chip BME680_REG_CTRL_HUM) chip.osrMask.mask := covers_refl _
  have hfilter : Covers (chipMask chip BME680_REG_CONFIG) chip.filterMask.mask := covers_refl _
  unfold bme680ChipConfig bme680SetOversampling
  apply andThen_registers (AgreeOutside (chipMask chip) start)
  · exact regmapUpdateBits_agrees hagree _ hmeas _
  intro registers hagree
  apply andThen_registers (AgreeOutside (chipMask chip) start)
  · exact regmapUpdateBits_agrees hagree _ hmeas _
  intro registers hagree
  apply andThen_registers (AgreeOutside (chipMask chip) start)
  · exact regmapUpdateBits_agrees hagree _ hhum _
  intro registers hagree
  apply andThen_registers (AgreeOutside (chipMask chip) start)
  · exact regmapUpdateBits_agrees hagree _ hfilter _
  intro registers hagree
  apply andThen_registers (AgreeOutside (chipMask chip) start)
  · exact bme680SetGasConfig_agrees hagree _ _
  exact fun _ hagree ↦ hagree

/-- Programming the heater brings two register files together in the registers of the heater. -/
theorem heaterRegisters_both {mask first second : RegisterFile}
    (hagree : AgreeOutside mask first second) (chip : ChipConstants) (data : DriverSettings) :
    AgreeOutside
      (Function.update (Function.update (Function.update mask BME680_REG_GAS_WAIT_0 0)
        BME680_REG_RES_HEAT_0 0) BME680_REG_CTRL_GAS_1 0)
      (heaterRegisters chip data first) (heaterRegisters chip data second) :=
  ((hagree.write_both _ _).write_both _ _).write_both _ _

/-- Updating the fields brings two register files together in them. -/
theorem fieldRegisters_both {mask first second : RegisterFile}
    (hagree : AgreeOutside mask first second) (chip : ChipConstants) (data : DriverSettings) :
    AgreeOutside
      (Function.update (Function.update (Function.update mask
        BME680_REG_CTRL_MEAS (mask BME680_REG_CTRL_MEAS &&& ~~~chip.osrMask.mask))
        BME680_REG_CTRL_HUM (mask BME680_REG_CTRL_HUM &&& ~~~chip.osrMask.mask))
        BME680_REG_CONFIG (mask BME680_REG_CONFIG &&& ~~~chip.filterMask.mask))
      (fieldRegisters chip data first) (fieldRegisters chip data second) := by
  have hboth := ((hagree.install_both chip.osrMask BME680_REG_CTRL_MEAS
    data.oversamplingPress).install_both chip.osrMask BME680_REG_CTRL_HUM
    data.oversamplingHumid).install_both chip.filterMask BME680_REG_CONFIG chip.filter3
  have hhum : BME680_REG_CTRL_HUM ≠ BME680_REG_CTRL_MEAS := by decide
  have hconfig : BME680_REG_CONFIG ≠ BME680_REG_CTRL_MEAS := by decide
  have hother : BME680_REG_CONFIG ≠ BME680_REG_CTRL_HUM := by decide
  simp only [Function.update_of_ne hhum, Function.update_of_ne hconfig,
    Function.update_of_ne hother] at hboth
  exact hboth

/-- Programming the chip brings two register files together that agree outside the driver's bits,
apart from the bits of the mode. -/
theorem chipRegisters_both {first second : RegisterFile}
    (hagree : AgreeOutside (chipMask chip) first second) (data : DriverSettings) :
    AgreeOutside (modeBits chip) (chipRegisters chip data first)
      (chipRegisters chip data second) := by
  refine (heaterRegisters_both (fieldRegisters_both hagree chip data) chip data).mono fun reg ↦ ?_
  have hself (mask : UInt8) : Covers (modeBits chip reg) (mask &&& ~~~mask) := by
    rw [covers_refl mask]
    exact covers_zero _
  by_cases hmeas : reg = BME680_REG_CTRL_MEAS
  · rw [hmeas]
    exact covers_refl _
  by_cases hhum : reg = BME680_REG_CTRL_HUM
  · rw [hhum] at hself ⊢
    exact hself chip.osrMask.mask
  by_cases hconfig : reg = BME680_REG_CONFIG
  · rw [hconfig] at hself ⊢
    exact hself chip.filterMask.mask
  rw [Function.update_apply, Function.update_apply, Function.update_apply,
    Function.update_of_ne hconfig, Function.update_of_ne hhum, Function.update_of_ne hmeas,
    chipMask, if_neg hmeas, if_neg hhum, if_neg hconfig]
  split_ifs with hgas hheat hwait hheater
  · exact covers_zero _
  · exact covers_zero _
  · exact covers_zero _
  · exact absurd hheater (by simp [hgas, hheat, hwait])
  · exact covers_zero _

/-- Programming the heater brings two register files together in its three registers. -/
theorem heaterRegisters_eq (first second : RegisterFile) (data : DriverSettings) {reg : UInt8}
    (hreg : reg = BME680_REG_GAS_WAIT_0 ∨ reg = BME680_REG_RES_HEAT_0 ∨
      reg = BME680_REG_CTRL_GAS_1) :
    heaterRegisters chip data first reg = heaterRegisters chip data second reg := by
  rcases hreg with rfl | rfl | rfl <;> rfl

end Calls

/-! ### Runs -/

/-- A call that changes settings or registers, with the outcomes of its accesses: a setting written
or the current of the heater stored, the chip programmed as in the probe, the mode set, or the
device changing its mode. -/
inductive SettingsCall
  | writeRaw (outcomes : BusOutcomes) (chan : IioChanType) (val : Int32) (mask : IioWriteInfo)
  | heaterCurrentStore (outcomes : BusOutcomes) (parsed : Except ℤ Int32) (count : ℕ)
  | chipConfig (outcomes : BusOutcomes)
  | setMode (read write : Option BusError) (mode : UInt8)
  | changesMode (mode : UInt8)

/-- The settings and the registers after a call. -/
def SettingsState.after (chip : ChipConstants) (state : SettingsState) :
    SettingsCall → SettingsState
  | .writeRaw outcomes chan val mask => (bme680WriteRaw chip outcomes state chan val mask).1
  | .heaterCurrentStore outcomes parsed count =>
    (bme680HeaterCurrentStore chip outcomes state parsed count).1
  | .chipConfig outcomes =>
    { state with
      registers := (bme680ChipConfig chip outcomes state.settings state.registers).registers }
  | .setMode read write mode => (state.bme680SetMode chip read write mode).1
  | .changesMode mode =>
    { state with
      registers := Function.update state.registers BME680_REG_CTRL_MEAS
        (chip.modeMask.install (state.registers BME680_REG_CTRL_MEAS) mode) }

section Runs

variable {chip : ChipConstants} {start : RegisterFile}

/-- Installing a mode changes bits of the mask. -/
theorem install_mode_agrees {registers : RegisterFile}
    (hagree : AgreeOutside (chipMask chip) start registers) (mode : UInt8) :
    AgreeOutside (chipMask chip) start (Function.update registers BME680_REG_CTRL_MEAS
      (chip.modeMask.install (registers BME680_REG_CTRL_MEAS) mode)) := by
  have hcovers : Covers (chipMask chip BME680_REG_CTRL_MEAS) chip.modeMask.mask :=
    covers_or_right _ _
  have hbits := hagree.update_bits hcovers (chip.modeMask.prep mode)
  rwa [BitField.prep_and_mask] at hbits

theorem bme680WriteRaw_agrees {state : SettingsState}
    (hagree : AgreeOutside (chipMask chip) start state.registers) (outcomes : BusOutcomes)
    (chan : IioChanType) (val : Int32) (mask : IioWriteInfo) :
    AgreeOutside (chipMask chip) start
      (bme680WriteRaw chip outcomes state chan val mask).1.registers := by
  cases mask with
  | oversamplingRatio =>
    unfold bme680WriteRaw
    cases state.settings.storeRatio val chan with
    | none => exact hagree
    | some settings => exact bme680ChipConfig_agrees hagree outcomes settings
  | heaterTemp => exact bme680SetGasConfig_agrees hagree outcomes _
  | heaterDur => exact bme680SetGasConfig_agrees hagree outcomes _
  | other => exact hagree

/-- Every call keeps the bits outside the driver's. -/
theorem after_agrees {state : SettingsState}
    (hagree : AgreeOutside (chipMask chip) start state.registers) (call : SettingsCall) :
    AgreeOutside (chipMask chip) start (state.after chip call).registers := by
  cases call with
  | writeRaw outcomes chan val mask => exact bme680WriteRaw_agrees hagree outcomes chan val mask
  | heaterCurrentStore outcomes parsed count =>
    cases parsed with
    | error ret => exact hagree
    | ok val =>
      simp only [SettingsState.after, bme680HeaterCurrentStore]
      split_ifs <;> exact bme680SetGasConfig_agrees hagree outcomes _
  | chipConfig outcomes => exact bme680ChipConfig_agrees hagree outcomes _
  | setMode read write mode =>
    cases read with
    | some error => exact hagree
    | none => exact regmapWrite_agrees hagree write (install_mode_agrees hagree mode)
  | changesMode mode => exact install_mode_agrees hagree mode

/-- A run of calls keeps the bits outside the driver's. -/
theorem foldl_after_agrees (calls : List SettingsCall) {state : SettingsState}
    (hagree : AgreeOutside (chipMask chip) start state.registers) :
    AgreeOutside (chipMask chip) start
      (calls.foldl (SettingsState.after chip) state).registers := by
  induction calls generalizing state with
  | nil => exact hagree
  | cons call calls ih => exact ih (after_agrees hagree call)

/-- A write of a ratio that returns zero has programmed the chip with the settings it leaves. -/
theorem ratio_written {state written : SettingsState} {outcomes : BusOutcomes}
    {chan : IioChanType} {val : Int32}
    (hcall : bme680WriteRaw chip outcomes state chan val .oversamplingRatio = (written, 0)) :
    written.registers = chipRegisters chip written.settings state.registers := by
  unfold bme680WriteRaw at hcall
  cases hstore : state.settings.storeRatio val chan with
  | none =>
    simp only [hstore, Prod.mk.injEq] at hcall
    exact absurd hcall.2 (by decide)
  | some settings =>
    simp only [hstore, SettingsState.program, Prod.mk.injEq] at hcall
    obtain ⟨rfl, hret⟩ := hcall
    have hsucceed : outcomes.Succeed 7 := by
      by_contra hfails
      exact absurd hret ((bme680ChipConfig_fails_iff chip outcomes settings _).mpr hfails).ne
    rw [bme680ChipConfig_of_succeed hsucceed]
    rfl

/-- A write of a setting of the heater that returns zero has programmed the heater with the settings
it leaves. -/
theorem heater_written {state written : SettingsState} {outcomes : BusOutcomes}
    {chan : IioChanType} {val : Int32} {mask : IioWriteInfo}
    (hmask : mask = .heaterTemp ∨ mask = .heaterDur)
    (hcall : bme680WriteRaw chip outcomes state chan val mask = (written, 0)) :
    written.registers = heaterRegisters chip written.settings state.registers := by
  have hprogram : ∃ settings,
      state.program settings (bme680SetGasConfig chip outcomes) = (written, 0) := by
    rcases hmask with rfl | rfl
    · exact ⟨_, hcall⟩
    · exact ⟨_, hcall⟩
  obtain ⟨settings, hprogram⟩ := hprogram
  simp only [SettingsState.program, Prod.mk.injEq] at hprogram
  obtain ⟨rfl, hret⟩ := hprogram
  have hsucceed : outcomes.Succeed 3 := by
    by_contra hfails
    exact absurd hret ((bme680SetGasConfig_fails_iff chip outcomes settings _).mpr hfails).ne
  rw [bme680SetGasConfig_of_succeed hsucceed]

end Runs

/-- From any settings and registers, after any calls with any failing accesses: no bit outside those
the driver writes has changed; a write of a ratio that succeeds then leaves the registers that the
settings and the registers at the start determine, apart from the bits of the mode; and a write of a
setting of the heater that succeeds does so in the registers of the heater. -/
theorem registers_follow_settings (chip : ChipConstants) (start : SettingsState)
    (calls : List SettingsCall) :
    AgreeOutside (chipMask chip) start.registers
        (calls.foldl (SettingsState.after chip) start).registers ∧
      (∀ outcomes chan val written,
        bme680WriteRaw chip outcomes (calls.foldl (SettingsState.after chip) start) chan val
          .oversamplingRatio = (written, 0) →
        AgreeOutside (modeBits chip) (chipRegisters chip written.settings start.registers)
          written.registers) ∧
      ∀ outcomes chan val mask written, mask = .heaterTemp ∨ mask = .heaterDur →
        bme680WriteRaw chip outcomes (calls.foldl (SettingsState.after chip) start) chan val
          mask = (written, 0) →
        ∀ reg, reg = BME680_REG_GAS_WAIT_0 ∨ reg = BME680_REG_RES_HEAT_0 ∨
            reg = BME680_REG_CTRL_GAS_1 →
          written.registers reg = heaterRegisters chip written.settings start.registers reg := by
  have hframe : AgreeOutside (chipMask chip) start.registers
      (calls.foldl (SettingsState.after chip) start).registers :=
    foldl_after_agrees calls (.refl _ _)
  refine ⟨hframe, fun outcomes chan val written hcall ↦ ?_,
    fun outcomes chan val mask written hmask hcall reg hreg ↦ ?_⟩
  · rw [ratio_written hcall]
    exact chipRegisters_both hframe written.settings
  · rw [heater_written hmask hcall]
    exact heaterRegisters_eq _ _ _ hreg

end Bme680.Driver
