import Bme680.Driver.Settings

/-!
# Settings that are refused, and settings that are stored otherwise than asked for

`bme680_write_raw` stores a setting before it programs the chip, and keeps it when an access to the
registers fails: the next successful write programs it. A failed write leaves the settings as they
were exactly when it asked for nothing it could store, or for what was stored already
(`failed_write_iff`).

The values asked for are integers of 32 bits, and they are stored in 16 or 8 of them, or as a
logarithm, without a check of their range. What is stored is what was asked for exactly in the range
of the type, for the duration of the heater in that of the byte written to the chip, and for a ratio
on the powers of two (`settings_exact_iff`).
-/

set_option autoImplicit false
set_option relaxedAutoImplicit false

namespace Bme680.Driver

open Arithmetic

/-! ### Requests -/

/-- A request that `bme680_write_raw` refuses: it asks for no setting, or for the ratio of a channel
that has none. -/
def Refused (chan : IioChanType) : IioWriteInfo → Prop
  | .oversamplingRatio => chan = .resistance ∨ chan = .other
  | .heaterTemp | .heaterDur => False
  | .other => True

/-- The number of register accesses of a request that is not refused. -/
def accessCount : IioWriteInfo → ℕ
  | .oversamplingRatio => 7
  | .heaterTemp | .heaterDur => 3
  | .other => 0

/-- The settings with the requested one stored. -/
def DriverSettings.request (settings : DriverSettings) (chan : IioChanType) (val : Int32) :
    IioWriteInfo → Option DriverSettings
  | .oversamplingRatio => settings.storeRatio val chan
  | .heaterTemp => some { settings with heaterTemp := val.toUInt32.toUInt16 }
  | .heaterDur => some { settings with heaterDur := val.toUInt32.toUInt16 }
  | .other => none

/-- A request that is refused stores nothing, and every other one does. -/
theorem request_eq_none_iff (settings : DriverSettings) (chan : IioChanType) (val : Int32)
    (mask : IioWriteInfo) : settings.request chan val mask = none ↔ Refused chan mask := by
  cases mask with
  | oversamplingRatio =>
    cases chan with
    | temp | pressure | humidityrelative => exact iff_of_false nofun (by rintro (h | h) <;> cases h)
    | resistance => exact iff_of_true rfl (Or.inl rfl)
    | other => exact iff_of_true rfl (Or.inr rfl)
  | heaterTemp | heaterDur => exact iff_of_false nofun id
  | other => exact iff_of_true rfl trivial

variable {chip : ChipConstants} {outcomes : BusOutcomes} {state : SettingsState}
  {chan : IioChanType} {val : Int32} {mask : IioWriteInfo} {settings : DriverSettings}

/-- A request that stores something is not refused. -/
theorem not_refused_of_some (hrequest : state.settings.request chan val mask = some settings) :
    ¬ Refused chan mask := by
  rw [← request_eq_none_iff state.settings chan val mask, hrequest]
  exact Option.some_ne_none settings

/-- A request that is refused changes nothing. -/
theorem bme680WriteRaw_of_none (hrequest : state.settings.request chan val mask = none) :
    bme680WriteRaw chip outcomes state chan val mask = (state, -(EINVAL : ℤ)) := by
  cases mask with
  | oversamplingRatio =>
    have hstore : state.settings.storeRatio val chan = none := hrequest
    simp only [bme680WriteRaw, hstore]
  | heaterTemp | heaterDur => cases hrequest
  | other => rfl

/-- A request that is not refused is stored in any case, and fails where one of its register
accesses does. -/
theorem bme680WriteRaw_of_some (hrequest : state.settings.request chan val mask = some settings) :
    (bme680WriteRaw chip outcomes state chan val mask).1.settings = settings ∧
      ((bme680WriteRaw chip outcomes state chan val mask).2 < 0 ↔
        ¬ outcomes.Succeed (accessCount mask)) := by
  cases mask with
  | oversamplingRatio =>
    have hstore : state.settings.storeRatio val chan = some settings := hrequest
    simp only [bme680WriteRaw, hstore]
    exact ⟨rfl, bme680ChipConfig_fails_iff _ _ _ _⟩
  | heaterTemp | heaterDur =>
    obtain rfl := Option.some.inj hrequest
    exact ⟨rfl, bme680SetGasConfig_fails_iff _ _ _ _⟩
  | other => cases hrequest

/-! ### Failed writes -/

/-- The settings that a write can change are the same. -/
structure SameSettings (before after : DriverSettings) : Prop where
  oversamplingTemp : after.oversamplingTemp = before.oversamplingTemp
  oversamplingPress : after.oversamplingPress = before.oversamplingPress
  oversamplingHumid : after.oversamplingHumid = before.oversamplingHumid
  heaterTemp : after.heaterTemp = before.heaterTemp
  heaterDur : after.heaterDur = before.heaterDur

/-- A write that fails leaves the settings as they were, and a later one does what it would have
done without it. -/
structure FailsCleanly (chip : ChipConstants) (outcomes : BusOutcomes) (state : SettingsState)
    (chan : IioChanType) (val : Int32) (mask : IioWriteInfo) : Prop where
  same : (bme680WriteRaw chip outcomes state chan val mask).2 < 0 →
    SameSettings state.settings (bme680WriteRaw chip outcomes state chan val mask).1.settings
  later : (bme680WriteRaw chip outcomes state chan val mask).2 < 0 →
    ∀ (laterOutcomes : BusOutcomes) (registers : RegisterFile) (laterChan : IioChanType)
      (laterVal : Int32) (laterMask : IioWriteInfo),
      bme680WriteRaw chip laterOutcomes
          { settings := (bme680WriteRaw chip outcomes state chan val mask).1.settings
            registers := registers } laterChan laterVal laterMask =
        bme680WriteRaw chip laterOutcomes { state with registers := registers } laterChan laterVal
          laterMask

/-- A request for what is stored already. -/
def Repeats (settings : DriverSettings) (chan : IioChanType) (val : Int32) : IioWriteInfo → Prop
  | .oversamplingRatio =>
    match chan with
    | .temp => (ilog2 val).toUInt32.toUInt8 = settings.oversamplingTemp
    | .pressure => (ilog2 val).toUInt32.toUInt8 = settings.oversamplingPress
    | .humidityrelative => (ilog2 val).toUInt32.toUInt8 = settings.oversamplingHumid
    | .resistance | .other => False
  | .heaterTemp => val.toUInt32.toUInt16 = settings.heaterTemp
  | .heaterDur => val.toUInt32.toUInt16 = settings.heaterDur
  | .other => False

/-- What a request stores is what was stored before exactly when it repeats it. -/
theorem sameSettings_request_iff {before after : DriverSettings}
    (hrequest : before.request chan val mask = some after) :
    SameSettings before after ↔ Repeats before chan val mask := by
  cases mask with
  | oversamplingRatio =>
    cases chan with
    | temp =>
      obtain rfl := Option.some.inj hrequest
      exact ⟨fun hsame ↦ hsame.oversamplingTemp, fun hrepeats ↦ ⟨hrepeats, rfl, rfl, rfl, rfl⟩⟩
    | pressure =>
      obtain rfl := Option.some.inj hrequest
      exact ⟨fun hsame ↦ hsame.oversamplingPress, fun hrepeats ↦ ⟨rfl, hrepeats, rfl, rfl, rfl⟩⟩
    | humidityrelative =>
      obtain rfl := Option.some.inj hrequest
      exact ⟨fun hsame ↦ hsame.oversamplingHumid, fun hrepeats ↦ ⟨rfl, rfl, hrepeats, rfl, rfl⟩⟩
    | resistance | other => cases hrequest
  | heaterTemp =>
    obtain rfl := Option.some.inj hrequest
    exact ⟨fun hsame ↦ hsame.heaterTemp, fun hrepeats ↦ ⟨rfl, rfl, rfl, hrepeats, rfl⟩⟩
  | heaterDur =>
    obtain rfl := Option.some.inj hrequest
    exact ⟨fun hsame ↦ hsame.heaterDur, fun hrepeats ↦ ⟨rfl, rfl, rfl, rfl, hrepeats⟩⟩
  | other => cases hrequest

/-- A request changes no setting beside those that a write can change. -/
theorem eq_of_sameSettings {before after : DriverSettings}
    (hrequest : before.request chan val mask = some after) (hsame : SameSettings before after) :
    after = before := by
  have hother : after.preheatCurrMA = before.preheatCurrMA ∧
      after.resHeatVal = before.resHeatVal := by
    cases mask with
    | oversamplingRatio =>
      cases chan with
      | temp | pressure | humidityrelative =>
        obtain rfl := Option.some.inj hrequest
        exact ⟨rfl, rfl⟩
      | resistance | other => cases hrequest
    | heaterTemp | heaterDur =>
      obtain rfl := Option.some.inj hrequest
      exact ⟨rfl, rfl⟩
    | other => cases hrequest
  obtain ⟨htemp, hpress, hhumid, hheaterTemp, hheaterDur⟩ := hsame
  obtain ⟨hpreheat, hresHeat⟩ := hother
  cases after
  cases before
  simp_all only

/-- A failed write leaves the settings as they were exactly when it is refused, when none of its
register accesses fails, or when it asks for what is stored already. -/
theorem failed_write_iff (chip : ChipConstants) (outcomes : BusOutcomes) (state : SettingsState)
    (chan : IioChanType) (val : Int32) (mask : IioWriteInfo) :
    FailsCleanly chip outcomes state chan val mask ↔
      Refused chan mask ∨ outcomes.Succeed (accessCount mask) ∨
        Repeats state.settings chan val mask := by
  cases hrequest : state.settings.request chan val mask with
  | none =>
    have hwrite := @bme680WriteRaw_of_none chip outcomes state chan val mask hrequest
    refine iff_of_true ⟨fun _ ↦ ?_, fun _ _ _ _ _ _ ↦ ?_⟩
      (Or.inl ((request_eq_none_iff _ _ _ _).mp hrequest))
    · rw [hwrite]
      exact ⟨rfl, rfl, rfl, rfl, rfl⟩
    · rw [hwrite]
  | some settings =>
    have hnot := not_refused_of_some hrequest
    obtain ⟨hsettings, hfails⟩ := @bme680WriteRaw_of_some chip outcomes state chan val mask settings
      hrequest
    rw [or_iff_right hnot, ← sameSettings_request_iff hrequest]
    constructor
    · intro hclean
      by_cases hsucceed : outcomes.Succeed (accessCount mask)
      · exact Or.inl hsucceed
      · exact Or.inr (hsettings ▸ hclean.same (hfails.mpr hsucceed))
    · rintro (hsucceed | hsame)
      · exact ⟨fun hret ↦ absurd hsucceed (hfails.mp hret),
          fun hret ↦ absurd hsucceed (hfails.mp hret)⟩
      · refine ⟨fun _ ↦ hsettings.symm ▸ hsame, fun _ _ _ _ _ _ ↦ ?_⟩
        rw [hsettings, eq_of_sameSettings hrequest hsame]

/-- A bus error without effect. -/
def busFault : BusError where
  ret := -5
  negative := by decide
  tookEffect := false

/-- Cleared registers, with the settings of a probed driver and the ratio 1 for every channel. -/
def probedSettings : SettingsState where
  settings :=
    { oversamplingTemp := 0, oversamplingPress := 0, oversamplingHumid := 0, preheatCurrMA := 0,
      heaterDur := 150, heaterTemp := 320, resHeatVal := 0 }
  registers := fun _ ↦ 0

/-- The fields and values that the header has under similar names. -/
def headerConstants : ChipConstants where
  osrMask := BME680_OSRS_TEMP_MSK
  modeMask := BME680_MODE_MSK
  filterMask := BME680_FILTER_MSK
  filter3 := 2
  enableGasMeasL := 0x10
  enableHeater := 0

/-- A duration of 30 that fails at its first access is stored all the same. -/
theorem failed_duration_is_stored :
    ¬ ∀ chip outcomes state chan val mask, FailsCleanly chip outcomes state chan val mask := by
  intro hall
  have hsame := (hall headerConstants (fun _ ↦ some busFault) probedSettings .resistance 30
    .heaterDur).same (by decide)
  exact absurd hsame.heaterDur (by decide)

/-! ### Words of a narrower type -/

/-- The conversion of an `int` to an unsigned word of 16 bits takes the remainder. -/
theorem toNat_toUInt16 (val : Int32) : (val.toUInt32.toUInt16.toNat : ℤ) = val.toInt % 65536 := by
  have hlow : (val.toUInt32.toUInt16.toNat : ℤ) = (val.toBitVec.toNat % 2 ^ 16 : ℕ) := rfl
  have hval : val.toInt = (val.toBitVec.toNat : ℤ).bmod (2 ^ 32) :=
    BitVec.toInt_eq_toNat_bmod val.toBitVec
  rw [hlow, hval, Int.bmod_def]
  split_ifs <;> omega

/-- The conversion of an `int` to a byte takes the remainder, also by way of 16 bits. -/
theorem toNat_toUInt8 (val : Int32) :
    (val.toUInt32.toUInt8.toNat : ℤ) = val.toInt % 256 ∧
      (val.toUInt32.toUInt16.toUInt8.toNat : ℤ) = val.toInt % 256 := by
  have hlow : (val.toUInt32.toUInt8.toNat : ℤ) = (val.toBitVec.toNat % 2 ^ 8 : ℕ) := rfl
  have hval : val.toInt = (val.toBitVec.toNat : ℤ).bmod (2 ^ 32) :=
    BitVec.toInt_eq_toNat_bmod val.toBitVec
  have hword := toNat_toUInt16 val
  constructor
  · rw [hlow, hval, Int.bmod_def]
    split_ifs <;> omega
  · rw [UInt16.toNat_toUInt8]
    omega

/-- A ratio is stored as its logarithm exactly when it is a power of two. -/
theorem ratio_stored_iff (val : Int32) :
    (0 < val.toInt ∧
        ((1 <<< (ilog2 val).toUInt32.toUInt8.toNat : ℕ) : ℤ) = val.toInt) ↔
      ∃ exponent < 31, val.toInt = (1 <<< exponent : ℕ) := by
  have hbound := val.toInt_lt
  constructor
  · rintro ⟨-, hpower⟩
    refine ⟨_, ?_, hpower.symm⟩
    by_contra hlarge
    have hmore : 1 <<< 31 ≤ 1 <<< (ilog2 val).toUInt32.toUInt8.toNat := by
      rw [Nat.one_shiftLeft, Nat.one_shiftLeft]
      exact Nat.pow_le_pow_right (by decide) (not_lt.mp hlarge)
    have hvalue : ((1 <<< 31 : ℕ) : ℤ) = 2147483648 := by decide
    omega
  · rintro ⟨exponent, hexponent, hval⟩
    have hpositive : 0 < val.toInt := by
      rw [hval, Nat.one_shiftLeft]
      exact_mod_cast Nat.two_pow_pos exponent
    have hword : val.toUInt32.toNat = 1 <<< exponent := by
      have hsigned := toNat_toUInt32_of_nonneg hpositive.le
      rw [hval] at hsigned
      exact_mod_cast hsigned
    have hnonzero : val ≠ 0 := by
      rintro rfl
      exact absurd hpositive (lt_irrefl 0)
    have hlog : (ilog2 val).toUInt32.toUInt8.toNat = exponent := by
      have hplaces : ∀ places < 31, (Int32.ofNat places).toUInt32.toUInt8.toNat = places := by
        decide
      unfold ilog2
      rw [if_neg hnonzero, hword, Nat.one_shiftLeft, Nat.log2_two_pow]
      exact hplaces exponent hexponent
    rw [hlog]
    exact ⟨hpositive, hval.symm⟩

/-! ### Accepted values -/

/-- The setting that was asked for represents the value: it is the value, and for the duration of
the heater so is the byte in the register of the chip; or it is the exponent of the ratio. -/
def Represents (chan : IioChanType) (val : Int32) (state : SettingsState) : IioWriteInfo → Prop
  | .oversamplingRatio =>
    match chan with
    | .temp => 0 < val.toInt ∧
        ((1 <<< state.settings.oversamplingTemp.toNat : ℕ) : ℤ) = val.toInt
    | .pressure => 0 < val.toInt ∧
        ((1 <<< state.settings.oversamplingPress.toNat : ℕ) : ℤ) = val.toInt
    | .humidityrelative => 0 < val.toInt ∧
        ((1 <<< state.settings.oversamplingHumid.toNat : ℕ) : ℤ) = val.toInt
    | .resistance | .other => False
  | .heaterTemp => (state.settings.heaterTemp.toNat : ℤ) = val.toInt
  | .heaterDur =>
    (state.settings.heaterDur.toNat : ℤ) = val.toInt ∧
      ((state.registers BME680_REG_GAS_WAIT_0).toNat : ℤ) = val.toInt
  | .other => False

/-- The values that a setting can represent: 16 bits for the temperature of the heater, 8 for its
duration, and the powers of two for a ratio. -/
def Representable (val : Int32) : IioWriteInfo → Prop
  | .oversamplingRatio => ∃ exponent < 31, val.toInt = (1 <<< exponent : ℕ)
  | .heaterTemp => 0 ≤ val.toInt ∧ val.toInt ≤ 65535
  | .heaterDur => 0 ≤ val.toInt ∧ val.toInt ≤ 255
  | .other => False

/-- A write that is accepted represents its value, and a value that cannot be represented is
refused. -/
structure WritesExactly (chip : ChipConstants) (outcomes : BusOutcomes) (state : SettingsState)
    (chan : IioChanType) (val : Int32) (mask : IioWriteInfo) : Prop where
  accepted : 0 ≤ (bme680WriteRaw chip outcomes state chan val mask).2 →
    Represents chan val (bme680WriteRaw chip outcomes state chan val mask).1 mask
  refused : ¬ Representable val mask → (bme680WriteRaw chip outcomes state chan val mask).2 < 0

/-- A heater current that is accepted is stored as it is, and one that cannot be is refused. -/
structure StoresExactly (chip : ChipConstants) (outcomes : BusOutcomes) (state : SettingsState)
    (val : Int32) (count : ℕ) : Prop where
  accepted : 0 ≤ (bme680HeaterCurrentStore chip outcomes state (.ok val) count).2 →
    ((bme680HeaterCurrentStore chip outcomes state (.ok val) count).1.settings.preheatCurrMA.toNat :
      ℤ) = val.toInt
  refused : ¬ (0 ≤ val.toInt ∧ val.toInt ≤ 255) →
    (bme680HeaterCurrentStore chip outcomes state (.ok val) count).2 < 0

/-- The register of the heater's duration after the heater was programmed. -/
theorem heaterRegisters_gasWait (chip : ChipConstants) (data : DriverSettings)
    (registers : RegisterFile) :
    heaterRegisters chip data registers BME680_REG_GAS_WAIT_0 = data.heaterDur.toUInt8 := by
  unfold heaterRegisters
  rw [Function.update_of_ne (by decide), Function.update_of_ne (by decide), Function.update_self]

/-- A write whose register accesses succeed represents its value exactly when the value can be
represented. -/
theorem represents_iff (hnot : ¬ Refused chan mask)
    (hsucceed : outcomes.Succeed (accessCount mask)) :
    Represents chan val (bme680WriteRaw chip outcomes state chan val mask).1 mask ↔
      Representable val mask := by
  cases mask with
  | oversamplingRatio =>
    cases chan with
    | temp | pressure | humidityrelative => exact ratio_stored_iff val
    | resistance => exact absurd (Or.inl rfl) hnot
    | other => exact absurd (Or.inr rfl) hnot
  | heaterTemp =>
    change (val.toUInt32.toUInt16.toNat : ℤ) = val.toInt ↔ 0 ≤ val.toInt ∧ val.toInt ≤ 65535
    rw [toNat_toUInt16]
    omega
  | heaterDur =>
    have hwait : (bme680WriteRaw chip outcomes state chan val .heaterDur).1.registers
        BME680_REG_GAS_WAIT_0 = val.toUInt32.toUInt16.toUInt8 := by
      have hthree : outcomes.Succeed 3 := hsucceed
      simp only [bme680WriteRaw, SettingsState.program, bme680SetGasConfig_of_succeed hthree]
      exact heaterRegisters_gasWait _ _ _
    change (val.toUInt32.toUInt16.toNat : ℤ) = val.toInt ∧ (UInt8.toNat _ : ℤ) = val.toInt ↔
      0 ≤ val.toInt ∧ val.toInt ≤ 255
    rw [hwait, toNat_toUInt16, (toNat_toUInt8 val).2]
    omega
  | other => exact absurd trivial hnot

/-- A write represents its value, or is refused, exactly when it is refused for its channel, when
one of its register accesses fails, or when the value can be represented. -/
theorem writesExactly_iff (chip : ChipConstants) (outcomes : BusOutcomes) (state : SettingsState)
    (chan : IioChanType) (val : Int32) (mask : IioWriteInfo) :
    WritesExactly chip outcomes state chan val mask ↔
      Refused chan mask ∨ ¬ outcomes.Succeed (accessCount mask) ∨ Representable val mask := by
  cases hrequest : state.settings.request chan val mask with
  | none =>
    have hwrite := @bme680WriteRaw_of_none chip outcomes state chan val mask hrequest
    have hret : (bme680WriteRaw chip outcomes state chan val mask).2 < 0 := by
      rw [hwrite]
      exact neg_lt_zero.mpr (show (0 : ℤ) < EINVAL by decide)
    exact iff_of_true ⟨fun haccepted ↦ absurd hret (not_lt.mpr haccepted), fun _ ↦ hret⟩
      (Or.inl ((request_eq_none_iff _ _ _ _).mp hrequest))
  | some settings =>
    have hnot := not_refused_of_some hrequest
    have hfails := (@bme680WriteRaw_of_some chip outcomes state chan val mask settings hrequest).2
    rw [or_iff_right hnot]
    by_cases hsucceed : outcomes.Succeed (accessCount mask)
    · have hret : ¬ (bme680WriteRaw chip outcomes state chan val mask).2 < 0 := fun hret ↦
        hfails.mp hret hsucceed
      rw [or_iff_right (not_not.mpr hsucceed), ← represents_iff hnot hsucceed]
      refine ⟨fun hexact ↦ hexact.accepted (not_lt.mp hret), fun hrepresents ↦
        ⟨fun _ ↦ hrepresents, fun hunrepresentable ↦ ?_⟩⟩
      exact absurd ((represents_iff hnot hsucceed).mp hrepresents) hunrepresentable
    · have hret := hfails.mpr hsucceed
      exact iff_of_true ⟨fun haccepted ↦ absurd hret (not_lt.mpr haccepted), fun _ ↦ hret⟩
        (Or.inl hsucceed)

/-- The code and the setting that `bme680_heater_current_store` leaves. -/
theorem bme680HeaterCurrentStore_spec (chip : ChipConstants) (outcomes : BusOutcomes)
    (state : SettingsState) (val : Int32) (count : ℕ) :
    (bme680HeaterCurrentStore chip outcomes state (.ok val) count).1.settings.preheatCurrMA =
        val.toUInt32.toUInt8 ∧
      ((bme680HeaterCurrentStore chip outcomes state (.ok val) count).2 < 0 ↔
        ¬ outcomes.Succeed 3) := by
  have hfails := bme680SetGasConfig_fails_iff chip outcomes
    { state.settings with preheatCurrMA := val.toUInt32.toUInt8 } state.registers
  unfold bme680HeaterCurrentStore SettingsState.program
  dsimp only
  split_ifs with hret
  · exact ⟨rfl, hfails⟩
  · exact ⟨rfl, iff_of_false (not_lt.mpr (Int.natCast_nonneg count)) (hfails.not.mp hret)⟩

/-- Accepted values are represented exactly, on all four paths, as far as they can be represented
or an access to the registers fails. -/
theorem settings_exact_iff (chip : ChipConstants) (outcomes : BusOutcomes)
    (state : SettingsState) (val : Int32) :
    (∀ chan mask, WritesExactly chip outcomes state chan val mask ↔
        Refused chan mask ∨ ¬ outcomes.Succeed (accessCount mask) ∨ Representable val mask) ∧
      ∀ count, StoresExactly chip outcomes state val count ↔
        ¬ outcomes.Succeed 3 ∨ (0 ≤ val.toInt ∧ val.toInt ≤ 255) := by
  refine ⟨fun chan mask ↦ writesExactly_iff chip outcomes state chan val mask, fun count ↦ ?_⟩
  obtain ⟨hstored, hfails⟩ := bme680HeaterCurrentStore_spec chip outcomes state val count
  have hvalue := (toNat_toUInt8 val).1
  rw [← hstored] at hvalue
  by_cases hsucceed : outcomes.Succeed 3
  · have hret := hfails.not.mpr (not_not.mpr hsucceed)
    rw [or_iff_right (not_not.mpr hsucceed)]
    constructor
    · intro hexact
      have haccepted := hexact.accepted (not_lt.mp hret)
      omega
    · intro hrange
      exact ⟨fun _ ↦ by omega, fun hnot ↦ absurd hrange hnot⟩
  · have hret := hfails.mpr hsucceed
    exact iff_of_true ⟨fun haccepted ↦ absurd hret (not_lt.mpr haccepted), fun _ ↦ hret⟩
      (Or.inl hsucceed)

/-- A heater temperature of 65856 is accepted, and stored as 320. -/
theorem heater_temperature_truncated :
    ¬ ∀ chip outcomes state chan val mask, WritesExactly chip outcomes state chan val mask := by
  intro hall
  have haccepted : (320 : ℤ) = 65856 := (hall headerConstants (fun _ ↦ none) probedSettings
    .resistance 65856 .heaterTemp).accepted (by decide)
  exact absurd haccepted (by decide)

end Bme680.Driver
