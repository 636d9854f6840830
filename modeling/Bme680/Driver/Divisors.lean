import Bme680.Driver.ExactCompensation
import Bme680.Driver.ReadRaw

/-!
# Divisions by zero

`calc_pressure` divides by a number that it computes from three parameters of the calibration and
the fine temperature, and `calc_gas_resistance_high` by `par_gh1`. Neither checks its divisor.

The steps to the divisor of the pressure always fit their words, so it is zero exactly when the
formula over the integers is (`calcPressure_eq_none_iff`). Over a history of calls, a reading of the
pressure takes the fine temperature of the calls before it and the handler that of its own frame;
no call of a history divides by zero exactly when, at each of them, the parameters and the
temperature it takes keep the divisors it uses away from zero (`no_division_by_zero_iff`).
-/

set_option autoImplicit false
set_option relaxedAutoImplicit false

namespace Bme680.Driver

open Arithmetic

/-! ### Calls that divide by zero -/

/-- The gas range of a state selects the function for the high range, and it divides by zero. -/
def GasDividesByZero (tables : GasTables) (data : Bme680Data) : Prop :=
  data.gasRange &&& tables.rangeRlMask = 0 ∧
    calcGasResistanceHigh data data.gasAdc.toUInt16 data.gasRange = none

/-- A reading of a channel from the raw values in a state divides by zero. -/
def ChannelDividesByZero (tables : GasTables) (data : Bme680Data) :
    IioChanInfo → IioChanType → Prop
  | .processed, .pressure => calcPressure data data.pressureAdc = none
  | .processed, .resistance => GasDividesByZero tables data
  | _, _ => False

/-- A call in a state divides by zero in `calc_pressure` or `calc_gas_resistance_high`. -/
def DriverCall.DividesByZero (tables : GasTables) (data : Bme680Data) : DriverCall → Prop
  | .readRaw transfers chan mask =>
    ¬ wakeDevice transfers < 0 ∧ ¬ (bme680ReadRawData data transfers.reads).2 < 0 ∧
      ChannelDividesByZero tables (bme680ReadRawData data transfers.reads).1 mask chan
  | .triggerHandler reads =>
    ¬ (bme680ReadRawData data reads).2 < 0 ∧
      ((computeSample tables (bme680ReadRawData data reads).1).2.press = none ∨
        GasDividesByZero tables (computeSample tables (bme680ReadRawData data reads).1).1)

/-- A reading that divides by zero has no result. -/
theorem bme680ReadRaw_eq_none {tables : GasTables} {data : Bme680Data} {transfers : Transfers}
    {chan : IioChanType} {mask : IioChanInfo}
    (hdivides : (DriverCall.readRaw transfers chan mask).DividesByZero tables data) :
    (bme680ReadRaw tables data transfers chan mask).2 = none := by
  obtain ⟨hwake, hread, hchannel⟩ := hdivides
  unfold bme680ReadRaw
  rw [if_neg hwake]
  generalize bme680ReadRawData data transfers.reads = result at hread hchannel ⊢
  obtain ⟨measured, ret⟩ := result
  dsimp only at hread hchannel ⊢
  rw [if_neg hread]
  cases mask with
  | other => exact hchannel.elim
  | processed =>
    cases chan with
    | temp | humidityrelative | other => exact hchannel.elim
    | pressure => exact congrArg (Option.map ReadRawResult.ofThousandths) hchannel
    | resistance =>
      obtain ⟨hrange, hnone⟩ := hchannel
      unfold readChannel calcGasResistance
      rw [if_neg (not_not.mpr hrange), hnone]
      rfl

/-! ### When the divisors are zero -/

/-- The parameters and a fine temperature keep the divisor of the pressure away from zero: `par_p1`
is not zero, and the slope of `par_p2` and `par_p3` is either below -2 ^ 33 or leaves at least
2 ^ 15 for the product with `par_p1`. -/
structure Bme680Calib.PressureDivides (calib : Bme680Calib) (fine : ℤ) : Prop where
  parP1 : calib.parP1 ≠ 0
  slope : slopeFormula calib.parP2.toInt calib.parP3.toInt (fine / 2 - 64000) < -8589934592 ∨
    32768 ≤ (32768 + slopeFormula calib.parP2.toInt calib.parP3.toInt (fine / 2 - 64000) / 262144) *
      calib.parP1.toNat

/-- The divisor of the formula. -/
theorem divisor_ne_zero_iff (calib : Bme680Calib) (fine : ℤ) :
    calib.divisor fine ≠ 0 ↔ calib.PressureDivides fine := by
  unfold Bme680Calib.divisor divisorFormula pressureOffset
  have hzero : calib.parP1 ≠ 0 ↔ (calib.parP1.toNat : ℤ) ≠ 0 := by
    rw [Ne, ← UInt16.toNat_inj, Ne, Int.natCast_eq_zero]
    rfl
  constructor
  · intro hdivisor
    have hparP1 : calib.parP1 ≠ 0 := by
      intro hparP1
      refine hdivisor ?_
      rw [hparP1]
      change _ * (0 : ℤ) / 32768 = 0
      rw [mul_zero]
      rfl
    refine ⟨hparP1, ?_⟩
    -- otherwise the product is from 0 to 32767, and its quotient zero
    by_contra hslope
    obtain ⟨hlow, hhigh⟩ := not_or.mp hslope
    refine hdivisor (Int.ediv_eq_zero_of_lt (mul_nonneg ?_ (Int.natCast_nonneg _))
      (not_le.mp hhigh))
    omega
  · rintro ⟨hparP1, hslope⟩ hdivisor
    have hpositive : 0 < (calib.parP1.toNat : ℤ) :=
      lt_of_le_of_ne (Int.natCast_nonneg _) (hzero.mp hparP1).symm
    rcases hslope with hlow | hhigh
    -- the product of a negative factor is negative, and its quotient at most -1
    · have hnegative := mul_neg_of_neg_of_pos (show 32768 + slopeFormula calib.parP2.toInt
        calib.parP3.toInt (fine / 2 - 64000) / 262144 < 0 by omega) hpositive
      omega
    · omega

/-- `calc_pressure` divides by zero exactly when the divisor of the formula is zero. -/
theorem calcPressure_eq_none_iff {data : Bme680Data} (hfine : FineInRange data.tFine)
    (pressureAdc : UInt32) :
    calcPressure data pressureAdc = none ↔
      ¬ data.bme680.PressureDivides data.tFine.toInt := by
  have hoffset := within_pressureOffset (show Within 2300000 data.tFine.toInt from hfine)
  have hdivisor := toInt_pressureDivisor
    (divisorFits hoffset data.bme680.parP1 data.bme680.parP2 data.bme680.parP3)
  have hword : pressureDivisor data = 0 ↔ data.bme680.divisor data.tFine.toInt = 0 := by
    rw [← hdivisor, ← Int64.toInt_inj]
    rfl
  rw [← divisor_ne_zero_iff, not_not, ← hword, calcPressure_eq]
  split_ifs with hzero
  · exact iff_of_true rfl hzero
  · exact iff_of_false nofun hzero

/-- `calc_gas_resistance_high` divides by zero exactly when `par_gh1` is zero. -/
theorem calcGasResistanceHigh_eq_none_iff (data : Bme680Data) (gasAdc : UInt16)
    (gasRange : UInt8) :
    calcGasResistanceHigh data gasAdc gasRange = none ↔ data.bme680.parGh1 = 0 := by
  have hword : data.bme680.parGh1.toInt32.toUInt32 = 0 ↔ data.bme680.parGh1 = 0 := by
    constructor
    · intro hzero
      have hsigned : data.bme680.parGh1.toInt32 = 0 := congrArg UInt32.toInt32 hzero
      have hvalue := congrArg Int32.toInt hsigned
      rw [Int8.toInt_toInt32] at hvalue
      exact Int8.toInt_inj.mp hvalue
    · intro hzero
      rw [hzero]
      rfl
  rw [← hword]
  unfold calcGasResistanceHigh
  dsimp only
  split_ifs with hzero
  · exact iff_of_true rfl hzero
  · exact iff_of_false nofun hzero

/-! ### The condition on a call -/

/-- The accesses of a measurement succeed. -/
def RawReads.Succeed (reads : RawReads) : Prop :=
  ¬ bme680WaitForEoc reads.status < 0 ∧ ¬ reads.bulkRet < 0

/-- The gas range of a frame selects the function for the high range. -/
def HighRange (tables : GasTables) (registers : UInt8 → UInt8) : Prop :=
  regmapBulkRead registers BME680_REG_MEAS_STATUS_0 11 &&& BME680_GAS_RANGE_MASK &&&
    tables.rangeRlMask = 0

/-- The divisors that a call uses are not zero. A reading of the pressure uses the fine temperature
in the state, and the handler that of its frame. -/
def DriverCall.DivisorsNonzero (tables : GasTables) (data : Bme680Data) : DriverCall → Prop
  | .readRaw transfers chan mask =>
    ¬ wakeDevice transfers < 0 → transfers.reads.Succeed → mask = .processed →
      (chan = .pressure → data.bme680.PressureDivides data.tFine.toInt) ∧
        (chan = .resistance → HighRange tables transfers.reads.registers →
          data.bme680.parGh1 ≠ 0)
  | .triggerHandler reads =>
    reads.Succeed →
      data.bme680.PressureDivides
          (data.bme680.fine (rawTemperature reads.registers).toInt) ∧
        (HighRange tables reads.registers → data.bme680.parGh1 ≠ 0)

/-- A measurement succeeds exactly when its accesses do, and leaves the raw values of its frame. -/
theorem measurement_cases (data : Bme680Data) (reads : RawReads) :
    ((bme680ReadRawData data reads).2 < 0 ∧ ¬ reads.Succeed) ∨
      (bme680ReadRawData data reads = (data.measured reads.registers, 0) ∧ reads.Succeed) := by
  by_cases hwait : bme680WaitForEoc reads.status < 0
  · refine Or.inl ⟨?_, fun hsucceed ↦ hsucceed.1 hwait⟩
    unfold bme680ReadRawData
    dsimp only
    rw [if_pos hwait]
    exact hwait
  · by_cases hbulk : reads.bulkRet < 0
    · refine Or.inl ⟨?_, fun hsucceed ↦ hsucceed.2 hbulk⟩
      unfold bme680ReadRawData
      dsimp only
      rw [if_neg hwait, if_pos hbulk]
      exact hbulk
    · exact Or.inr ⟨measures_of_accesses hwait hbulk data, hwait, hbulk⟩

/-- The function for the high range divides by zero where it is selected and `par_gh1` is zero. -/
theorem gasDividesByZero_iff {tables : GasTables} {data : Bme680Data} {registers : UInt8 → UInt8}
    (hrange : data.gasRange = regmapBulkRead registers BME680_REG_MEAS_STATUS_0 11 &&&
      BME680_GAS_RANGE_MASK) :
    GasDividesByZero tables data ↔ ¬ (HighRange tables registers → data.bme680.parGh1 ≠ 0) := by
  unfold GasDividesByZero HighRange
  rw [calcGasResistanceHigh_eq_none_iff, hrange, Classical.not_imp, not_not]

/-- A reading divides by zero exactly when one of the divisors it uses is zero. -/
theorem readRaw_dividesByZero_iff {tables : GasTables} {data : Bme680Data}
    (hfine : FineInRange data.tFine) (transfers : Transfers) (chan : IioChanType)
    (mask : IioChanInfo) :
    (DriverCall.readRaw transfers chan mask).DividesByZero tables data ↔
      ¬ (DriverCall.readRaw transfers chan mask).DivisorsNonzero tables data := by
  unfold DriverCall.DividesByZero DriverCall.DivisorsNonzero
  rw [Classical.not_imp]
  refine and_congr_right fun _ ↦ ?_
  rcases measurement_cases data transfers.reads with ⟨hfails, hnot⟩ | ⟨hread, hsucceed⟩
  · exact iff_of_false (fun hdivides ↦ hdivides.1 hfails) fun hzero ↦
      hzero fun hsucceed ↦ absurd hsucceed hnot
  · have hpressure := @calcPressure_eq_none_iff (data.measured transfers.reads.registers) hfine
    have hgas := @gasDividesByZero_iff tables (data.measured transfers.reads.registers)
      transfers.reads.registers rfl
    rw [hread, Classical.not_imp]
    cases mask with
    | other => exact iff_of_false (fun hdivides ↦ hdivides.2) fun hzero ↦ hzero.2 nofun
    | processed =>
      cases chan with
      | temp | humidityrelative | other =>
        exact iff_of_false (fun hdivides ↦ hdivides.2) fun hzero ↦
          hzero.2 fun _ ↦ ⟨nofun, nofun⟩
      | pressure =>
        change ¬ (0 : ℤ) < 0 ∧ calcPressure (data.measured transfers.reads.registers) _ = none ↔ _
        rw [hpressure]
        constructor
        · rintro ⟨-, hzero⟩
          exact ⟨hsucceed, fun hmeets ↦ hzero ((hmeets rfl).1 rfl)⟩
        · rintro ⟨-, hnot⟩
          exact ⟨lt_irrefl 0, fun hdivides ↦ hnot fun _ ↦ ⟨fun _ ↦ hdivides, nofun⟩⟩
      | resistance =>
        change ¬ (0 : ℤ) < 0 ∧
          GasDividesByZero tables (data.measured transfers.reads.registers) ↔ _
        rw [hgas]
        constructor
        · rintro ⟨-, hzero⟩
          exact ⟨hsucceed, fun hmeets ↦ hzero ((hmeets rfl).2 rfl)⟩
        · rintro ⟨-, hnot⟩
          exact ⟨lt_irrefl 0, fun hnonzero ↦ hnot fun _ ↦ ⟨nofun, fun _ ↦ hnonzero⟩⟩

/-- The fine temperature of a frame is that of the formula. -/
theorem toInt_fineTemperature (calib : Bme680Calib) (registers : UInt8 → UInt8) :
    (fineTemperature calib (rawTemperature registers)).toInt =
      calib.fine (rawTemperature registers).toInt :=
  toInt_calcTemperature _ (rawTemperature_range registers)

/-- The handler divides by zero exactly when one of the divisors it uses is zero. -/
theorem triggerHandler_dividesByZero_iff (tables : GasTables) (data : Bme680Data)
    (reads : RawReads) :
    (DriverCall.triggerHandler reads).DividesByZero tables data ↔
      ¬ (DriverCall.triggerHandler reads).DivisorsNonzero tables data := by
  unfold DriverCall.DividesByZero DriverCall.DivisorsNonzero
  dsimp only
  rcases measurement_cases data reads with ⟨hfails, hnot⟩ | ⟨hread, hsucceed⟩
  · exact iff_of_false (fun hdivides ↦ hdivides.1 hfails) fun hzero ↦
      hzero fun hsucceed ↦ absurd hsucceed hnot
  · have hpressure := @calcPressure_eq_none_iff (data.measured reads.registers).refreshed
      (fineInRange_frame data.bme680 reads.registers)
    have hgas := @gasDividesByZero_iff tables
      (computeSample tables (data.measured reads.registers)).1 reads.registers rfl
    have hfine := toInt_fineTemperature data.bme680 reads.registers
    rw [hread, Classical.not_imp, (computeSample_eq tables _).1, hpressure, hgas, not_and_or]
    rw [← hfine]
    constructor
    · rintro ⟨-, hzero⟩
      exact ⟨hsucceed, hzero⟩
    · rintro ⟨-, hzero⟩
      exact ⟨lt_irrefl 0, hzero⟩

/-- A call divides by zero exactly when one of the divisors it uses is zero. -/
theorem dividesByZero_iff {tables : GasTables} {data : Bme680Data}
    (hfine : FineInRange data.tFine) (call : DriverCall) :
    call.DividesByZero tables data ↔ ¬ call.DivisorsNonzero tables data := by
  cases call with
  | readRaw transfers chan mask => exact readRaw_dividesByZero_iff hfine transfers chan mask
  | triggerHandler reads => exact triggerHandler_dividesByZero_iff tables data reads

/-! ### Histories -/

/-- Each call of a history has a property in the state that the calls before it leave. -/
def AtEveryCall (tables : GasTables) (calib : Bme680Calib)
    (property : Bme680Data → DriverCall → Prop) (calls : List DriverCall) : Prop :=
  ∀ before call after, calls = before ++ call :: after →
    property (afterCalls tables calib before) call

/-- No call of a history divides by zero exactly when at every call the divisors it uses are not
zero, for the calibration that the driver has read. -/
theorem no_division_by_zero_iff (tables : GasTables) (rserrorMask : BitField) (reads : CalibReads)
    (calib : CalibRecord) (calls : List DriverCall) :
    AtEveryCall tables (bme680ReadCalib rserrorMask reads calib).1.toBme680Calib
        (fun data call ↦ ¬ call.DividesByZero tables data) calls ↔
      AtEveryCall tables (bme680ReadCalib rserrorMask reads calib).1.toBme680Calib
        (fun data call ↦ call.DivisorsNonzero tables data) calls := by
  have hstep (before : List DriverCall) (call : DriverCall) := not_congr (@dividesByZero_iff tables
    _ (afterCalls_fineInRange tables
      (bme680ReadCalib rserrorMask reads calib).1.toBme680Calib before) call)
  constructor
  · intro hnever before call after hcalls
    exact not_not.mp ((hstep before call).mp (hnever before call after hcalls))
  · intro hnonzero before call after hcalls
    exact (hstep before call).mpr (not_not.mpr (hnonzero before call after hcalls))

/-- A reading of the pressure divides by zero on a calibration of zeros. -/
theorem pressure_divides_by_zero :
    ¬ ∀ (tables : GasTables) (rserrorMask : BitField) (reads : CalibReads) (calib : CalibRecord)
        (calls : List DriverCall), (bme680ReadCalib rserrorMask reads calib).2 = 0 →
      AtEveryCall tables (bme680ReadCalib rserrorMask reads calib).1.toBme680Calib
        (fun data call ↦ ¬ call.DividesByZero tables data) calls := by
  intro hall
  have hnever := hall ⟨fun _ ↦ 0, fun _ ↦ 0, 0⟩ wholeByte (readsOfRecord (humidityRecord 0))
    (humidityRecord 0) [.readRaw roomTransfers .pressure .processed] (by decide) [] _ [] rfl
  apply hnever
  rw [dividesByZero_iff (afterCalls_fineInRange _ _ [])]
  intro hnonzero
  have hdivides := (hnonzero (by decide) ⟨by decide, by decide⟩ rfl).1 rfl
  exact hdivides.parP1 (by decide)

end Bme680.Driver
