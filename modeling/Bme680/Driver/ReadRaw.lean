import Bme680.Driver.StepRanges
import Mathlib.Data.List.Induction

/-!
# Processed readings and the history of the driver

`bme680_read_raw` measures a frame and computes one channel of it, `bme680_trigger_handler` measures
a frame and computes all of them. The handler computes the temperature before pressure and humidity,
which read the fine temperature it leaves in the driver's state; a reading of the pressure or the
humidity alone does not compute the temperature, and uses the fine temperature of whichever call
computed one last.

A history is a list of calls after the driver was probed. Two histories lead to the same readings
for every calibration with given temperature parameters and every frame with a given raw
temperature, the readings of the handler among them, exactly when the fine temperature that each of
them leaves agrees with that of the frame in its half and in its scaled value
(`processed_independent_of_history_iff`).
-/

set_option autoImplicit false
set_option relaxedAutoImplicit false

namespace Bme680.Driver

/-! ### The mode of the device -/

/-- `GENMASK(1, 0)`, the header's `BME680_MODE_MSK`. -/
def BME680_MODE_MASK : UInt8 := 0x03
def BME680_MODE_SLEEP : UInt8 := 0
def BME680_MODE_FORCED : UInt8 := 1

/-- What the register accesses of one reading find: the return and the value of the read of the
control register in `bme680_get_mode` and of the one in `bme680_set_mode`, the return of the write
of a value to it, and the accesses of the measurement. -/
structure Transfers where
  getMode : ℤ × UInt8
  setMode : ℤ × UInt8
  writeMode : UInt8 → ℤ
  reads : RawReads

/-- `bme680_get_mode`. -/
def bme680GetMode (read : ℤ × UInt8) : Except ℤ UInt8 :=
  if read.1 < 0 then .error read.1 else .ok (read.2 &&& BME680_MODE_MASK)

/-- `bme680_set_mode`. -/
def bme680SetMode (read : ℤ × UInt8) (write : UInt8 → ℤ) (mode : UInt8) : ℤ :=
  if read.1 < 0 then read.1
  else write ((read.2 &&& ~~~BME680_MODE_MASK) ||| (mode &&& BME680_MODE_MASK))

/-- The part of `bme680_read_raw` that wakes a sleeping device, up to its error. -/
def wakeDevice (transfers : Transfers) : ℤ :=
  match bme680GetMode transfers.getMode with
  | .error ret => ret
  | .ok mode =>
    if mode = BME680_MODE_SLEEP then
      bme680SetMode transfers.setMode transfers.writeMode BME680_MODE_FORCED
    else 0

/-! ### The readings -/

def IIO_VAL_INT : ℤ := 1
def IIO_VAL_INT_PLUS_MICRO : ℤ := 2

/-- The channel types that `bme680_read_raw` tells apart. -/
inductive IioChanType
  | temp
  | pressure
  | humidityrelative
  | resistance
  | other
  deriving DecidableEq, Repr

/-- The masks that `bme680_read_raw` tells apart. -/
inductive IioChanInfo
  | processed
  | other
  deriving DecidableEq, Repr

/-- The return code of `bme680_read_raw` and what it stored for the caller. -/
structure ReadRawResult where
  ret : ℤ
  val : Option Int32
  val2 : Option Int32
  deriving DecidableEq

/-- A reading that stores nothing. -/
def ReadRawResult.failed (ret : ℤ) : ReadRawResult :=
  { ret := ret, val := none, val2 := none }

/-- The reading of a value in thousandths. -/
def ReadRawResult.ofThousandths (value : UInt32) : ReadRawResult where
  ret := IIO_VAL_INT_PLUS_MICRO
  val := some (value / 1000).toInt32
  val2 := some (value % 1000 * 1000).toInt32

/-- The gas resistance by the function its range selects. -/
def calcGasResistance (tables : GasTables) (data : Bme680Data) : Option UInt32 :=
  if data.gasRange &&& tables.rangeRlMask ≠ 0 then
    calcGasResistanceLow tables data data.gasAdc.toUInt16 data.gasRange
  else calcGasResistanceHigh data data.gasAdc.toUInt16 data.gasRange

/-- The switch of `bme680_read_raw` on the mask and the channel. A division by zero leaves it
without a result. -/
def readChannel (tables : GasTables) (data : Bme680Data) :
    IioChanInfo → IioChanType → Bme680Data × Option ReadRawResult
  | .processed, .temp =>
    match calcTemperature data data.tempAdc with
    | (data, temp) =>
      match calcTemperature data data.tempAdc with
      | (data, again) =>
        (data, some {
          ret := IIO_VAL_INT_PLUS_MICRO
          val := some (temp / 10)
          val2 := some (again % 10 * 100000) })
  | .processed, .pressure => (data, (calcPressure data data.pressureAdc).map .ofThousandths)
  | .processed, .humidityrelative =>
    (data, some (.ofThousandths (calcHumidity data data.humidAdc)))
  | .processed, .resistance =>
    (data, (calcGasResistance tables data).map fun gas ↦
      { ret := IIO_VAL_INT, val := some gas.toInt32, val2 := none })
  | .processed, .other | .other, _ => (data, some (.failed (-EINVAL)))

/-- `bme680_read_raw`. -/
def bme680ReadRaw (tables : GasTables) (data : Bme680Data) (transfers : Transfers)
    (chan : IioChanType) (mask : IioChanInfo) : Bme680Data × Option ReadRawResult :=
  if wakeDevice transfers < 0 then (data, some (.failed (wakeDevice transfers)))
  else
    match bme680ReadRawData data transfers.reads with
    | (data, ret) =>
      if ret < 0 then (data, some (.failed ret)) else readChannel tables data mask chan

/-- What `bme680_trigger_handler` computes. A division by zero leaves a value without a result. -/
structure TriggerSample where
  temp : Int32
  press : Option UInt32
  humid : UInt32
  gas : Option UInt32
  deriving DecidableEq

/-- The computations of `bme680_trigger_handler` on a measured frame. -/
def computeSample (tables : GasTables) (data : Bme680Data) : Bme680Data × TriggerSample :=
  match calcTemperature data data.tempAdc with
  | (data, temp) =>
    (data, {
      temp := temp
      press := calcPressure data data.pressureAdc
      humid := calcHumidity data data.humidAdc
      gas := calcGasResistance tables data })

/-- `bme680_trigger_handler`. -/
def bme680TriggerHandler (tables : GasTables) (data : Bme680Data) (reads : RawReads) :
    Bme680Data × Option TriggerSample :=
  match bme680ReadRawData data reads with
  | (data, ret) =>
    if ret < 0 then (data, none)
    else
      match computeSample tables data with
      | (data, sample) => (data, some sample)

/-! ### Histories -/

/-- The calls that measure. -/
inductive DriverCall
  | readRaw (transfers : Transfers) (chan : IioChanType) (mask : IioChanInfo)
  | triggerHandler (reads : RawReads)

/-- The state a call leaves. A division by zero comes after all its changes. -/
def DriverCall.perform (tables : GasTables) (data : Bme680Data) : DriverCall → Bme680Data
  | .readRaw transfers chan mask => (bme680ReadRaw tables data transfers chan mask).1
  | .triggerHandler reads => (bme680TriggerHandler tables data reads).1

/-- The state after the calls of a history, from the cleared state of a probed driver with its
calibration. -/
def afterCalls (tables : GasTables) (calib : Bme680Calib) (calls : List DriverCall) : Bme680Data :=
  calls.foldl (DriverCall.perform tables) (unmeasured.calibrated calib)

/-- The pressure and the humidity that are read from a frame are those that the handler computes
from it. -/
def AsTriggered (tables : GasTables) (data : Bme680Data) (transfers : Transfers) : Prop :=
  ∀ sample, (bme680TriggerHandler tables data transfers.reads).2 = some sample →
    ¬ wakeDevice transfers < 0 →
    (bme680ReadRaw tables data transfers .pressure .processed).2 =
        sample.press.map .ofThousandths ∧
      (bme680ReadRaw tables data transfers .humidityrelative .processed).2 =
        some (.ofThousandths sample.humid)

/-- The processed readings of a frame are the same in two states, and those of the handler. -/
structure HistoryFree (tables : GasTables) (first second : Bme680Data) (transfers : Transfers) :
    Prop where
  agree : ∀ chan, (bme680ReadRaw tables first transfers chan .processed).2 =
    (bme680ReadRaw tables second transfers chan .processed).2
  firstTriggered : AsTriggered tables first transfers
  secondTriggered : AsTriggered tables second transfers

/-- The raw temperature of a frame, as the driver cuts it out. -/
def rawTemperature (registers : UInt8 → UInt8) : Int32 :=
  Int32.ofNat (readByOffsets registers).temp

/-- The fine temperature that `calc_temperature` leaves. -/
def fineTemperature (calib : Bme680Calib) (tempAdc : Int32) : Int32 :=
  (calcTemperature (unmeasured.calibrated calib) tempAdc).1.tFine

/-- A fine temperature agrees with that of a frame in its half and in its scaled value. -/
def Fresh (calib : Bme680Calib) (registers : UInt8 → UInt8) (tFine : Int32) : Prop :=
  tFine.toInt / 2 = (fineTemperature calib (rawTemperature registers)).toInt / 2 ∧
    tempScaled tFine = tempScaled (fineTemperature calib (rawTemperature registers))

/-! ### Measured frames -/

/-- The state a successful measurement of given registers leaves. -/
def Bme680Data.measured (data : Bme680Data) (registers : UInt8 → UInt8) : Bme680Data :=
  let buf := regmapBulkRead registers BME680_REG_MEAS_STATUS_0
  { data with
    pressureAdc := UInt32.ofNat
      ((buf 0).toNat <<< 12 ||| (buf 1).toNat <<< 4 ||| (buf 2).toNat >>> 4)
    tempAdc := rawTemperature registers
    humidAdc := UInt16.ofNat ((buf 6).toNat <<< 8 ||| (buf 7).toNat)
    gasAdc := UInt32.ofNat ((buf 9).toNat <<< 8 ||| (buf 10).toNat)
    gasRange := buf 11 &&& BME680_GAS_RANGE_MASK }

/-- A state with another fine temperature. -/
def Bme680Data.withFine (data : Bme680Data) (tFine : Int32) : Bme680Data :=
  { data with tFine := tFine }

@[simp] theorem withFine_pressureAdc (data : Bme680Data) (tFine : Int32) :
    (data.withFine tFine).pressureAdc = data.pressureAdc :=
  rfl

@[simp] theorem withFine_humidAdc (data : Bme680Data) (tFine : Int32) :
    (data.withFine tFine).humidAdc = data.humidAdc :=
  rfl

@[simp] theorem withFine_bme680 (data : Bme680Data) (tFine : Int32) :
    (data.withFine tFine).bme680 = data.bme680 :=
  rfl

@[simp] theorem withFine_tFine (data : Bme680Data) (tFine : Int32) :
    (data.withFine tFine).tFine = tFine :=
  rfl

@[simp] theorem calibrated_tFine (data : Bme680Data) (calib : Bme680Calib) :
    (data.calibrated calib).tFine = data.tFine :=
  rfl

/-- The raw values after a measurement do not depend on the state before it. -/
theorem measured_eq {first second : Bme680Data} (hcalib : first.bme680 = second.bme680)
    (registers : UInt8 → UInt8) :
    second.measured registers = (first.measured registers).withFine second.tFine := by
  simp only [Bme680Data.measured, Bme680Data.withFine, hcalib]

/-- The measurement succeeds from every state. -/
def Measures (reads : RawReads) : Prop :=
  ∀ data, bme680ReadRawData data reads = (data.measured reads.registers, 0)

/-- A measurement whose accesses succeed. -/
theorem measures_of_accesses {reads : RawReads} (hwait : ¬ bme680WaitForEoc reads.status < 0)
    (hbulk : ¬ reads.bulkRet < 0) : Measures reads := by
  intro data
  refine ((if_neg hwait).trans (if_neg hbulk)).trans ?_
  dsimp only [Bme680Data.measured, rawTemperature, readByOffsets]
  rw [join_twenty_bits (regmapBulkRead _ _ 3)]
  rfl

/-- A measurement fails and leaves every state as it is, or it succeeds. -/
theorem bme680ReadRawData_cases (reads : RawReads) :
    (∃ ret, ret < 0 ∧ ∀ data, bme680ReadRawData data reads = (data, ret)) ∨ Measures reads := by
  by_cases hwait : bme680WaitForEoc reads.status < 0
  · exact Or.inl ⟨_, hwait, fun data ↦ if_pos hwait⟩
  · by_cases hbulk : reads.bulkRet < 0
    · exact Or.inl ⟨_, hbulk, fun data ↦ (if_neg hwait).trans (if_pos hbulk)⟩
    · exact Or.inr (measures_of_accesses hwait hbulk)

/-! ### What one call does -/

/-- The fine temperature that `calc_temperature` leaves depends on the calibration only. -/
theorem calcTemperature_tFine (data : Bme680Data) (tempAdc : Int32) :
    (calcTemperature data tempAdc).1 = data.withFine (fineTemperature data.bme680 tempAdc) :=
  rfl

/-- A reading of a frame that is measured computes the channel. -/
theorem bme680ReadRaw_of_measures (tables : GasTables) {transfers : Transfers}
    (hwake : ¬ wakeDevice transfers < 0) (hmeasures : Measures transfers.reads)
    (data : Bme680Data) (chan : IioChanType) (mask : IioChanInfo) :
    bme680ReadRaw tables data transfers chan mask =
      readChannel tables (data.measured transfers.reads.registers) mask chan := by
  unfold bme680ReadRaw
  rw [if_neg hwake, hmeasures data]
  rfl

/-- The handler computes a sample of a frame that is measured. -/
theorem bme680TriggerHandler_of_measures (tables : GasTables) {reads : RawReads}
    (hmeasures : Measures reads) (data : Bme680Data) :
    bme680TriggerHandler tables data reads =
      ((computeSample tables (data.measured reads.registers)).1,
        some (computeSample tables (data.measured reads.registers)).2) := by
  unfold bme680TriggerHandler
  rw [hmeasures data]
  rfl

/-- A reading fails alike in every state, or its frame is measured. -/
theorem bme680ReadRaw_cases (tables : GasTables) (transfers : Transfers) :
    (∃ ret, ∀ data chan mask,
      bme680ReadRaw tables data transfers chan mask = (data, some (.failed ret))) ∨
      (¬ wakeDevice transfers < 0 ∧ Measures transfers.reads) := by
  by_cases hwake : wakeDevice transfers < 0
  · exact Or.inl ⟨_, fun _ _ _ ↦ if_pos hwake⟩
  · rcases bme680ReadRawData_cases transfers.reads with ⟨ret, hret, hfails⟩ | hmeasures
    · refine Or.inl ⟨ret, fun data chan mask ↦ (if_neg hwake).trans ?_⟩
      rw [hfails data]
      exact if_pos hret
    · exact Or.inr ⟨hwake, hmeasures⟩

/-- The handler computes nothing and leaves every state as it is, or its frame is measured. -/
theorem bme680TriggerHandler_cases (tables : GasTables) (reads : RawReads) :
    (∀ data, bme680TriggerHandler tables data reads = (data, none)) ∨ Measures reads := by
  rcases bme680ReadRawData_cases reads with ⟨ret, hret, hfails⟩ | hmeasures
  · refine Or.inl fun data ↦ ?_
    unfold bme680TriggerHandler
    rw [hfails data]
    exact if_pos hret
  · exact Or.inr hmeasures

/-- A call keeps the fine temperature, or leaves the one of a frame it measured; it keeps the
calibration and does either in every state. -/
theorem perform_cases (tables : GasTables) (call : DriverCall) :
    (∀ data, (call.perform tables data).bme680 = data.bme680) ∧
      ((∀ data, (call.perform tables data).tFine = data.tFine) ∨
        ∃ registers, ∀ data, (call.perform tables data).tFine =
          fineTemperature data.bme680 (rawTemperature registers)) := by
  cases call with
  | readRaw transfers chan mask =>
    rcases bme680ReadRaw_cases tables transfers with ⟨ret, hfails⟩ | ⟨hwake, hmeasures⟩
    · have hsame (data : Bme680Data) :
          (DriverCall.readRaw transfers chan mask).perform tables data = data :=
        congrArg Prod.fst (hfails data chan mask)
      exact ⟨fun data ↦ by rw [hsame], Or.inl fun data ↦ by rw [hsame]⟩
    · unfold DriverCall.perform
      simp only [bme680ReadRaw_of_measures tables hwake hmeasures]
      cases mask with
      | other => exact ⟨fun _ ↦ rfl, Or.inl fun _ ↦ rfl⟩
      | processed =>
        cases chan with
        | temp => exact ⟨fun _ ↦ rfl, Or.inr ⟨transfers.reads.registers, fun _ ↦ rfl⟩⟩
        | pressure | humidityrelative | resistance | other =>
          exact ⟨fun _ ↦ rfl, Or.inl fun _ ↦ rfl⟩
  | triggerHandler reads =>
    rcases bme680TriggerHandler_cases tables reads with hfails | hmeasures
    · have hsame (data : Bme680Data) :
          (DriverCall.triggerHandler reads).perform tables data = data :=
        congrArg Prod.fst (hfails data)
      exact ⟨fun data ↦ by rw [hsame], Or.inl fun data ↦ by rw [hsame]⟩
    · unfold DriverCall.perform
      simp only [bme680TriggerHandler_of_measures tables hmeasures]
      exact ⟨fun _ ↦ rfl, Or.inr ⟨reads.registers, fun _ ↦ rfl⟩⟩

/-! ### What a history leaves -/

/-- The parameters of the temperature determine the fine temperature. -/
theorem fineTemperature_congr {calib other : Bme680Calib} (hsame : other.SameTemperature calib)
    (tempAdc : Int32) : fineTemperature other tempAdc = fineTemperature calib tempAdc :=
  calcTemperature_tFine_congr hsame tempAdc

/-- The raw temperature of a frame has twenty bits. -/
theorem rawTemperature_range (registers : UInt8 → UInt8) :
    0 ≤ (rawTemperature registers).toInt ∧ (rawTemperature registers).toInt < 1048576 := by
  have htwenty := twenty_bits_lt (registers 0x20) (registers 0x21) (registers 0x22)
  have hvalue : (rawTemperature registers).toInt = (readByOffsets registers).temp :=
    Int32.toInt_ofNat_of_lt (htwenty.trans (by decide))
  rw [hvalue]
  exact ⟨Int.natCast_nonneg _, by exact_mod_cast htwenty⟩

/-- The fine temperature of a frame is in range. -/
theorem fineInRange_frame (calib : Bme680Calib) (registers : UInt8 → UInt8) :
    FineInRange (fineTemperature calib (rawTemperature registers)) :=
  fineInRange_calcTemperature _ (rawTemperature_range registers)

/-- A history with one more call. -/
theorem afterCalls_concat (tables : GasTables) (calib : Bme680Calib) (calls : List DriverCall)
    (call : DriverCall) :
    afterCalls tables calib (calls ++ [call]) =
      call.perform tables (afterCalls tables calib calls) := by
  unfold afterCalls
  rw [List.foldl_append]
  rfl

/-- A history keeps the calibration. -/
theorem afterCalls_bme680 (tables : GasTables) (calib : Bme680Calib) (calls : List DriverCall) :
    (afterCalls tables calib calls).bme680 = calib := by
  induction calls using List.reverseRecOn with
  | nil => rfl
  | append_singleton calls call ih =>
    rw [afterCalls_concat, (perform_cases tables call).1, ih]

/-- A history leaves a fine temperature in range. -/
theorem afterCalls_fineInRange (tables : GasTables) (calib : Bme680Calib)
    (calls : List DriverCall) : FineInRange (afterCalls tables calib calls).tFine := by
  induction calls using List.reverseRecOn with
  | nil =>
    change FineInRange 0
    exact ⟨by decide, by decide⟩
  | append_singleton calls call ih =>
    rw [afterCalls_concat]
    rcases (perform_cases tables call).2 with hkeeps | ⟨registers, hleaves⟩
    · rw [hkeeps]
      exact ih
    · rw [hleaves]
      exact fineInRange_frame _ registers

/-- The calibration enters the fine temperature a history leaves with its parameters of the
temperature only. -/
theorem afterCalls_tFine_congr (tables : GasTables) {calib other : Bme680Calib}
    (hsame : other.SameTemperature calib) (calls : List DriverCall) :
    (afterCalls tables other calls).tFine = (afterCalls tables calib calls).tFine := by
  induction calls using List.reverseRecOn with
  | nil => rfl
  | append_singleton calls call ih =>
    rw [afterCalls_concat, afterCalls_concat]
    rcases (perform_cases tables call).2 with hkeeps | ⟨registers, hleaves⟩
    · rw [hkeeps, hkeeps, ih]
    · rw [hleaves, hleaves, afterCalls_bme680, afterCalls_bme680, fineTemperature_congr hsame]

/-! ### The readings of a frame -/

/-- The readings of a frame depend on the fine temperature in the state through its half and its
scaled value. -/
theorem readChannel_withFine (tables : GasTables) (data : Bme680Data) {tFine : Int32}
    (hhalf : data.tFine.toInt / 2 = tFine.toInt / 2)
    (hscaled : tempScaled data.tFine = tempScaled tFine) (chan : IioChanType) :
    (readChannel tables data .processed chan).2 =
      (readChannel tables (data.withFine tFine) .processed chan).2 := by
  cases chan with
  | temp | resistance | other => rfl
  | pressure =>
    have hpressure := @calcPressure_congr data (data.withFine tFine) rfl hhalf data.pressureAdc
    exact congrArg (Option.map ReadRawResult.ofThousandths) hpressure
  | humidityrelative =>
    have hhumidity := @calcHumidity_congr data (data.withFine tFine) rfl hscaled data.humidAdc
    exact congrArg (fun humid ↦ some (ReadRawResult.ofThousandths humid)) hhumidity

/-- The quotient and the remainder by 1000 determine a number, the remainder being far from the end
of the words that hold its multiple. -/
theorem value_of_thousandths {first second : ℕ} (hquotient : first / 1000 = second / 1000)
    (hremainder : first % 1000 * 1000 % 4294967296 = second % 1000 * 1000 % 4294967296) :
    first = second := by
  have hfits (value : ℕ) : value % 1000 * 1000 % 4294967296 = value % 1000 * 1000 :=
    Nat.mod_eq_of_lt (by omega)
  rw [hfits, hfits] at hremainder
  omega

/-- A reading in thousandths determines the value. -/
theorem ofThousandths_injective : Function.Injective ReadRawResult.ofThousandths := by
  intro first second hsame
  have hval : first / 1000 = second / 1000 :=
    congrArg Int32.toUInt32 (Option.some.inj (congrArg ReadRawResult.val hsame))
  have hval2 : first % 1000 * 1000 = second % 1000 * 1000 :=
    congrArg Int32.toUInt32 (Option.some.inj (congrArg ReadRawResult.val2 hsame))
  rw [← UInt32.toNat_inj, UInt32.toNat_div, UInt32.toNat_div] at hval
  rw [← UInt32.toNat_inj, UInt32.toNat_mul, UInt32.toNat_mul, UInt32.toNat_mod,
    UInt32.toNat_mod] at hval2
  exact UInt32.toNat_inj.mp (value_of_thousandths hval hval2)

/-- The state `calc_temperature` leaves in a measured frame. -/
def Bme680Data.refreshed (data : Bme680Data) : Bme680Data :=
  data.withFine (fineTemperature data.bme680 data.tempAdc)

/-- The handler computes pressure and humidity with the fine temperature of the frame. -/
theorem computeSample_eq (tables : GasTables) (data : Bme680Data) :
    (computeSample tables data).2.press = calcPressure data.refreshed data.pressureAdc ∧
      (computeSample tables data).2.humid = calcHumidity data.refreshed data.humidAdc := by
  have hafter := calcTemperature_tFine data data.tempAdc
  unfold computeSample
  generalize calcTemperature data data.tempAdc = result at hafter ⊢
  obtain ⟨after, temp⟩ := result
  obtain rfl : after = data.refreshed := hafter
  dsimp only
  rw [Bme680Data.refreshed, withFine_pressureAdc, withFine_humidAdc]
  exact ⟨Eq.refl _, Eq.refl _⟩

/-- On a frame that is measured, the readings are the handler's exactly when pressure and humidity
are the same with the fine temperature of the frame in the state. -/
theorem asTriggered_iff {tables : GasTables} {transfers : Transfers} {data frame : Bme680Data}
    (hwake : ¬ wakeDevice transfers < 0) (hmeasures : Measures transfers.reads)
    (hframe : data.measured transfers.reads.registers = frame) :
    AsTriggered tables data transfers ↔
      calcPressure frame frame.pressureAdc = calcPressure frame.refreshed frame.pressureAdc ∧
        calcHumidity frame frame.humidAdc = calcHumidity frame.refreshed frame.humidAdc := by
  have hpress := (computeSample_eq tables frame).1
  have hhumid := (computeSample_eq tables frame).2
  have hreadPressure : (readChannel tables frame .processed .pressure).2 =
      (calcPressure frame frame.pressureAdc).map .ofThousandths := rfl
  have hreadHumidity : (readChannel tables frame .processed .humidityrelative).2 =
      some (.ofThousandths (calcHumidity frame frame.humidAdc)) := rfl
  unfold AsTriggered
  rw [bme680TriggerHandler_of_measures tables hmeasures,
    bme680ReadRaw_of_measures tables hwake hmeasures,
    bme680ReadRaw_of_measures tables hwake hmeasures, hframe, hreadPressure, hreadHumidity,
    ← hpress, ← hhumid]
  constructor
  · intro hreadings
    obtain ⟨hpressure, hhumidity⟩ := hreadings _ rfl hwake
    exact ⟨Option.map_injective ofThousandths_injective hpressure,
      ofThousandths_injective (Option.some.inj hhumidity)⟩
  · rintro ⟨hpressure, hhumidity⟩ sample hsample -
    obtain rfl := Option.some.inj hsample
    rw [hpressure, hhumidity]
    exact ⟨rfl, rfl⟩

/-- Where the fine temperature in the state agrees with that of the frame, the readings are the
handler's. -/
theorem asTriggered_of_fresh {tables : GasTables} {transfers : Transfers} {data : Bme680Data}
    (hfresh : Fresh data.bme680 transfers.reads.registers data.tFine) :
    AsTriggered tables data transfers := by
  intro sample hsample hwake
  rcases bme680TriggerHandler_cases tables transfers.reads with hfails | hmeasures
  · rw [hfails] at hsample
    exact absurd hsample.symm (Option.some_ne_none _)
  · have hcalib : (data.measured transfers.reads.registers).bme680 =
        (data.measured transfers.reads.registers).refreshed.bme680 :=
      (withFine_bme680 _ _).symm
    exact (asTriggered_iff hwake hmeasures rfl).mpr
      ⟨calcPressure_congr hcalib hfresh.1 _, calcHumidity_congr hcalib hfresh.2 _⟩
      sample hsample hwake

/-- Two states with a calibration and fine temperatures that agree with that of the frame have the
same readings. -/
theorem historyFree_of_fresh {tables : GasTables} {transfers : Transfers}
    {first second : Bme680Data} (hcalib : first.bme680 = second.bme680)
    (hfirst : Fresh first.bme680 transfers.reads.registers first.tFine)
    (hsecond : Fresh second.bme680 transfers.reads.registers second.tFine) :
    HistoryFree tables first second transfers where
  agree := fun chan ↦ by
    rcases bme680ReadRaw_cases tables transfers with ⟨ret, hfails⟩ | ⟨hwake, hmeasures⟩
    · rw [hfails, hfails]
    · rw [bme680ReadRaw_of_measures tables hwake hmeasures,
        bme680ReadRaw_of_measures tables hwake hmeasures, measured_eq hcalib]
      rw [← hcalib] at hsecond
      exact readChannel_withFine tables (first.measured transfers.reads.registers)
        (hfirst.1.trans hsecond.1.symm) (hfirst.2.trans hsecond.2.symm) chan
  firstTriggered := asTriggered_of_fresh hfirst
  secondTriggered := asTriggered_of_fresh hsecond

/-! ### Probing frames -/

/-- A frame with the raw humidity 5120. -/
def probeFrame (registers : UInt8 → UInt8) (reg : UInt8) : UInt8 :=
  if reg = 0x23 then 0x14 else if reg = 0x24 then 0 else registers reg

/-- The accesses of a reading of a probing frame, from a device that is awake. -/
def probeTransfers (registers : UInt8 → UInt8) : Transfers where
  getMode := (0, BME680_MODE_FORCED)
  setMode := (0, 0)
  writeMode := fun _ ↦ 0
  reads := readsOf (probeFrame registers)

/-- A probing frame keeps the raw temperature. -/
theorem rawTemperature_probeFrame (registers : UInt8 → UInt8) :
    rawTemperature (probeFrame registers) = rawTemperature registers := by
  simp [rawTemperature, readByOffsets, probeFrame]

/-- The raw humidity of a probing frame. -/
theorem humidAdc_probeFrame (data : Bme680Data) (registers : UInt8 → UInt8) :
    (data.measured (probeFrame registers)).humidAdc = 5120 := by
  simp [Bme680Data.measured, regmapBulkRead, probeFrame, BME680_REG_MEAS_STATUS_0]

/-- A probing frame is measured. -/
theorem measures_probe (registers : UInt8 → UInt8) : Measures (probeTransfers registers).reads :=
  measures_of_accesses (by change ¬ bme680WaitForEoc (fun _ ↦ (0, 0)) < 0; decide)
    (by change ¬ (0 : ℤ) < 0; decide)

/-- A device that is awake is not woken. -/
theorem not_wakeDevice_probe (registers : UInt8 → UInt8) :
    ¬ wakeDevice (probeTransfers registers) < 0 := by
  have hawake : wakeDevice (probeTransfers registers) = 0 := by
    simp only [wakeDevice, bme680GetMode, probeTransfers, lt_irrefl, if_false]
    exact if_neg (by decide)
  rw [hawake]
  exact lt_irrefl 0

/-! ### When readings do not depend on the history -/

/-- The frames with a raw temperature are read as the handler reads them after a history, for every
calibration with given parameters of the temperature. -/
def AlwaysAsTriggered (tables : GasTables) (calib : Bme680Calib) (registers : UInt8 → UInt8)
    (calls : List DriverCall) : Prop :=
  ∀ other : Bme680Calib, other.SameTemperature calib → ∀ transfers : Transfers,
    rawTemperature transfers.reads.registers = rawTemperature registers →
    AsTriggered tables (afterCalls tables other calls) transfers

/-- The calibration and the fine temperature determine pressure and humidity. -/
theorem compensated_congr {first second : Bme680Data} (hcalib : first.bme680 = second.bme680)
    (hfine : first.tFine = second.tFine) (pressureAdc : UInt32) (humidAdc : UInt16) :
    calcPressure first pressureAdc = calcPressure second pressureAdc ∧
      calcHumidity first humidAdc = calcHumidity second humidAdc := by
  constructor
  · exact calcPressure_congr hcalib (by rw [hfine]) pressureAdc
  · exact calcHumidity_congr hcalib (by rw [hfine]) humidAdc

/-- What a probing frame says about the state after a history. -/
theorem probed_agree {tables : GasTables} {calib : Bme680Calib} {registers : UInt8 → UInt8}
    {calls : List DriverCall} (halways : AlwaysAsTriggered tables calib registers calls)
    {other : Bme680Calib} (hother : other.SameTemperature calib) {stale fresh : Bme680Data}
    (hstale : stale.tFine = (afterCalls tables calib calls).tFine)
    (hfresh : fresh.tFine = fineTemperature calib (rawTemperature registers)) :
    calcPressure (stale.calibrated other) (unmeasured.measured (probeFrame registers)).pressureAdc =
        calcPressure (fresh.calibrated other)
          (unmeasured.measured (probeFrame registers)).pressureAdc ∧
      calcHumidity (stale.calibrated other) 5120 = calcHumidity (fresh.calibrated other) 5120 := by
  have hreadings := (asTriggered_iff (not_wakeDevice_probe registers) (measures_probe registers)
    rfl).mp (halways other hother (probeTransfers registers) (rawTemperature_probeFrame registers))
  obtain ⟨frame, hframe⟩ : ∃ frame, (afterCalls tables other calls).measured
    (probeTransfers registers).reads.registers = frame := ⟨_, rfl⟩
  rw [hframe] at hreadings
  have hcalib : frame.bme680 = other := by
    rw [← hframe]
    exact afterCalls_bme680 tables other calls
  have hfine : frame.tFine = stale.tFine := by
    rw [← hframe, hstale]
    exact afterCalls_tFine_congr tables hother calls
  have htempAdc : frame.tempAdc = rawTemperature registers := by
    rw [← hframe]
    exact rawTemperature_probeFrame registers
  have hrefreshed : frame.refreshed.tFine = fresh.tFine := by
    rw [Bme680Data.refreshed, withFine_tFine, hcalib, htempAdc, hfresh,
      fineTemperature_congr hother]
  have hrefreshedCalib : frame.refreshed.bme680 = other := (withFine_bme680 _ _).trans hcalib
  have hpressureAdc : frame.pressureAdc =
      (unmeasured.measured (probeFrame registers)).pressureAdc := by
    rw [← hframe]
    rfl
  have hhumidAdc : frame.humidAdc = 5120 := by
    rw [← hframe]
    exact humidAdc_probeFrame _ registers
  rw [hpressureAdc, hhumidAdc] at hreadings
  have hstaleFine : (stale.calibrated other).tFine = frame.tFine := by
    rw [hfine, calibrated_tFine]
  have hfreshFine : frame.refreshed.tFine = (fresh.calibrated other).tFine := by
    rw [hrefreshed, calibrated_tFine]
  have hbefore := @compensated_congr (stale.calibrated other) frame hcalib.symm hstaleFine
    (unmeasured.measured (probeFrame registers)).pressureAdc 5120
  have hafter := @compensated_congr frame.refreshed (fresh.calibrated other) hrefreshedCalib
    hfreshFine (unmeasured.measured (probeFrame registers)).pressureAdc 5120
  exact ⟨(hbefore.1.trans hreadings.1).trans hafter.1, (hbefore.2.trans hreadings.2).trans hafter.2⟩

/-- If the frames with a raw temperature are always read as the handler reads them, the history
leaves a fine temperature that agrees with theirs. -/
theorem fresh_of_alwaysAsTriggered {tables : GasTables} {calib : Bme680Calib}
    {registers : UInt8 → UInt8} {calls : List DriverCall}
    (halways : AlwaysAsTriggered tables calib registers calls) :
    Fresh calib registers (afterCalls tables calib calls).tFine := by
  obtain ⟨stale, hstale⟩ : ∃ stale : Bme680Data,
    stale.tFine = (afterCalls tables calib calls).tFine := ⟨_, rfl⟩
  obtain ⟨fresh, hfresh⟩ : ∃ fresh : Bme680Data,
    fresh.tFine = fineTemperature calib (rawTemperature registers) :=
      ⟨unmeasured.withFine _, withFine_tFine _ _⟩
  have hstaleRange : ScaledInRange stale.tFine := by
    rw [hstale]
    exact (afterCalls_fineInRange tables calib calls).scaled
  have hfreshRange : ScaledInRange fresh.tFine := by
    rw [hfresh]
    exact (fineInRange_frame calib registers).scaled
  have hpressure (divisor : UInt16) := (@probed_agree tables calib registers calls halways
    (probePressure calib divisor) ⟨rfl, rfl, rfl⟩ stale fresh hstale hfresh).1
  have hhumidity (offset : UInt16) := (@probed_agree tables calib registers calls halways
    (probeHumidity calib offset) ⟨rfl, rfl, rfl⟩ stale fresh hstale hfresh).2
  have hhalf := half_of_pressures_eq hpressure
  have hscaled := tempScaled_of_humidities_eq hstaleRange hfreshRange hhumidity
  rw [hstale, hfresh] at hhalf hscaled
  exact ⟨hhalf, hscaled⟩

/-- Freshness depends on the parameters of the temperature and the raw temperature only. -/
theorem Fresh.congr {calib other : Bme680Calib} {registers frame : UInt8 → UInt8} {tFine : Int32}
    (hother : other.SameTemperature calib)
    (hframe : rawTemperature frame = rawTemperature registers)
    (hfresh : Fresh calib registers tFine) : Fresh other frame tFine := by
  unfold Fresh at hfresh ⊢
  rwa [hframe, fineTemperature_congr hother]

/-- Two histories lead to the same processed readings, and to those of the handler, for every
calibration with given parameters of the temperature and every frame with a given raw temperature,
exactly when each of them leaves a fine temperature that agrees with that of the frame in its half
and in its scaled value. -/
theorem processed_independent_of_history_iff (tables : GasTables) (calib : Bme680Calib)
    (registers : UInt8 → UInt8) (firstCalls secondCalls : List DriverCall) :
    (∀ other : Bme680Calib, other.SameTemperature calib → ∀ transfers : Transfers,
        rawTemperature transfers.reads.registers = rawTemperature registers →
        HistoryFree tables (afterCalls tables other firstCalls)
          (afterCalls tables other secondCalls) transfers) ↔
      Fresh calib registers (afterCalls tables calib firstCalls).tFine ∧
        Fresh calib registers (afterCalls tables calib secondCalls).tFine := by
  constructor
  · intro hfree
    exact ⟨fresh_of_alwaysAsTriggered fun other hother transfers hframe ↦
        (hfree other hother transfers hframe).firstTriggered,
      fresh_of_alwaysAsTriggered fun other hother transfers hframe ↦
        (hfree other hother transfers hframe).secondTriggered⟩
  · rintro ⟨hfirst, hsecond⟩ other hother transfers hframe
    have hcalib (calls : List DriverCall) := afterCalls_bme680 tables other calls
    refine historyFree_of_fresh ((hcalib firstCalls).trans (hcalib secondCalls).symm) ?_ ?_
    · rw [hcalib, afterCalls_tFine_congr tables hother]
      exact hfirst.congr hother hframe
    · rw [hcalib, afterCalls_tFine_congr tables hother]
      exact hsecond.congr hother hframe

/-- A sensor's calibration. -/
def sensorCalib : Bme680Calib where
  parT1 := 26041
  parT2 := 26469
  parT3 := 3
  parP1 := 36673
  parP2 := -10515
  parP3 := 88
  parP4 := 7310
  parP5 := -129
  parP6 := 30
  parP7 := 46
  parP8 := -3177
  parP9 := -2379
  parP10 := 30
  parH1 := 795
  parH2 := 1024
  parH3 := 0
  parH4 := 45
  parH5 := 20
  parH6 := 120
  parH7 := -100
  parGh1 := -30
  rangeSwErr := 0

/-- A frame at room temperature. -/
def roomFrame (reg : UInt8) : UInt8 :=
  if reg = 0x1D then 0x5A else if reg = 0x20 then 0x7A else if reg = 0x23 then 0x50 else 0

/-- A reading of the frame from a device that is awake. -/
def roomTransfers : Transfers where
  getMode := (0, BME680_MODE_FORCED)
  setMode := (0, 0)
  writeMode := fun _ ↦ 0
  reads := readsOf roomFrame

/-- The readings depend on the history: the pressure that is read first after the probe is another
one than after a reading of the temperature of the same frame. -/
theorem first_pressure_reading_is_stale :
    ¬ ∀ (tables : GasTables) (calib : Bme680Calib) (firstCalls secondCalls : List DriverCall)
        (transfers : Transfers),
      HistoryFree tables (afterCalls tables calib firstCalls)
        (afterCalls tables calib secondCalls) transfers := by
  intro halways
  have hpressure := (halways ⟨fun _ ↦ 0, fun _ ↦ 0, 0⟩ sensorCalib []
    [.readRaw roomTransfers .temp .processed] roomTransfers).agree .pressure
  revert hpressure
  decide +kernel

end Bme680.Driver
