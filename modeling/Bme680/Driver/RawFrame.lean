import Bme680.SectionOutcome
import Mathlib.Algebra.Order.Ring.Nat
import Mathlib.Logic.Function.Basic
import Mathlib.Tactic.SplitIfs

/-!
# The raw measurement frame of the kernel driver

`bme680_read_raw_data` waits for the end of a conversion, reads fifteen registers in one burst and
cuts five raw values out of it by hand-written offsets. The header's register map says where the
device keeps them (`RawValues`).

The burst begins at the status register, two registers before the pressure, and the offsets count
as if it began at the pressure. So pressure, temperature and humidity are read two registers too
early, and the gas reading four. `bme680ReadRawData_decodes_iff` says on which frames this goes
unnoticed: those that repeat themselves over these distances.
-/

set_option autoImplicit false
set_option relaxedAutoImplicit false

namespace Bme680.Driver

/-! ### The register map -/

def BME680_REG_TEMP_MSB : UInt8 := 0x22
def BME680_REG_TEMP_LSB : UInt8 := 0x23
def BME680_REG_TEMP_XLSB : UInt8 := 0x24
def BME680_REG_PRESS_MSB : UInt8 := 0x1F
def BME680_REG_PRESS_LSB : UInt8 := 0x20
def BME680_REG_PRESS_XLSB : UInt8 := 0x21
def BME680_REG_HUM_MSB : UInt8 := 0x25
def BME680_REG_HUM_LSB : UInt8 := 0x26
def BME680_REG_GAS_R_MSB : UInt8 := 0x2A
def BME680_REG_GAS_R_LSB : UInt8 := 0x2B

/-- `GENMASK(3, 0)`. -/
def BME680_GAS_RANGE_MASK : UInt8 := 0x0F

/-- The driver's `BME680_REG_MEAS_STATUS_0` is the header's `BME680_REG_MEAS_STAT_0`. -/
def BME680_REG_MEAS_STATUS_0 : UInt8 := 0x1D

/-- `BIT(7)`. -/
def BME680_NEW_DATA_MSK : UInt8 := 0x80

/-! ### The state of the driver -/

/-- `struct bme680_calib`. -/
structure Bme680Calib where
  parT1 : UInt16
  parT2 : Int16
  parT3 : Int8
  parP1 : UInt16
  parP2 : Int16
  parP3 : Int8
  parP4 : Int16
  parP5 : Int16
  parP6 : Int8
  parP7 : Int8
  parP8 : Int16
  parP9 : Int16
  parP10 : UInt8
  parH1 : UInt16
  parH2 : UInt16
  parH3 : Int8
  parH4 : Int8
  parH5 : Int8
  parH6 : UInt8
  parH7 : Int8
  parGh1 : Int8
  rangeSwErr : Int8
  deriving DecidableEq

/-- The part of `struct bme680_data` that the measurements read and write. -/
structure Bme680Data where
  bme680 : Bme680Calib
  tempAdc : Int32
  pressureAdc : UInt32
  humidAdc : UInt16
  gasAdc : UInt32
  gasRange : UInt8
  tFine : Int32
  deriving DecidableEq

/-! ### Reading the frame -/

/-- What the register accesses of one measurement find: the return and the value of each read of
the status register, the return of the burst, and the registers at its time. -/
structure RawReads where
  status : ℕ → ℤ × UInt8
  bulkRet : ℤ
  registers : UInt8 → UInt8

/-- The polling loop of `bme680_wait_for_eoc` with a number of tries left, at its next read of the
status register. -/
def waitForEocLoop (status : ℕ → ℤ × UInt8) (attempt : ℕ) : ℕ → ℤ
  | 0 => -ETIMEDOUT
  | tries + 1 =>
    if (status attempt).1 < 0 then (status attempt).1
    else if (status attempt).2 &&& BME680_NEW_DATA_MSK = 0 then 0
    else waitForEocLoop status (attempt + 1) tries

/-- `bme680_wait_for_eoc`. -/
def bme680WaitForEoc (status : ℕ → ℤ × UInt8) : ℤ :=
  waitForEocLoop status 0 10

/-- The buffer a burst read of the registers from `reg` on fills. -/
def regmapBulkRead (registers : UInt8 → UInt8) (reg : UInt8) (offset : ℕ) : UInt8 :=
  registers (reg + UInt8.ofNat offset)

/-- `bme680_read_raw_data`. -/
def bme680ReadRawData (data : Bme680Data) (reads : RawReads) : Bme680Data × ℤ :=
  let ret := bme680WaitForEoc reads.status
  if ret < 0 then (data, ret)
  else if reads.bulkRet < 0 then (data, reads.bulkRet)
  else
    let buf := regmapBulkRead reads.registers BME680_REG_MEAS_STATUS_0
    ({ data with
      pressureAdc := UInt32.ofNat
        ((buf 0).toNat <<< 12 ||| (buf 1).toNat <<< 4 ||| (buf 2).toNat >>> 4)
      tempAdc := Int32.ofNat
        ((buf 3).toNat <<< 12 ||| (buf 4).toNat <<< 4 ||| (buf 5).toNat >>> 4)
      humidAdc := UInt16.ofNat ((buf 6).toNat <<< 8 ||| (buf 7).toNat)
      gasAdc := UInt32.ofNat ((buf 9).toNat <<< 8 ||| (buf 10).toNat)
      gasRange := buf 11 &&& BME680_GAS_RANGE_MASK }, 0)

/-! ### What the register map says -/

/-- The five raw values of a measurement. -/
structure RawValues where
  pressure : ℕ
  temp : ℕ
  humid : ℕ
  gas : ℕ
  gasRange : ℕ
  deriving DecidableEq

/-- The raw values the registers of the header's map hold. -/
def RawValues.ofRegisters (registers : UInt8 → UInt8) : RawValues where
  pressure := (registers BME680_REG_PRESS_MSB).toNat <<< 12 |||
    (registers BME680_REG_PRESS_LSB).toNat <<< 4 ||| (registers BME680_REG_PRESS_XLSB).toNat >>> 4
  temp := (registers BME680_REG_TEMP_MSB).toNat <<< 12 |||
    (registers BME680_REG_TEMP_LSB).toNat <<< 4 ||| (registers BME680_REG_TEMP_XLSB).toNat >>> 4
  humid := (registers BME680_REG_HUM_MSB).toNat <<< 8 ||| (registers BME680_REG_HUM_LSB).toNat
  gas := (registers BME680_REG_GAS_R_MSB).toNat <<< 2 |||
    (registers BME680_REG_GAS_R_LSB).toNat >>> 6
  gasRange := (registers BME680_REG_GAS_R_LSB &&& BME680_GAS_RANGE_MASK).toNat

/-- The raw values of the driver's state are those given. -/
def Bme680Data.Holds (data : Bme680Data) (values : RawValues) : Prop :=
  data.pressureAdc.toNat = values.pressure ∧ data.tempAdc.toInt = values.temp ∧
    data.humidAdc.toNat = values.humid ∧ data.gasAdc.toNat = values.gas ∧
    data.gasRange.toNat = values.gasRange

/-! ### Joined bytes -/

/-- Three bytes joined to a value of twenty bits. -/
theorem join_twenty_bits (msb lsb xlsb : UInt8) :
    msb.toNat <<< 12 ||| lsb.toNat <<< 4 ||| xlsb.toNat >>> 4 =
      msb.toNat * 4096 + lsb.toNat * 16 + xlsb.toNat / 16 := by
  have hlsb := lsb.toNat_lt
  have hxlsb := xlsb.toNat_lt
  have hlow : xlsb.toNat / 16 < 2 ^ 4 := by omega
  have hmiddle : lsb.toNat * 16 + xlsb.toNat / 16 < 2 ^ 12 := by omega
  rw [Nat.or_assoc, Nat.shiftRight_eq_div_pow, ← Nat.shiftLeft_add_eq_or_of_lt hlow,
    Nat.shiftLeft_eq lsb.toNat, ← Nat.shiftLeft_add_eq_or_of_lt hmiddle, Nat.shiftLeft_eq]
  omega

/-- Two bytes joined to a value of sixteen bits. -/
theorem join_sixteen_bits (msb lsb : UInt8) :
    msb.toNat <<< 8 ||| lsb.toNat = msb.toNat * 256 + lsb.toNat := by
  rw [← Nat.shiftLeft_add_eq_or_of_lt lsb.toNat_lt, Nat.shiftLeft_eq]

/-- A byte and the two top bits of another one joined to a value of ten bits. -/
theorem join_ten_bits (msb lsb : UInt8) :
    msb.toNat <<< 2 ||| lsb.toNat >>> 6 = msb.toNat * 4 + lsb.toNat / 64 := by
  have hlsb := lsb.toNat_lt
  have htop : lsb.toNat / 64 < 2 ^ 2 := by omega
  rw [Nat.shiftRight_eq_div_pow, ← Nat.shiftLeft_add_eq_or_of_lt htop, Nat.shiftLeft_eq]

theorem twenty_bits_lt (msb lsb xlsb : UInt8) :
    msb.toNat * 4096 + lsb.toNat * 16 + xlsb.toNat / 16 < 2 ^ 20 := by
  have hmsb := msb.toNat_lt
  have hlsb := lsb.toNat_lt
  have hxlsb := xlsb.toNat_lt
  omega

theorem sixteen_bits_lt (msb lsb : UInt8) : msb.toNat * 256 + lsb.toNat < 2 ^ 16 := by
  have hmsb := msb.toNat_lt
  have hlsb := lsb.toNat_lt
  omega

/-- Two values of twenty bits are equal exactly when the bits of their bytes are. -/
theorem twenty_bits_eq_iff (msb lsb xlsb msb' lsb' xlsb' : UInt8) :
    msb.toNat * 4096 + lsb.toNat * 16 + xlsb.toNat / 16 =
        msb'.toNat * 4096 + lsb'.toNat * 16 + xlsb'.toNat / 16 ↔
      msb = msb' ∧ lsb = lsb' ∧ xlsb.toNat / 16 = xlsb'.toNat / 16 := by
  rw [← UInt8.toNat_inj, ← UInt8.toNat_inj]
  have hlsb := lsb.toNat_lt
  have hlsb' := lsb'.toNat_lt
  have hxlsb := xlsb.toNat_lt
  have hxlsb' := xlsb'.toNat_lt
  omega

/-- Two values of sixteen bits are equal exactly when their bytes are. -/
theorem sixteen_bits_eq_iff (msb lsb msb' lsb' : UInt8) :
    msb.toNat * 256 + lsb.toNat = msb'.toNat * 256 + lsb'.toNat ↔ msb = msb' ∧ lsb = lsb' := by
  rw [← UInt8.toNat_inj, ← UInt8.toNat_inj]
  have hlsb := lsb.toNat_lt
  have hlsb' := lsb'.toNat_lt
  omega

/-- A value of sixteen bits is a value of ten bits exactly when its bytes are those of the latter
with leading zeros. -/
theorem sixteen_bits_eq_ten_bits_iff (msb lsb msb' lsb' : UInt8) :
    msb.toNat * 256 + lsb.toNat = msb'.toNat * 4 + lsb'.toNat / 64 ↔
      msb.toNat = msb'.toNat / 64 ∧ lsb.toNat = msb'.toNat % 64 * 4 + lsb'.toNat / 64 := by
  have hlsb := lsb.toNat_lt
  have hlsb' := lsb'.toNat_lt
  omega

/-! ### The register map loses nothing -/

/-- The raw values fit the registers of the map. -/
def RawValues.InRange (values : RawValues) : Prop :=
  values.pressure < 2 ^ 20 ∧ values.temp < 2 ^ 20 ∧ values.humid < 2 ^ 16 ∧ values.gas < 2 ^ 10 ∧
    values.gasRange < 2 ^ 4

/-- The registers with raw values written at the addresses of the map, the bits around them
cleared. -/
def RawValues.store (values : RawValues) (registers : UInt8 → UInt8) (reg : UInt8) : UInt8 :=
  if reg = BME680_REG_PRESS_MSB then UInt8.ofNat (values.pressure / 4096)
  else if reg = BME680_REG_PRESS_LSB then UInt8.ofNat (values.pressure / 16)
  else if reg = BME680_REG_PRESS_XLSB then UInt8.ofNat (values.pressure * 16)
  else if reg = BME680_REG_TEMP_MSB then UInt8.ofNat (values.temp / 4096)
  else if reg = BME680_REG_TEMP_LSB then UInt8.ofNat (values.temp / 16)
  else if reg = BME680_REG_TEMP_XLSB then UInt8.ofNat (values.temp * 16)
  else if reg = BME680_REG_HUM_MSB then UInt8.ofNat (values.humid / 256)
  else if reg = BME680_REG_HUM_LSB then UInt8.ofNat values.humid
  else if reg = BME680_REG_GAS_R_MSB then UInt8.ofNat (values.gas / 4)
  else if reg = BME680_REG_GAS_R_LSB then UInt8.ofNat (values.gas * 64 + values.gasRange)
  else registers reg

/-- The low nibble of a byte. -/
theorem low_nibble (byte : UInt8) : (byte &&& BME680_GAS_RANGE_MASK).toNat = byte.toNat % 16 := by
  rw [UInt8.toNat_and]
  exact Nat.and_two_pow_sub_one_eq_mod byte.toNat 4

/-- Three bytes that a value of twenty bits is written to join to it. -/
theorem join_split_twenty_bits {value : ℕ} (hvalue : value < 2 ^ 20) :
    (UInt8.ofNat (value / 4096)).toNat * 4096 + (UInt8.ofNat (value / 16)).toNat * 16 +
      (UInt8.ofNat (value * 16)).toNat / 16 = value := by
  rw [UInt8.toNat_ofNat', UInt8.toNat_ofNat', UInt8.toNat_ofNat']
  omega

/-- Raw values that were written are the ones the map finds. -/
theorem RawValues.ofRegisters_store {values : RawValues} (hrange : values.InRange)
    (registers : UInt8 → UInt8) : RawValues.ofRegisters (values.store registers) = values := by
  obtain ⟨hpressure, htemp, hhumid, hgas, hgasRange⟩ := hrange
  have hhum : (UInt8.ofNat (values.humid / 256)).toNat * 256 +
      (UInt8.ofNat values.humid).toNat = values.humid := by
    rw [UInt8.toNat_ofNat', UInt8.toNat_ofNat']
    omega
  have hresistance : (UInt8.ofNat (values.gas / 4)).toNat * 4 +
      (UInt8.ofNat (values.gas * 64 + values.gasRange)).toNat / 64 = values.gas := by
    rw [UInt8.toNat_ofNat', UInt8.toNat_ofNat']
    omega
  have hnibble : (UInt8.ofNat (values.gas * 64 + values.gasRange)).toNat % 16 =
      values.gasRange := by
    rw [UInt8.toNat_ofNat']
    omega
  unfold RawValues.ofRegisters
  rw [join_twenty_bits, join_twenty_bits, join_sixteen_bits, join_ten_bits, low_nibble]
  calc
    _ = RawValues.mk _ _ _ _ _ := rfl
    _ = values := congr (congr (congr (congr (congrArg RawValues.mk
      (join_split_twenty_bits hpressure)) (join_split_twenty_bits htemp)) hhum) hresistance) hnibble

/-! ### What the driver decodes -/

/-- A frame that repeats itself where the offsets of the driver miss the map: the registers of
pressure, temperature and humidity hold what the ones two before them hold, and the gas registers
what the offsets cut out of the humidity and the registers behind it. -/
def RepeatsItself (registers : UInt8 → UInt8) : Prop :=
  (registers 0x1D = registers 0x1F ∧ registers 0x1E = registers 0x20 ∧
    (registers 0x1F).toNat / 16 = (registers 0x21).toNat / 16) ∧
  (registers 0x20 = registers 0x22 ∧ registers 0x21 = registers 0x23 ∧
    (registers 0x22).toNat / 16 = (registers 0x24).toNat / 16) ∧
  (registers 0x23 = registers 0x25 ∧ registers 0x24 = registers 0x26) ∧
  ((registers 0x26).toNat = (registers 0x2A).toNat / 64 ∧
    (registers 0x27).toNat = (registers 0x2A).toNat % 64 * 4 + (registers 0x2B).toNat / 64) ∧
  (registers 0x28).toNat % 16 = (registers 0x2B).toNat % 16

/-- The raw values that the offsets of the driver cut out of a frame. -/
def readByOffsets (registers : UInt8 → UInt8) : RawValues where
  pressure := (registers 0x1D).toNat * 4096 + (registers 0x1E).toNat * 16 +
    (registers 0x1F).toNat / 16
  temp := (registers 0x20).toNat * 4096 + (registers 0x21).toNat * 16 +
    (registers 0x22).toNat / 16
  humid := (registers 0x23).toNat * 256 + (registers 0x24).toNat
  gas := (registers 0x26).toNat * 256 + (registers 0x27).toNat
  gasRange := (registers 0x28).toNat % 16

/-- A measurement that returns zero leaves in the state of the driver what its offsets cut out. -/
theorem bme680ReadRawData_spec {data : Bme680Data} {reads : RawReads}
    (hret : (bme680ReadRawData data reads).2 = 0) :
    (bme680ReadRawData data reads).1.Holds (readByOffsets reads.registers) := by
  unfold bme680ReadRawData at hret ⊢
  dsimp only at hret ⊢
  split_ifs at hret ⊢ with hwait hbulk
  · exact absurd hret hwait.ne
  · exact absurd hret hbulk.ne
  · refine ⟨?_, ?_, ?_, ?_, low_nibble _⟩
    · dsimp only
      rw [join_twenty_bits,
        UInt32.toNat_ofNat_of_lt' ((twenty_bits_lt _ _ _).trans (by decide))]
      rfl
    · dsimp only
      rw [join_twenty_bits,
        Int32.toInt_ofNat_of_lt ((twenty_bits_lt _ _ _).trans (by decide))]
      rfl
    · dsimp only
      rw [join_sixteen_bits, UInt16.toNat_ofNat_of_lt' (sixteen_bits_lt _ _)]
      rfl
    · dsimp only
      rw [join_sixteen_bits,
        UInt32.toNat_ofNat_of_lt' ((sixteen_bits_lt _ _).trans (by decide))]
      rfl

/-- The state of the driver after a measurement holds the raw values of the register map exactly
when the frame repeats itself. -/
theorem holds_ofRegisters_iff {data : Bme680Data} {registers : UInt8 → UInt8}
    (hread : data.Holds (readByOffsets registers)) :
    data.Holds (RawValues.ofRegisters registers) ↔ RepeatsItself registers := by
  obtain ⟨hpressure, htemp, hhumid, hgas, hgasRange⟩ := hread
  unfold Bme680Data.Holds RawValues.ofRegisters RepeatsItself
  dsimp only
  rw [hpressure, htemp, hhumid, hgas, hgasRange, join_twenty_bits, join_twenty_bits,
    join_sixteen_bits, join_ten_bits, low_nibble]
  refine and_congr (twenty_bits_eq_iff _ _ _ _ _ _) (and_congr ?_ (and_congr
    (sixteen_bits_eq_iff _ _ _ _) (and_congr (sixteen_bits_eq_ten_bits_iff _ _ _ _) Iff.rfl)))
  exact Int.ofNat_inj.trans (twenty_bits_eq_iff _ _ _ _ _ _)

/-- After a measurement that returns zero, the state of the driver holds the raw values of the
register map exactly when the frame repeats itself. -/
theorem bme680ReadRawData_decodes_iff {data : Bme680Data} {reads : RawReads}
    (hret : (bme680ReadRawData data reads).2 = 0) :
    (bme680ReadRawData data reads).1.Holds (RawValues.ofRegisters reads.registers) ↔
      RepeatsItself reads.registers :=
  holds_ofRegisters_iff (bme680ReadRawData_spec hret)

/-- Raw values that were written at the addresses of the map come back from a measurement that
returns zero exactly when the frame they were written to repeats itself. -/
theorem bme680ReadRawData_returns_stored_iff {data : Bme680Data} {reads : RawReads}
    {values : RawValues} {registers : UInt8 → UInt8} (hrange : values.InRange)
    (hstored : reads.registers = values.store registers)
    (hret : (bme680ReadRawData data reads).2 = 0) :
    (bme680ReadRawData data reads).1.Holds values ↔ RepeatsItself (values.store registers) := by
  have hread := bme680ReadRawData_spec hret
  rw [hstored] at hread
  have hiff := holds_ofRegisters_iff hread
  rwa [RawValues.ofRegisters_store hrange] at hiff

/-- A state of the driver before its first measurement. -/
def unmeasured : Bme680Data where
  bme680 :=
    { parT1 := 0, parT2 := 0, parT3 := 0, parP1 := 0, parP2 := 0, parP3 := 0, parP4 := 0,
      parP5 := 0, parP6 := 0, parP7 := 0, parP8 := 0, parP9 := 0, parP10 := 0, parH1 := 0,
      parH2 := 0, parH3 := 0, parH4 := 0, parH5 := 0, parH6 := 0, parH7 := 0, parGh1 := 0,
      rangeSwErr := 0 }
  tempAdc := 0
  pressureAdc := 0
  humidAdc := 0
  gasAdc := 0
  gasRange := 0
  tFine := 0

/-- A measurement at once finished, on given registers. -/
def readsOf (registers : UInt8 → UInt8) : RawReads where
  status := fun _ ↦ (0, 0)
  bulkRet := 0
  registers := registers

/-- A frame that repeats itself, from register `0x1D` on. -/
def repeatingFrame (reg : UInt8) : UInt8 :=
  [0x51, 0x02, 0x51, 0x02, 0x5C, 0x02, 0x5C, 0x03, 0x5C, 0x03, 0x55, 0x07, 0x1A, 0xD5, 0x47].getD
    (reg.toNat - 0x1D) 0

/-- That frame is decoded. -/
theorem bme680ReadRawData_decodes_iff_repeating :
    (bme680ReadRawData unmeasured (readsOf repeatingFrame)).1.Holds
      (RawValues.ofRegisters repeatingFrame) :=
  (bme680ReadRawData_decodes_iff rfl).mpr
    ⟨⟨rfl, rfl, rfl⟩, ⟨rfl, rfl, rfl⟩, ⟨rfl, rfl⟩, ⟨rfl, rfl⟩, rfl⟩

/-- A frame whose most significant pressure byte is the only one set. The driver takes the byte for
the least significant one. -/
theorem pressure_read_two_registers_early :
    ¬ ∀ data reads, (bme680ReadRawData data reads).2 = 0 →
      (bme680ReadRawData data reads).1.Holds (RawValues.ofRegisters reads.registers) := by
  intro hall
  have hpressure := (hall unmeasured
    (readsOf fun reg ↦ if reg = BME680_REG_PRESS_MSB then 0x80 else 0) rfl).1
  exact absurd hpressure (by decide)

end Bme680.Driver
