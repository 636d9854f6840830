import Bme680.Driver.RawFrame
import Bme680.FifoData
import Mathlib.Algebra.Field.Basic
import Mathlib.Data.Rat.Cast.Order

/-!
# The sensor reader of the application

`bme680_read_sensor` of `bme680_app.c` reads eight registers in one burst, from the temperature's
first one on, and cuts a temperature, a pressure and a humidity out of them. The kernel driver reads
its own burst and cuts the same values out of that. The two agree on the registers whose contents
repeat themselves over the distances between their offsets (`readers_agree_iff`): two registers for
the temperature, eight for the pressure and five for the humidity.
-/

set_option autoImplicit false
set_option relaxedAutoImplicit false

namespace Bme680.App

open Driver

/-- `bme680_read_sensor`, given the return of `i2c_smbus_read_i2c_block_data` and the registers of
the device. -/
def bme680ReadSensor (blockRet : ℤ) (registers : UInt8 → UInt8) (data : Bme680FifoData) :
    Bme680FifoData × ℤ :=
  if blockRet < 0 then (data, - EIO)
  else
    let buf := regmapBulkRead registers BME680_REG_TEMP_MSB
    ({ temp := (((buf 0).toNat <<< 12 ||| (buf 1).toNat <<< 4 ||| (buf 2).toNat >>> 4 : ℕ) : ℚ) / 16
       pressure := UInt32.ofNat
        ((buf 3).toNat <<< 12 ||| (buf 4).toNat <<< 4 ||| (buf 5).toNat >>> 4)
       humidity := UInt32.ofNat ((buf 6).toNat <<< 8 ||| (buf 7).toNat)
       gasResistance := 0 }, 0)

/-- The two readers have the same raw values: the driver's pressure and humidity, and a sixteenth of
its raw temperature. -/
structure ReadersAgree (sensor : Bme680FifoData) (data : Bme680Data) : Prop where
  pressure : sensor.pressure.toNat = data.pressureAdc.toNat
  humidity : sensor.humidity.toNat = data.humidAdc.toNat
  temp : sensor.temp = (data.tempAdc.toInt : ℚ) / 16

/-- Registers that repeat themselves over the distances between the offsets of the two readers. -/
def RegistersAlike (registers : UInt8 → UInt8) : Prop :=
  (registers 0x25 = registers 0x1D ∧ registers 0x26 = registers 0x1E ∧
    (registers 0x27).toNat / 16 = (registers 0x1F).toNat / 16) ∧
  (registers 0x28 = registers 0x23 ∧ registers 0x29 = registers 0x24) ∧
  (registers 0x22 = registers 0x20 ∧ registers 0x23 = registers 0x21 ∧
    (registers 0x24).toNat / 16 = (registers 0x22).toNat / 16)

/-- What the application cuts out of the registers. -/
theorem bme680ReadSensor_spec {blockRet : ℤ} (hblock : ¬ blockRet < 0)
    (registers : UInt8 → UInt8) (data : Bme680FifoData) :
    let sensor := (bme680ReadSensor blockRet registers data).1
    sensor.pressure.toNat = (registers 0x25).toNat * 4096 + (registers 0x26).toNat * 16 +
        (registers 0x27).toNat / 16 ∧
      sensor.humidity.toNat = (registers 0x28).toNat * 256 + (registers 0x29).toNat ∧
      sensor.temp = (((registers 0x22).toNat * 4096 + (registers 0x23).toNat * 16 +
        (registers 0x24).toNat / 16 : ℕ) : ℚ) / 16 := by
  unfold bme680ReadSensor
  rw [if_neg hblock]
  dsimp only
  rw [join_twenty_bits, join_twenty_bits, join_sixteen_bits,
    UInt32.toNat_ofNat_of_lt' ((twenty_bits_lt _ _ _).trans (by decide)),
    UInt32.toNat_ofNat_of_lt' ((sixteen_bits_lt _ _).trans (by decide))]
  exact ⟨rfl, rfl, rfl⟩

/-- The two readers agree on a frame exactly when the registers repeat themselves over the
distances between their offsets. -/
theorem readers_agree_iff {blockRet : ℤ} {sensor : Bme680FifoData} {data : Bme680Data}
    {reads : RawReads} (hblock : 0 ≤ blockRet) (hret : (bme680ReadRawData data reads).2 = 0) :
    ReadersAgree (bme680ReadSensor blockRet reads.registers sensor).1
        (bme680ReadRawData data reads).1 ↔
      RegistersAlike reads.registers := by
  obtain ⟨hpressure, hhumidity, htemp⟩ :=
    bme680ReadSensor_spec (not_lt.mpr hblock) reads.registers sensor
  obtain ⟨hpressureAdc, htempAdc, hhumidAdc, -⟩ := bme680ReadRawData_spec hret
  have hsixteen : (16 : ℚ) ≠ 0 := by decide
  constructor
  · rintro ⟨hpress, hhumid, hsensor⟩
    rw [hpressure, hpressureAdc] at hpress
    rw [hhumidity, hhumidAdc] at hhumid
    rw [htemp, htempAdc, Int.cast_natCast, div_left_inj' hsixteen, Nat.cast_inj] at hsensor
    exact ⟨(twenty_bits_eq_iff _ _ _ _ _ _).mp hpress, (sixteen_bits_eq_iff _ _ _ _).mp hhumid,
      (twenty_bits_eq_iff _ _ _ _ _ _).mp hsensor⟩
  · rintro ⟨hpress, hhumid, hsensor⟩
    refine ⟨?_, ?_, ?_⟩
    · rw [hpressure, hpressureAdc]
      exact (twenty_bits_eq_iff _ _ _ _ _ _).mpr hpress
    · rw [hhumidity, hhumidAdc]
      exact (sixteen_bits_eq_iff _ _ _ _).mpr hhumid
    · rw [htemp, htempAdc, Int.cast_natCast, div_left_inj' hsixteen, Nat.cast_inj]
      exact (twenty_bits_eq_iff _ _ _ _ _ _).mpr hsensor

/-- A record before its first reading. -/
def unread : Bme680FifoData where
  temp := 0
  pressure := 0
  humidity := 0
  gasResistance := 0

/-- Registers that repeat themselves over the distances, from `0x1D` on. -/
def alikeFrame (reg : UInt8) : UInt8 :=
  [0x51, 0x62, 0x7A, 0x81, 0x37, 0x81, 0x37, 0x85, 0x51, 0x62, 0x74, 0x37, 0x85].getD
    (reg.toNat - 0x1D) 0

/-- The readers agree on those registers. -/
theorem readers_agree_on_alike :
    ReadersAgree (bme680ReadSensor 8 alikeFrame unread).1
      (bme680ReadRawData unmeasured (readsOf alikeFrame)).1 :=
  (@readers_agree_iff 8 unread unmeasured (readsOf alikeFrame) (by decide) rfl).mpr
    ⟨⟨rfl, rfl, rfl⟩, ⟨rfl, rfl⟩, ⟨rfl, rfl, rfl⟩⟩

/-- The application takes its pressure from the registers of the humidity. -/
theorem readers_differ_on_humidity :
    ¬ ∀ blockRet sensor data reads, 0 ≤ blockRet → (bme680ReadRawData data reads).2 = 0 →
      ReadersAgree (bme680ReadSensor blockRet reads.registers sensor).1
        (bme680ReadRawData data reads).1 := by
  intro hall
  have hpressure := (hall 8 unread unmeasured
    (readsOf fun reg ↦ if reg = BME680_REG_HUM_MSB then 0x80 else 0) (by decide) rfl).pressure
  exact absurd hpressure (by decide)

end Bme680.App
