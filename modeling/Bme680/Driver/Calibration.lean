import Bme680.Arithmetic.BitFields
import Bme680.Driver.RawFrame

/-!
# The calibration of the kernel driver

`bme680_read_calib` reads three blocks of bytes and cuts the parameters of `struct bme680_calib` out
of them: words of 16 bits, the low byte first, signed and unsigned bytes, and two parameters of
twelve bits that share byte 1 of the second block, where each keeps its low nibble.

The high byte of `par_h1` is in byte 2, but the driver takes byte 1 a second time. So `par_h1` comes
out right exactly when byte 1 happens to be equal to byte 2, and all the other parameters always
(`bme680ReadCalib_returns_stored_iff`).
-/

set_option autoImplicit false
set_option relaxedAutoImplicit false

namespace Bme680.Driver

open Arithmetic

/-! ### The indexes of the blocks -/

def T2_LSB : ℕ := 0
def T3 : ℕ := 2
def P1_LSB : ℕ := 4
def P2_LSB : ℕ := 6
def P3 : ℕ := 8
def P4_LSB : ℕ := 10
def P5_LSB : ℕ := 12
def P7 : ℕ := 14
def P6 : ℕ := 15
def P8_LSB : ℕ := 18
def P9_LSB : ℕ := 20
def P10 : ℕ := 22

def H2_MSB : ℕ := 0
def H1_LSB : ℕ := 1
def H3 : ℕ := 3
def H4 : ℕ := 4
def H5 : ℕ := 5
def H6 : ℕ := 6
def H7 : ℕ := 7
def T1_LSB : ℕ := 8
def GH2_LSB : ℕ := 10
def GH1 : ℕ := 12
def GH3 : ℕ := 13

def RES_HEAT_VAL : ℕ := 0
def RES_HEAT_RANGE : ℕ := 2
def RANGE_SW_ERR : ℕ := 4

/-! ### Decoding -/

/-- `struct bme680_calib` with the parameters that no measurement uses. -/
structure CalibRecord extends Bme680Calib where
  parGh2 : Int16
  parGh3 : Int8
  resHeatRange : UInt8
  resHeatVal : Int8
  deriving DecidableEq

/-- The bytes of a block. -/
abbrev CalibBlock := ℕ → UInt8

/-- The kernel's `get_unaligned_le16`. -/
def getUnalignedLe16 (buf : CalibBlock) (index : ℕ) : UInt16 :=
  UInt16.ofNat ((buf (index + 1)).toNat <<< 8 ||| (buf index).toNat)

/-- What `bme680_read_calib` stores of the first block. -/
def CalibRecord.withBlock1 (calib : CalibRecord) (buf : CalibBlock) : CalibRecord :=
  { calib with
    parT2 := (getUnalignedLe16 buf T2_LSB).toInt16
    parT3 := (buf T3).toInt8
    parP1 := getUnalignedLe16 buf P1_LSB
    parP2 := (getUnalignedLe16 buf P2_LSB).toInt16
    parP3 := (buf P3).toInt8
    parP4 := (getUnalignedLe16 buf P4_LSB).toInt16
    parP5 := (getUnalignedLe16 buf P5_LSB).toInt16
    parP6 := (buf P6).toInt8
    parP7 := (buf P7).toInt8
    parP8 := (getUnalignedLe16 buf P8_LSB).toInt16
    parP9 := (getUnalignedLe16 buf P9_LSB).toInt16
    parP10 := buf P10 }

/-- What `bme680_read_calib` stores of the second block. -/
def CalibRecord.withBlock2 (calib : CalibRecord) (buf2 : CalibBlock) : CalibRecord :=
  { calib with
    parH2 := UInt16.ofNat ((buf2 H2_MSB).toNat <<< 4 ||| ((buf2 H1_LSB).toNat >>> 4 &&& 0x0F))
    parH1 := UInt16.ofNat ((buf2 H1_LSB).toNat <<< 4 ||| ((buf2 H1_LSB).toNat &&& 0x0F))
    parH3 := (buf2 H3).toInt8
    parH4 := (buf2 H4).toInt8
    parH5 := (buf2 H5).toInt8
    parH6 := buf2 H6
    parH7 := (buf2 H7).toInt8
    parT1 := getUnalignedLe16 buf2 T1_LSB
    parGh2 := (getUnalignedLe16 buf2 GH2_LSB).toInt16
    parGh1 := (buf2 GH1).toInt8
    parGh3 := (buf2 GH3).toInt8 }

/-- What `bme680_read_calib` stores of the third block, by the field of its mask. -/
def CalibRecord.withBlock3 (calib : CalibRecord) (rserrorMask : BitField) (buf3 : CalibBlock) :
    CalibRecord :=
  { calib with
    resHeatVal := (buf3 RES_HEAT_VAL).toInt8
    resHeatRange := rserrorMask.get (buf3 RES_HEAT_RANGE)
    rangeSwErr := (rserrorMask.get (buf3 RANGE_SW_ERR)).toInt8 }

/-- What the three bulk reads of a calibration find: their returns and the blocks. -/
structure CalibReads where
  ret : ℤ
  buf : CalibBlock
  ret2 : ℤ
  buf2 : CalibBlock
  ret3 : ℤ
  buf3 : CalibBlock

/-- `bme680_read_calib`. -/
def bme680ReadCalib (rserrorMask : BitField) (reads : CalibReads) (calib : CalibRecord) :
    CalibRecord × ℤ :=
  if reads.ret < 0 then (calib, reads.ret)
  else
    let calib := calib.withBlock1 reads.buf
    if reads.ret2 < 0 then (calib, reads.ret2)
    else
      let calib := calib.withBlock2 reads.buf2
      if reads.ret3 < 0 then (calib, reads.ret3)
      else (calib.withBlock3 rserrorMask reads.buf3, 0)

/-! ### Storing -/

/-- A word of 16 bits in two bytes, the low one first. -/
def storeLe16 (index : ℕ) (value : UInt16) : List (ℕ × UInt8) :=
  [(index, value.toUInt8), (index + 1, (value >>> 8).toUInt8)]

/-- The parameters of the first block at their indexes. -/
def CalibRecord.bytes1 (record : CalibRecord) : List (ℕ × UInt8) :=
  storeLe16 T2_LSB record.parT2.toUInt16 ++ (T3, record.parT3.toUInt8) ::
  storeLe16 P1_LSB record.parP1 ++ storeLe16 P2_LSB record.parP2.toUInt16 ++
  (P3, record.parP3.toUInt8) :: storeLe16 P4_LSB record.parP4.toUInt16 ++
  storeLe16 P5_LSB record.parP5.toUInt16 ++ (P6, record.parP6.toUInt8) ::
  (P7, record.parP7.toUInt8) :: storeLe16 P8_LSB record.parP8.toUInt16 ++
  storeLe16 P9_LSB record.parP9.toUInt16 ++ [(P10, record.parP10)]

/-- The parameters of the second block at their indexes. Byte 2 is the high byte of `par_h1`, and
byte 1 has the low nibbles of `par_h2` and `par_h1`. -/
def CalibRecord.bytes2 (record : CalibRecord) : List (ℕ × UInt8) :=
  (H2_MSB, UInt8.ofNat (record.parH2.toNat / 16)) ::
  (H1_LSB, UInt8.ofNat (record.parH2.toNat % 16 * 16 + record.parH1.toNat % 16)) ::
  (2, UInt8.ofNat (record.parH1.toNat / 16)) ::
  (H3, record.parH3.toUInt8) :: (H4, record.parH4.toUInt8) :: (H5, record.parH5.toUInt8) ::
  (H6, record.parH6) :: (H7, record.parH7.toUInt8) :: storeLe16 T1_LSB record.parT1 ++
  storeLe16 GH2_LSB record.parGh2.toUInt16 ++
  [(GH1, record.parGh1.toUInt8), (GH3, record.parGh3.toUInt8)]

/-- A block with bytes written to it. -/
def CalibBlock.store (block : CalibBlock) (bytes : List (ℕ × UInt8)) : CalibBlock := fun index ↦
  (bytes.lookup index).getD (block index)

/-- The two parameters of the humidity that share a byte have twelve bits. -/
def CalibRecord.InRange (record : CalibRecord) : Prop :=
  record.parH1.toNat < 4096 ∧ record.parH2.toNat < 4096

/-! ### What is decoded of stored bytes -/

/-- A word that was stored in two bytes comes back. -/
theorem getUnalignedLe16_of_bytes {buf : CalibBlock} {index : ℕ} {value : UInt16}
    (hlow : buf index = value.toUInt8) (hhigh : buf (index + 1) = (value >>> 8).toUInt8) :
    getUnalignedLe16 buf index = value := by
  have hvalue := value.toNat_lt
  have hshift : (value >>> 8).toNat = value.toNat / 256 := by
    rw [UInt16.toNat_shiftRight]
    exact Nat.shiftRight_eq_div_pow value.toNat 8
  refine UInt16.toNat_inj.mp ?_
  rw [getUnalignedLe16, hlow, hhigh, join_sixteen_bits,
    UInt16.toNat_ofNat_of_lt' (sixteen_bits_lt _ _), UInt16.toNat_toUInt8, UInt16.toNat_toUInt8,
    hshift]
  omega

/-- The first block of a record is decoded to its parameters. -/
theorem withBlock1_store (record calib : CalibRecord) (block : CalibBlock) :
    calib.withBlock1 (block.store record.bytes1) =
      { calib with
        parT2 := record.parT2, parT3 := record.parT3, parP1 := record.parP1
        parP2 := record.parP2, parP3 := record.parP3, parP4 := record.parP4
        parP5 := record.parP5, parP6 := record.parP6, parP7 := record.parP7
        parP8 := record.parP8, parP9 := record.parP9, parP10 := record.parP10 } := by
  have hword (index : ℕ) (value : UInt16)
      (hlow : block.store record.bytes1 index = value.toUInt8)
      (hhigh : block.store record.bytes1 (index + 1) = (value >>> 8).toUInt8) :=
    getUnalignedLe16_of_bytes hlow hhigh
  unfold CalibRecord.withBlock1
  rw [hword T2_LSB record.parT2.toUInt16 rfl rfl, hword P1_LSB record.parP1 rfl rfl,
    hword P2_LSB record.parP2.toUInt16 rfl rfl, hword P4_LSB record.parP4.toUInt16 rfl rfl,
    hword P5_LSB record.parP5.toUInt16 rfl rfl, hword P8_LSB record.parP8.toUInt16 rfl rfl,
    hword P9_LSB record.parP9.toUInt16 rfl rfl]
  rfl

/-- A byte and the high nibble of another one joined to a value of twelve bits. -/
theorem join_high_nibble (msb lsb : UInt8) :
    msb.toNat <<< 4 ||| (lsb.toNat >>> 4 &&& 0x0F) = msb.toNat * 16 + lsb.toNat / 16 := by
  have hlsb := lsb.toNat_lt
  have hnibble : lsb.toNat >>> 4 &&& 0x0F = lsb.toNat / 16 := by
    rw [Nat.shiftRight_eq_div_pow]
    refine (Nat.and_two_pow_sub_one_eq_mod _ 4).trans (Nat.mod_eq_of_lt ?_)
    omega
  have hlow : lsb.toNat / 16 < 2 ^ 4 := by omega
  rw [hnibble, ← Nat.shiftLeft_add_eq_or_of_lt hlow, Nat.shiftLeft_eq]

/-- A byte and the low nibble of another one joined to a value of twelve bits. -/
theorem join_low_nibble (msb lsb : UInt8) :
    msb.toNat <<< 4 ||| (lsb.toNat &&& 0x0F) = msb.toNat * 16 + lsb.toNat % 16 := by
  have hnibble : lsb.toNat &&& 0x0F = lsb.toNat % 16 := Nat.and_two_pow_sub_one_eq_mod _ 4
  have hlow : lsb.toNat % 16 < 2 ^ 4 := by omega
  rw [hnibble, ← Nat.shiftLeft_add_eq_or_of_lt hlow, Nat.shiftLeft_eq]

/-- The value that the driver takes for `par_h1`: byte 1 and once more its low nibble. -/
def CalibRecord.misread (record : CalibRecord) : UInt16 :=
  UInt16.ofNat ((record.parH2.toNat % 16 * 16 + record.parH1.toNat % 16) * 16 +
    record.parH1.toNat % 16)

/-- The second block of a record is decoded to its parameters, except for `par_h1`. -/
theorem withBlock2_store {record : CalibRecord} (hrange : record.InRange) (calib : CalibRecord)
    (block : CalibBlock) :
    calib.withBlock2 (block.store record.bytes2) =
      { calib with
        parH1 := record.misread, parH2 := record.parH2, parH3 := record.parH3
        parH4 := record.parH4, parH5 := record.parH5, parH6 := record.parH6
        parH7 := record.parH7, parT1 := record.parT1, parGh1 := record.parGh1
        parGh2 := record.parGh2, parGh3 := record.parGh3 } := by
  obtain ⟨hH1, hH2⟩ := hrange
  have hword (index : ℕ) (value : UInt16)
      (hlow : block.store record.bytes2 index = value.toUInt8)
      (hhigh : block.store record.bytes2 (index + 1) = (value >>> 8).toUInt8) :=
    getUnalignedLe16_of_bytes hlow hhigh
  have hmsb : (block.store record.bytes2 H2_MSB).toNat = record.parH2.toNat / 16 := by
    change (UInt8.ofNat (record.parH2.toNat / 16)).toNat = _
    rw [UInt8.toNat_ofNat']
    omega
  have hlsb : (block.store record.bytes2 H1_LSB).toNat =
      record.parH2.toNat % 16 * 16 + record.parH1.toNat % 16 := by
    change (UInt8.ofNat _).toNat = _
    rw [UInt8.toNat_ofNat']
    omega
  have hsecond : UInt16.ofNat (record.parH2.toNat / 16 * 16 +
      (record.parH2.toNat % 16 * 16 + record.parH1.toNat % 16) / 16) = record.parH2 := by
    rw [show record.parH2.toNat / 16 * 16 +
        (record.parH2.toNat % 16 * 16 + record.parH1.toNat % 16) / 16 = record.parH2.toNat by omega]
    exact UInt16.ofNat_toNat
  have hfirst : UInt16.ofNat ((record.parH2.toNat % 16 * 16 + record.parH1.toNat % 16) * 16 +
      (record.parH2.toNat % 16 * 16 + record.parH1.toNat % 16) % 16) = record.misread :=
    congrArg UInt16.ofNat (by omega)
  unfold CalibRecord.withBlock2
  rw [join_high_nibble, join_low_nibble, hmsb, hlsb, hsecond, hfirst,
    hword T1_LSB record.parT1 rfl rfl, hword GH2_LSB record.parGh2.toUInt16 rfl rfl]
  rfl

/-- The value taken for `par_h1` is the parameter exactly when its high byte is equal to byte 1. -/
theorem misread_eq_iff {record : CalibRecord} (hrange : record.InRange) :
    record.misread = record.parH1 ↔
      record.parH1.toNat / 16 = record.parH2.toNat % 16 * 16 + record.parH1.toNat % 16 := by
  obtain ⟨hH1, -⟩ := hrange
  rw [← UInt16.toNat_inj, CalibRecord.misread, UInt16.toNat_ofNat']
  omega

/-- The two parameters of the humidity that share a byte have twelve bits in every calibration that
is read. -/
theorem inRange_of_read {rserrorMask : BitField} {reads : CalibReads} {calib : CalibRecord}
    (hread : (bme680ReadCalib rserrorMask reads calib).2 = 0) :
    (bme680ReadCalib rserrorMask reads calib).1.InRange := by
  have hmsb := (reads.buf2 H2_MSB).toNat_lt
  have hlsb := (reads.buf2 H1_LSB).toNat_lt
  unfold bme680ReadCalib at hread ⊢
  split_ifs at hread ⊢ with hret hret2 hret3
  · exact absurd hread hret.ne
  · exact absurd hread hret2.ne
  · exact absurd hread hret3.ne
  · unfold CalibRecord.InRange
    dsimp only [CalibRecord.withBlock2, CalibRecord.withBlock3]
    rw [join_high_nibble, join_low_nibble, UInt16.toNat_ofNat', UInt16.toNat_ofNat']
    have hnibble : (reads.buf2 H1_LSB).toNat % 16 < 16 := Nat.mod_lt _ (by decide)
    generalize (reads.buf2 H1_LSB).toNat % 16 = nibble at hnibble ⊢
    omega

/-- A calibration whose blocks hold a record is read as that record, with what the third block has
for the other parameters, exactly when the high byte of its `par_h1` is equal to the byte of the low
nibbles. -/
theorem bme680ReadCalib_returns_stored_iff {record calib : CalibRecord} {reads : CalibReads}
    {rserrorMask : BitField} {block block2 : CalibBlock} (hrange : record.InRange)
    (hbuf : reads.buf = block.store record.bytes1) (hbuf2 : reads.buf2 = block2.store record.bytes2)
    (hreads : 0 ≤ reads.ret ∧ 0 ≤ reads.ret2 ∧ 0 ≤ reads.ret3) :
    bme680ReadCalib rserrorMask reads calib = (record.withBlock3 rserrorMask reads.buf3, 0) ↔
      record.parH1.toNat / 16 = record.parH2.toNat % 16 * 16 + record.parH1.toNat % 16 := by
  obtain ⟨hret, hret2, hret3⟩ := hreads
  rw [← misread_eq_iff hrange]
  unfold bme680ReadCalib
  rw [if_neg (not_lt.mpr hret), if_neg (not_lt.mpr hret2), if_neg (not_lt.mpr hret3), hbuf, hbuf2,
    withBlock1_store, withBlock2_store hrange]
  constructor
  · intro hsame
    exact congrArg (fun result ↦ result.1.parH1) hsame
  · intro hH1
    rw [hH1]
    rfl

/-- A record of a sensor whose `par_h1` is given and whose other parameters are zero. -/
def humidityRecord (parH1 : UInt16) : CalibRecord where
  toBme680Calib := { unmeasured.bme680 with parH1 := parH1 }
  parGh2 := 0
  parGh3 := 0
  resHeatRange := 0
  resHeatVal := 0

/-- The reads of a calibration whose blocks hold a record. -/
def readsOfRecord (record : CalibRecord) : CalibReads where
  ret := 0
  buf := CalibBlock.store (fun _ ↦ 0) record.bytes1
  ret2 := 0
  buf2 := CalibBlock.store (fun _ ↦ 0) record.bytes2
  ret3 := 0
  buf3 := fun _ ↦ 0

/-- The field of a mask of all bits. -/
def wholeByte : BitField where
  shift := 0
  width := 8
  positive := by decide
  fits := by decide

/-- The field of the mask `GENMASK(7, 4)`. -/
def highNibble : BitField where
  shift := 4
  width := 4
  positive := by decide
  fits := by decide

/-- The record of a sensor. The high byte of its `par_h1` is the byte of the low nibbles. -/
def sensorRecord : CalibRecord where
  parT1 := 26041
  parT2 := 26469
  parT3 := 3
  parP1 := 36313
  parP2 := -10342
  parP3 := 88
  parP4 := 6777
  parP5 := -143
  parP6 := 30
  parP7 := 31
  parP8 := -2843
  parP9 := -2651
  parP10 := 29
  parH1 := 972
  parH2 := 595
  parH3 := 7
  parH4 := 45
  parH5 := 20
  parH6 := 120
  parH7 := -100
  parGh1 := -28
  rangeSwErr := 2
  parGh2 := -5969
  parGh3 := 18
  resHeatRange := 1
  resHeatVal := 47

/-- The reads of that record, with the bytes of the third block counting up. -/
def sensorReads : CalibReads :=
  { readsOfRecord sensorRecord with buf3 := fun index ↦ UInt8.ofNat (index + 45) }

/-- The record of the sensor comes back, with what the third block has. -/
theorem bme680ReadCalib_returns_sensor :
    bme680ReadCalib highNibble sensorReads (humidityRecord 0) =
      ({ sensorRecord with resHeatVal := 45, resHeatRange := 2, rangeSwErr := 3 }, 0) :=
  (@bme680ReadCalib_returns_stored_iff sensorRecord (humidityRecord 0) sensorReads highNibble
    (fun _ ↦ 0) (fun _ ↦ 0) ⟨by decide, by decide⟩ rfl rfl (by decide)).mpr rfl

/-- A `par_h1` of 16 has its only bit in byte 2, and is read as zero. -/
theorem high_byte_of_humidity_lost :
    ¬ ∀ (record calib : CalibRecord) (reads : CalibReads) (rserrorMask : BitField)
        (block block2 : CalibBlock), record.InRange → reads.buf = block.store record.bytes1 →
      reads.buf2 = block2.store record.bytes2 → 0 ≤ reads.ret ∧ 0 ≤ reads.ret2 ∧ 0 ≤ reads.ret3 →
      bme680ReadCalib rserrorMask reads calib = (record.withBlock3 rserrorMask reads.buf3, 0) := by
  intro hall
  have hread := hall (humidityRecord 16) (humidityRecord 16) (readsOfRecord (humidityRecord 16))
    wholeByte (fun _ ↦ 0) (fun _ ↦ 0) ⟨by decide, by decide⟩ rfl rfl (by decide)
  have hH1 := congrArg (fun result ↦ result.1.parH1) hread
  exact absurd hH1 (by decide)

end Bme680.Driver
