import Bme680.Concurrency.TransitionSystem
import Mathlib.Algebra.Order.Group.Int
import Mathlib.Logic.Function.Basic
import Mathlib.Tactic.SplitIfs

/-!
# The page cache of the SPI driver

Over SPI a register address has seven bits, and a page bit of the device's status register selects
the half of the register file they address. The driver caches the page it selected last and
rewrites the status register when an access needs the other one.

The device here is its register file with the status register in it. A transfer succeeds, or fails
with or without having taken effect. States record the register every data transfer asked for and
the one it addressed.

The cache is right unless a status write fails after it took effect: the device has then changed
its page, and the driver returns without changing its cache. That is harmless while the cache is
undefined, and misdirects the next access to the cached page otherwise (`spi_pages_exact`).
-/

set_option autoImplicit false
set_option relaxedAutoImplicit false

namespace Bme680.Driver

open Concurrency

def BME680_REG_SOFT_RESET : UInt8 := 0xE0
def BME680_CMD_SOFTRESET : UInt8 := 0xB6
def BME680_REG_STATUS : UInt8 := 0x73

/-- Bit 4 of the status register. -/
def BME680_SPI_MEM_PAGE_BIT : UInt8 := 0x10

/-! ### The device -/

/-- The register file of the device. -/
abbrev RegisterFile := UInt8 → UInt8

/-- The page the device has selected: 1 is the low half of the registers, 0 the high one. -/
def RegisterFile.page (registers : RegisterFile) : UInt8 :=
  if registers BME680_REG_STATUS &&& BME680_SPI_MEM_PAGE_BIT ≠ 0 then 1 else 0

/-- The register that the seven bits of an address denote on the selected page. -/
def RegisterFile.denoted (registers : RegisterFile) (address : UInt8) : UInt8 :=
  if registers.page ≠ 0 then address &&& 0x7F else address ||| 0x80

/-- The registers after a write to one of them. The soft reset command clears the page bit. -/
def RegisterFile.write (registers : RegisterFile) (reg value : UInt8) : RegisterFile :=
  if reg = BME680_REG_SOFT_RESET ∧ value = BME680_CMD_SOFTRESET then
    Function.update registers BME680_REG_STATUS
      (registers BME680_REG_STATUS &&& ~~~BME680_SPI_MEM_PAGE_BIT)
  else Function.update registers reg value

/-- How a transfer ends: the code it returns, and whether it took effect where the code is an
error. -/
structure SpiOutcome where
  ret : ℤ
  tookEffect : Bool

/-- A transfer that does not fail takes effect. -/
def SpiOutcome.Effective (outcome : SpiOutcome) : Prop :=
  0 ≤ outcome.ret ∨ outcome.tookEffect = true

instance : DecidablePred SpiOutcome.Effective := fun _ ↦ inferInstanceAs (Decidable (_ ∨ _))

/-! ### The bus functions -/

/-- The cached page, the device, and the data transfers of the run so far: the register each asked
for and the one it addressed. -/
structure SpiState where
  currentPage : UInt8
  registers : RegisterFile
  transfers : List (UInt8 × UInt8)

/-- The page of a register. -/
def pageOf (reg : UInt8) : UInt8 :=
  if reg &&& 0x80 ≠ 0 then 0 else 1

/-- The status byte with a page selected in it. -/
def selectIn (page status : UInt8) : UInt8 :=
  if page ≠ 0 then status ||| BME680_SPI_MEM_PAGE_BIT else status &&& ~~~BME680_SPI_MEM_PAGE_BIT

/-- `bme680_regmap_spi_select_page`, given how its read and its write of the status register
end. -/
def bme680RegmapSpiSelectPage (state : SpiState) (reg : UInt8)
    (statusRead statusWrite : SpiOutcome) : SpiState × ℤ :=
  let page := pageOf reg
  if page = state.currentPage then (state, 0)
  else if statusRead.ret < 0 then (state, statusRead.ret)
  else
    let registers :=
      if statusWrite.Effective then
        state.registers.write BME680_REG_STATUS
          (selectIn page (state.registers BME680_REG_STATUS))
      else state.registers
    if statusWrite.ret < 0 then ({ state with registers := registers }, statusWrite.ret)
    else ({ state with registers := registers, currentPage := page }, 0)

/-- The state with a data transfer for a register noted. -/
def SpiState.transfer (state : SpiState) (reg address : UInt8) : SpiState :=
  { state with transfers := (reg, state.registers.denoted address) :: state.transfers }

/-- `bme680_regmap_spi_write` of the two bytes of its buffer. -/
def bme680RegmapSpiWrite (state : SpiState) (reg value : UInt8)
    (statusRead statusWrite data : SpiOutcome) : SpiState × ℤ :=
  let selected := bme680RegmapSpiSelectPage state reg statusRead statusWrite
  if selected.2 ≠ 0 then selected
  else
    let address := reg &&& ~~~0x80
    let registers :=
      if data.Effective then
        selected.1.registers.write (selected.1.registers.denoted address) value
      else selected.1.registers
    ({ selected.1.transfer reg address with registers := registers }, data.ret)

/-- `bme680_regmap_spi_read` of one register, with the value it stores where it succeeds. -/
def bme680RegmapSpiRead (state : SpiState) (reg : UInt8)
    (statusRead statusWrite data : SpiOutcome) : SpiState × ℤ × Option UInt8 :=
  let selected := bme680RegmapSpiSelectPage state reg statusRead statusWrite
  if selected.2 ≠ 0 then (selected.1, selected.2, none)
  else
    let address := reg ||| 0x80
    (selected.1.transfer reg address, data.ret,
      if data.ret < 0 then none
      else some (selected.1.registers (selected.1.registers.denoted address)))

/-! ### Sequences of accesses -/

/-- An access to a register: a write of a value or a read, with how its transfers end. -/
inductive SpiAccess
  | write (reg value : UInt8) (statusRead statusWrite data : SpiOutcome)
  | read (reg : UInt8) (statusRead statusWrite data : SpiOutcome)

/-- The register of an access. -/
def SpiAccess.reg : SpiAccess → UInt8
  | .write reg _ _ _ _ => reg
  | .read reg _ _ _ => reg

/-- How the read of the status register ends where the access needs one. -/
def SpiAccess.statusRead : SpiAccess → SpiOutcome
  | .write _ _ statusRead _ _ => statusRead
  | .read _ statusRead _ _ => statusRead

/-- How the write of the status register ends where the access needs one. -/
def SpiAccess.statusWrite : SpiAccess → SpiOutcome
  | .write _ _ _ statusWrite _ => statusWrite
  | .read _ _ statusWrite _ => statusWrite

/-- The state after an access to a register other than the status register. -/
def spiNext (state : SpiState) (access : SpiAccess) : Option SpiState :=
  if access.reg = BME680_REG_STATUS then none
  else
    match access with
    | .write reg value statusRead statusWrite data =>
      some (bme680RegmapSpiWrite state reg value statusRead statusWrite data).1
    | .read reg statusRead statusWrite data =>
      some (bme680RegmapSpiRead state reg statusRead statusWrite data).1

/-- The bus context of `bme680_spi_probe` beside a device in any state. -/
def spiSystem : TransitionSystem SpiState SpiAccess where
  initial := fun state ↦ state.currentPage = 0xFF ∧ state.transfers = []
  next := spiNext

/-- Every data transfer addressed the register it asked for. -/
def SpiState.Directed (state : SpiState) : Prop :=
  ∀ transfer ∈ state.transfers, transfer.2 = transfer.1

/-- The access does not lose track of the page: it does not read the status register and then fail
in a write to it that took effect, while the driver has a page cached. -/
def KeepsTrack (state : SpiState) (access : SpiAccess) : Prop :=
  ¬ (state.currentPage ≠ 0xFF ∧ state.currentPage ≠ pageOf access.reg ∧
    0 ≤ access.statusRead.ret ∧ access.statusWrite.ret < 0 ∧
    access.statusWrite.tookEffect = true)

/-! ### Bits of addresses and of the status byte -/

/-- A property of all bytes can be checked on the bit vectors. -/
theorem forall_byte {property : UInt8 → Prop}
    (hproperty : ∀ bits : BitVec 8, property (UInt8.ofBitVec bits)) (byte : UInt8) :
    property byte :=
  hproperty byte.toBitVec

theorem pageOf_eq (reg : UInt8) : pageOf reg = 0 ∨ pageOf reg = 1 := by
  unfold pageOf
  split_ifs
  · exact Or.inl rfl
  · exact Or.inr rfl

theorem RegisterFile.page_eq (registers : RegisterFile) :
    registers.page = 0 ∨ registers.page = 1 := by
  unfold RegisterFile.page
  split_ifs
  · exact Or.inr rfl
  · exact Or.inl rfl

/-- The page bit of a status byte with a page selected in it. -/
theorem selectIn_page_bit (page status : UInt8) :
    selectIn page status &&& BME680_SPI_MEM_PAGE_BIT ≠ 0 ↔ page ≠ 0 := by
  have hset : ∀ byte : UInt8, (byte ||| 0x10) &&& 0x10 ≠ 0 := forall_byte (by decide)
  have hclear : ∀ byte : UInt8, (byte &&& ~~~0x10) &&& 0x10 = 0 := forall_byte (by decide)
  unfold selectIn
  split_ifs with hpage
  · exact iff_of_true (hset status) hpage
  · exact iff_of_false (fun hbit ↦ hbit (hclear status)) hpage

/-- On the page of a register, its address with the read or the write bit denotes it. -/
theorem RegisterFile.denoted_of_page {registers : RegisterFile} {reg : UInt8}
    (hpage : registers.page = pageOf reg) :
    registers.denoted (reg &&& ~~~0x80) = reg ∧ registers.denoted (reg ||| 0x80) = reg := by
  have hbits : ∀ byte : UInt8, if pageOf byte ≠ 0
      then (byte &&& ~~~0x80) &&& 0x7F = byte ∧ (byte ||| 0x80) &&& 0x7F = byte
      else (byte &&& ~~~0x80) ||| 0x80 = byte ∧ (byte ||| 0x80) ||| 0x80 = byte :=
    forall_byte (by decide)
  have hreg := hbits reg
  unfold RegisterFile.denoted
  rw [hpage]
  split_ifs at hreg ⊢ <;> exact hreg

/-- On the other page it denotes another register. -/
theorem RegisterFile.denoted_ne_of_page_ne {registers : RegisterFile} {reg : UInt8}
    (hpage : registers.page ≠ pageOf reg) : registers.denoted (reg ||| 0x80) ≠ reg := by
  have hbits : ∀ byte : UInt8, if pageOf byte ≠ 0 then (byte ||| 0x80) ||| 0x80 ≠ byte
      else (byte ||| 0x80) &&& 0x7F ≠ byte := forall_byte (by decide)
  have hreg := hbits reg
  unfold RegisterFile.denoted
  rcases registers.page_eq with hdevice | hdevice <;> rcases pageOf_eq reg with hreq | hreq
  all_goals rw [hdevice, hreq] at hpage
  · exact absurd rfl hpage
  · rw [hdevice, if_neg (by decide)]
    rwa [hreq, if_pos (by decide)] at hreg
  · rw [hdevice, if_pos (by decide)]
    rwa [hreq, if_neg (by decide)] at hreg
  · exact absurd rfl hpage

/-- A status byte with a page selected in it selects the page. -/
theorem RegisterFile.page_update_status (registers : RegisterFile) (page status : UInt8)
    (hpage : page = 0 ∨ page = 1) :
    RegisterFile.page (Function.update registers BME680_REG_STATUS (selectIn page status)) =
      page := by
  unfold RegisterFile.page
  rw [Function.update_self]
  simp only [selectIn_page_bit]
  rcases hpage with rfl | rfl <;> rfl

/-- A write of a status byte selects its page. -/
theorem RegisterFile.page_write_status (registers : RegisterFile) (page status : UInt8)
    (hpage : page = 0 ∨ page = 1) :
    (registers.write BME680_REG_STATUS (selectIn page status)).page = page := by
  have hreset : ¬ (BME680_REG_STATUS = BME680_REG_SOFT_RESET ∧
      selectIn page status = BME680_CMD_SOFTRESET) := fun hboth ↦
    absurd hboth.1 (by decide)
  unfold RegisterFile.write
  rw [if_neg hreset]
  exact registers.page_update_status page status hpage

/-- A write to another register than the status register keeps the page, unless it is the soft
reset, which selects the page of its own register. -/
theorem RegisterFile.page_write {registers : RegisterFile} {reg : UInt8} (value : UInt8)
    (hreg : reg ≠ BME680_REG_STATUS) (hpage : registers.page = pageOf reg) :
    (registers.write reg value).page = pageOf reg := by
  by_cases hreset : reg = BME680_REG_SOFT_RESET ∧ value = BME680_CMD_SOFTRESET
  · have hclear : ∀ byte : UInt8, (byte &&& ~~~0x10) &&& 0x10 = 0 := forall_byte (by decide)
    have hbit : (registers BME680_REG_STATUS &&& ~~~BME680_SPI_MEM_PAGE_BIT) &&&
        BME680_SPI_MEM_PAGE_BIT = 0 := hclear _
    unfold RegisterFile.page RegisterFile.write
    rw [if_pos hreset, Function.update_self, hbit, hreset.1]
    rfl
  · rw [← hpage]
    unfold RegisterFile.page RegisterFile.write
    rw [if_neg hreset, Function.update_of_ne hreg.symm]

/-! ### Keeping track of the page -/

/-- A page the driver has cached is the one the device has selected. -/
def SpiState.Tracks (state : SpiState) : Prop :=
  state.currentPage ≠ 0xFF → state.registers.page = state.currentPage

/-- What selecting the page of a register does, as long as it keeps track: it issues no data
transfer, and where it returns zero the device and the driver are on the page of the register. -/
theorem bme680RegmapSpiSelectPage_spec {state : SpiState} {reg : UInt8}
    {statusRead statusWrite : SpiOutcome} (htracks : state.Tracks)
    (hkeeps : ¬ (state.currentPage ≠ 0xFF ∧ state.currentPage ≠ pageOf reg ∧
      0 ≤ statusRead.ret ∧ statusWrite.ret < 0 ∧ statusWrite.tookEffect = true)) :
    let selected := bme680RegmapSpiSelectPage state reg statusRead statusWrite
    selected.1.Tracks ∧ selected.1.transfers = state.transfers ∧
      (¬ selected.2 ≠ 0 →
        selected.1.currentPage = pageOf reg ∧ selected.1.registers.page = pageOf reg) := by
  have hdefined : pageOf reg ≠ 0xFF := by
    rcases pageOf_eq reg with hpage | hpage <;> rw [hpage] <;> decide
  unfold bme680RegmapSpiSelectPage
  dsimp only
  by_cases hcached : pageOf reg = state.currentPage
  · rw [if_pos hcached]
    refine ⟨htracks, rfl, fun _ ↦ ⟨hcached.symm, ?_⟩⟩
    rw [hcached] at hdefined ⊢
    exact htracks hdefined
  · rw [if_neg hcached]
    by_cases hread : statusRead.ret < 0
    · rw [if_pos hread]
      exact ⟨htracks, rfl, fun hzero ↦ absurd hread.ne hzero⟩
    · rw [if_neg hread]
      by_cases hwrite : statusWrite.ret < 0
      · rw [if_pos hwrite]
        refine ⟨fun hcurrent ↦ ?_, rfl, fun hzero ↦ absurd hwrite.ne hzero⟩
        -- the write failed while a page was cached, so that it took no effect
        have hineffective : ¬ statusWrite.Effective := by
          rintro (hok | heffect)
          · exact absurd hok (not_le.mpr hwrite)
          · exact hkeeps ⟨hcurrent, Ne.symm hcached, not_lt.mp hread, hwrite, heffect⟩
        dsimp only
        rw [if_neg hineffective]
        exact htracks hcurrent
      · have heffective : statusWrite.Effective := Or.inl (not_lt.mp hwrite)
        rw [if_neg hwrite, if_pos heffective]
        have hselected := state.registers.page_write_status (pageOf reg)
          (state.registers BME680_REG_STATUS) (pageOf_eq reg)
        exact ⟨fun _ ↦ hselected, rfl, fun _ ↦ ⟨rfl, hselected⟩⟩

/-- A data transfer that addresses the register it asks for keeps the transfers directed. -/
theorem SpiState.Directed.transfer {state : SpiState} (hdirected : state.Directed)
    {reg address : UInt8} (hdenoted : state.registers.denoted address = reg) :
    (state.transfer reg address).Directed := by
  intro transfer htransfer
  rcases List.mem_cons.mp htransfer with rfl | hearlier
  · exact hdenoted
  · exact hdirected transfer hearlier

/-- An access that keeps track of the page goes on to do so, and its data transfer is directed. -/
theorem spiNext_tracks {state successor : SpiState} {access : SpiAccess}
    (htracks : state.Tracks) (hdirected : state.Directed) (hkeeps : KeepsTrack state access)
    (hnext : spiNext state access = some successor) : successor.Tracks ∧ successor.Directed := by
  unfold spiNext at hnext
  split_ifs at hnext with hstatus
  obtain ⟨htracked, htransfers, hselected⟩ := bme680RegmapSpiSelectPage_spec htracks hkeeps
  have hbefore : (bme680RegmapSpiSelectPage state access.reg access.statusRead
      access.statusWrite).1.Directed := fun transfer htransfer ↦
    hdirected transfer (htransfers ▸ htransfer)
  cases access with
  | write reg value statusRead statusWrite data =>
    obtain rfl := Option.some.inj hnext
    unfold bme680RegmapSpiWrite
    by_cases hret : (bme680RegmapSpiSelectPage state reg statusRead statusWrite).2 ≠ 0
    · simp only [if_pos hret]
      exact ⟨htracked, hbefore⟩
    · simp only [if_neg hret]
      obtain ⟨hcurrent, hpage⟩ := hselected hret
      have hdenoted := (RegisterFile.denoted_of_page hpage).1
      refine ⟨fun _ ↦ ?_, hbefore.transfer hdenoted⟩
      refine Eq.trans ?_ hcurrent.symm
      dsimp only [SpiAccess.reg, SpiAccess.statusRead, SpiAccess.statusWrite] at hdenoted hpage ⊢
      rw [hdenoted]
      split_ifs
      · exact RegisterFile.page_write value hstatus hpage
      · exact hpage
  | read reg statusRead statusWrite data =>
    obtain rfl := Option.some.inj hnext
    unfold bme680RegmapSpiRead
    by_cases hret : (bme680RegmapSpiSelectPage state reg statusRead statusWrite).2 ≠ 0
    · simp only [if_pos hret]
      exact ⟨htracked, hbefore⟩
    · simp only [if_neg hret]
      obtain ⟨-, hpage⟩ := hselected hret
      exact ⟨htracked, hbefore.transfer (RegisterFile.denoted_of_page hpage).2⟩

/-- In a run whose accesses all keep track of the page, the page the driver has cached is the one of
the device, and every data transfer addressed the register it asked for. -/
theorem tracks_of_reachable {state : SpiState}
    (hreach : spiSystem.ReachableUnder KeepsTrack state) : state.Tracks ∧ state.Directed := by
  have hinitial : ∀ start, spiSystem.initial start → start.Tracks ∧ start.Directed := by
    rintro start ⟨hcurrent, htransfers⟩
    refine ⟨fun hcached ↦ absurd hcurrent hcached, fun transfer htransfer ↦ ?_⟩
    rw [htransfers] at htransfer
    exact absurd htransfer List.not_mem_nil
  exact hreach.invariant hinitial fun _ _ _ hbefore hkeeps hnext ↦
    spiNext_tracks hbefore.1 hbefore.2 hkeeps hnext

/-! ### Losing track of the page -/

/-- A status write that fails after it took effect leaves the device on the page of the register and
the driver on the other one. -/
theorem spiNext_loses_track {state successor : SpiState} {access : SpiAccess}
    (hloses : ¬ KeepsTrack state access) (hnext : spiNext state access = some successor) :
    successor.currentPage = state.currentPage ∧
      successor.registers.page = pageOf access.reg := by
  obtain ⟨-, hother, hread, hwrite, heffect⟩ := not_not.mp hloses
  have heffective : access.statusWrite.Effective := Or.inr heffect
  have hselect :
      bme680RegmapSpiSelectPage state access.reg access.statusRead access.statusWrite =
        ({ state with
            registers := state.registers.write BME680_REG_STATUS
              (selectIn (pageOf access.reg) (state.registers BME680_REG_STATUS)) },
          access.statusWrite.ret) := by
    unfold bme680RegmapSpiSelectPage
    dsimp only
    rw [if_neg (Ne.symm hother), if_neg (not_lt.mpr hread), if_pos heffective, if_pos hwrite]
  have hselected := state.registers.page_write_status (pageOf access.reg)
    (state.registers BME680_REG_STATUS) (pageOf_eq access.reg)
  unfold spiNext at hnext
  split_ifs at hnext
  cases access with
  | write reg value statusRead statusWrite data =>
    obtain rfl := Option.some.inj hnext
    dsimp only [SpiAccess.reg, SpiAccess.statusRead, SpiAccess.statusWrite] at hselect hselected
    have hfailed : statusWrite.ret ≠ 0 := hwrite.ne
    unfold bme680RegmapSpiWrite
    simp only [hselect, if_pos hfailed]
    exact ⟨trivial, hselected⟩
  | read reg statusRead statusWrite data =>
    obtain rfl := Option.some.inj hnext
    dsimp only [SpiAccess.reg, SpiAccess.statusRead, SpiAccess.statusWrite] at hselect hselected
    have hfailed : statusWrite.ret ≠ 0 := hwrite.ne
    unfold bme680RegmapSpiRead
    simp only [hselect, if_pos hfailed]
    exact ⟨trivial, hselected⟩

/-- A transfer that succeeds. -/
def SpiOutcome.success : SpiOutcome where
  ret := 0
  tookEffect := true

/-- A read of a register on the page the driver has cached is misdirected where the device has
selected the other one. -/
theorem misdirected_of_page_ne {state : SpiState} {reg : UInt8} (hreg : reg ≠ BME680_REG_STATUS)
    (hcached : pageOf reg = state.currentPage) (hpage : state.registers.page ≠ pageOf reg) :
    ∃ final, spiSystem.Continuation (fun _ _ ↦ True) state final ∧ ¬ final.Directed := by
  refine ⟨state.transfer reg (reg ||| 0x80), .single ⟨.read reg .success .success .success,
    trivial, ?_⟩, fun hdirected ↦ ?_⟩
  · have hselect : bme680RegmapSpiSelectPage state reg .success .success = (state, 0) :=
      if_pos hcached
    refine (if_neg hreg).trans ?_
    simp only [bme680RegmapSpiRead, hselect, ne_eq, not_true_eq_false, if_false]
  · exact RegisterFile.denoted_ne_of_page_ne hpage (hdirected _ List.mem_cons_self)

/-- Every data transfer addresses the register it asks for as long as every access keeps track of
the page, and the first one that does not can be followed by a misdirected transfer. -/
theorem spi_pages_exact (state : SpiState) :
    spiSystem.ExactAt KeepsTrack SpiState.Directed state := by
  constructor
  · intro hreach
    exact (tracks_of_reachable hreach).2
  · intro access successor hreach hloses hnext
    obtain ⟨hcurrent, hdevice⟩ := spiNext_loses_track hloses hnext
    obtain ⟨hcached, hother, -⟩ := not_not.mp hloses
    have htracks := (tracks_of_reachable hreach).1 hcached
    rcases state.registers.page_eq with hzero | hone
    · rw [hzero] at htracks
      refine @misdirected_of_page_ne _ 0x80 (by decide) (hcurrent.trans htracks.symm).symm ?_
      rw [hdevice]
      exact fun hsame ↦ hother (htracks.symm.trans hsame.symm)
    · rw [hone] at htracks
      refine @misdirected_of_page_ne _ 0x00 (by decide) (hcurrent.trans htracks.symm).symm ?_
      rw [hdevice]
      exact fun hsame ↦ hother (htracks.symm.trans hsame.symm)

/-- A transfer that fails after it took effect. -/
def SpiOutcome.failedAfterEffect : SpiOutcome where
  ret := -5
  tookEffect := true

/-- The driver selects the low page, fails in a status write that selects the high one, and then
reads register 0x00 without selecting its page again. -/
theorem failed_status_write_misdirects :
    ¬ ∀ state, spiSystem.Reachable state → state.Directed := by
  intro hall
  obtain ⟨final, hrun, htransfers⟩ : ∃ final,
      spiSystem.run { currentPage := 0xFF, registers := fun _ ↦ 0, transfers := [] }
        [.read 0x00 .success .success .success, .read 0x80 .success .failedAfterEffect .success,
          .read 0x00 .success .success .success] = some final ∧
        final.transfers = [(0x00, 0x80), (0x00, 0x00)] :=
    ⟨_, rfl, rfl⟩
  have hdirected := hall final (TransitionSystem.reachable_of_run ⟨rfl, rfl⟩ _ hrun)
  have hmisdirected := hdirected (0x00, 0x80) (by rw [htransfers]; exact List.mem_cons_self)
  exact absurd hmisdirected (by decide)

end Bme680.Driver
