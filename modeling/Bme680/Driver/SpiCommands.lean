import Bme680.Driver.SpiPages

/-!
# The commands of the SPI driver

The first byte of a transfer is a command: bit 7 says whether the device is read, and the other bits
are an address on its page. The status register has the same address on both pages.

`bme680_regmap_spi_select_page` reads the status register, changes its page bit and writes it back.
The command of its read is the register's own number, whose bit 7 is clear: the device takes it for
a write of the byte that the host shifts out while it waits for the answer, and the driver takes
what is on the line for the status. It then writes that to the device, with the page bit changed.
So the other bits of the status register survive exactly when the line happens to carry them
(`page_selection_exact`).
-/

set_option autoImplicit false
set_option relaxedAutoImplicit false

namespace Bme680.Driver.SpiCommands

open Concurrency

/-! ### The device -/

/-- What the lines carry while a side has nothing to send: the byte the host shifts out while it
receives, and the byte it receives while the device takes a write. -/
structure SpiLines where
  idle : UInt8
  floating : UInt8

/-- The register that the address of a command denotes. -/
def addressed (registers : RegisterFile) (command : UInt8) : UInt8 :=
  if command &&& 0x7F = BME680_REG_STATUS then BME680_REG_STATUS else registers.denoted command

/-- `spi_write_then_read` of a command byte and one byte of an answer: the registers it leaves, and
the byte received. -/
def spiWriteThenRead (registers : RegisterFile) (command : UInt8) (lines : SpiLines) :
    RegisterFile × UInt8 :=
  if command &&& 0x80 ≠ 0 then (registers, registers (addressed registers command))
  else (Function.update registers (addressed registers command) lines.idle, lines.floating)

/-- `spi_write` of a command byte and a value. -/
def spiWrite (registers : RegisterFile) (command value : UInt8) : RegisterFile :=
  if command &&& 0x80 ≠ 0 then registers
  else Function.update registers (addressed registers command) value

/-! ### The driver -/

/-- The page the driver has cached, beside the device. -/
structure SpiContext where
  currentPage : UInt8
  registers : RegisterFile

/-- `bme680_regmap_spi_select_page` with transfers that succeed. -/
def bme680RegmapSpiSelectPage (ctx : SpiContext) (reg : UInt8) (lines : SpiLines) : SpiContext :=
  let page := pageOf reg
  if page = ctx.currentPage then ctx
  else
    match spiWriteThenRead ctx.registers BME680_REG_STATUS lines with
    | (registers, status) => {
        currentPage := page
        registers := spiWrite registers BME680_REG_STATUS (selectIn page status) }

/-- `bme680_regmap_spi_read` of one register with transfers that succeed, and the value it
stores. -/
def bme680RegmapSpiRead (ctx : SpiContext) (reg : UInt8) (lines : SpiLines) :
    SpiContext × UInt8 :=
  let ctx := bme680RegmapSpiSelectPage ctx reg lines
  match spiWriteThenRead ctx.registers (reg ||| 0x80) lines with
  | (registers, value) => ({ ctx with registers := registers }, value)

/-! ### What may change -/

/-- Nothing but the page bit of the status register differs. -/
structure PageBitOnly (before after : RegisterFile) : Prop where
  others : ∀ reg, reg ≠ BME680_REG_STATUS → after reg = before reg
  bits : after BME680_REG_STATUS &&& ~~~BME680_SPI_MEM_PAGE_BIT =
    before BME680_REG_STATUS &&& ~~~BME680_SPI_MEM_PAGE_BIT

/-- The line carries the bits of the status register beside the page bit. -/
def CarriesStatus (registers : RegisterFile) (lines : SpiLines) : Prop :=
  lines.floating &&& ~~~BME680_SPI_MEM_PAGE_BIT =
    registers BME680_REG_STATUS &&& ~~~BME680_SPI_MEM_PAGE_BIT

/-- A page that is selected, and one that is not, leave the other bits of a status byte. -/
theorem selectIn_other_bits (page status : UInt8) :
    selectIn page status &&& ~~~BME680_SPI_MEM_PAGE_BIT =
      status &&& ~~~BME680_SPI_MEM_PAGE_BIT := by
  have hset : ∀ byte : UInt8, (byte ||| 0x10) &&& ~~~0x10 = byte &&& ~~~0x10 :=
    forall_byte (by decide)
  have hclear : ∀ byte : UInt8, (byte &&& ~~~0x10) &&& ~~~0x10 = byte &&& ~~~0x10 :=
    forall_byte (by decide)
  unfold selectIn
  split_ifs
  · exact hset status
  · exact hclear status

/-- Selecting a page that is not cached writes what the line carried, with the page selected. -/
theorem bme680RegmapSpiSelectPage_of_ne {ctx : SpiContext} {reg : UInt8}
    (hother : pageOf reg ≠ ctx.currentPage) (lines : SpiLines) :
    bme680RegmapSpiSelectPage ctx reg lines =
      { currentPage := pageOf reg
        registers := Function.update ctx.registers BME680_REG_STATUS
          (selectIn (pageOf reg) lines.floating) } := by
  have hwrite : ¬ BME680_REG_STATUS &&& 0x80 ≠ 0 := by decide
  have haddress (registers : RegisterFile) :
      addressed registers BME680_REG_STATUS = BME680_REG_STATUS := if_pos (by decide)
  unfold bme680RegmapSpiSelectPage spiWriteThenRead spiWrite
  rw [if_neg hother, if_neg hwrite, haddress]
  dsimp only
  rw [if_neg hwrite, haddress, Function.update_idem]

/-- The registers after a read are those after its page selection. -/
theorem bme680RegmapSpiRead_registers (ctx : SpiContext) (reg : UInt8) (lines : SpiLines) :
    (bme680RegmapSpiRead ctx reg lines).1 = bme680RegmapSpiSelectPage ctx reg lines := by
  have hread : ∀ byte : UInt8, (byte ||| 0x80) &&& 0x80 ≠ 0 := forall_byte (by decide)
  simp only [bme680RegmapSpiRead, spiWriteThenRead, if_pos (hread reg)]

/-- Where the line carries the status, the page is selected as on a device whose status register is
read. -/
theorem bme680RegmapSpiSelectPage_of_status {ctx : SpiContext} {lines : SpiLines}
    (hstatus : lines.floating = ctx.registers BME680_REG_STATUS) (reg : UInt8)
    (transfers : List (UInt8 × UInt8)) :
    let selected := (Driver.bme680RegmapSpiSelectPage
      { currentPage := ctx.currentPage, registers := ctx.registers, transfers := transfers } reg
      .success .success).1
    bme680RegmapSpiSelectPage ctx reg lines =
      { currentPage := selected.currentPage, registers := selected.registers } := by
  by_cases hcached : pageOf reg = ctx.currentPage
  · simp only [bme680RegmapSpiSelectPage, Driver.bme680RegmapSpiSelectPage, if_pos hcached]
  · have hreset : ¬ (BME680_REG_STATUS = BME680_REG_SOFT_RESET ∧
        selectIn (pageOf reg) (ctx.registers BME680_REG_STATUS) = BME680_CMD_SOFTRESET) :=
      fun hboth ↦ absurd hboth.1 (by decide)
    rw [bme680RegmapSpiSelectPage_of_ne hcached, hstatus]
    simp only [Driver.bme680RegmapSpiSelectPage, if_neg hcached, RegisterFile.write,
      if_neg hreset]
    rfl

/-- Writing a status byte with a page selected in it changes nothing but the page bit exactly when
the byte has the other bits. -/
theorem pageBitOnly_update_iff {before registers : RegisterFile} {page : UInt8} {lines : SpiLines}
    (honly : PageBitOnly before registers) :
    PageBitOnly before (Function.update registers BME680_REG_STATUS
        (selectIn page lines.floating)) ↔ CarriesStatus registers lines := by
  constructor
  · rintro ⟨-, hbits⟩
    rw [Function.update_self, selectIn_other_bits] at hbits
    exact hbits.trans honly.bits.symm
  · intro hcarries
    refine ⟨fun reg hreg ↦ ?_, ?_⟩
    · rw [Function.update_of_ne hreg]
      exact honly.others reg hreg
    · rw [Function.update_self, selectIn_other_bits]
      exact hcarries.trans honly.bits

/-! ### One selection -/

/-- A page selection changes nothing but the page bit, and leaves the page of the register
selected. -/
structure SelectsOnly (ctx : SpiContext) (reg : UInt8) (lines : SpiLines) : Prop where
  only : PageBitOnly ctx.registers (bme680RegmapSpiSelectPage ctx reg lines).registers
  selected : (bme680RegmapSpiSelectPage ctx reg lines).registers.page = pageOf reg

/-- A page selection changes only the page bit, to the page of the register, exactly when the page
is cached and selected, or is not cached and the line carries the status. -/
theorem selectsOnly_iff (ctx : SpiContext) (reg : UInt8) (lines : SpiLines) :
    SelectsOnly ctx reg lines ↔
      if pageOf reg = ctx.currentPage then ctx.registers.page = pageOf reg
      else CarriesStatus ctx.registers lines := by
  have hsame : PageBitOnly ctx.registers ctx.registers := ⟨fun _ _ ↦ rfl, rfl⟩
  split_ifs with hcached
  · have hkeeps : bme680RegmapSpiSelectPage ctx reg lines = ctx := if_pos hcached
    constructor
    · rintro ⟨-, hselected⟩
      rwa [hkeeps] at hselected
    · intro hselected
      refine ⟨?_, ?_⟩
      · rw [hkeeps]
        exact hsame
      · rwa [hkeeps]
  · have hwritten := bme680RegmapSpiSelectPage_of_ne hcached lines
    rw [← @pageBitOnly_update_iff _ _ (pageOf reg) lines hsame]
    constructor
    · rintro ⟨honly, -⟩
      rwa [hwritten] at honly
    · intro honly
      refine ⟨?_, ?_⟩
      · rwa [hwritten]
      · rw [hwritten]
        exact ctx.registers.page_update_status _ _ (pageOf_eq reg)

/-! ### Sequences of reads -/

/-- The driver and the device, with the registers at the start of the run. -/
structure ReadsState where
  ctx : SpiContext
  start : RegisterFile

/-- A read of a register, with what the lines carry. -/
structure SpiReadCall where
  reg : UInt8
  lines : SpiLines

/-- Reads from any registers and any cached page. -/
def readsSystem : TransitionSystem ReadsState SpiReadCall where
  initial := fun state ↦ state.ctx.registers = state.start
  next := fun state call ↦
    some { state with ctx := (bme680RegmapSpiRead state.ctx call.reg call.lines).1 }

/-- The read finds its page cached, or the line carries the status. -/
def KeepsStatus (state : ReadsState) (call : SpiReadCall) : Prop :=
  pageOf call.reg = state.ctx.currentPage ∨ CarriesStatus state.ctx.registers call.lines

/-- Reads change nothing but the page bit exactly as long as each finds its page cached or the line
carries the status. -/
theorem reads_exact :
    readsSystem.ExactFor KeepsStatus fun state ↦ PageBitOnly state.start state.ctx.registers := by
  refine .of_step_iff (fun state hinitial ↦ ?_) fun state call successor honly hnext ↦ ?_
  · rw [show state.ctx.registers = state.start from hinitial]
    exact ⟨fun _ _ ↦ rfl, rfl⟩
  · obtain rfl := Option.some.inj hnext
    dsimp only
    rw [bme680RegmapSpiRead_registers]
    by_cases hcached : pageOf call.reg = state.ctx.currentPage
    · have hkeeps : bme680RegmapSpiSelectPage state.ctx call.reg call.lines = state.ctx :=
        if_pos hcached
      rw [hkeeps]
      exact iff_of_true honly (Or.inl hcached)
    · rw [bme680RegmapSpiSelectPage_of_ne hcached, pageBitOnly_update_iff honly]
      exact (or_iff_right hcached).symm

/-- When a page selection changes only the page bit, and when sequences of reads do. -/
theorem page_selection_exact (ctx : SpiContext) (reg : UInt8) (lines : SpiLines) :
    (SelectsOnly ctx reg lines ↔
        if pageOf reg = ctx.currentPage then ctx.registers.page = pageOf reg
        else CarriesStatus ctx.registers lines) ∧
      readsSystem.ExactFor KeepsStatus fun state ↦
        PageBitOnly state.start state.ctx.registers :=
  ⟨selectsOnly_iff ctx reg lines, reads_exact⟩

/-- A status register with bit 3 set, read on a line that is low: the bit is lost. -/
theorem status_bit_lost : ¬ ∀ ctx reg lines, SelectsOnly ctx reg lines := by
  intro hall
  have hbits := (hall { currentPage := 0xFF, registers := fun _ ↦ 0x08 } 0x1D
    { idle := 0, floating := 0 }).only.bits
  exact absurd hbits (by decide)

end Bme680.Driver.SpiCommands
