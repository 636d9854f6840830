import Bme680.Concurrency.AccessLog
import Bme680.Driver.SpiCommands
import Mathlib.Tactic.FinCases

/-!
# The registers as the SPI driver shows them

The two bus functions of the SPI driver are to give the core driver 256 registers of eight bits,
whatever page the device has selected. Here they are taken down to the bytes on the lines, with the
command of the status read that the device takes for a write, and with transfers that fail with or
without having taken effect. Between two accesses the device may store values of its own.

`spi_reads_latest` says that every value read is the last one stored in the register it was asked
for, by the driver or by the device, whichever pages were selected in between. What it needs is that
the driver does not lose its page (`SelectsCleanly`): a page selection that fails while a page is
cached has not reached the device. Two accesses are left out, since they are not to a register of
the page (`Special`): those at the address of the status register, which holds the page itself, and
the soft reset.
-/

set_option autoImplicit false
set_option relaxedAutoImplicit false

namespace Bme680.Driver.RegisterView

open Concurrency
open SpiCommands (SpiContext SpiLines addressed spiWriteThenRead spiWrite)

/-! ### The bus functions -/

/-- `bme680_regmap_spi_select_page`, given what the lines carry and how its two transfers end. -/
def bme680RegmapSpiSelectPage (ctx : SpiContext) (reg : UInt8) (lines : SpiLines)
    (statusRead statusWrite : SpiOutcome) : SpiContext × ℤ :=
  let page := pageOf reg
  if page = ctx.currentPage then (ctx, 0)
  else
    let read := spiWriteThenRead ctx.registers BME680_REG_STATUS lines
    let registers := if statusRead.Effective then read.1 else ctx.registers
    if statusRead.ret < 0 then ({ ctx with registers := registers }, statusRead.ret)
    else
      let selected :=
        if statusWrite.Effective then
          spiWrite registers BME680_REG_STATUS (selectIn page read.2)
        else registers
      if statusWrite.ret < 0 then ({ ctx with registers := selected }, statusWrite.ret)
      else ({ currentPage := page, registers := selected }, 0)

/-- `bme680_regmap_spi_write` of the two bytes of its buffer. -/
def bme680RegmapSpiWrite (ctx : SpiContext) (reg value : UInt8) (lines : SpiLines)
    (statusRead statusWrite data : SpiOutcome) : SpiContext × ℤ :=
  let selected := bme680RegmapSpiSelectPage ctx reg lines statusRead statusWrite
  if selected.2 ≠ 0 then selected
  else
    let registers :=
      if data.Effective then spiWrite selected.1.registers (reg &&& ~~~0x80) value
      else selected.1.registers
    ({ selected.1 with registers := registers }, data.ret)

/-- `bme680_regmap_spi_read` of one register, with the value it stores where it succeeds. -/
def bme680RegmapSpiRead (ctx : SpiContext) (reg : UInt8) (lines : SpiLines)
    (statusRead statusWrite data : SpiOutcome) : SpiContext × ℤ × Option UInt8 :=
  let selected := bme680RegmapSpiSelectPage ctx reg lines statusRead statusWrite
  if selected.2 ≠ 0 then (selected.1, selected.2, none)
  else
    let read := spiWriteThenRead selected.1.registers (reg ||| 0x80) lines
    let registers := if data.Effective then read.1 else selected.1.registers
    ({ selected.1 with registers := registers }, data.ret,
      if data.ret < 0 then none else some read.2)

/-! ### Runs of accesses -/

/-- The driver and the device, the registers at the start, and what has been stored in and read from
the registers since. -/
structure BusState where
  ctx : SpiContext
  start : RegisterFile
  log : List (StoreAccess UInt8 UInt8)

/-- An access of the driver, with what the lines carry, or a value the device stores itself. -/
inductive BusLabel
  | access (access : SpiAccess) (lines : SpiLines)
  | converts (reg value : UInt8)

/-- An access to a register at the address of the status register, or the command of the soft
reset. -/
def Special : SpiAccess → Prop
  | .write reg value _ _ _ =>
    reg &&& 0x7F = BME680_REG_STATUS ∨
      reg = BME680_REG_SOFT_RESET ∧ value = BME680_CMD_SOFTRESET
  | .read reg _ _ _ => reg &&& 0x7F = BME680_REG_STATUS

instance : DecidablePred Special
  | .write reg value _ _ _ =>
    inferInstanceAs (Decidable (reg &&& 0x7F = BME680_REG_STATUS ∨
      reg = BME680_REG_SOFT_RESET ∧ value = BME680_CMD_SOFTRESET))
  | .read reg _ _ _ => inferInstanceAs (Decidable (reg &&& 0x7F = BME680_REG_STATUS))

/-- The state after an access that is not special, or after the device has stored a value. -/
def busNext (state : BusState) : BusLabel → Option BusState
  | .access access lines =>
    if Special access then none
    else
      match access with
      | .write reg value statusRead statusWrite data =>
        let selected := bme680RegmapSpiSelectPage state.ctx reg lines statusRead statusWrite
        let written := bme680RegmapSpiWrite state.ctx reg value lines statusRead statusWrite data
        some { state with
          ctx := written.1
          log := if selected.2 = 0 ∧ data.Effective then .stored reg value :: state.log
            else state.log }
      | .read reg statusRead statusWrite data =>
        let result := bme680RegmapSpiRead state.ctx reg lines statusRead statusWrite data
        some { state with
          ctx := result.1
          log := match result.2.2 with
            | some value => .delivered reg value :: state.log
            | none => state.log }
  | .converts reg value =>
    if reg = BME680_REG_STATUS then none
    else some { state with
      ctx := { state.ctx with registers := Function.update state.ctx.registers reg value }
      log := .stored reg value :: state.log }

/-- A page the driver has cached is the one the device has selected. -/
def Tracks (ctx : SpiContext) : Prop :=
  ctx.currentPage ≠ 0xFF → ctx.registers.page = ctx.currentPage

/-- Accesses from any state of the device, with the right page cached or none. -/
def busSystem : TransitionSystem BusState BusLabel where
  initial := fun state ↦
    Tracks state.ctx ∧ state.ctx.registers = state.start ∧ state.log = []
  next := busNext

/-- Where a page is cached and another one needed, both transfers of the selection succeed, or the
first one fails without having reached the device. -/
def SelectsCleanly (state : BusState) : BusLabel → Prop
  | .access access _ =>
    state.ctx.currentPage = 0xFF ∨ state.ctx.currentPage = pageOf access.reg ∨
      0 ≤ access.statusRead.ret ∧ 0 ≤ access.statusWrite.ret ∨
      access.statusRead.ret < 0 ∧ access.statusRead.tookEffect = false
  | .converts _ _ => True

/-! ### The bytes on the lines -/

/-- On the page of a register its two commands address it. -/
theorem addressed_of_page {registers : RegisterFile} {reg : UInt8}
    (hreg : reg &&& 0x7F ≠ BME680_REG_STATUS) (hpage : registers.page = pageOf reg) :
    addressed registers (reg &&& ~~~0x80) = reg ∧ addressed registers (reg ||| 0x80) = reg := by
  have hwrite : ∀ byte : UInt8, (byte &&& ~~~0x80) &&& 0x7F = byte &&& 0x7F :=
    forall_byte (by decide)
  have hread : ∀ byte : UInt8, (byte ||| 0x80) &&& 0x7F = byte &&& 0x7F :=
    forall_byte (by decide)
  unfold addressed
  rw [hwrite, hread, if_neg hreg, if_neg hreg]
  exact RegisterFile.denoted_of_page hpage

/-- The status read writes the status register of the device. -/
theorem spiWriteThenRead_status (registers : RegisterFile) (lines : SpiLines) :
    spiWriteThenRead registers BME680_REG_STATUS lines =
      (Function.update registers BME680_REG_STATUS lines.idle, lines.floating) := by
  have hwrite : ¬ BME680_REG_STATUS &&& 0x80 ≠ 0 := by decide
  have haddress : addressed registers BME680_REG_STATUS = BME680_REG_STATUS := if_pos (by decide)
  unfold spiWriteThenRead
  rw [if_neg hwrite, haddress]

/-- A status byte is written to the status register on either page. -/
theorem spiWrite_status (registers : RegisterFile) (status : UInt8) :
    spiWrite registers BME680_REG_STATUS status =
      Function.update registers BME680_REG_STATUS status := by
  have hwrite : ¬ BME680_REG_STATUS &&& 0x80 ≠ 0 := by decide
  have haddress : addressed registers BME680_REG_STATUS = BME680_REG_STATUS := if_pos (by decide)
  unfold spiWrite
  rw [if_neg hwrite, haddress]

/-- On the page of a register, a write with its address stores a value in it. -/
theorem spiWrite_of_page {registers : RegisterFile} {reg : UInt8}
    (hreg : reg &&& 0x7F ≠ BME680_REG_STATUS) (hpage : registers.page = pageOf reg)
    (value : UInt8) :
    spiWrite registers (reg &&& ~~~0x80) value = Function.update registers reg value := by
  have hcommand : ∀ byte : UInt8, ¬ (byte &&& ~~~0x80) &&& 0x80 ≠ 0 := forall_byte (by decide)
  unfold spiWrite
  rw [if_neg (hcommand reg), (addressed_of_page hreg hpage).1]

/-- On the page of a register, a read with its address returns what it holds. -/
theorem spiWriteThenRead_of_page {registers : RegisterFile} {reg : UInt8}
    (hreg : reg &&& 0x7F ≠ BME680_REG_STATUS) (hpage : registers.page = pageOf reg)
    (lines : SpiLines) :
    spiWriteThenRead registers (reg ||| 0x80) lines = (registers, registers reg) := by
  have hcommand : ∀ byte : UInt8, (byte ||| 0x80) &&& 0x80 ≠ 0 := forall_byte (by decide)
  unfold spiWriteThenRead
  rw [if_pos (hcommand reg), (addressed_of_page hreg hpage).2]

/-- With transfers that succeed a read is the one whose effect on the status register is settled
there. -/
theorem bme680RegmapSpiRead_success (ctx : SpiContext) (reg : UInt8) (lines : SpiLines) :
    bme680RegmapSpiRead ctx reg lines .success .success .success =
      ((SpiCommands.bme680RegmapSpiRead ctx reg lines).1, 0,
        some (SpiCommands.bme680RegmapSpiRead ctx reg lines).2) := by
  have hselect : bme680RegmapSpiSelectPage ctx reg lines .success .success =
      (SpiCommands.bme680RegmapSpiSelectPage ctx reg lines, 0) := by
    unfold bme680RegmapSpiSelectPage SpiCommands.bme680RegmapSpiSelectPage
    by_cases hcached : pageOf reg = ctx.currentPage
    · simp only [if_pos hcached]
    · simp only [if_neg hcached]
      rfl
  unfold bme680RegmapSpiRead SpiCommands.bme680RegmapSpiRead
  simp only [hselect, ne_eq, not_true_eq_false, if_false]
  rfl

/-! ### What one access does -/

/-- What a page selection leaves: the driver has not lost its page, the registers beside the status
register are as before, and where zero is returned the page of the register is selected. -/
structure Selected (before : SpiContext) (reg : UInt8) (result : SpiContext × ℤ) : Prop where
  tracks : Tracks result.1
  others : ∀ other, other ≠ BME680_REG_STATUS →
    result.1.registers other = before.registers other
  page : result.2 = 0 → result.1.currentPage = pageOf reg ∧ result.1.registers.page = pageOf reg

/-- Registers that differ in the status register only agree on the others. -/
theorem update_status_of_ne (registers : RegisterFile) (status : UInt8) {other : UInt8}
    (hother : other ≠ BME680_REG_STATUS) :
    Function.update registers BME680_REG_STATUS status other = registers other :=
  Function.update_of_ne hother _ _

/-- A page selection that is clean, from a state where the page is tracked. -/
theorem bme680RegmapSpiSelectPage_selected {ctx : SpiContext} {reg : UInt8} {lines : SpiLines}
    {statusRead statusWrite : SpiOutcome} (htracks : Tracks ctx)
    (hclean : ctx.currentPage = 0xFF ∨ ctx.currentPage = pageOf reg ∨
      0 ≤ statusRead.ret ∧ 0 ≤ statusWrite.ret ∨
      statusRead.ret < 0 ∧ statusRead.tookEffect = false) :
    Selected ctx reg (bme680RegmapSpiSelectPage ctx reg lines statusRead statusWrite) := by
  have hdefined : pageOf reg ≠ 0xFF := by
    rcases pageOf_eq reg with hpage | hpage <;> rw [hpage] <;> decide
  unfold bme680RegmapSpiSelectPage
  simp only [spiWriteThenRead_status, spiWrite_status]
  by_cases hcached : pageOf reg = ctx.currentPage
  · rw [if_pos hcached]
    refine ⟨htracks, fun _ _ ↦ rfl, fun _ ↦ ⟨hcached.symm, ?_⟩⟩
    rw [hcached] at hdefined ⊢
    exact htracks hdefined
  · rw [if_neg hcached]
    by_cases hread : statusRead.ret < 0
    · rw [if_pos hread]
      refine ⟨fun hcurrent ↦ ?_, fun other hother ↦ ?_, fun hzero ↦ absurd hzero hread.ne⟩
      · -- with a page cached, the transfer has not reached the device
        have hineffective : ¬ statusRead.Effective := by
          rcases hclean with hnone | hsame | ⟨hok, -⟩ | ⟨-, hlost⟩
          · exact absurd hnone hcurrent
          · exact absurd hsame.symm hcached
          · exact absurd hok (not_le.mpr hread)
          · rintro (hok | heffect)
            · exact absurd hok (not_le.mpr hread)
            · exact absurd heffect (by rw [hlost]; exact Bool.false_ne_true)
        dsimp only
        rw [if_neg hineffective]
        exact htracks hcurrent
      · dsimp only
        split_ifs
        · exact update_status_of_ne _ _ hother
        · rfl
    · have hreads : statusRead.Effective := Or.inl (not_lt.mp hread)
      rw [if_neg hread, if_pos hreads]
      by_cases hwrite : statusWrite.ret < 0
      · rw [if_pos hwrite]
        refine ⟨fun hcurrent ↦ ?_, fun other hother ↦ ?_, fun hzero ↦ absurd hzero hwrite.ne⟩
        · exfalso
          rcases hclean with hnone | hsame | ⟨-, hok⟩ | ⟨hfails, -⟩
          · exact hcurrent hnone
          · exact hcached hsame.symm
          · exact absurd hok (not_le.mpr hwrite)
          · exact hread hfails
        · dsimp only
          split_ifs
          · rw [Function.update_idem]
            exact update_status_of_ne _ _ hother
          · exact update_status_of_ne _ _ hother
      · have heffective : statusWrite.Effective := Or.inl (not_lt.mp hwrite)
        rw [if_neg hwrite, if_pos heffective, Function.update_idem]
        have hselected := ctx.registers.page_update_status (pageOf reg) lines.floating
          (pageOf_eq reg)
        exact ⟨fun _ ↦ hselected, fun _ hother ↦ update_status_of_ne _ _ hother,
          fun _ ↦ ⟨rfl, hselected⟩⟩

/-- Storing a value in a register beside the status register keeps the page tracked. -/
theorem Tracks.update {ctx : SpiContext} (htracks : Tracks ctx) {reg : UInt8}
    (hreg : reg ≠ BME680_REG_STATUS) (value : UInt8) :
    Tracks { ctx with registers := Function.update ctx.registers reg value } := by
  have hkeeps : RegisterFile.page (Function.update ctx.registers reg value) =
      ctx.registers.page := by
    unfold RegisterFile.page
    rw [Function.update_of_ne hreg.symm]
  exact fun hcurrent ↦ hkeeps.trans (htracks hcurrent)

/-! ### Every run -/

/-- The page is tracked, the registers hold what was stored in them last, and every value read was
the one its register held. -/
structure BusInvariant (state : BusState) : Prop where
  tracks : Tracks state.ctx
  registers : ∀ reg, reg ≠ BME680_REG_STATUS →
    state.ctx.registers reg = contents state.start state.log reg
  faithful : Faithful state.start state.log

namespace BusInvariant

variable {state successor : BusState}

/-- A value stored in a register is noted. -/
theorem stored (hinvariant : BusInvariant state) {ctx : SpiContext} (htracks : Tracks ctx)
    (hothers : ∀ other, other ≠ BME680_REG_STATUS →
      ctx.registers other = state.ctx.registers other)
    {reg : UInt8} (hreg : reg ≠ BME680_REG_STATUS) (value : UInt8) :
    BusInvariant { state with
      ctx := { ctx with registers := Function.update ctx.registers reg value }
      log := .stored reg value :: state.log } := by
  refine ⟨htracks.update hreg value, fun other hother ↦ ?_, hinvariant.faithful⟩
  dsimp only [contents]
  by_cases hsame : other = reg
  · subst hsame
    rw [Function.update_self, Function.update_self]
  · rw [Function.update_of_ne hsame, Function.update_of_ne hsame, hothers other hother]
    exact hinvariant.registers other hother

/-- An access that stores nothing keeps the invariant. -/
theorem kept (hinvariant : BusInvariant state) {ctx : SpiContext} (htracks : Tracks ctx)
    (hothers : ∀ other, other ≠ BME680_REG_STATUS →
      ctx.registers other = state.ctx.registers other) :
    BusInvariant { state with ctx := ctx } :=
  ⟨htracks, fun other hother ↦ (hothers other hother).trans (hinvariant.registers other hother),
    hinvariant.faithful⟩

/-- A value read that is the one of its register is noted. -/
theorem delivered (hinvariant : BusInvariant state) {reg : UInt8}
    (hreg : reg ≠ BME680_REG_STATUS) :
    BusInvariant { state with
      log := .delivered reg (state.ctx.registers reg) :: state.log } :=
  ⟨hinvariant.tracks, hinvariant.registers, hinvariant.registers reg hreg, hinvariant.faithful⟩

/-- A register at another address than the status register is another register. -/
theorem ne_status {reg : UInt8} (hreg : reg &&& 0x7F ≠ BME680_REG_STATUS) :
    reg ≠ BME680_REG_STATUS := by
  intro hsame
  exact hreg (by rw [hsame]; decide)

/-- A write keeps the invariant. -/
theorem write (hinvariant : BusInvariant state) {reg value : UInt8} {lines : SpiLines}
    {statusRead statusWrite data : SpiOutcome}
    (hclean : SelectsCleanly state (.access (.write reg value statusRead statusWrite data) lines))
    (hnext : busNext state (.access (.write reg value statusRead statusWrite data) lines) =
      some successor) : BusInvariant successor := by
  have hselected : Selected state.ctx reg
      (bme680RegmapSpiSelectPage state.ctx reg lines statusRead statusWrite) :=
    bme680RegmapSpiSelectPage_selected hinvariant.tracks hclean
  simp only [busNext] at hnext
  split_ifs at hnext with hspecial hstores
  all_goals
    have hreg : reg &&& 0x7F ≠ BME680_REG_STATUS := fun hstatus ↦ hspecial (Or.inl hstatus)
    obtain rfl := Option.some.inj hnext
    unfold bme680RegmapSpiWrite
  · have hpage := (hselected.page hstores.1).2
    have hzero : ¬ (bme680RegmapSpiSelectPage state.ctx reg lines statusRead statusWrite).2 ≠ 0 :=
      not_not.mpr hstores.1
    simp only [if_neg hzero, if_pos hstores.2, spiWrite_of_page hreg hpage]
    exact hinvariant.stored hselected.tracks hselected.others (ne_status hreg) value
  · by_cases hret : (bme680RegmapSpiSelectPage state.ctx reg lines statusRead statusWrite).2 ≠ 0
    · simp only [if_pos hret]
      exact hinvariant.kept hselected.tracks hselected.others
    · have hineffective : ¬ data.Effective := fun heffective ↦
        hstores ⟨not_not.mp hret, heffective⟩
      simp only [if_neg hret, if_neg hineffective]
      exact hinvariant.kept hselected.tracks hselected.others

/-- A read keeps the invariant. -/
theorem read (hinvariant : BusInvariant state) {reg : UInt8} {lines : SpiLines}
    {statusRead statusWrite data : SpiOutcome}
    (hclean : SelectsCleanly state (.access (.read reg statusRead statusWrite data) lines))
    (hnext : busNext state (.access (.read reg statusRead statusWrite data) lines) =
      some successor) : BusInvariant successor := by
  have hselected : Selected state.ctx reg
      (bme680RegmapSpiSelectPage state.ctx reg lines statusRead statusWrite) :=
    bme680RegmapSpiSelectPage_selected hinvariant.tracks hclean
  simp only [busNext] at hnext
  split_ifs at hnext with hreg
  obtain rfl := Option.some.inj hnext
  unfold bme680RegmapSpiRead
  by_cases hret : (bme680RegmapSpiSelectPage state.ctx reg lines statusRead statusWrite).2 ≠ 0
  · simp only [if_pos hret]
    exact hinvariant.kept hselected.tracks hselected.others
  · have hpage := (hselected.page (not_not.mp hret)).2
    have hafter := hinvariant.kept hselected.tracks hselected.others
    simp only [if_neg hret, spiWriteThenRead_of_page hreg hpage, ite_self]
    by_cases hfails : data.ret < 0
    · simp only [if_pos hfails]
      exact hafter
    · simp only [if_neg hfails]
      exact hafter.delivered (ne_status hreg)

/-- Every clean step keeps the invariant. -/
theorem next (hinvariant : BusInvariant state) {label : BusLabel}
    (hclean : SelectsCleanly state label) (hnext : busNext state label = some successor) :
    BusInvariant successor := by
  cases label with
  | access access lines =>
    cases access with
    | write reg value statusRead statusWrite data => exact hinvariant.write hclean hnext
    | read reg statusRead statusWrite data => exact hinvariant.read hclean hnext
  | converts reg value =>
    simp only [busNext] at hnext
    split_ifs at hnext with hreg
    obtain rfl := Option.some.inj hnext
    exact hinvariant.stored hinvariant.tracks (fun _ _ ↦ rfl) hreg value

end BusInvariant

/-- Every clean run keeps the invariant. -/
theorem busInvariant_of_reachable {state : BusState}
    (hreach : busSystem.ReachableUnder SelectsCleanly state) : BusInvariant state := by
  refine hreach.invariant (fun start hinitial ↦ ?_) fun _ _ _ hbefore hclean hnext ↦
    hbefore.next hclean hnext
  obtain ⟨htracks, hregisters, hlog⟩ := hinitial
  refine ⟨htracks, fun reg _ ↦ ?_, ?_⟩
  · rw [hlog, hregisters]
    rfl
  · rw [hlog]
    trivial

/-- In every clean run each register but the status register holds the last value stored in it, and
every value read is the last one stored before in the register it was asked for. -/
theorem spi_reads_latest {state : BusState}
    (hreach : busSystem.ReachableUnder SelectsCleanly state) :
    (∀ reg, reg ≠ BME680_REG_STATUS →
        Latest state.start state.log reg (state.ctx.registers reg)) ∧
      ∀ later earlier reg value, state.log = later ++ .delivered reg value :: earlier →
        Latest state.start earlier reg value := by
  have hinvariant := busInvariant_of_reachable hreach
  refine ⟨fun reg hreg ↦ ?_, fun later earlier reg value hlog ↦ ?_⟩
  · rw [hinvariant.registers reg hreg]
    exact latest_contents state.start state.log reg
  · exact hinvariant.faithful.delivered_latest hlog

/-- The lines while nobody drives them high. -/
def linesLow : SpiLines where
  idle := 0x00
  floating := 0x00

/-- A write to the low page, a conversion, a read of the high page, and a read of the low one. -/
theorem spi_reads_latest_across_pages : ∃ state : BusState,
    state.log = [.delivered 0x74 0x25, .delivered 0xD0 0x61, .stored 0x1D 0x80,
      .stored 0x74 0x25] ∧
    Latest state.start [.delivered 0xD0 0x61, .stored 0x1D 0x80, .stored 0x74 0x25] 0x74 0x25 := by
  have hclean (state : BusState) : ∀ label ∈ ([
      .access (.write 0x74 0x25 .success .success .success) linesLow, .converts 0x1D 0x80,
      .access (.read 0xD0 .success .success .success) linesLow,
      .access (.read 0x74 .success .success .success) linesLow] : List BusLabel),
      SelectsCleanly state label := by
    intro label hlabel
    fin_cases hlabel
    all_goals first | trivial | exact Or.inr (Or.inr (Or.inl ⟨le_rfl, le_rfl⟩))
  obtain ⟨final, hrun, hlog⟩ : ∃ final,
      busSystem.run
        { ctx := { currentPage := 0xFF, registers := fun _ ↦ 0x61 }
          start := fun _ ↦ 0x61
          log := [] }
        [.access (.write 0x74 0x25 .success .success .success) linesLow, .converts 0x1D 0x80,
          .access (.read 0xD0 .success .success .success) linesLow,
          .access (.read 0x74 .success .success .success) linesLow] = some final ∧
        final.log = [.delivered 0x74 0x25, .delivered 0xD0 0x61, .stored 0x1D 0x80,
          .stored 0x74 0x25] :=
    ⟨_, rfl, rfl⟩
  have hreach : busSystem.ReachableUnder SelectsCleanly final :=
    .run _ hclean (.initial ⟨fun hcached ↦ absurd rfl hcached, rfl, rfl⟩) hrun
  exact ⟨final, hlog, (spi_reads_latest hreach).2 [] _ _ _ hlog⟩

end Bme680.Driver.RegisterView
