import Bme680.Concurrency.TransitionSystem
import Bme680.Monitor.SensorMonitor

/-!
# The sample shared between processes

`ipc_sync.c` keeps one sensor record in a shared memory segment and guards it by a semaphore, both
found by a key. Every process runs `ipc_sync_init` before it reads or writes the record.

The system is any number of processes, each at a point of one of the three functions between two
system calls or two copied fields. A segment lives as long as the key names it or a process has it
attached, and a failing `shmat` removes it from its key. States record the record of the last
completed write, and with every read that returned zero the record it stored beside that one.

`ipc_sync_init` gives the semaphore the value one whatever processes are doing with it. The
semaphore excludes as long as nobody is between its decrement and its increment at that moment,
and all processes share one segment as long as no failing `shmat` removes one in use
(`ipc_exclusive_of_undisturbed`).
-/

set_option autoImplicit false
set_option relaxedAutoImplicit false

namespace Bme680.Ipc

open Concurrency Monitor

/-! ### Processes -/

/-- A call on the shared sample, with the record a write is given. -/
inductive IpcCall
  | write (data : Bme680FifoData)
  | read
  deriving DecidableEq

/-- Where a process is: outside the functions, in `ipc_sync_init` before one of its system calls, or
in a call, before its semaphore decrement or after it with a number of fields copied. -/
inductive IpcPhase
  | outside
  | creating
  | attaching (shmid : ℕ)
  | gettingSem (shmid : ℕ)
  | settingVal (shmid : ℕ)
  | acquiring (call : IpcCall)
  | inside (call : IpcCall) (copied : ℕ)
  deriving DecidableEq

/-- A process: where it is, the segment its `struct bme680_ipc_sync` refers to, the code its last
call returned, and the record its reads store to. -/
structure IpcProcess where
  phase : IpcPhase
  data : Option ℕ
  lastReturn : ℤ
  result : Bme680FifoData
  deriving DecidableEq

namespace IpcProcess

/-- The process is between its semaphore decrement and its increment. -/
def Inside (process : IpcProcess) : Prop :=
  match process.phase with
  | .inside _ _ => True
  | _ => False

/-- The process is in a call on the shared sample. -/
def InCall (process : IpcProcess) : Prop :=
  match process.phase with
  | .inside _ _ | .acquiring _ => True
  | _ => False

/-- The process has a segment attached that it is going to use. -/
def Uses (process : IpcProcess) (shmid : ℕ) : Prop :=
  process.data = some shmid ∨ process.phase = .gettingSem shmid ∨
    process.phase = .settingVal shmid

/-- The process returned from a function with a code. -/
def returned (process : IpcProcess) (ret : ℤ) : IpcProcess :=
  { process with phase := .outside, lastReturn := ret }

end IpcProcess

/-! ### The system -/

/-- The system: the segment the key names, the number of segments created, what they hold, which
were attached, the value of the semaphore once it exists, and the processes. Of the run so far, the
record of the last completed write, and each record a read returned with zero beside the last one
written. -/
structure IpcState (Process : Type*) where
  key : Option ℕ
  segments : ℕ
  memory : ℕ → Bme680FifoData
  attached : List ℕ
  semaphore : Option ℕ
  processes : Process → IpcProcess
  lastWritten : Option Bme680FifoData
  reads : List (Bme680FifoData × Option Bme680FifoData)

/-- The record in the bytes of a new segment. -/
def zeroed : Bme680FifoData where
  temp := 0
  pressure := 0
  humidity := 0
  gasResistance := 0

/-- A record with one field copied from another one. -/
def copyField (source target : Bme680FifoData) : ℕ → Bme680FifoData
  | 0 => { target with temp := source.temp }
  | 1 => { target with pressure := source.pressure }
  | 2 => { target with humidity := source.humidity }
  | _ => { target with gasResistance := source.gasResistance }

/-- The steps of a process: entering `ipc_sync_init` up to its `malloc`, the four system calls of
that function, entering a read or a write, its semaphore decrement, the copy of one field, and its
increment up to the return. An error number other than zero says that a system call fails. -/
inductive IpcLabel (Process : Type*)
  | init (process : Process) (allocated : Bool)
  | shmget (process : Process) (errno : ℕ)
  | shmat (process : Process) (errno : ℕ)
  | semget (process : Process)
  | setval (process : Process)
  | call (process : Process) (call : IpcCall)
  | decrement (process : Process) (errno : ℕ)
  | copy (process : Process)
  | increment (process : Process)

variable {Process : Type*} [DecidableEq Process]

/-- The state after one process moved. -/
def IpcState.move (state : IpcState Process) (process : Process) (moved : IpcProcess) :
    IpcState Process :=
  { state with processes := Function.update state.processes process moved }

/-- The `shmget` of `ipc_sync_init`: the segment the key names, or a new one. -/
def shmgetCreate (state : IpcState Process) (process : Process) : IpcState Process :=
  match state.key with
  | some shmid =>
    state.move process { state.processes process with phase := .attaching shmid }
  | none =>
    { state.move process { state.processes process with phase := .attaching state.segments } with
      key := some state.segments
      segments := state.segments + 1
      memory := Function.update state.memory state.segments zeroed }

/-- The return of a call after its increment of the semaphore: a read returns an error where the
record it copied is out of range. -/
def IpcCall.ret (call : IpcCall) (result : Bme680FifoData) : ℤ :=
  match call with
  | .write _ => 0
  | .read => if InvalidSensorData result then -EINVAL else 0

/-- The range test of `ipc_sync_write` before it decrements the semaphore. -/
def IpcCall.Rejected : IpcCall → Prop
  | .write data => InvalidSensorData data
  | .read => False

instance : DecidablePred IpcCall.Rejected := fun call ↦ by
  cases call with
  | write data => exact inferInstanceAs (Decidable (InvalidSensorData data))
  | read => exact inferInstanceAs (Decidable False)

/-- The state after a step, where the step is possible. -/
def ipcNext (state : IpcState Process) : IpcLabel Process → Option (IpcState Process)
  | .init process allocated =>
    match (state.processes process).phase with
    | .outside =>
      if allocated then
        some (state.move process
          { state.processes process with phase := .creating, data := none })
      else
        some (state.move process
          { state.processes process with data := none, lastReturn := -ENOMEM })
    | _ => none
  | .shmget process errno =>
    match (state.processes process).phase with
    | .creating =>
      if errno ≠ 0 then some (state.move process ((state.processes process).returned (-errno)))
      else some (shmgetCreate state process)
    | _ => none
  | .shmat process errno =>
    match (state.processes process).phase with
    | .attaching shmid =>
      if errno ≠ 0 then
        -- `shmctl` with `IPC_RMID` takes the segment from its key
        some { state.move process ((state.processes process).returned (-errno)) with
          key := if state.key = some shmid then none else state.key }
      else if state.key = some shmid ∨ shmid ∈ state.attached then
        some { state.move process
            { state.processes process with phase := .gettingSem shmid } with
          attached := shmid :: state.attached }
      else none
    | _ => none
  | .semget process =>
    match (state.processes process).phase with
    | .gettingSem shmid =>
      some { state.move process
          { state.processes process with phase := .settingVal shmid } with
        semaphore := some (state.semaphore.getD 0) }
    | _ => none
  | .setval process =>
    match (state.processes process).phase with
    | .settingVal shmid =>
      some { state.move process
          { (state.processes process).returned 0 with data := some shmid } with
        semaphore := some 1 }
    | _ => none
  | .call process call =>
    if (state.processes process).phase = .outside ∧ (state.processes process).data.isSome then
      if call.Rejected then
        some (state.move process ((state.processes process).returned (-EINVAL)))
      else
        some (state.move process { state.processes process with phase := .acquiring call })
    else none
  | .decrement process errno =>
    match (state.processes process).phase with
    | .acquiring call =>
      if errno ≠ 0 then some (state.move process ((state.processes process).returned (-errno)))
      else
        match state.semaphore with
        | some (value + 1) =>
          some { state.move process
              { state.processes process with phase := .inside call 0 } with
            semaphore := some value }
        | _ => none
    | _ => none
  | .copy process =>
    match (state.processes process).phase, (state.processes process).data with
    | .inside (.write data) copied, some shmid =>
      if copied < 4 then
        some { state.move process
            { state.processes process with phase := .inside (.write data) (copied + 1) } with
          memory := Function.update state.memory shmid
            (copyField data (state.memory shmid) copied) }
      else none
    | .inside .read copied, some shmid =>
      if copied < 4 then
        some (state.move process
          { state.processes process with
            phase := .inside .read (copied + 1)
            result := copyField (state.memory shmid) (state.processes process).result copied })
      else none
    | _, _ => none
  | .increment process =>
    match (state.processes process).phase, state.semaphore with
    | .inside call 4, some value =>
      let ret := call.ret (state.processes process).result
      some { state.move process ((state.processes process).returned ret) with
        semaphore := some (value + 1)
        lastWritten :=
          match call with
          | .write data => some data
          | .read => state.lastWritten
        reads :=
          if call = .read ∧ ret = 0 then
            ((state.processes process).result, state.lastWritten) :: state.reads
          else state.reads }
    | _, _ => none

/-- A process that has called nothing. -/
def IpcProcess.Fresh (process : IpcProcess) : Prop :=
  process.phase = .outside ∧ process.data = none

/-- Processes that share a key no segment and no semaphore exist for. -/
def ipcSystem (Process : Type*) [DecidableEq Process] :
    TransitionSystem (IpcState Process) (IpcLabel Process) where
  initial := fun state ↦ state.key = none ∧ state.attached = [] ∧ state.semaphore = none ∧
    (∀ process, (state.processes process).Fresh) ∧ state.lastWritten = none ∧ state.reads = []
  next := ipcNext

/-! ### What is promised and when -/

/-- The semaphore is at most one, at most one process is between its decrement and its increment,
and every read that returned zero stored the record of the last completed write. -/
structure Exclusive (state : IpcState Process) : Prop where
  value_le : ∀ value, state.semaphore = some value → value ≤ 1
  unique : ∀ first second, (state.processes first).Inside → (state.processes second).Inside →
    first = second
  reads : ∀ read ∈ state.reads, read.2 = some read.1

/-- A step that does not set the semaphore while a process is between its decrement and its
increment, and does not remove a segment that is attached. -/
def Undisturbed (state : IpcState Process) : IpcLabel Process → Prop
  | .setval _ => ∀ other, ¬ (state.processes other).Inside
  | .shmat process errno =>
    errno ≠ 0 → ∀ shmid ∈ state.attached, (state.processes process).phase ≠ .attaching shmid
  | _ => True

/-! ### Copies -/

/-- A record has the first fields of another one. -/
def AgreesUpTo (copied : ℕ) (source target : Bme680FifoData) : Prop :=
  (0 < copied → target.temp = source.temp) ∧ (1 < copied → target.pressure = source.pressure) ∧
    (2 < copied → target.humidity = source.humidity) ∧
    (3 < copied → target.gasResistance = source.gasResistance)

theorem agreesUpTo_zero (source target : Bme680FifoData) : AgreesUpTo 0 source target :=
  ⟨fun hless ↦ absurd hless (Nat.not_lt_zero _), fun hless ↦ absurd hless (Nat.not_lt_zero _),
    fun hless ↦ absurd hless (Nat.not_lt_zero _), fun hless ↦ absurd hless (Nat.not_lt_zero _)⟩

/-- Copying the next field. -/
theorem AgreesUpTo.copyField {copied : ℕ} {source target : Bme680FifoData}
    (hagrees : AgreesUpTo copied source target) (hmore : copied < 4) :
    AgreesUpTo (copied + 1) source (copyField source target copied) := by
  obtain ⟨htemp, hpressure, hhumidity, -⟩ := hagrees
  obtain rfl | rfl | rfl | rfl : copied = 0 ∨ copied = 1 ∨ copied = 2 ∨ copied = 3 := by omega
  · exact ⟨fun _ ↦ rfl, fun h ↦ by omega, fun h ↦ by omega, fun h ↦ by omega⟩
  · exact ⟨fun _ ↦ htemp (by omega), fun _ ↦ rfl, fun h ↦ by omega, fun h ↦ by omega⟩
  · exact ⟨fun _ ↦ htemp (by omega), fun _ ↦ hpressure (by omega), fun _ ↦ rfl,
      fun h ↦ by omega⟩
  · exact ⟨fun _ ↦ htemp (by omega), fun _ ↦ hpressure (by omega),
      fun _ ↦ hhumidity (by omega), fun _ ↦ rfl⟩

/-- A record with all four fields copied is the other one. -/
theorem AgreesUpTo.eq {source target : Bme680FifoData} (hagrees : AgreesUpTo 4 source target) :
    target = source := by
  obtain ⟨htemp, hpressure, hhumidity, hgas⟩ := hagrees
  cases source
  cases target
  simp_all

/-- A segment that no process is writing: as it was created, or holding the record of the last
completed write. -/
def Settled (memory : Bme680FifoData) (lastWritten : Option Bme680FifoData) : Prop :=
  memory = zeroed ∨ lastWritten = some memory

/-- What a process between its decrement and its increment has copied. -/
def Copied (process : IpcProcess) (memory : Bme680FifoData)
    (lastWritten : Option Bme680FifoData) : Prop :=
  match process.phase with
  | .inside (.write data) copied => copied ≤ 4 ∧ AgreesUpTo copied data memory
  | .inside .read copied =>
    copied ≤ 4 ∧ AgreesUpTo copied memory process.result ∧ Settled memory lastWritten
  | _ => True

/-! ### The invariant -/

/-- All attached segments are the one the key names, the semaphore lets in one process at a time,
and the segment holds what was written last where nobody writes it. -/
structure IpcInvariant (state : IpcState Process) : Prop where
  attached : ∀ shmid ∈ state.attached, state.key = some shmid
  uses : ∀ process shmid, (state.processes process).Uses shmid → shmid ∈ state.attached
  inCall : ∀ process, (state.processes process).InCall → ∃ shmid,
    (state.processes process).data = some shmid
  value_le : ∀ value, state.semaphore = some value → value ≤ 1
  free : state.semaphore = some 1 → ∀ process, ¬ (state.processes process).Inside
  unique : ∀ first second, (state.processes first).Inside → (state.processes second).Inside →
    first = second
  settled : (∀ process, ¬ (state.processes process).Inside) → ∀ shmid,
    state.key = some shmid → Settled (state.memory shmid) state.lastWritten
  copied : ∀ process shmid, (state.processes process).data = some shmid →
    Copied (state.processes process) (state.memory shmid) state.lastWritten
  reads : ∀ read ∈ state.reads, read.2 = some read.1

variable {state successor : IpcState Process}

omit [DecidableEq Process] in
/-- A process between its decrement and its increment is in a call. -/
theorem IpcProcess.Inside.inCall {process : IpcProcess} (hinside : process.Inside) :
    process.InCall := by
  unfold IpcProcess.Inside at hinside
  unfold IpcProcess.InCall
  cases hphase : process.phase with
  | inside call copied => trivial
  | outside | creating | attaching shmid | gettingSem shmid | settingVal shmid | acquiring call =>
    simp only [hphase] at hinside

omit [DecidableEq Process] in
/-- A process that is not copying has copied nothing wrong. -/
theorem copied_of_not_inside {process : IpcProcess} (hnot : ¬ process.Inside)
    (memory : Bme680FifoData) (lastWritten : Option Bme680FifoData) :
    Copied process memory lastWritten := by
  unfold IpcProcess.Inside at hnot
  unfold Copied
  cases hphase : process.phase with
  | inside call copied => simp only [hphase, not_true_eq_false] at hnot
  | outside | creating | attaching shmid | gettingSem shmid | settingVal shmid | acquiring call =>
    trivial

namespace IpcInvariant

omit [DecidableEq Process] in
/-- The segment a process refers to is the one the key names. -/
theorem key_of_data (hinvariant : IpcInvariant state) {process : Process} {shmid : ℕ}
    (hdata : (state.processes process).data = some shmid) : state.key = some shmid :=
  hinvariant.attached shmid (hinvariant.uses process shmid (Or.inl hdata))

omit [DecidableEq Process] in
/-- Where no segment is attached, no process is in a call. -/
theorem not_inside_of_attached_nil (hinvariant : IpcInvariant state) (hnil : state.attached = [])
    (process : Process) : ¬ (state.processes process).Inside := by
  intro hinside
  obtain ⟨shmid, hdata⟩ := hinvariant.inCall process hinside.inCall
  have hmem := hinvariant.uses process shmid (Or.inl hdata)
  rw [hnil] at hmem
  exact List.not_mem_nil hmem

/-- After a process moved and came to use no segment that is not attached, none is used. -/
theorem uses_move (hinvariant : IpcInvariant state) {process : Process} {moved : IpcProcess}
    (huses : ∀ shmid, moved.Uses shmid → shmid ∈ state.attached) :
    ∀ other shmid, ((state.move process moved).processes other).Uses shmid →
      shmid ∈ state.attached :=
  (Function.forall_update_iff _ fun _ (candidate : IpcProcess) ↦
    ∀ shmid, candidate.Uses shmid → shmid ∈ state.attached).mpr
      ⟨huses, fun other _ ↦ hinvariant.uses other⟩

/-- After a process moved, and did not come to a call without a segment, no process is in one
without. -/
theorem inCall_move (hinvariant : IpcInvariant state) {process : Process} {moved : IpcProcess}
    (hcall : moved.InCall → ∃ shmid, moved.data = some shmid) :
    ∀ other, ((state.move process moved).processes other).InCall →
      ∃ shmid, ((state.move process moved).processes other).data = some shmid :=
  (Function.forall_update_iff _ fun _ (candidate : IpcProcess) ↦
    candidate.InCall → ∃ shmid, candidate.data = some shmid).mpr
      ⟨hcall, fun other _ ↦ hinvariant.inCall other⟩

/-- A process that moves from a point outside the guarded part to another one, and comes to use no
segment that is not attached, keeps the invariant. -/
theorem quiet (hinvariant : IpcInvariant state) {process : Process} {moved : IpcProcess}
    (hbefore : ¬ (state.processes process).Inside) (hafter : ¬ moved.Inside)
    (huses : ∀ shmid, moved.Uses shmid → shmid ∈ state.attached)
    (hcall : moved.InCall → ∃ shmid, moved.data = some shmid) :
    IpcInvariant (state.move process moved) := by
  have hinside : ∀ other, (Function.update state.processes process moved other).Inside →
      (state.processes other).Inside :=
    (Function.forall_update_iff _ fun other (candidate : IpcProcess) ↦ candidate.Inside →
      (state.processes other).Inside).mpr ⟨fun hmoved ↦ absurd hmoved hafter, fun _ _ ↦ id⟩
  have hback : ∀ other, (state.processes other).Inside →
      (Function.update state.processes process moved other).Inside :=
    (Function.forall_update_iff _ fun other (candidate : IpcProcess) ↦
      (state.processes other).Inside → candidate.Inside).mpr
        ⟨fun hold ↦ absurd hold hbefore, fun _ _ ↦ id⟩
  exact {
    attached := hinvariant.attached
    uses := hinvariant.uses_move huses
    inCall := hinvariant.inCall_move hcall
    value_le := hinvariant.value_le
    free := fun hone other hother ↦ hinvariant.free hone other (hinside other hother)
    unique := fun first second hfirst hsecond ↦
      hinvariant.unique first second (hinside first hfirst) (hinside second hsecond)
    settled := fun hnobody ↦ hinvariant.settled fun other hother ↦
      hnobody other (hback other hother)
    copied := (Function.forall_update_iff _ fun _ (candidate : IpcProcess) ↦ ∀ shmid,
      candidate.data = some shmid →
        Copied candidate (state.memory shmid) state.lastWritten).mpr
          ⟨fun _ _ ↦ copied_of_not_inside hafter _ _, fun other _ ↦ hinvariant.copied other⟩
    reads := hinvariant.reads }

/-- A process outside the guarded part that moves on to another point outside it and keeps its
segment. -/
theorem advance (hinvariant : IpcInvariant state) {process : Process} {phase : IpcPhase}
    (hbefore : ¬ (state.processes process).Inside)
    (hafter : ¬ ({ state.processes process with phase := phase } : IpcProcess).Inside)
    (huses : ∀ shmid, phase = .gettingSem shmid ∨ phase = .settingVal shmid →
      shmid ∈ state.attached)
    (hcall : ({ state.processes process with phase := phase } : IpcProcess).InCall →
      ∃ shmid, (state.processes process).data = some shmid) :
    IpcInvariant (state.move process { state.processes process with phase := phase }) := by
  refine hinvariant.quiet hbefore hafter (fun shmid hused ↦ ?_) hcall
  rcases hused with hdata | hphase
  · exact hinvariant.uses process shmid (Or.inl hdata)
  · exact huses shmid hphase

/-- A process outside the guarded part that returns from its function. -/
theorem returned (hinvariant : IpcInvariant state) {process : Process} (ret : ℤ)
    (hbefore : ¬ (state.processes process).Inside) :
    IpcInvariant (state.move process ((state.processes process).returned ret)) := by
  refine hinvariant.quiet hbefore not_false (fun shmid huses ↦ ?_) False.elim
  simp only [IpcProcess.Uses, IpcProcess.returned, reduceCtorEq, or_false] at huses
  exact hinvariant.uses process shmid (Or.inl huses)

omit [DecidableEq Process] in
/-- The invariant does not depend on segments nobody has attached, as long as the key names one that
is settled. -/
theorem of_detached (hinvariant : IpcInvariant state) (hnil : state.attached = [])
    {key : Option ℕ} {segments : ℕ} {memory : ℕ → Bme680FifoData}
    (hsettled : ∀ shmid, key = some shmid → Settled (memory shmid) state.lastWritten) :
    IpcInvariant { state with key := key, segments := segments, memory := memory } where
  attached := fun shmid hmem ↦ by
    dsimp only at hmem
    rw [hnil] at hmem
    exact absurd hmem List.not_mem_nil
  uses := hinvariant.uses
  inCall := hinvariant.inCall
  value_le := hinvariant.value_le
  free := hinvariant.free
  unique := hinvariant.unique
  settled := fun _ ↦ hsettled
  copied := fun process _ _ ↦
    copied_of_not_inside (hinvariant.not_inside_of_attached_nil hnil process) _ _
  reads := hinvariant.reads

omit [DecidableEq Process] in
/-- The semaphore may take any value up to one that lets nobody in beside a process in the guarded
part. -/
theorem with_semaphore (hinvariant : IpcInvariant state) {semaphore : Option ℕ}
    (hvalue : ∀ value, semaphore = some value → value ≤ 1)
    (hfree : semaphore = some 1 → ∀ process, ¬ (state.processes process).Inside) :
    IpcInvariant { state with semaphore := semaphore } :=
  { hinvariant with value_le := hvalue, free := hfree }

omit [DecidableEq Process] in
/-- Attaching the segment the key names. -/
theorem attach (hinvariant : IpcInvariant state) {shmid : ℕ} (hkey : state.key = some shmid) :
    IpcInvariant { state with attached := shmid :: state.attached } :=
  { hinvariant with
    attached := fun other hmem ↦ by
      rcases List.mem_cons.mp hmem with rfl | hearlier
      · exact hkey
      · exact hinvariant.attached other hearlier
    uses := fun process other huses ↦
      List.mem_cons_of_mem _ (hinvariant.uses process other huses) }

end IpcInvariant

/-! ### The steps -/

/-- The `shmget` of `ipc_sync_init` keeps the invariant. -/
theorem shmgetCreate_invariant (hinvariant : IpcInvariant state) {process : Process}
    (hphase : (state.processes process).phase = .creating) :
    IpcInvariant (shmgetCreate state process) := by
  have hmoved (shmid : ℕ) : IpcInvariant (state.move process
      { state.processes process with phase := .attaching shmid }) := by
    refine hinvariant.advance ?_ not_false (fun other hphase ↦ ?_) False.elim
    · simp only [IpcProcess.Inside, hphase, not_false_eq_true]
    · simp only [reduceCtorEq, or_false] at hphase
  unfold shmgetCreate
  cases hkey : state.key with
  | some shmid => exact hmoved shmid
  | none =>
    have hnil : state.attached = [] := by
      refine List.eq_nil_iff_forall_not_mem.mpr fun shmid hmem ↦ ?_
      have hnamed := hinvariant.attached shmid hmem
      rw [hkey] at hnamed
      cases hnamed
    refine (hmoved state.segments).of_detached hnil fun shmid hnamed ↦ Or.inl ?_
    rw [← Option.some.inj hnamed]
    exact Function.update_self _ _ _

/-- A process that enters `ipc_sync_init`. -/
theorem init_invariant (hinvariant : IpcInvariant state) {process : Process} {allocated : Bool}
    (hnext : ipcNext state (.init process allocated) = some successor) :
    IpcInvariant successor := by
  simp only [ipcNext] at hnext
  split at hnext
  · rename_i hphase
    have hbefore : ¬ (state.processes process).Inside := by
      simp only [IpcProcess.Inside, hphase, not_false_eq_true]
    split_ifs at hnext
    · obtain rfl := Option.some.inj hnext
      refine hinvariant.quiet hbefore not_false (fun shmid huses ↦ ?_) False.elim
      simp only [IpcProcess.Uses, reduceCtorEq, or_false] at huses
    · obtain rfl := Option.some.inj hnext
      refine hinvariant.quiet hbefore hbefore (fun shmid huses ↦ ?_) fun hcall ↦ ?_
      · simp only [IpcProcess.Uses, hphase, reduceCtorEq, or_false] at huses
      · simp only [IpcProcess.InCall, hphase] at hcall
  · cases hnext

/-- The `shmat` of `ipc_sync_init`, unless its failure removes a segment that is attached. -/
theorem shmat_invariant (hinvariant : IpcInvariant state) {process : Process} {errno : ℕ}
    (hundisturbed : Undisturbed state (.shmat process errno))
    (hnext : ipcNext state (.shmat process errno) = some successor) :
    IpcInvariant successor := by
  simp only [ipcNext] at hnext
  split at hnext
  · rename_i shmid hphase
    have hbefore : ¬ (state.processes process).Inside := by
      simp only [IpcProcess.Inside, hphase, not_false_eq_true]
    split_ifs at hnext with herrno hkey halive
    · -- the segment is removed from its key, and nobody has it attached
      obtain rfl := Option.some.inj hnext
      have hnil : state.attached = [] := by
        refine List.eq_nil_iff_forall_not_mem.mpr fun other hmem ↦ ?_
        have hsame : shmid = other :=
          Option.some.inj (hkey.symm.trans (hinvariant.attached other hmem))
        exact hundisturbed herrno other hmem (hsame ▸ hphase)
      exact (hinvariant.returned (-(errno : ℤ)) hbefore).of_detached hnil nofun
    · obtain rfl := Option.some.inj hnext
      exact hinvariant.returned (-(errno : ℤ)) hbefore
    · obtain rfl := Option.some.inj hnext
      have hkey : state.key = some shmid := halive.elim id (hinvariant.attached shmid)
      refine (hinvariant.attach hkey).advance hbefore not_false (fun other hphase ↦ ?_) False.elim
      simp only [reduceCtorEq, or_false, IpcPhase.gettingSem.injEq] at hphase
      rw [← hphase]
      exact List.mem_cons_self
  · cases hnext

/-- The `semget` of `ipc_sync_init`, which creates the semaphore with the value zero or finds it. -/
theorem semget_invariant (hinvariant : IpcInvariant state) {process : Process}
    (hnext : ipcNext state (.semget process) = some successor) : IpcInvariant successor := by
  simp only [ipcNext] at hnext
  split at hnext
  · rename_i shmid hphase
    obtain rfl := Option.some.inj hnext
    have hmoved : IpcInvariant (state.move process
        { state.processes process with phase := .settingVal shmid }) := by
      refine hinvariant.advance ?_ not_false (fun other hsetting ↦ ?_) False.elim
      · simp only [IpcProcess.Inside, hphase, not_false_eq_true]
      · simp only [reduceCtorEq, false_or, IpcPhase.settingVal.injEq] at hsetting
        rw [← hsetting]
        exact hinvariant.uses process shmid (Or.inr (Or.inl hphase))
    cases hsemaphore : state.semaphore with
    | none =>
      refine hmoved.with_semaphore (fun value hvalue ↦ ?_) fun hone ↦ ?_
      · exact (Option.some.inj hvalue).symm.le.trans zero_le_one
      · exact absurd (Option.some.inj hone) Nat.zero_ne_one
    | some old =>
      refine hmoved.with_semaphore (fun value hvalue ↦ ?_) fun hone ↦ ?_
      · exact (Option.some.inj hvalue).symm.le.trans (hinvariant.value_le old hsemaphore)
      · exact hmoved.free (hsemaphore.trans hone)
  · cases hnext

/-- The `semctl` of `ipc_sync_init`, where no process is in the guarded part. -/
theorem setval_invariant (hinvariant : IpcInvariant state) {process : Process}
    (hundisturbed : ∀ other, ¬ (state.processes other).Inside)
    (hnext : ipcNext state (.setval process) = some successor) : IpcInvariant successor := by
  simp only [ipcNext] at hnext
  split at hnext
  · rename_i shmid hphase
    obtain rfl := Option.some.inj hnext
    have hfree := @IpcInvariant.with_semaphore _ _ hinvariant (some 1)
      (fun value hvalue ↦ (Option.some.inj hvalue).symm.le) fun _ ↦ hundisturbed
    refine hfree.quiet (hundisturbed process) not_false (fun other huses ↦ ?_) False.elim
    simp only [IpcProcess.Uses, IpcProcess.returned, reduceCtorEq, or_false,
      Option.some.injEq] at huses
    rw [← huses]
    exact hinvariant.uses process shmid (Or.inr (Or.inr hphase))
  · cases hnext

/-- A process that enters the guarded part. -/
theorem decrement_invariant (hinvariant : IpcInvariant state) {process : Process} {call : IpcCall}
    {value : ℕ} (hphase : (state.processes process).phase = .acquiring call)
    (hsemaphore : state.semaphore = some (value + 1)) :
    IpcInvariant { state.move process
        { state.processes process with phase := .inside call 0 } with
      semaphore := some value } := by
  have hzero : value = 0 := by
    have hle := hinvariant.value_le _ hsemaphore
    omega
  subst hzero
  have hnobody := hinvariant.free hsemaphore
  have hinside : ∀ other, (Function.update state.processes process
      { state.processes process with phase := .inside call 0 } other).Inside →
      other = process :=
    (Function.forall_update_iff _ fun other (candidate : IpcProcess) ↦
      candidate.Inside → other = process).mpr
      ⟨fun _ ↦ rfl, fun other _ hother ↦ absurd hother (hnobody other)⟩
  exact {
    attached := hinvariant.attached
    uses := hinvariant.uses_move fun shmid huses ↦ by
      simp only [IpcProcess.Uses, reduceCtorEq, or_false] at huses
      exact hinvariant.uses process shmid (Or.inl huses)
    inCall := hinvariant.inCall_move fun _ ↦
      hinvariant.inCall process (by simp only [IpcProcess.InCall, hphase])
    value_le := fun value hvalue ↦ by
      rw [← Option.some.inj hvalue]
      exact Nat.zero_le 1
    free := fun hone ↦ absurd (Option.some.inj hone) Nat.zero_ne_one
    unique := fun first second hfirst hsecond ↦
      (hinside first hfirst).trans (hinside second hsecond).symm
    settled := fun hnone ↦ by
      refine absurd ?_ (hnone process)
      dsimp only [IpcState.move]
      rw [Function.update_self]
      trivial
    copied := (Function.forall_update_iff _ fun _ (candidate : IpcProcess) ↦ ∀ shmid,
      candidate.data = some shmid →
        Copied candidate (state.memory shmid) state.lastWritten).mpr
          ⟨fun shmid hdata ↦ by
            have hsettled := hinvariant.settled hnobody shmid (hinvariant.key_of_data hdata)
            cases call with
            | write data => exact ⟨Nat.zero_le 4, agreesUpTo_zero _ _⟩
            | read => exact ⟨Nat.zero_le 4, agreesUpTo_zero _ _, hsettled⟩,
          fun other _ ↦ hinvariant.copied other⟩
    reads := hinvariant.reads }

/-- A process that moves on within the guarded part, with the segment it refers to changed. -/
theorem inside_invariant (hinvariant : IpcInvariant state) {process : Process}
    {moved : IpcProcess} {memory : ℕ → Bme680FifoData}
    (hbefore : (state.processes process).Inside) (hafter : moved.Inside)
    (hdata : moved.data = (state.processes process).data)
    (hcopied : ∀ shmid, moved.data = some shmid →
      Copied moved (memory shmid) state.lastWritten) :
    IpcInvariant { state.move process moved with memory := memory } := by
  have hinside : ∀ other, (Function.update state.processes process moved other).Inside →
      other = process :=
    (Function.forall_update_iff _ fun other (candidate : IpcProcess) ↦
      candidate.Inside → other = process).mpr
        ⟨fun _ ↦ rfl, fun other _ hother ↦ hinvariant.unique other process hother hbefore⟩
  exact {
    attached := hinvariant.attached
    uses := hinvariant.uses_move fun shmid huses ↦ by
      rcases huses with hmoved | hphase | hphase
      · exact hinvariant.uses process shmid (Or.inl (hdata ▸ hmoved))
      · simp only [IpcProcess.Inside, hphase] at hafter
      · simp only [IpcProcess.Inside, hphase] at hafter
    inCall := hinvariant.inCall_move fun _ ↦ hdata ▸ hinvariant.inCall process hbefore.inCall
    value_le := hinvariant.value_le
    free := fun hone ↦ absurd hbefore (hinvariant.free hone process)
    unique := fun first second hfirst hsecond ↦
      (hinside first hfirst).trans (hinside second hsecond).symm
    settled := fun hnone ↦ by
      refine absurd ?_ (hnone process)
      dsimp only [IpcState.move]
      rwa [Function.update_self]
    copied := (Function.forall_update_iff _ fun _ (candidate : IpcProcess) ↦ ∀ shmid,
      candidate.data = some shmid → Copied candidate (memory shmid) state.lastWritten).mpr
        ⟨hcopied, fun other hother _ _ ↦ copied_of_not_inside (fun hinsideOther ↦
          hother (hinvariant.unique other process hinsideOther hbefore)) _ _⟩
    reads := hinvariant.reads }

/-- A process that copies a field. -/
theorem copy_invariant (hinvariant : IpcInvariant state) {process : Process}
    (hnext : ipcNext state (.copy process) = some successor) : IpcInvariant successor := by
  unfold ipcNext at hnext
  cases hphase : (state.processes process).phase with
  | inside call copied =>
    have hbefore : (state.processes process).Inside := by
      simp only [IpcProcess.Inside, hphase]
    obtain ⟨shmid, hdata⟩ := hinvariant.inCall process hbefore.inCall
    have hcopied := hinvariant.copied process shmid hdata
    cases call with
    | write data =>
      simp only [hphase, hdata, Option.ite_none_right_eq_some, Option.some.injEq] at hnext
      obtain ⟨hmore, rfl⟩ := hnext
      simp only [Copied, hphase] at hcopied
      refine inside_invariant hinvariant hbefore trivial hdata.symm fun other hother ↦ ?_
      obtain rfl : shmid = other := Option.some.inj hother
      rw [Function.update_self]
      exact ⟨hmore, hcopied.2.copyField hmore⟩
    | read =>
      simp only [hphase, hdata, Option.ite_none_right_eq_some, Option.some.injEq] at hnext
      obtain ⟨hmore, rfl⟩ := hnext
      simp only [Copied, hphase] at hcopied
      refine inside_invariant hinvariant hbefore trivial hdata.symm fun other hother ↦ ?_
      obtain rfl : shmid = other := Option.some.inj hother
      exact ⟨hmore, hcopied.2.1.copyField hmore, hcopied.2.2⟩
  | outside | creating | attaching shmid | gettingSem shmid | settingVal shmid | acquiring call =>
    simp only [hphase, reduceCtorEq] at hnext

/-- A process that leaves the guarded part. -/
theorem increment_invariant (hinvariant : IpcInvariant state) {process : Process}
    (hnext : ipcNext state (.increment process) = some successor) : IpcInvariant successor := by
  simp only [ipcNext] at hnext
  split at hnext
  · rename_i call value hphase hsemaphore
    have hbefore : (state.processes process).Inside := by
      simp only [IpcProcess.Inside, hphase]
    obtain ⟨shmid, hdata⟩ := hinvariant.inCall process hbefore.inCall
    have hcopied := hinvariant.copied process shmid hdata
    have hkey := hinvariant.key_of_data hdata
    have hzero : value = 0 := by
      have hle := hinvariant.value_le _ hsemaphore
      have hone : value ≠ 1 := fun hone ↦
        hinvariant.free (hone ▸ hsemaphore) process hbefore
      omega
    subst hzero
    obtain rfl := Option.some.inj hnext
    have hnobody : ∀ other, ¬ (Function.update state.processes process
        ((state.processes process).returned
          (call.ret (state.processes process).result)) other).Inside :=
      (Function.forall_update_iff _ fun _ (candidate : IpcProcess) ↦ ¬ candidate.Inside).mpr
        ⟨not_false, fun other hother hinside ↦
          hother (hinvariant.unique other process hinside hbefore)⟩
    exact {
      attached := hinvariant.attached
      uses := hinvariant.uses_move fun shmid huses ↦ by
        simp only [IpcProcess.Uses, IpcProcess.returned, reduceCtorEq, or_false] at huses
        exact hinvariant.uses process shmid (Or.inl huses)
      inCall := hinvariant.inCall_move False.elim
      value_le := fun value hvalue ↦ (Option.some.inj hvalue).symm.le
      free := fun _ ↦ hnobody
      unique := fun first second hfirst _ ↦ absurd hfirst (hnobody first)
      settled := fun _ other hother ↦ by
        obtain rfl : shmid = other := Option.some.inj (hkey.symm.trans hother)
        cases call with
        | write data =>
          simp only [Copied, hphase] at hcopied
          exact Or.inr (congrArg some hcopied.2.eq.symm)
        | read =>
          simp only [Copied, hphase] at hcopied
          exact hcopied.2.2
      copied := fun other _ _ ↦ copied_of_not_inside (hnobody other) _ _
      reads := fun read hread ↦ by
        dsimp only at hread
        split_ifs at hread with hsuccess
        · rcases List.mem_cons.mp hread with rfl | hearlier
          · -- the record that was read is in range, so that the segment is not as it was created
            obtain ⟨rfl, hret⟩ := hsuccess
            simp only [Copied, hphase] at hcopied
            obtain ⟨-, hagrees, hsettled⟩ := hcopied
            rw [hagrees.eq] at hret ⊢
            rcases hsettled with hcreated | hlast
            · rw [hcreated] at hret
              exact absurd hret (by decide)
            · exact hlast
          · exact hinvariant.reads read hearlier
        · exact hinvariant.reads read hread }
  · cases hnext

/-- Every undisturbed step keeps the invariant. -/
theorem ipcNext_invariant (hinvariant : IpcInvariant state) {label : IpcLabel Process}
    (hundisturbed : Undisturbed state label) (hnext : ipcNext state label = some successor) :
    IpcInvariant successor := by
  cases label with
  | init process allocated => exact init_invariant hinvariant hnext
  | shmget process errno =>
    simp only [ipcNext] at hnext
    split at hnext
    · rename_i hphase
      split_ifs at hnext
      · obtain rfl := Option.some.inj hnext
        exact hinvariant.returned _ (by simp only [IpcProcess.Inside, hphase, not_false_eq_true])
      · obtain rfl := Option.some.inj hnext
        exact shmgetCreate_invariant hinvariant hphase
    · cases hnext
  | shmat process errno => exact shmat_invariant hinvariant hundisturbed hnext
  | semget process => exact semget_invariant hinvariant hnext
  | setval process => exact setval_invariant hinvariant hundisturbed hnext
  | call process call =>
    simp only [ipcNext, Option.ite_none_right_eq_some] at hnext
    obtain ⟨⟨hphase, hsome⟩, hnext⟩ := hnext
    have hbefore : ¬ (state.processes process).Inside := by
      simp only [IpcProcess.Inside, hphase, not_false_eq_true]
    split_ifs at hnext
    · obtain rfl := Option.some.inj hnext
      exact hinvariant.returned _ hbefore
    · obtain rfl := Option.some.inj hnext
      refine hinvariant.advance hbefore not_false (fun shmid hphase ↦ ?_)
        fun _ ↦ Option.isSome_iff_exists.mp hsome
      simp only [reduceCtorEq, or_false] at hphase
  | decrement process errno =>
    simp only [ipcNext] at hnext
    split at hnext
    · rename_i call hphase
      split_ifs at hnext
      · obtain rfl := Option.some.inj hnext
        exact hinvariant.returned _ (by simp only [IpcProcess.Inside, hphase, not_false_eq_true])
      · split at hnext
        · rename_i value hsemaphore
          obtain rfl := Option.some.inj hnext
          exact decrement_invariant hinvariant hphase hsemaphore
        · cases hnext
    · cases hnext
  | copy process => exact copy_invariant hinvariant hnext
  | increment process => exact increment_invariant hinvariant hnext

/-- Every undisturbed run keeps the invariant. -/
theorem ipcInvariant_reachable
    (hreach : (ipcSystem Process).ReachableUnder Undisturbed state) : IpcInvariant state := by
  have hinitial : ∀ start, (ipcSystem Process).initial start → IpcInvariant start := by
    rintro start ⟨hkey, hattached, hsemaphore, hfresh, hlast, hreads⟩
    have hnot : ∀ process, ¬ (start.processes process).Inside := fun process ↦ by
      simp only [IpcProcess.Inside, (hfresh process).1, not_false_eq_true]
    exact {
      attached := fun shmid hmem ↦ absurd (hattached ▸ hmem) List.not_mem_nil
      uses := fun process shmid huses ↦ by
        simp only [IpcProcess.Uses, (hfresh process).1, (hfresh process).2, reduceCtorEq,
          or_false] at huses
      inCall := fun process hcall ↦ by
        simp only [IpcProcess.InCall, (hfresh process).1] at hcall
      value_le := fun value hvalue ↦ by
        rw [hsemaphore] at hvalue
        cases hvalue
      free := fun _ ↦ hnot
      unique := fun first second hfirst _ ↦ absurd hfirst (hnot first)
      settled := fun _ shmid hnamed ↦ by
        rw [hkey] at hnamed
        cases hnamed
      copied := fun process _ _ ↦ copied_of_not_inside (hnot process) _ _
      reads := fun read hread ↦ absurd (hreads ▸ hread) List.not_mem_nil }
  exact hreach.invariant hinitial fun _ _ _ hbefore hundisturbed hnext ↦
    ipcNext_invariant hbefore hundisturbed hnext

/-! ### Setting a semaphore in use -/

/-- A process between its decrement and its increment beside a semaphore of value one goes on to
raise it to two. -/
theorem semaphore_reaches_two {process : Process} {call : IpcCall} {shmid : ℕ} (remaining : ℕ) :
    ∀ {state : IpcState Process} {copied : ℕ},
      (state.processes process).phase = .inside call copied → copied + remaining = 4 →
      (state.processes process).data = some shmid → state.semaphore = some 1 →
      ∃ final, (ipcSystem Process).Continuation (fun _ _ ↦ True) state final ∧
        final.semaphore = some 2 := by
  induction remaining with
  | zero =>
    intro state copied hphase hcopied hdata hsemaphore
    obtain rfl : copied = 4 := hcopied
    have hnext : ∃ successor, ipcNext state (.increment process) = some successor ∧
        successor.semaphore = some 2 := by
      simp only [ipcNext, hphase, hsemaphore, Option.some.injEq, exists_eq_left']
    obtain ⟨successor, hnext, htwo⟩ := hnext
    exact ⟨successor, .single ⟨.increment process, trivial, hnext⟩, htwo⟩
  | succ remaining ih =>
    intro state copied hphase hcopied hdata hsemaphore
    have hmore : copied < 4 := by omega
    have hnext : ∃ successor, ipcNext state (.copy process) = some successor ∧
        (successor.processes process).phase = .inside call (copied + 1) ∧
        (successor.processes process).data = some shmid ∧ successor.semaphore = some 1 := by
      cases call with
      | write data =>
        simp only [ipcNext, hphase, hdata, if_pos hmore, Option.some.injEq, exists_eq_left',
          IpcState.move, Function.update_self, hsemaphore, and_self]
      | read =>
        simp only [ipcNext, hphase, hdata, if_pos hmore, Option.some.injEq, exists_eq_left',
          IpcState.move, Function.update_self, hsemaphore, and_self]
    obtain ⟨successor, hnext, hmoved, hsame, hone⟩ := hnext
    obtain ⟨final, hmore, htwo⟩ := ih hmoved (by omega) hsame hone
    exact ⟨final, .head ⟨.copy process, trivial, hnext⟩ hmore, htwo⟩

/-- Setting the semaphore while a process is between its decrement and its increment leads to a
semaphore of value two. -/
theorem disturbed_setval (hinvariant : IpcInvariant state) {process : Process}
    (hdisturbed : ¬ Undisturbed state (.setval process))
    (hnext : ipcNext state (.setval process) = some successor) :
    ∃ final, (ipcSystem Process).Continuation (fun _ _ ↦ True) successor final ∧
      final.semaphore = some 2 := by
  obtain ⟨other, hinside⟩ := not_forall_not.mp hdisturbed
  obtain ⟨shmid, hdata⟩ := hinvariant.inCall other hinside.inCall
  have hcopied := hinvariant.copied other shmid hdata
  have hphase : ∃ call copied, (state.processes other).phase = .inside call copied ∧
      copied ≤ 4 := by
    unfold IpcProcess.Inside at hinside
    unfold Copied at hcopied
    cases hphase : (state.processes other).phase with
    | inside call copied =>
      rw [hphase] at hcopied
      cases call with
      | write data => exact ⟨_, copied, rfl, hcopied.1⟩
      | read => exact ⟨_, copied, rfl, hcopied.1⟩
    | outside | creating | attaching shmid | gettingSem shmid | settingVal shmid
    | acquiring call => simp only [hphase] at hinside
  obtain ⟨call, copied, hphase, hle⟩ := hphase
  simp only [ipcNext] at hnext
  split at hnext
  · rename_i settled hsetting
    obtain rfl := Option.some.inj hnext
    have hne : other ≠ process := by
      rintro rfl
      rw [hphase] at hsetting
      cases hsetting
    refine @semaphore_reaches_two _ _ other call shmid (4 - copied) _ copied ?_ (by omega) ?_ rfl
    · exact (congrArg IpcProcess.phase (Function.update_of_ne hne _ _)).trans hphase
    · exact (congrArg IpcProcess.data (Function.update_of_ne hne _ _)).trans hdata
  · cases hnext

/-- The semaphore excludes, and every read that returned zero stored the record of the last
completed write, as long as every step is undisturbed. After the first step that sets the semaphore
while a process is between its decrement and its increment, the semaphore can exceed one. -/
theorem ipc_exclusive_of_undisturbed :
    (∀ state : IpcState Process, (ipcSystem Process).ReachableUnder Undisturbed state →
      Exclusive state) ∧
    ∀ (state : IpcState Process) process successor,
      (ipcSystem Process).ReachableUnder Undisturbed state →
      ¬ Undisturbed state (.setval process) →
      (ipcSystem Process).next state (.setval process) = some successor →
      ∃ final, (ipcSystem Process).Continuation (fun _ _ ↦ True) successor final ∧
        ¬ Exclusive final := by
  constructor
  · intro state hreach
    have hinvariant := ipcInvariant_reachable hreach
    exact ⟨hinvariant.value_le, hinvariant.unique, hinvariant.reads⟩
  · intro state process successor hreach hdisturbed hnext
    obtain ⟨final, hmore, htwo⟩ :=
      disturbed_setval (ipcInvariant_reachable hreach) hdisturbed hnext
    exact ⟨final, hmore, fun hexclusive ↦ absurd (hexclusive.value_le 2 htwo) (by decide)⟩

/-- A record in range with a given temperature and pressure. -/
def sampleOf (temp : ℚ) (pressure : UInt32) : Bme680FifoData :=
  { temp := temp, pressure := pressure, humidity := 40, gasResistance := 50000 }

/-- Two processes before either has called `ipc_sync_init`. -/
def twoProcesses : IpcState (Fin 2) where
  key := none
  segments := 0
  memory := fun _ ↦ zeroed
  attached := []
  semaphore := none
  processes := fun _ ↦ { phase := .outside, data := none, lastReturn := 0, result := zeroed }
  lastWritten := none
  reads := []

/-- The labels of an initialization whose system calls all succeed. -/
def initLabels (process : Fin 2) : List (IpcLabel (Fin 2)) :=
  [.init process true, .shmget process 0, .shmat process 0, .semget process, .setval process]

/-- A process is writing its second record when another one initializes, and reads a record with the
temperature of the second and the other fields of the first. -/
theorem late_init_tears_read :
    ¬ ∀ state : IpcState (Fin 2), (ipcSystem (Fin 2)).Reachable state → Exclusive state := by
  intro hall
  obtain ⟨final, hrun, hreads⟩ : ∃ final,
      (ipcSystem (Fin 2)).run twoProcesses
        (initLabels 0 ++
          [.call 0 (.write (sampleOf 20 90000)), .decrement 0 0, .copy 0, .copy 0, .copy 0, .copy 0,
            .increment 0, .call 0 (.write (sampleOf 30 95000)), .decrement 0 0, .copy 0] ++
          initLabels 1 ++
          [.call 1 .read, .decrement 1 0, .copy 1, .copy 1, .copy 1, .copy 1, .increment 1]) =
        some final ∧
      final.reads = [(sampleOf 30 90000, some (sampleOf 20 90000))] :=
    ⟨_, rfl, rfl⟩
  have hreach : (ipcSystem (Fin 2)).Reachable final := TransitionSystem.reachable_of_run
    ⟨rfl, rfl, rfl, fun _ ↦ ⟨rfl, rfl⟩, rfl, rfl⟩ _ hrun
  have hread := (hall final hreach).reads (sampleOf 30 90000, some (sampleOf 20 90000))
    (by rw [hreads]; exact List.mem_cons_self)
  exact absurd hread (by decide)

end Bme680.Ipc
