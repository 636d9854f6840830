import Bme680.Philosophers.AssemblyLine

/-!
# The result of the assembly line

A client of the assembly line copies a record in with `assembly_line_process` and copies the result
out with `assembly_line_get_result`. Both lock a mutex of the line that its stages never lock: the
stages go through their rounds before, between and after the copies, and add one to the shared
temperature by a read and a write of their own.

The system composes the stages of `AssemblyLine` with one client. Its states also count the writes
of stages since the record was copied in. If the record is copied in while no stage is between its
read and its write, the stages' updates do not overlap, and the result is copied out after as many
updates as there are stages, then the result is the processed record; from the first step that
deviates from this the client can get another record (`pipeline_result_exact`).
-/

set_option autoImplicit false
set_option relaxedAutoImplicit false

namespace Bme680.Philosophers

open Concurrency Barriers

variable {n : ℕ}

/-! ### The client -/

/-- `assembly_line_process`, between locking and unlocking the mutex of the line. -/
def assemblyLineProcess (al : AssemblyState n) (data : Bme680FifoData) : AssemblyState n × ℤ :=
  ({ al with data := data }, 0)

/-- `assembly_line_get_result`, between locking and unlocking the mutex of the line: the record it
stores for the caller, and its return code. -/
def assemblyLineGetResult (al : AssemblyState n) : Bme680FifoData × ℤ :=
  (al.data, 0)

/-- Where the client is: before `assembly_line_process`, between the two calls with the record it
passed, or behind them with that record and the result. -/
inductive ClientPhase
  | processing
  | collecting (data : Bme680FifoData)
  | finished (data result : Bme680FifoData)
  deriving DecidableEq

/-- The client is between its calls. -/
def ClientPhase.Collecting (client : ClientPhase) : Prop :=
  ∃ data, client = .collecting data

instance : DecidablePred ClientPhase.Collecting
  | .collecting data => isTrue ⟨data, rfl⟩
  | .processing | .finished _ _ => isFalse fun ⟨_, h⟩ ↦ ClientPhase.noConfusion h

/-- The assembly line and its client. Of the run so far, the number of writes of stages to the
temperature since the record was copied in. -/
structure PipelineState (n : ℕ) where
  line : AssemblyState n
  client : ClientPhase
  updates : ℕ

/-- The steps: a step of the stages, and the two calls of the client. -/
inductive PipelineLabel (n : ℕ)
  | line (label : AssemblyLabel n)
  | process (data : Bme680FifoData)
  | getResult

/-- The stage is between its read and its write of the temperature. -/
def StagePosition.Updating (position : StagePosition) : Prop :=
  ∃ temp, position = .writing temp

instance : DecidablePred StagePosition.Updating
  | .writing temp => isTrue ⟨temp, rfl⟩
  | .loopHead | .entering | .asleep | .awake | .reading | .dining _ | .finished =>
    isFalse fun ⟨_, h⟩ ↦ StagePosition.noConfusion h

/-- The step writes the temperature. -/
def WritesTemp (line : AssemblyState n) : AssemblyLabel n → Prop
  | .stage id => (line.positions id).Updating
  | .spurious _ => False

instance (line : AssemblyState n) : DecidablePred (WritesTemp line)
  | .stage id => inferInstanceAs (Decidable (line.positions id).Updating)
  | .spurious _ => isFalse id

/-- The state after a step, where the step is possible. -/
def pipelineNext (state : PipelineState n) : PipelineLabel n → Option (PipelineState n)
  | .line label =>
    (assemblyNext state.line label).map fun line ↦
      { state with
        line := line
        updates := state.updates + if WritesTemp state.line label then 1 else 0 }
  | .process data =>
    if state.client = .processing then
      some { line := (assemblyLineProcess state.line data).1
             client := .collecting data
             updates := 0 }
    else none
  | .getResult =>
    match state.client with
    | .collecting data =>
      some { state with client := .finished data (assemblyLineGetResult state.line).1 }
    | _ => none

/-- The running stages of an assembly line and a client that has not called it yet. -/
def pipelineSystem (n : ℕ) : TransitionSystem (PipelineState n) (PipelineLabel n) where
  initial := fun state ↦ (assemblySystem n).initial state.line ∧ state.client = .processing
  next := pipelineNext

/-- A record whose temperature was raised by one for each of a number of stages. -/
def raised (data : Bme680FifoData) (stages : ℕ) : Bme680FifoData :=
  { data with temp := data.temp + stages }

/-- No update leaves a record as it is. -/
theorem raised_zero (data : Bme680FifoData) : raised data 0 = data := by
  simp [raised]

/-- One more update raises the temperature by one. -/
theorem raised_succ (data : Bme680FifoData) (stages : ℕ) :
    { raised data stages with temp := (raised data stages).temp + 1 } =
      raised data (stages + 1) := by
  simp [raised, add_assoc]

/-- Another number of updates gives another record. -/
theorem raised_injective {data : Bme680FifoData} {first second : ℕ}
    (hsame : raised data first = raised data second) : first = second := by
  simpa [raised] using congrArg Bme680FifoData.temp hsame

/-- What the client got is its record, the temperature raised by one for each stage. -/
def ReturnsProcessed (state : PipelineState n) : Prop :=
  ∀ data result, state.client = .finished data result → result = raised data n

/-- The step keeps the stages' updates apart: the record is copied in while no stage is between its
read and its write; a stage reads the temperature of the record while no other one is; and the
result is copied out after as many writes as there are stages. -/
def KeepsUpdatesApart (state : PipelineState n) : PipelineLabel n → Prop
  | .line (.stage id) => state.client.Collecting →
    state.line.positions id = .reading → ∀ other, ¬ (state.line.positions other).Updating
  | .line (.spurious _) => True
  | .process _ => ∀ id, ¬ (state.line.positions id).Updating
  | .getResult => state.updates = n

instance (state : PipelineState n) : DecidablePred (KeepsUpdatesApart state)
  | .line (.stage id) => inferInstanceAs (Decidable (state.client.Collecting →
      state.line.positions id = .reading → ∀ other, ¬ (state.line.positions other).Updating))
  | .line (.spurious _) => isTrue trivial
  | .process _ => inferInstanceAs (Decidable (∀ id, ¬ (state.line.positions id).Updating))
  | .getResult => inferInstanceAs (Decidable (state.updates = n))

/-- While the client is between its calls, the record in the line is the one it passed with the
updates since, at most one stage is between its read and its write, and that one has read the
temperature the line has. -/
structure UpdatesSerial (state : PipelineState n) : Prop where
  data : ∀ data, state.client = .collecting data → state.line.data = raised data state.updates
  single : state.client.Collecting → ∀ id other,
    (state.line.positions id).Updating → (state.line.positions other).Updating → id = other
  read : state.client.Collecting → ∀ id temp,
    state.line.positions id = .writing temp → temp = state.line.data.temp
  returned : ReturnsProcessed state

/-! ### The steps of the stages -/

/-- A stage at another position than its write is not in its update. -/
theorem not_updating {position : StagePosition} (hne : ∀ temp, position ≠ .writing temp) :
    ¬ position.Updating := by
  rintro ⟨temp, htemp⟩
  exact hne temp htemp

/-- Moving a stage out of its update starts no update. -/
theorem updating_update {positions : Fin n → StagePosition} {id : Fin n}
    {position : StagePosition} (hnot : ¬ position.Updating) {other : Fin n}
    (hupdating : (Function.update positions id position other).Updating) :
    other ≠ id ∧ Function.update positions id position other = positions other := by
  have hother : other ≠ id := by
    rintro rfl
    rw [Function.update_self] at hupdating
    exact hnot hupdating
  exact ⟨hother, Function.update_of_ne hother _ _⟩

/-- A broadcast at the barrier starts no update. -/
theorem updating_broadcast {positions : Fin n → StagePosition} {id : Fin n}
    (hupdating : (broadcast StagePosition.Asleep (fun _ ↦ .awake) positions id).Updating) :
    broadcast StagePosition.Asleep (fun _ ↦ .awake) positions id = positions id := by
  rcases broadcast_apply StagePosition.Asleep (fun _ ↦ .awake) positions id with
    ⟨_, hsame⟩ | ⟨_, hawake⟩
  · exact hsame
  · rw [hawake] at hupdating
    exact absurd hupdating (not_updating fun _ h ↦ StagePosition.noConfusion h)

/-- The position a stage dines on to is not in its update. -/
theorem not_updating_afterDining (phase : PhilosopherPhase) :
    ¬ (StagePosition.afterDining phase).Updating := by
  cases phase <;> exact not_updating fun _ h ↦ StagePosition.noConfusion h

/-- A step that leaves the record and starts no update. -/
def StartsNoUpdate (line after : AssemblyState n) : Prop :=
  after.data = line.data ∧
    ∀ id, (after.positions id).Updating → after.positions id = line.positions id

/-- Moving a stage elsewhere than to its write leaves the record and starts no update. -/
theorem startsNoUpdate_move {line : AssemblyState n} {id : Fin n} {position : StagePosition}
    (hnot : ¬ position.Updating) : StartsNoUpdate line (line.move id position) :=
  ⟨rfl, fun _ hupdating ↦ (updating_update hnot hupdating).2⟩

/-- A step of the stages reads the temperature, or writes it, or leaves the record and starts no
update. -/
theorem assemblyNext_cases {line after : AssemblyState n} {label : AssemblyLabel n}
    (hnext : assemblyNext line label = some after) :
    (¬ WritesTemp line label ∧ StartsNoUpdate line after) ∨
      (∃ id, label = .stage id ∧ line.positions id = .reading ∧
        after = line.move id (.writing line.data.temp)) ∨
      ∃ id temp, label = .stage id ∧ line.positions id = .writing temp ∧
        after = { line.move id (.dining .hungry) with
          data := { line.data with temp := temp + 1 } } := by
  cases label with
  | spurious id =>
    simp only [assemblyNext, Option.ite_none_right_eq_some, Option.some.injEq] at hnext
    obtain ⟨-, rfl⟩ := hnext
    exact Or.inl ⟨not_false,
      startsNoUpdate_move (not_updating fun _ h ↦ StagePosition.noConfusion h)⟩
  | stage id =>
    simp only [assemblyNext, stageThreadNext, WritesTemp] at hnext ⊢
    cases hposition : line.positions id with
    | loopHead =>
      simp only [hposition] at hnext
      obtain rfl := Option.some.inj hnext
      refine Or.inl ⟨not_updating fun _ h ↦ StagePosition.noConfusion h, startsNoUpdate_move ?_⟩
      rintro ⟨temp, htemp⟩
      split_ifs at htemp
    | entering =>
      simp only [hposition] at hnext
      refine Or.inl ⟨not_updating fun _ h ↦ StagePosition.noConfusion h, ?_⟩
      split at hnext
      · obtain rfl := Option.some.inj hnext
        have hmove : StartsNoUpdate line (line.move id .asleep) :=
          startsNoUpdate_move (not_updating fun _ h ↦ StagePosition.noConfusion h)
        exact ⟨rfl, hmove.2⟩
      · obtain rfl := Option.some.inj hnext
        refine ⟨rfl, fun other hupdating ↦ ?_⟩
        obtain ⟨-, hsame⟩ :=
          updating_update (not_updating fun _ h ↦ StagePosition.noConfusion h) hupdating
        dsimp only at hupdating ⊢
        rw [hsame] at hupdating ⊢
        exact updating_broadcast hupdating
    | asleep =>
      simp only [hposition] at hnext
      cases hnext
    | awake =>
      simp only [hposition] at hnext
      obtain rfl := Option.some.inj hnext
      exact Or.inl ⟨not_updating fun _ h ↦ StagePosition.noConfusion h,
        startsNoUpdate_move (not_updating fun _ h ↦ StagePosition.noConfusion h)⟩
    | reading =>
      simp only [hposition] at hnext
      obtain rfl := Option.some.inj hnext
      exact Or.inr (Or.inl ⟨id, rfl, hposition, rfl⟩)
    | writing temp =>
      simp only [hposition] at hnext
      obtain rfl := Option.some.inj hnext
      exact Or.inr (Or.inr ⟨id, temp, rfl, hposition, rfl⟩)
    | dining phase =>
      simp only [hposition] at hnext
      obtain ⟨after, -, rfl⟩ := Option.map_eq_some_iff.mp hnext
      have hmove : StartsNoUpdate line (line.move id (.afterDining (after.phases id))) :=
        startsNoUpdate_move (not_updating_afterDining _)
      exact Or.inl ⟨not_updating fun _ h ↦ StagePosition.noConfusion h, rfl, hmove.2⟩
    | finished =>
      simp only [hposition] at hnext
      cases hnext

/-! ### The record in the line -/

variable {state successor : PipelineState n}

namespace UpdatesSerial

/-- A step of the stages that keeps the updates apart keeps them serial. -/
theorem line (hserial : UpdatesSerial state) {label : AssemblyLabel n}
    (hallowed : KeepsUpdatesApart state (.line label))
    (hnext : pipelineNext state (.line label) = some successor) : UpdatesSerial successor := by
  obtain ⟨after, hline, rfl⟩ := Option.map_eq_some_iff.mp hnext
  rcases assemblyNext_cases hline with
    ⟨hnot, hdata, hpositions⟩ | ⟨id, rfl, hposition, rfl⟩ | ⟨id, temp, rfl, hposition, rfl⟩
  · refine ⟨fun data hclient ↦ ?_, fun hclient first second hfirst hsecond ↦ ?_,
      fun hclient id temp htemp ↦ ?_, hserial.returned⟩
    · dsimp only
      rw [if_neg hnot, add_zero, hdata]
      exact hserial.data data hclient
    · have hfirst' := hpositions first hfirst
      have hsecond' := hpositions second hsecond
      dsimp only at hfirst hsecond
      rw [hfirst'] at hfirst
      rw [hsecond'] at hsecond
      exact hserial.single hclient first second hfirst hsecond
    · dsimp only at htemp ⊢
      rw [hpositions id ⟨temp, htemp⟩] at htemp
      rw [hdata]
      exact hserial.read hclient id temp htemp
  · have hnot : ¬ WritesTemp state.line (.stage id) := by
      rintro ⟨temp, htemp⟩
      exact StagePosition.noConfusion (hposition.symm.trans htemp)
    -- the other stages were not in their updates, and still are not
    have honly (hclient : state.client.Collecting) (other : Fin n)
        (hupdating : ((state.line.move id (.writing state.line.data.temp)).positions
          other).Updating) : other = id := by
      by_contra hother
      have hsame : (state.line.move id (.writing state.line.data.temp)).positions other =
          state.line.positions other := Function.update_of_ne hother _ _
      rw [hsame] at hupdating
      exact hallowed hclient hposition other hupdating
    refine ⟨fun data hclient ↦ ?_, fun hclient first second hfirst hsecond ↦ ?_,
      fun hclient other temp htemp ↦ ?_, hserial.returned⟩
    · dsimp only
      rw [if_neg hnot, add_zero]
      exact hserial.data data hclient
    · exact (honly hclient first hfirst).trans (honly hclient second hsecond).symm
    · obtain rfl := honly hclient other ⟨temp, htemp⟩
      have hread : StagePosition.writing state.line.data.temp = .writing temp :=
        (Function.update_self _ _ _).symm.trans htemp
      exact (StagePosition.writing.inj hread).symm
  · have hwrites : WritesTemp state.line (.stage id) := ⟨temp, hposition⟩
    have hnone (hclient : state.client.Collecting) (other : Fin n) :
        ¬ (Function.update state.line.positions id (.dining .hungry) other).Updating := by
      intro hupdating
      obtain ⟨hother, hsame⟩ :=
        updating_update (not_updating fun _ h ↦ StagePosition.noConfusion h) hupdating
      rw [hsame] at hupdating
      exact hother (hserial.single hclient other id hupdating ⟨temp, hposition⟩)
    refine ⟨fun data hclient ↦ ?_, fun hclient first second hfirst _ ↦ ?_,
      fun hclient other otherTemp htemp ↦ ?_, hserial.returned⟩
    · dsimp only
      rw [if_pos hwrites, hserial.read ⟨data, hclient⟩ id temp hposition,
        hserial.data data hclient, raised_succ]
    · exact absurd hfirst (hnone hclient first)
    · exact absurd ⟨otherTemp, htemp⟩ (hnone hclient other)

/-- A step that keeps the updates apart keeps them serial. -/
theorem step (hserial : UpdatesSerial state) {label : PipelineLabel n}
    (hallowed : KeepsUpdatesApart state label)
    (hnext : pipelineNext state label = some successor) : UpdatesSerial successor := by
  cases label with
  | line label => exact hserial.line hallowed hnext
  | process data =>
    simp only [pipelineNext, Option.ite_none_right_eq_some, Option.some.injEq] at hnext
    obtain ⟨-, rfl⟩ := hnext
    refine ⟨fun other hclient ↦ ?_, fun _ first _ hfirst _ ↦ absurd hfirst (hallowed first),
      fun _ id temp htemp ↦ absurd ⟨temp, htemp⟩ (hallowed id), fun _ _ hclient ↦ ?_⟩
    · obtain rfl := ClientPhase.collecting.inj hclient
      exact (raised_zero data).symm
    · exact ClientPhase.noConfusion hclient
  | getResult =>
    simp only [pipelineNext] at hnext
    split at hnext
    · rename_i data hclient
      obtain rfl := Option.some.inj hnext
      have hfinished (other : Bme680FifoData) {result : Bme680FifoData}
          (hother : ClientPhase.finished data result = .collecting other) : False :=
        ClientPhase.noConfusion hother
      refine ⟨fun other hother ↦ (hfinished other hother).elim,
        fun ⟨other, hother⟩ ↦ (hfinished other hother).elim,
        fun ⟨other, hother⟩ ↦ (hfinished other hother).elim, fun passed result hreturned ↦ ?_⟩
      obtain ⟨rfl, rfl⟩ := ClientPhase.finished.inj hreturned
      have hupdates : state.updates = n := hallowed
      exact (hserial.data data hclient).trans (congrArg (raised data) hupdates)
    · cases hnext

/-- In a run that keeps the updates apart they are serial. -/
theorem of_reachable (hreach : (pipelineSystem n).ReachableUnder KeepsUpdatesApart state) :
    UpdatesSerial state := by
  have hinitial : ∀ start, (pipelineSystem n).initial start → UpdatesSerial start := by
    rintro start ⟨-, hclient⟩
    have hnot (data : Bme680FifoData) : start.client ≠ .collecting data := by
      rw [hclient]
      exact ClientPhase.noConfusion
    refine ⟨fun data hdata ↦ absurd hdata (hnot data),
      fun ⟨data, hdata⟩ ↦ absurd hdata (hnot data),
      fun ⟨data, hdata⟩ ↦ absurd hdata (hnot data), fun data result hreturned ↦ ?_⟩
    rw [hclient] at hreturned
    exact ClientPhase.noConfusion hreturned
  exact hreach.invariant hinitial fun _ _ _ hbefore hallowed hnext ↦ hbefore.step hallowed hnext

end UpdatesSerial

/-! ### The result -/

/-- The line has a stage. -/
theorem stages_pos (hreach : (pipelineSystem n).Reachable state) : 0 < n := by
  have hinitial : ∀ start, (pipelineSystem n).initial start → 0 < n := by
    rintro start ⟨⟨hbarrier, -⟩, -⟩
    exact Int.natCast_pos.mp (barrierInit_ok hbarrier).1
  exact hreach.invariant hinitial fun _ _ _ hpos _ _ ↦ hpos

/-- A client between its calls that finds another number of updates than stages in its record gets
another record. -/
theorem collects_other {data : Bme680FifoData} {updates : ℕ}
    (hclient : state.client = .collecting data)
    (hdata : state.line.data = raised data updates) (hupdates : updates ≠ n) :
    ∃ final, (pipelineSystem n).Continuation (fun _ _ ↦ True) state final ∧
      ¬ ReturnsProcessed final := by
  have hnext : pipelineNext state .getResult =
      some { state with client := .finished data (assemblyLineGetResult state.line).1 } := by
    simp only [pipelineNext, hclient]
  refine ⟨_, .single ⟨.getResult, trivial, hnext⟩, fun hreturns ↦ hupdates ?_⟩
  exact raised_injective (hdata.symm.trans (hreturns data _ rfl))

/-- A stage at its read reads the temperature. -/
theorem pipelineNext_read {id : Fin n} (hposition : state.line.positions id = .reading) :
    pipelineNext state (.line (.stage id)) =
      some { state with line := state.line.move id (.writing state.line.data.temp) } := by
  have hnot : ¬ WritesTemp state.line (.stage id) := by
    rintro ⟨temp, htemp⟩
    exact StagePosition.noConfusion (hposition.symm.trans htemp)
  simp only [pipelineNext, assemblyNext, stageThreadNext, hposition, Option.map_some, if_neg hnot,
    add_zero]

/-- A stage at its write writes the temperature it has read, plus one. -/
theorem pipelineNext_write {id : Fin n} {temp : ℚ}
    (hposition : state.line.positions id = .writing temp) :
    pipelineNext state (.line (.stage id)) =
      some { state with
        line := { state.line.move id (.dining .hungry) with
          data := { state.line.data with temp := temp + 1 } }
        updates := state.updates + 1 } := by
  have hwrites : WritesTemp state.line (.stage id) := ⟨temp, hposition⟩
  simp only [pipelineNext, assemblyNext, stageThreadNext, hposition, Option.map_some,
    if_pos hwrites]

/-- A client between its calls gets another record after a write that makes the number of updates in
its record another one than that of the stages. -/
theorem collects_other_after_write {data : Bme680FifoData} {updates : ℕ} {id : Fin n} {temp : ℚ}
    (hclient : state.client = .collecting data)
    (hposition : state.line.positions id = .writing temp)
    (hdata : { state.line.data with temp := temp + 1 } = raised data updates)
    (hupdates : updates ≠ n) :
    ∃ final, (pipelineSystem n).Continuation (fun _ _ ↦ True) state final ∧
      ¬ ReturnsProcessed final := by
  let written : PipelineState n :=
    { state with
      line := { state.line.move id (.dining .hungry) with
        data := { state.line.data with temp := temp + 1 } }
      updates := state.updates + 1 }
  have hwritten : written.client = .collecting data := hclient
  obtain ⟨final, hlater, hfinal⟩ := collects_other hwritten hdata hupdates
  exact ⟨final, .head ⟨.line (.stage id), trivial, pipelineNext_write hposition⟩ hlater, hfinal⟩

/-- A client gets its record with the temperature raised by one for each stage, as long as the
record is copied in while no stage updates, the updates do not overlap, and the result is copied out
after as many of them as there are stages; from the first step that deviates, the run can go on so
that the client gets another record. -/
theorem pipeline_result_exact (n : ℕ) :
    (pipelineSystem n).ExactFor KeepsUpdatesApart ReturnsProcessed where
  kept := fun _ hreach ↦ (UpdatesSerial.of_reachable hreach).returned
  broken := fun state label successor hreach hdeviates hnext ↦ by
    have hserial := UpdatesSerial.of_reachable hreach
    have hpos := stages_pos hreach.reachable
    cases label with
    | line label =>
      cases label with
      | spurious id => exact absurd trivial hdeviates
      | stage id =>
        simp only [KeepsUpdatesApart, not_forall, not_not] at hdeviates
        obtain ⟨⟨data, hclient⟩, hposition, other, temp, htemp⟩ := hdeviates
        obtain rfl := Option.some.inj ((pipelineNext_read hposition).symm.trans hnext)
        have hdata := hserial.data data hclient
        by_cases hupdates : state.updates = n
        · -- there were enough updates already, and the other stage adds one
          have hother : other ≠ id := by
            rintro rfl
            exact StagePosition.noConfusion (hposition.symm.trans htemp)
          have hwriting : (state.line.move id (.writing state.line.data.temp)).positions other =
              .writing temp := (Function.update_of_ne hother _ _).trans htemp
          have hraised : { state.line.data with temp := temp + 1 } =
              raised data (state.updates + 1) := by
            rw [hserial.read ⟨data, hclient⟩ other temp htemp, hdata, raised_succ]
          have hmore : state.updates + 1 ≠ n := by
            rw [hupdates]
            exact Nat.succ_ne_self n
          exact collects_other_after_write hclient hwriting hraised hmore
        · exact collects_other hclient hdata hupdates
    | process data =>
      simp only [pipelineSystem, pipelineNext, Option.ite_none_right_eq_some,
        Option.some.injEq] at hnext
      obtain ⟨-, rfl⟩ := hnext
      exact collects_other rfl (raised_zero data).symm hpos.ne
    | getResult =>
      simp only [pipelineSystem, pipelineNext] at hnext
      split at hnext
      · rename_i data hclient
        obtain rfl := Option.some.inj hnext
        refine ⟨_, .refl, fun hreturns ↦ hdeviates ?_⟩
        exact raised_injective ((hserial.data data hclient).symm.trans (hreturns data _ rfl))
      · cases hnext

/-- Two stages at the heads of their loops, and a client that has not called the line. -/
def beforeProcess : PipelineState 2 where
  line :=
    { barrier := { count := 0, total := 2 }
      table := { running := true, forks := fun _ ↦ none }
      data := { temp := 0, pressure := 0, humidity := 0, gasResistance := 0 }
      running := fun _ ↦ true
      positions := fun _ ↦ .loopHead }
  client := .processing
  updates := 0

/-- A record in the ranges of the sensor. -/
def roomRecord : Bme680FifoData :=
  { temp := 25, pressure := 101325, humidity := 50, gasResistance := 100000 }

/-- A client that collects the result when both stages have updated the record once, one after the
other, gets the processed record. -/
theorem pipeline_result_exact_two :
    ∃ state, (pipelineSystem 2).ReachableUnder KeepsUpdatesApart state ∧
      state.client = .finished roomRecord (raised roomRecord 2) ∧ ReturnsProcessed state := by
  have hclients : ((pipelineSystem 2).runUnder KeepsUpdatesApart beforeProcess
      ([.process roomRecord] ++
        [0, 0, 1, 1, 1, 1, 1, 0, 0, 0, 0].map (fun id ↦ .line (.stage id)) ++
        [.getResult])).map PipelineState.client =
      some (.finished roomRecord (raised roomRecord 2)) := by
    decide +kernel
  obtain ⟨final, hrun, hclient⟩ := Option.map_eq_some_iff.mp hclients
  have hinitial : (pipelineSystem 2).initial beforeProcess :=
    ⟨⟨rfl, ⟨fun _ ↦ true, 0, rfl⟩, fun _ ↦ ⟨rfl, rfl⟩⟩, rfl⟩
  have hreach := TransitionSystem.ReachableUnder.runUnder _ (.initial hinitial) hrun
  exact ⟨final, hreach, hclient, (pipeline_result_exact 2).kept final hreach⟩

/-- A client that collects the result before a stage has updated the record gets the record it
passed. -/
theorem early_collect_returns_input :
    ¬ ∀ n : ℕ, 2 ≤ n → ∀ state, (pipelineSystem n).Reachable state → ReturnsProcessed state := by
  intro hall
  obtain ⟨final, hrun, hclient⟩ : ∃ final,
      (pipelineSystem 2).run beforeProcess [.process roomRecord, .getResult] = some final ∧
        final.client = .finished roomRecord roomRecord := ⟨_, rfl, rfl⟩
  have hinitial : (pipelineSystem 2).initial beforeProcess :=
    ⟨⟨rfl, ⟨fun _ ↦ true, 0, rfl⟩, fun _ ↦ ⟨rfl, rfl⟩⟩, rfl⟩
  have hreturns := hall 2 le_rfl final (TransitionSystem.reachable_of_run hinitial _ hrun) _ _
    hclient
  exact absurd (raised_injective ((raised_zero roomRecord).trans hreturns)) (by decide)

end Bme680.Philosophers
