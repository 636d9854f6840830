import Bme680.FifoData
import Bme680.Barriers.Generations
import Bme680.Philosophers.DiningPhilosophers
import Mathlib.Tactic.FinCases

/-!
# The stages of the assembly line

`assembly_line.c` runs one thread for each stage. A stage repeats: wait at the barrier of all
stages, think, add one to the shared temperature, eat and be done, stage `i` being philosopher `i`
of a table for all stages. The system composes the section of the barrier with the steps of the
philosophers; the update of the temperature is a read and a write of their own, and a thread asleep
at the barrier may also be woken by nobody.

`assembly_simulates_table` forgets everything but the table: every step of a stage is a step of its
philosopher or none. Fewer stages are asleep at the barrier than there are stages
(`FewerAsleep`), so if all were blocked one would be blocked on a fork, and the deadlock freedom of
the table finds a philosopher that can go on. This needs two forks: the only stage of a line of one
locks fork 0 twice. `assembly_line_never_locks_up_iff` states both.
-/

set_option autoImplicit false
set_option relaxedAutoImplicit false

namespace Bme680.Philosophers

open Concurrency Barriers

variable {n : ℕ}

/-! ### The system -/

/-- Where a stage is: at the test of its `running` flag, about to call `barrier_wait`, asleep or
awake in it, at the read or the write of the temperature, in a call of the philosopher with its
number, or at the end of its thread. -/
inductive StagePosition
  | loopHead
  | entering
  | asleep
  | awake
  | reading
  | writing (temp : ℚ)
  | dining (phase : PhilosopherPhase)
  | finished
  deriving DecidableEq, Repr

namespace StagePosition

/-- The stage is asleep in `barrier_wait`. -/
def Asleep (position : StagePosition) : Prop :=
  position = .asleep

instance : DecidablePred Asleep :=
  fun position ↦ inferInstanceAs (Decidable (position = .asleep))

/-- Where a stage goes when its philosopher has moved to a phase: to its data after thinking, and to
the head of its loop after done. -/
def afterDining : PhilosopherPhase → StagePosition
  | .thinking => .loopHead
  | .hungry => .reading
  | phase => .dining phase

/-- The phase of the philosopher of a stage. -/
def phase : StagePosition → PhilosopherPhase
  | .dining phase => phase
  | .reading | .writing _ => .hungry
  | .loopHead | .entering | .asleep | .awake | .finished => .thinking

end StagePosition

/-- The parts of `struct assembly_line` its stages share, the `running` flags of the stages and the
positions of their threads. -/
structure AssemblyState (n : ℕ) where
  barrier : Barrier
  table : DiningPhilosophers n
  data : Bme680FifoData
  running : Fin n → Bool
  positions : Fin n → StagePosition

/-- The table and the phases of its philosophers. -/
def AssemblyState.tableState (state : AssemblyState n) : TableState n :=
  { table := state.table, phases := fun id ↦ (state.positions id).phase }

/-- The state with one stage moved. -/
def AssemblyState.move (state : AssemblyState n) (id : Fin n) (position : StagePosition) :
    AssemblyState n :=
  { state with positions := Function.update state.positions id position }

/-- The steps of the stages: the next statement of a stage, or a spurious wake-up of a stage asleep
at the barrier. -/
inductive AssemblyLabel (n : ℕ)
  | stage (id : Fin n)
  | spurious (id : Fin n)
  deriving DecidableEq

/-- The next statement of `stage_thread`. -/
def stageThreadNext (state : AssemblyState n) (id : Fin n) : Option (AssemblyState n) :=
  match state.positions id with
  | .loopHead => some (state.move id (if state.running id then .entering else .finished))
  | .entering =>
    match barrierWait state.barrier with
    | (barrier, .sleeps) => some { state.move id .asleep with barrier := barrier }
    | (barrier, .broadcasts) =>
      let positions := broadcast StagePosition.Asleep (fun _ ↦ .awake) state.positions
      some { state with
        barrier := barrier
        positions := Function.update positions id (.dining .thinking) }
  | .asleep => none
  | .awake => some (state.move id (.dining .thinking))
  | .reading => some (state.move id (.writing state.data.temp))
  | .writing temp =>
    some { state.move id (.dining .hungry) with data := { state.data with temp := temp + 1 } }
  | .dining _ =>
    (philosopherNext state.tableState id).map fun after ↦
      { state.move id (.afterDining (after.phases id)) with table := after.table }
  | .finished => none

/-- One step of the stages. -/
def assemblyNext (state : AssemblyState n) : AssemblyLabel n → Option (AssemblyState n)
  | .stage id => stageThreadNext state id
  | .spurious id =>
    if (state.positions id).Asleep then some (state.move id .awake) else none

/-- The stages of an assembly line whose barrier and table were accepted, before any is told to
stop. -/
def assemblySystem (n : ℕ) : TransitionSystem (AssemblyState n) (AssemblyLabel n) where
  initial := fun state ↦
    barrierInit n true = .ok state.barrier ∧
      (∃ forkInitialized errno,
        diningPhilosophersInit n true true forkInitialized errno = .ok state.table) ∧
      ∀ id, state.running id = true ∧ state.positions id = .loopHead
  next := assemblyNext

/-- A stage is blocked: asleep in `barrier_wait` or at the lock of a fork that is locked. -/
def StageBlocked (state : AssemblyState n) (id : Fin n) : Prop :=
  (state.positions id).Asleep ∨ ∃ fork, BlockedOn state.tableState id fork

/-! ### The table of the stages -/

/-- The philosopher of a stage that has moved on from its dining. -/
theorem phase_afterDining (phase : PhilosopherPhase) :
    (StagePosition.afterDining phase).phase = phase := by
  cases phase <;> rfl

/-- A step of a philosopher leaves the others in their phases. -/
theorem philosopherNext_phases {state successor : TableState n} {id other : Fin n}
    (hnext : philosopherNext state id = some successor) (hother : other ≠ id) :
    successor.phases other = state.phases other := by
  have hmoved (phase : PhilosopherPhase) :
      Function.update state.phases id phase other = state.phases other :=
    Function.update_of_ne hother _ _
  unfold philosopherNext at hnext
  split at hnext
  case h_3 | h_4 =>
    split_ifs at hnext
    obtain rfl := Option.some.inj hnext
    exact hmoved _
  case h_5 =>
    split_ifs at hnext <;> obtain rfl := Option.some.inj hnext <;> exact hmoved _
  all_goals
    obtain rfl := Option.some.inj hnext
    exact hmoved _

/-- Moving a stage to a position with the phase of its philosopher leaves the table as it was. -/
theorem tableState_move {state : AssemblyState n} {id : Fin n} {position : StagePosition}
    (hphase : position.phase = (state.positions id).phase) :
    (state.move id position).tableState = state.tableState := by
  unfold AssemblyState.tableState AssemblyState.move
  congr 1
  funext other
  by_cases hother : other = id
  · subst other
    simp only [Function.update_self]
    exact hphase
  · simp only [Function.update_of_ne hother]

/-- A broadcast at the barrier leaves the philosophers in their phases. -/
theorem phase_broadcast (positions : Fin n → StagePosition) (id : Fin n) :
    (broadcast StagePosition.Asleep (fun _ ↦ .awake) positions id).phase =
      (positions id).phase := by
  rcases broadcast_apply StagePosition.Asleep (fun _ ↦ .awake) positions id with
    ⟨_, hsame⟩ | ⟨hasleep, hawake⟩
  · rw [hsame]
  · have hposition : positions id = .asleep := hasleep
    rw [hawake, hposition]
    rfl

/-- Every step of a stage is a step of its philosopher or leaves the table as it was. -/
theorem tableState_next {state successor : AssemblyState n} {id : Fin n}
    (hnext : stageThreadNext state id = some successor) :
    successor.tableState = state.tableState ∨
      philosopherNext state.tableState id = some successor.tableState := by
  unfold stageThreadNext at hnext
  cases hposition : state.positions id with
  | loopHead =>
    simp only [hposition] at hnext
    obtain rfl := Option.some.inj hnext
    refine Or.inl (tableState_move ?_)
    rw [hposition]
    split_ifs <;> rfl
  | entering =>
    simp only [hposition] at hnext
    refine Or.inl ?_
    split at hnext
    · obtain rfl := Option.some.inj hnext
      have hsame : (state.move id .asleep).tableState = state.tableState :=
        tableState_move (by rw [hposition]; rfl)
      exact hsame
    · obtain rfl := Option.some.inj hnext
      unfold AssemblyState.tableState
      congr 1
      funext other
      dsimp only
      by_cases hother : other = id
      · subst other
        rw [Function.update_self, hposition]
        rfl
      · rw [Function.update_of_ne hother, phase_broadcast]
  | asleep =>
    simp only [hposition] at hnext
    cases hnext
  | awake =>
    simp only [hposition] at hnext
    obtain rfl := Option.some.inj hnext
    exact Or.inl (tableState_move (by rw [hposition]; rfl))
  | reading =>
    simp only [hposition] at hnext
    obtain rfl := Option.some.inj hnext
    exact Or.inl (tableState_move (by rw [hposition]; rfl))
  | writing temp =>
    simp only [hposition] at hnext
    obtain rfl := Option.some.inj hnext
    have hsame : (state.move id (.dining .hungry)).tableState = state.tableState :=
      tableState_move (by rw [hposition]; rfl)
    exact Or.inl hsame
  | dining phase =>
    simp only [hposition] at hnext
    obtain ⟨after, hphilosopher, rfl⟩ := Option.map_eq_some_iff.mp hnext
    refine Or.inr (hphilosopher.trans (congrArg some ?_))
    have hphases : (fun other ↦
        (Function.update state.positions id (.afterDining (after.phases id)) other).phase) =
          after.phases := by
      funext other
      by_cases hother : other = id
      · subst other
        rw [Function.update_self, phase_afterDining]
      · rw [Function.update_of_ne hother, philosopherNext_phases hphilosopher hother]
        rfl
    unfold AssemblyState.tableState AssemblyState.move
    simp only [hphases]
  | finished =>
    simp only [hposition] at hnext
    cases hnext

/-- Forgetting everything but the table, the stages of an assembly line are its philosophers. -/
theorem assembly_simulates_table (n : ℕ) :
    Simulation (assemblySystem n) (fun _ _ ↦ True) (philosopherSystem n) (fun _ _ ↦ True)
      AssemblyState.tableState where
  initial := by
    rintro state ⟨_, htable, hstages⟩
    refine ⟨htable, fun id ↦ ?_⟩
    show (state.positions id).phase = .thinking
    rw [(hstages id).2]
    rfl
  step := by
    intro state label successor _ _ _ hnext
    cases label with
    | stage id =>
      exact (tableState_next hnext).imp_right fun hphilosopher ↦ ⟨id, trivial, hphilosopher⟩
    | spurious id =>
      simp only [assemblySystem, assemblyNext] at hnext
      split_ifs at hnext with hasleep
      obtain rfl := Option.some.inj hnext
      have hposition : state.positions id = .asleep := hasleep
      exact Or.inl (tableState_move (by rw [hposition]; rfl))

/-! ### The barrier of the stages -/

/-- What every reachable state satisfies: the barrier waits for all stages and is not complete, and
it has counted the stages asleep in it. -/
structure FewerAsleep (state : AssemblyState n) : Prop where
  total : state.barrier.total = n
  missing : state.barrier.count < n
  counted : (threadCount StagePosition.Asleep state.positions : ℤ) ≤ state.barrier.count

namespace FewerAsleep

variable {state successor : AssemblyState n} {label : AssemblyLabel n}

/-- A stage that does not fall asleep keeps the bound. -/
theorem move (hfewer : FewerAsleep state) {id : Fin n} {position : StagePosition}
    (hnot : ¬ position.Asleep) : FewerAsleep (state.move id position) := by
  have hcount := threadCount_update_add StagePosition.Asleep state.positions id position
  have hcounted := hfewer.counted
  refine ⟨hfewer.total, hfewer.missing, ?_⟩
  rw [if_neg hnot] at hcount
  show (threadCount StagePosition.Asleep (Function.update state.positions id position) : ℤ) ≤
    state.barrier.count
  omega

/-- A stage that falls asleep has been counted. -/
theorem sleep (hfewer : FewerAsleep state) {id : Fin n}
    (hmissing : state.barrier.count + 1 < state.barrier.total) :
    FewerAsleep { state.move id .asleep with
      barrier := { state.barrier with count := state.barrier.count + 1 } } := by
  have hcount := threadCount_update_add StagePosition.Asleep state.positions id .asleep
  have hcounted := hfewer.counted
  refine ⟨hfewer.total, ?_, ?_⟩
  · rw [← hfewer.total]
    exact hmissing
  · show (threadCount StagePosition.Asleep (Function.update state.positions id .asleep) : ℤ) ≤
      state.barrier.count + 1
    rw [if_pos (show StagePosition.Asleep .asleep from rfl)] at hcount
    omega

/-- The stage that completes the count leaves nobody asleep. -/
theorem release (hfewer : FewerAsleep state) {id : Fin n} :
    FewerAsleep { state with
      barrier := { state.barrier with count := 0 }
      positions := Function.update
        (broadcast StagePosition.Asleep (fun _ ↦ .awake) state.positions) id
        (.dining .thinking) } := by
  refine ⟨hfewer.total, Int.natCast_pos.mpr id.pos, ?_⟩
  have hnobody : threadCount StagePosition.Asleep (Function.update
      (broadcast StagePosition.Asleep (fun _ ↦ .awake) state.positions) id
      (.dining .thinking)) = 0 := by
    refine threadCount_eq_zero_iff.mpr fun other ↦ ?_
    by_cases hother : other = id
    · subst other
      rw [Function.update_self]
      exact StagePosition.noConfusion
    · rw [Function.update_of_ne hother]
      exact not_asleep_broadcast (fun _ ↦ StagePosition.noConfusion) state.positions other
  show (threadCount _ _ : ℤ) ≤ 0
  rw [hnobody]
  exact le_rfl

/-- The position a stage dines on to is not the sleep at the barrier. -/
theorem not_asleep_afterDining (phase : PhilosopherPhase) :
    ¬ (StagePosition.afterDining phase).Asleep := by
  cases phase <;> exact StagePosition.noConfusion

/-- Every step keeps the bound. -/
theorem step (hfewer : FewerAsleep state) (hnext : assemblyNext state label = some successor) :
    FewerAsleep successor := by
  cases label with
  | spurious id =>
    simp only [assemblyNext] at hnext
    split_ifs at hnext
    obtain rfl := Option.some.inj hnext
    exact hfewer.move StagePosition.noConfusion
  | stage id =>
    simp only [assemblyNext, stageThreadNext] at hnext
    split at hnext
    · obtain rfl := Option.some.inj hnext
      exact hfewer.move (by split_ifs <;> exact StagePosition.noConfusion)
    · by_cases hmissing : state.barrier.count + 1 < state.barrier.total
      · rw [barrierWait_sleeps hmissing] at hnext
        obtain rfl := Option.some.inj hnext
        exact hfewer.sleep hmissing
      · rw [barrierWait_broadcasts (not_lt.mp hmissing)] at hnext
        obtain rfl := Option.some.inj hnext
        exact hfewer.release
    · cases hnext
    · obtain rfl := Option.some.inj hnext
      exact hfewer.move StagePosition.noConfusion
    · obtain rfl := Option.some.inj hnext
      exact hfewer.move StagePosition.noConfusion
    · obtain rfl := Option.some.inj hnext
      have hmoved : FewerAsleep (state.move id (.dining .hungry)) :=
        hfewer.move StagePosition.noConfusion
      exact ⟨hmoved.total, hmoved.missing, hmoved.counted⟩
    · obtain ⟨after, _, rfl⟩ := Option.map_eq_some_iff.mp hnext
      have hmoved : FewerAsleep (state.move id (.afterDining (after.phases id))) :=
        hfewer.move (not_asleep_afterDining _)
      exact ⟨hmoved.total, hmoved.missing, hmoved.counted⟩
    · cases hnext

end FewerAsleep

/-- Every reachable state satisfies the bound. -/
theorem fewerAsleep_reachable {state : AssemblyState n}
    (hreach : (assemblySystem n).Reachable state) : FewerAsleep state := by
  refine hreach.invariant (fun start hstart ↦ ?_) fun _ _ _ hfewer _ hnext ↦ hfewer.step hnext
  obtain ⟨hinit, _, hstages⟩ := hstart
  obtain ⟨hpositive, hbarrier⟩ := barrierInit_ok hinit
  have hnobody : threadCount StagePosition.Asleep start.positions = 0 := by
    refine threadCount_eq_zero_iff.mpr fun id ↦ ?_
    rw [(hstages id).2]
    exact StagePosition.noConfusion
  refine ⟨by rw [hbarrier], by rw [hbarrier]; exact hpositive, ?_⟩
  rw [hnobody, hbarrier]
  exact le_rfl

/-! ### No lock-up -/

/-- With at least two stages, some stage is not blocked. -/
theorem exists_not_blocked (htwo : 2 ≤ n) {state : AssemblyState n}
    (hreach : (assemblySystem n).Reachable state) : ∃ id, ¬ StageBlocked state id := by
  by_contra hall
  simp only [not_exists, not_not] at hall
  have hseated : Seated state.tableState :=
    seated_reachable htwo ((assembly_simulates_table n).reachable hreach)
  by_cases hfork : ∃ id fork, BlockedOn state.tableState id fork
  · -- the holder of a fork that has a step is neither at a fork nor asleep
    obtain ⟨id, fork, hblocked⟩ := hfork
    obtain ⟨holder, held, successor, hholds, hnext⟩ :=
      hseated.exists_running_holder htwo hblocked
    rcases hall holder with hasleep | ⟨wanted, hwanted⟩
    · have hposition : state.positions holder = .asleep := hasleep
      have hholding := (hseated.holds holder held).mp hholds
      simp only [AssemblyState.tableState, hposition] at hholding
      exact hholding
    · cases (next_eq_none_of_blocked hwanted).symm.trans hnext
  · -- otherwise all stages are asleep, more than the barrier has counted
    simp only [not_exists] at hfork
    have hfewer := fewerAsleep_reachable hreach
    have hasleep (id : Fin n) : (state.positions id).Asleep :=
      (hall id).resolve_right (not_exists.mpr (hfork id))
    have hcount : threadCount StagePosition.Asleep state.positions = n := by
      rw [threadCount, Finset.filter_true_of_mem fun id _ ↦ hasleep id, Finset.card_univ,
        Fintype.card_fin]
    have hcounted := hfewer.counted
    have hmissing := hfewer.missing
    omega

/-- The only stage of a line of one comes to lock fork 0 while it holds it. -/
theorem single_stage_locks_up :
    ∃ state : AssemblyState 1, (assemblySystem 1).Reachable state ∧
      ∀ id, StageBlocked state id := by
  let start : AssemblyState 1 :=
    { barrier := { count := 0, total := 1 }
      table := { running := true, forks := fun _ ↦ none }
      data := { temp := 0, pressure := 0, humidity := 0, gasResistance := 0 }
      running := fun _ ↦ true
      positions := fun _ ↦ .loopHead }
  obtain ⟨final, hrun, hblocked⟩ : ∃ final,
      (assemblySystem 1).run start (List.replicate 7 (.stage 0)) = some final ∧
      BlockedOn final.tableState 0 0 := ⟨_, rfl, rfl, nofun⟩
  refine ⟨final, TransitionSystem.reachable_of_run
    ⟨rfl, ⟨fun _ ↦ true, 0, rfl⟩, fun _ ↦ ⟨rfl, rfl⟩⟩ _ hrun, fun id ↦ Or.inr ⟨0, ?_⟩⟩
  rw [Subsingleton.elim id 0]
  exact hblocked

/-- An assembly line of at least one stage has no reachable state in which all of its stages are
blocked exactly when it has at least two. -/
theorem assembly_line_never_locks_up_iff (hone : 1 ≤ n) :
    (∀ state : AssemblyState n, (assemblySystem n).Reachable state →
        ¬ ∀ id, StageBlocked state id) ↔ 2 ≤ n := by
  constructor
  · intro hnever
    by_contra hfew
    obtain rfl : n = 1 := by omega
    obtain ⟨state, hreach, hall⟩ := single_stage_locks_up
    exact hnever state hreach hall
  · intro htwo state hreach hall
    obtain ⟨id, hfree⟩ := exists_not_blocked htwo hreach
    exact hfree (hall id)

/-- A line of one stage locks up. -/
theorem single_stage_line_locks_up :
    ¬ ∀ n : ℕ, 1 ≤ n → ∀ state : AssemblyState n, (assemblySystem n).Reachable state →
      ¬ ∀ id, StageBlocked state id := by
  intro hclaim
  obtain ⟨state, hreach, hall⟩ := single_stage_locks_up
  exact hclaim 1 le_rfl state hreach hall

/-- In a line of two stages one sleeps at the barrier, and not all are blocked. -/
theorem assembly_line_never_locks_up_iff_two :
    ∃ state : AssemblyState 2, (assemblySystem 2).Reachable state ∧ StageBlocked state 0 ∧
      ¬ ∀ id, StageBlocked state id := by
  let start : AssemblyState 2 :=
    { barrier := { count := 0, total := 2 }
      table := { running := true, forks := fun _ ↦ none }
      data := { temp := 0, pressure := 0, humidity := 0, gasResistance := 0 }
      running := fun _ ↦ true
      positions := fun _ ↦ .loopHead }
  obtain ⟨final, hrun, hasleep⟩ : ∃ final,
      (assemblySystem 2).run start [.stage 0, .stage 0] = some final ∧
      (final.positions 0).Asleep := ⟨_, rfl, rfl⟩
  have hreach : (assemblySystem 2).Reachable final :=
    TransitionSystem.reachable_of_run ⟨rfl, ⟨fun _ ↦ true, 0, rfl⟩, fun _ ↦ ⟨rfl, rfl⟩⟩ _ hrun
  have hnever := (assembly_line_never_locks_up_iff (by decide)).mpr le_rfl
  exact ⟨final, hreach, Or.inl hasleep, hnever final hreach⟩

end Bme680.Philosophers
