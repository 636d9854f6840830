import Bme680.Philosophers.LineShutdown

/-!
# The joins of the assembly line

While no stage has ended with a lock, the join `assembly_line_destroy` waits in can return. The
stage it waits for has been cancelled and its flag is cleared, so asleep at the barrier it ends
there, and from everywhere else it comes to the end of its thread once it gets its forks. A fork it
waits for is held by a living stage, and by the rank of the forks some stage that holds one can go
on; `forkWork` counts the steps those stages are away from having put their forks down
(`exists_unblocked`). `ComesFrom` collects the positions from which a run can go on to a goal, and
`StagePosition.rank`, which every step of a stage with its flag cleared lowers, is what the
inductions over them are on.

The same steps lead a stage that was cancelled too early to its next debug message. Where that goes
to the log file it acts on its cancellation with the mutex of the logger and waits for that mutex in
its cleanup, so that its join never returns (`WaitsForItself.next`).

With that `assembly_line_shutdown_iff` is assembled: the shutdown leaves no lock with a dead thread,
and every join can return, exactly while the stages are cancelled safely.
-/

set_option autoImplicit false
set_option relaxedAutoImplicit false

namespace Bme680.Philosophers

open Concurrency Barriers

variable {n : ℕ} {messages : DebugMessages} {state successor : LineState n} {id : Fin n}

/-! ### Waiting for forks -/

/-- The steps a stage at a position is away from having put down the forks it holds, given whether
it has a message to log. -/
def StagePosition.forkWork (logging : Bool) : StagePosition → ℕ
  | .dining .lockingSecond => 4
  | .dining .eating => if logging then 3 else 2
  | .dining .unlockingNext => 1
  | _ => 0

/-- The steps all stages are away from having put down the forks they hold. -/
def forkWork (state : LineState n) : ℕ :=
  ∑ id, (state.line.positions id).forkWork (state.logging id)

/-- The stage `assembly_line_destroy` waits for. -/
structure Joining (state : LineState n) (id : Fin n) : Prop where
  inv : LineInvariant state
  destroyer : state.destroyer = .joins id

/-- The stage that is waited for has been cancelled. -/
theorem Joining.cancelled (hjoining : Joining state id) : state.cancelled id = true :=
  hjoining.inv.joining id hjoining.destroyer

/-- The flag of the stage that is waited for is cleared. -/
theorem Joining.running (hjoining : Joining state id) : state.line.running id = false :=
  hjoining.inv.stopped id hjoining.cancelled

/-- A stage with a message to log can log it and go on. -/
theorem LineInvariant.next_log (hinv : LineInvariant state) (halive : state.acted id = false)
    (hlogging : state.logging id = true) :
    lineNext messages state (.log id .nowhere) = some (state.logged id) := by
  simp [lineNext, LineState.logNext, halive, hlogging, hinv.idle]

/-- A step of a stage leaves the others and `assembly_line_destroy` where they are, except for those
it wakes at the barrier. -/
theorem Joining.stage (htwo : 2 ≤ n) (hjoining : Joining state id) {mover : Fin n}
    (hnext : state.stageNext mover = some successor) :
    Joining successor id ∧ successor.acted = state.acted ∧
      (∀ other, other ≠ mover → successor.logging other = state.logging other ∧
        (successor.line.positions other = state.line.positions other ∨
          ((state.line.positions other).Asleep ∧
            successor.line.positions other = .awake))) := by
  have hinv := hjoining.inv.stage htwo hnext
  unfold LineState.stageNext at hnext
  split_ifs at hnext
  obtain ⟨line, hline, rfl⟩ := Option.map_eq_some_iff.mp hnext
  refine ⟨⟨hinv, hjoining.destroyer⟩, rfl, fun other hother ↦ ⟨?_, ?_⟩⟩
  · exact Function.update_of_ne hother _ _
  · exact stageThreadNext_other hother hline

/-- The work of a stage woken at the barrier. -/
theorem forkWork_of_woken {position position' : StagePosition} {logging : Bool}
    (hmoved : position' = position ∨ (position.Asleep ∧ position' = .awake)) :
    position'.forkWork logging ≤ position.forkWork logging := by
  rcases hmoved with rfl | ⟨-, rfl⟩
  · exact le_rfl
  · exact Nat.zero_le _

/-- Less work for one stage and no more for the others is less work. -/
theorem forkWork_lt {mover : Fin n}
    (hothers : ∀ other, other ≠ mover → successor.logging other = state.logging other ∧
      (successor.line.positions other = state.line.positions other ∨
        ((state.line.positions other).Asleep ∧ successor.line.positions other = .awake)))
    (hless : (successor.line.positions mover).forkWork (successor.logging mover) <
      (state.line.positions mover).forkWork (state.logging mover)) :
    forkWork successor < forkWork state := by
  refine Finset.sum_lt_sum (fun other _ ↦ ?_) ⟨mover, Finset.mem_univ _, hless⟩
  by_cases hother : other = mover
  · subst hother
    exact hless.le
  · obtain ⟨hlogging, hmoved⟩ := hothers other hother
    rw [hlogging]
    exact forkWork_of_woken hmoved

/-- A stage that holds a fork is at a position to put it down. -/
theorem position_of_holds (hseated : Seated state.line.tableState) {holder held : Fin n}
    (hholds : HoldsFork state.line.tableState holder held) :
    state.line.positions holder = .dining .lockingSecond ∨
      state.line.positions holder = .dining .eating ∨
      state.line.positions holder = .dining .unlockingNext := by
  have hholding := (hseated.holds holder held).mp hholds
  simp only [AssemblyState.tableState] at hholding
  cases hposition : state.line.positions holder with
  | dining phase => cases phase <;> simp_all [StagePosition.phase, PhilosopherPhase.Holding]
  | _ => simp_all [StagePosition.phase, PhilosopherPhase.Holding]

/-- While a stage is blocked on a fork, some stage that holds one has a step that takes it closer to
having put down its forks. -/
theorem exists_less_work (htwo : 2 ≤ n) (hjoining : Joining state id) {fork : Fin n}
    (hblocked : BlockedOn state.line.tableState id fork) :
    ∃ label successor, lineNext messages state label = some successor ∧
      Joining successor id ∧ successor.acted = state.acted ∧
      successor.logging id = state.logging id ∧
      successor.line.positions id = state.line.positions id ∧
      forkWork successor < forkWork state := by
  have hseated := hjoining.inv.seated
  obtain ⟨holder, held, after, hholds, hphilosopher⟩ :=
    hseated.exists_running_holder htwo hblocked
  have hne : id ≠ holder := by
    rintro rfl
    cases (next_eq_none_of_blocked hblocked).symm.trans hphilosopher
  have halive : state.acted holder = false := by
    by_contra hacted
    exact hjoining.inv.acted holder (by simpa using hacted) held
      ((hseated.holds holder held).mp hholds)
  have hposition := position_of_holds hseated hholds
  cases hlogging : state.logging holder with
  | true =>
    -- the holder has the message of eating to log
    have heating : state.line.positions holder = .dining .eating := by
      have hlogs := hjoining.inv.logs holder hlogging
      rcases hposition with hlocking | heating | hunlocking
      · rw [hlocking] at hlogs
        rcases hlogs with (h | h) | h | h <;> cases h
      · exact heating
      · rw [hunlocking] at hlogs
        rcases hlogs with (h | h) | h | h <;> cases h
    have hsame : ∀ other, other ≠ holder →
        (state.logged holder).logging other = state.logging other :=
      fun other hother ↦ Function.update_of_ne hother _ _
    refine ⟨_, _, hjoining.inv.next_log halive hlogging,
      ⟨hjoining.inv.logged holder, hjoining.destroyer⟩, rfl, hsame id hne, rfl,
      forkWork_lt (fun other hother ↦ ⟨hsame other hother, .inl rfl⟩) ?_⟩
    simp [LineState.logged, heating, hlogging, StagePosition.forkWork]
  | false =>
    have hdining : ¬ (state.line.positions holder).TakesBarrier := by
      rintro (henters | hawake)
      · rcases hposition with h | h | h <;> cases henters.symm.trans h
      · rcases hposition with h | h | h <;> cases hawake.symm.trans h
    obtain ⟨line, hline⟩ : ∃ line, stageThreadNext state.line holder = some line := by
      rcases hposition with h | h | h <;> simp [stageThreadNext, h, hphilosopher]
    have hstep : lineNext messages state (.stage holder) = some (state.moved holder line) := by
      simp [lineNext, LineState.stageNext, halive, hlogging, hdining, hline]
    obtain ⟨hafter, hacted, hothers⟩ := hjoining.stage htwo hstep
    have hfollows := stageThreadNext_following hseated.running hline
    have hawake : ¬ (state.line.positions id).Asleep := by
      intro hasleep
      have hwanted := hblocked.1
      have hat : state.line.positions id = .asleep := hasleep
      simp [wantedFork, AssemblyState.tableState, hat, StagePosition.phase] at hwanted
    refine ⟨_, _, hstep, hafter, hacted, (hothers id hne).1,
      (hothers id hne).2.resolve_right fun hwoken ↦ hawake hwoken.1, forkWork_lt hothers ?_⟩
    rcases hposition with h | h | h <;>
      rw [h] at hfollows <;>
      simp [LineState.moved, h, hfollows, hlogging, StagePosition.following, stageLogs,
        StagePosition.forkWork]

/-- A stage comes to a state in which the fork it is at is free. -/
theorem exists_unblocked (htwo : 2 ≤ n) (hjoining : Joining state id) :
    ∃ final, (lineSystem n messages).Continuation (fun _ _ ↦ True) state final ∧
      Joining final id ∧ final.acted id = state.acted id ∧ final.logging id = state.logging id ∧
      final.line.positions id = state.line.positions id ∧
      ∀ fork, ¬ BlockedOn final.line.tableState id fork := by
  induction hwork : forkWork state using Nat.strong_induction_on generalizing state with
  | _ work ih =>
    by_cases hblocked : ∃ fork, BlockedOn state.line.tableState id fork
    · obtain ⟨fork, hblocked⟩ := hblocked
      obtain ⟨label, successor, hnext, hafter, hacted, hlogging, hposition, hless⟩ :=
        exists_less_work htwo hjoining hblocked
      obtain ⟨final, hmore, hfinal, hacted', hlogging', hposition', hfree⟩ :=
        ih _ (hwork ▸ hless) hafter rfl
      refine ⟨final, .head ⟨label, trivial, hnext⟩ hmore, hfinal, ?_, hlogging'.trans hlogging,
        hposition'.trans hposition, hfree⟩
      rw [hacted', hacted]
    · exact ⟨state, .refl, hjoining, rfl, rfl, rfl, not_exists.mp hblocked⟩

/-- The mutex of the barrier gets free, since its holder has only a message to log. -/
theorem LineInvariant.exists_free (hinv : LineInvariant state) (hquiet : state.logging id = false) :
    ∃ next, (lineSystem n messages).Continuation (fun _ _ ↦ True) state next ∧
      LineInvariant next ∧ next.barrierMutex = none ∧ next.line = state.line ∧
      next.cancelled = state.cancelled ∧ next.acted = state.acted ∧ next.ended = state.ended ∧
      next.destroyer = state.destroyer ∧ next.logging id = false := by
  cases hmutex : state.barrierMutex with
  | none => exact ⟨state, .refl, hinv, hmutex, rfl, rfl, rfl, rfl, rfl, hquiet⟩
  | some holder =>
    obtain ⟨halive, hlogging, -⟩ := hinv.mutex holder hmutex
    have hne : id ≠ holder := by
      rintro rfl
      cases hquiet.symm.trans hlogging
    have hstep : lineNext messages state (.log holder .nowhere) = some (state.logged holder) :=
      hinv.next_log halive hlogging
    refine ⟨state.logged holder, .tail .refl ⟨.log holder .nowhere, trivial, hstep⟩,
      hinv.logged holder, if_pos hmutex, rfl, rfl, rfl, rfl, rfl, ?_⟩
    exact (Function.update_of_ne hne _ _).trans hquiet

/-! ### The end of a cancelled stage -/

/-- The run can go on to a state of a goal. -/
def Comes (messages : DebugMessages) (goal : LineState n → Prop) (state : LineState n) : Prop :=
  ∃ final, (lineSystem n messages).Continuation (fun _ _ ↦ True) state final ∧ goal final

/-- Wherever the stage that is waited for is at a position, with a message to log or without, and
has not acted on its cancellation, the run can go on to a state of a goal. -/
def ComesFrom (messages : DebugMessages) (goal : LineState n → Prop) (id : Fin n) (logging : Bool)
    (position : StagePosition) : Prop :=
  ∀ state : LineState n, Joining state id → state.acted id = false →
    state.logging id = logging → state.line.positions id = position → Comes messages goal state

variable {goal : LineState n → Prop}

/-- A state comes to a goal if one that it leads to does. -/
theorem Comes.of_more
    (hmore : (lineSystem n messages).Continuation (fun _ _ ↦ True) state successor)
    (hcomes : Comes messages goal successor) : Comes messages goal state := by
  obtain ⟨final, hfurther, hgoal⟩ := hcomes
  exact ⟨final, hmore.trans hfurther, hgoal⟩

/-- A state comes to a goal if one a step leads to does. -/
theorem Comes.of_step {label : LineLabel n}
    (hnext : lineNext messages state label = some successor)
    (hcomes : Comes messages goal successor) : Comes messages goal state :=
  .of_more (.tail .refl ⟨label, trivial, hnext⟩) hcomes

/-- A stage that has its step comes to the goal if it does from where the step takes it. -/
theorem comes_of_stage (htwo : 2 ≤ n) (hjoining : Joining state id)
    (halive : state.acted id = false) (hquiet : state.logging id = false)
    (hfree : (state.line.positions id).TakesBarrier → state.barrierMutex = none)
    {line : AssemblyState n} (hline : stageThreadNext state.line id = some line)
    (hfrom : ComesFrom messages goal id
      (stageLogs (state.line.positions id) ((state.line.positions id).following state.line id))
      ((state.line.positions id).following state.line id)) :
    Comes messages goal state := by
  have hgoes : ¬ (state.acted id = true ∨ state.logging id = true ∨
      ((state.line.positions id).TakesBarrier ∧ state.barrierMutex ≠ none)) := by
    rintro (hacted | hlogging | ⟨htakes, hheld⟩)
    · cases halive.symm.trans hacted
    · cases hquiet.symm.trans hlogging
    · exact hheld (hfree htakes)
  have hstep : lineNext messages state (.stage id) = some (state.moved id line) := by
    simp only [lineNext, LineState.stageNext, if_neg hgoes, hline, Option.map_some]
  have hfollows := stageThreadNext_following hjoining.inv.seated.running hline
  refine .of_step hstep (hfrom _ (hjoining.stage htwo hstep).1 halive ?_ hfollows)
  simp only [LineState.moved, Function.update_self, hfollows]

/-- Neither asleep nor behind its loop nor blocked on a fork, a stage has its step. -/
theorem exists_stageThreadNext {line : AssemblyState n} (hawake : ¬ (line.positions id).Asleep)
    (hunfinished : line.positions id ≠ .finished)
    (hfree : ∀ fork, ¬ BlockedOn line.tableState id fork) :
    ∃ after, stageThreadNext line id = some after := by
  cases hposition : line.positions id with
  | loopHead | awake | reading | writing temp => simp [stageThreadNext, hposition]
  | entering =>
    simp only [stageThreadNext, hposition]
    split <;> exact ⟨_, rfl⟩
  | asleep => exact absurd hposition hawake
  | finished => exact absurd hposition hunfinished
  | dining phase =>
    obtain ⟨after, hphilosopher⟩ := exists_next hfree
    simp [stageThreadNext, hposition, hphilosopher]

/-- With no message to log, neither asleep nor behind its loop, a stage comes to the goal if it does
from the position that follows. -/
theorem comesFrom_of_following (htwo : 2 ≤ n) {position : StagePosition}
    (hawake : ¬ position.Asleep) (hunfinished : position ≠ .finished)
    (hfrom : ∀ line : AssemblyState n, line.running id = false →
      ComesFrom messages goal id (stageLogs position (position.following line id))
        (position.following line id)) :
    ComesFrom messages goal id false position := by
  intro state hjoining halive hquiet hposition
  by_cases htakes : position.TakesBarrier
  · obtain ⟨next, hmore, hinv, hfree, hline, -, hacted, -, hdestroyer, hstill⟩ :=
      @LineInvariant.exists_free _ messages _ _ hjoining.inv hquiet
    have hnext : Joining next id := ⟨hinv, hdestroyer.trans hjoining.destroyer⟩
    have hat : next.line.positions id = position := by rw [hline, hposition]
    have hunblocked : ∀ fork, ¬ BlockedOn next.line.tableState id fork := by
      intro fork hblocked
      have hwanted := hblocked.1
      rcases htakes with rfl | rfl <;>
        simp [wantedFork, AssemblyState.tableState, hat, StagePosition.phase] at hwanted
    obtain ⟨after, hafter⟩ :=
      exists_stageThreadNext (hat ▸ hawake) (hat ▸ hunfinished) hunblocked
    refine .of_more hmore (comes_of_stage htwo hnext ?_ hstill (fun _ ↦ hfree) hafter ?_)
    · rw [hacted, halive]
    · rw [hat]
      exact hfrom _ hnext.running
  · obtain ⟨next, hmore, hnext, hacted, hlogging, hsame, hunblocked⟩ :=
      @exists_unblocked _ messages _ _ htwo hjoining
    have hat : next.line.positions id = position := hsame.trans hposition
    obtain ⟨after, hafter⟩ :=
      exists_stageThreadNext (hat ▸ hawake) (hat ▸ hunfinished) hunblocked
    refine .of_more hmore (comes_of_stage htwo hnext (hacted.trans halive)
      (hlogging.trans hquiet) (fun htakes' ↦ absurd (hat ▸ htakes') htakes) hafter ?_)
    rw [hat]
    exact hfrom _ hnext.running

/-- The steps a stage whose flag is cleared is at most away from the end of its loop. -/
def StagePosition.rank : StagePosition → ℕ
  | .finished => 0
  | .loopHead => 1
  | .dining .unlockingNext => 2
  | .dining .eating => 3
  | .dining .lockingSecond => 4
  | .dining .lockingFirst => 5
  | .dining .hungry => 6
  | .writing _ => 7
  | .reading => 8
  | .dining .thinking => 9
  | .asleep => 10
  | .awake => 10
  | .entering => 11

/-- A stage whose flag is cleared comes closer to the end of its loop with every step. -/
theorem StagePosition.rank_following {position : StagePosition} {line : AssemblyState n}
    (hcleared : line.running id = false) (hawake : ¬ position.Asleep)
    (hunfinished : position ≠ .finished) : (position.following line id).rank < position.rank := by
  cases position with
  | loopHead => simp [following, hcleared, rank]
  | entering =>
    simp only [following]
    split_ifs <;> simp [rank]
  | asleep => exact absurd rfl hawake
  | finished => exact absurd rfl hunfinished
  | awake | reading | writing temp => simp [following, rank]
  | dining phase => cases phase <;> simp [following, rank]

/-- A cancelled stage asleep at the barrier can end with its mutex. -/
theorem LineInvariant.waiter_ends (hinv : LineInvariant state)
    (hcancelled : state.cancelled id = true) (halive : state.acted id = false)
    (hasleep : (state.line.positions id).Asleep) :
    Comes messages (fun final ↦ final.destroyer = state.destroyer ∧ final.ended id = true ∧
      final.barrierMutex = some id) state := by
  have hquiet : state.logging id = false := by
    by_contra hlogging
    exact (hinv.logs id (by simpa using hlogging)).not_asleep hasleep
  obtain ⟨next, hmore, hnext, hfree, hline, hcancels, hacted, hended, hdestroyer, -⟩ :=
    @exists_free _ messages _ _ hinv hquiet
  have hlives : next.ended id = false := by
    by_contra hdead
    have := hnext.ended id (by simpa using hdead)
    rw [hacted, halive] at this
    cases this
  have hacts : lineNext messages next (.cancelWaiter id) =
      some { next.acts id with barrierMutex := some id } := by
    simp [lineNext, hacted, halive, hcancels, hcancelled, hline, hasleep, hfree]
  have hcleanup : lineNext messages { next.acts id with barrierMutex := some id } (.cleanup id) =
      some { next.acts id with
        barrierMutex := some id
        ended := Function.update next.ended id true } := by
    simp [lineNext, LineState.acts, hlives, hnext.idle]
  refine .of_more hmore (.of_step hacts (.of_step hcleanup ⟨_, .refl, hdestroyer, ?_, rfl⟩))
  exact Function.update_self _ _ _

/-- The stage that is waited for can end, wherever it is. -/
theorem comesFrom_gone (htwo : 2 ≤ n) (logging : Bool) (position : StagePosition) :
    ComesFrom messages (fun final ↦ final.destroyer = .joins id ∧ final.Gone id) id logging
      position := by
  induction hrank : position.rank using Nat.strongRecOn generalizing logging position with
  | _ rank ih =>
    have hquietly : ComesFrom messages (fun final ↦ final.destroyer = .joins id ∧ final.Gone id) id
        false position := by
      by_cases hasleep : position.Asleep
      · intro state hjoining halive _ hposition
        obtain ⟨final, hmore, hdestroyer, hended, -⟩ :=
          @LineInvariant.waiter_ends _ messages _ _ hjoining.inv hjoining.cancelled halive
            (hposition ▸ hasleep)
        exact ⟨final, hmore, hdestroyer.trans hjoining.destroyer, .inl hended⟩
      · by_cases hfinished : position = .finished
        · intro state hjoining _ _ hposition
          exact ⟨state, .refl, hjoining.destroyer, .inr (hposition.trans hfinished)⟩
        · refine comesFrom_of_following htwo hasleep hfinished fun line hcleared ↦ ?_
          exact ih _ (hrank ▸ StagePosition.rank_following hcleared hasleep hfinished) _ _ rfl
    intro state hjoining halive hlogging hposition
    cases hlogs : state.logging id with
    | false => exact hquietly state hjoining halive hlogs hposition
    | true =>
      refine .of_step (hjoining.inv.next_log halive hlogs)
        (hquietly _ ⟨hjoining.inv.logged id, hjoining.destroyer⟩ halive ?_ hposition)
      exact Function.update_self _ _ _

/-- The stage that is waited for can end. -/
theorem Joining.comes_gone (htwo : 2 ≤ n) (hjoining : Joining state id) :
    Comes messages (fun final ↦ final.destroyer = .joins id ∧ final.Gone id) state := by
  cases hacted : state.acted id with
  | false => exact comesFrom_gone htwo _ _ state hjoining hacted rfl rfl
  | true =>
    cases hended : state.ended id with
    | true => exact ⟨state, .refl, hjoining.destroyer, .inl hended⟩
    | false =>
      have hstep : lineNext messages state (.cleanup id) =
          some { state with ended := Function.update state.ended id true } := by
        simp [lineNext, hacted, hended, hjoining.inv.idle]
      refine .of_step hstep ⟨_, .refl, hjoining.destroyer, .inl ?_⟩
      exact Function.update_self _ _ _

/-! ### The shutdown -/

/-- The join that `assembly_line_destroy` waits in can return. -/
def JoinsCanReturn (messages : DebugMessages) (state : LineState n) : Prop :=
  ∀ id, state.destroyer = .joins id → ∃ final successor,
    (lineSystem n messages).Continuation (fun _ _ ↦ True) state final ∧
      lineNext messages final .destroy = some successor

/-- Where the invariant holds the join can return. -/
theorem LineInvariant.joinsCanReturn (htwo : 2 ≤ n) (hinv : LineInvariant state) :
    JoinsCanReturn messages state := by
  intro id hdestroyer
  obtain ⟨final, hmore, hjoins, hgone⟩ :=
    @Joining.comes_gone _ messages _ _ htwo ⟨hinv, hdestroyer⟩
  refine ⟨final, { final with destroyer := .loop (id + 1) }, hmore, ?_⟩
  simp [lineNext, assemblyLineDestroy, hjoins, hgone]

/-- A stage has ended with a lock, or the join cannot return. -/
def Lost (messages : DebugMessages) (state : LineState n) : Prop :=
  ¬ (NoDeadHolder state ∧ JoinsCanReturn messages state)

/-- A cancelled stage asleep at the barrier can be lost with its mutex. -/
theorem LineInvariant.lost_of_waiter (hinv : LineInvariant state)
    (hcancelled : state.cancelled id = true) (halive : state.acted id = false)
    (hasleep : (state.line.positions id).Asleep) : Comes messages (Lost messages) state := by
  obtain ⟨final, hmore, -, hended, hmutex⟩ :=
    @waiter_ends _ messages _ _ hinv hcancelled halive hasleep
  exact ⟨final, hmore, fun hkept ↦ (hkept.1 id (.inl hended)).1 hmutex⟩

/-- A cancelled stage with a debug message for the standard error can be lost with the locks it
holds there. -/
theorem LineInvariant.lost_of_message (hinv : LineInvariant state)
    (hcancelled : state.cancelled id = true) (halive : state.acted id = false)
    (hlogging : state.logging id = true) (hlocks : (state.line.positions id).LogsWithLocks) :
    Comes .toStderr (Lost .toStderr) state := by
  have hended : state.ended id = false := by
    by_contra hdead
    cases halive.symm.trans (hinv.ended id (by simpa using hdead))
  have hacts : lineNext .toStderr state (.log id .stderr) = some (state.acts id) := by
    simp [lineNext, LineState.logNext, halive, hlogging, hinv.idle, hcancelled]
  have hcleanup : lineNext .toStderr (state.acts id) (.cleanup id) =
      some { state.acts id with ended := Function.update state.ended id true } := by
    simp [lineNext, LineState.acts, hended, hinv.idle]
  refine .of_step hacts (.of_step hcleanup ⟨_, .refl, fun hkept ↦ ?_⟩)
  obtain ⟨hmutex, hforks⟩ := hkept.1 id (.inl (Function.update_self _ _ _))
  rcases hlocks with hthinking | heating
  · exact hmutex (hinv.holder id hlogging halive hthinking)
  · refine hforks id ((hinv.seated.holds id id).mpr ?_)
    simp only [AssemblyState.tableState, heating]
    exact .inl rfl

/-- `assembly_line_destroy` waits for a stage that has acted on its cancellation in a write to the
log file: it has the mutex of the logger, which its cleanup waits for. -/
structure WaitsForItself (state : LineState n) (id : Fin n) : Prop where
  destroyer : state.destroyer = .joins id
  acted : state.acted id = true
  ended : state.ended id = false
  unfinished : state.line.positions id ≠ .finished
  mutex : state.loggerMutex = some id

/-- No step ends a stage that waits for itself. -/
theorem WaitsForItself.next {label : LineLabel n} (hwaits : WaitsForItself state id)
    (hnext : lineNext .toLogFile state label = some successor) : WaitsForItself successor id := by
  obtain ⟨hdestroyer, hacted, hended, hunfinished, hmutex⟩ := hwaits
  cases label with
  | stage mover =>
    simp only [lineNext, LineState.stageNext] at hnext
    split_ifs at hnext with hstopped
    obtain ⟨line, hline, rfl⟩ := Option.map_eq_some_iff.mp hnext
    have hne : id ≠ mover := by
      rintro rfl
      exact hstopped (.inl hacted)
    refine ⟨hdestroyer, hacted, hended, fun hfinished ↦ ?_, hmutex⟩
    rcases stageThreadNext_other hne hline with hsame | ⟨-, hawake⟩
    · exact hunfinished (hsame.symm.trans hfinished)
    · cases hawake.symm.trans hfinished
  | spurious mover =>
    simp only [lineNext, assemblyNext] at hnext
    split_ifs at hnext with hmover hasleep
    · obtain rfl := Option.some.inj hnext
      have hne : id ≠ mover := by
        rintro rfl
        exact hmover hacted
      refine ⟨hdestroyer, hacted, hended, fun hfinished ↦ hunfinished ?_, hmutex⟩
      exact (Function.update_of_ne hne _ _).symm.trans hfinished
    · cases hnext
  | log mover point =>
    have hblocked : state.logNext .toLogFile mover point = none :=
      if_pos (.inr (.inr ⟨by simp, by simp [hmutex]⟩))
    cases hblocked.symm.trans hnext
  | cancelWaiter mover =>
    simp only [lineNext] at hnext
    split_ifs at hnext
    obtain rfl := Option.some.inj hnext
    refine ⟨hdestroyer, ?_, hended, hunfinished, hmutex⟩
    simp only [LineState.acts, Function.update_apply, hacted, ite_self]
  | cleanup mover =>
    simp only [lineNext] at hnext
    split_ifs at hnext with hcleans
    cases hmutex.symm.trans hcleans.2.2
  | destroy =>
    have hwaiting : ¬ state.Gone id := not_or.mpr ⟨by simp [hended], hunfinished⟩
    simp [lineNext, assemblyLineDestroy, hdestroyer, hwaiting] at hnext

/-- The join of a stage that waits for itself cannot return. -/
theorem WaitsForItself.lost (hwaits : WaitsForItself state id) : Lost .toLogFile state := by
  intro hkept
  obtain ⟨final, successor, hmore, hnext⟩ := hkept.2 id hwaits.destroyer
  have hkeeps : ∀ before label after, WaitsForItself before id → True →
      (lineSystem n .toLogFile).next before label = some after → WaitsForItself after id :=
    fun _ _ _ hbefore _ hstep ↦ hbefore.next hstep
  have hfinal : WaitsForItself final id := hmore.invariant hkeeps hwaits
  have hwaiting : ¬ final.Gone id := not_or.mpr ⟨by simp [hfinal.ended], hfinal.unfinished⟩
  simp [lineNext, assemblyLineDestroy, hfinal.destroyer, hwaiting] at hnext

/-- A stage that comes to the test of its loop has the message behind its meal to log. -/
theorem StagePosition.logs_of_following_loopHead {position : StagePosition}
    {line : AssemblyState n} (hhead : position.following line id = .loopHead) :
    stageLogs position (position.following line id) = true := by
  rw [hhead]
  cases position with
  | dining phase => cases phase <;> first | rfl | cases hhead
  | loopHead | entering =>
    simp only [following] at hhead
    split_ifs at hhead
  | _ => cases hhead

/-- Only from the test of its loop does a stage leave it. -/
theorem StagePosition.loopHead_of_following_finished {position : StagePosition}
    {line : AssemblyState n} (hfinishes : position.following line id = .finished) :
    position = .loopHead ∨ position = .finished := by
  cases position with
  | loopHead => exact .inl rfl
  | finished => exact .inr rfl
  | dining phase => cases phase <;> cases hfinishes
  | entering =>
    simp only [following] at hfinishes
    split_ifs at hfinishes
  | _ => cases hfinishes

/-- Where the debug messages go to the log file, a stage that is waited for and has one before it
can be lost: asleep at the barrier with its mutex, or in a message. -/
theorem comesFrom_lost (htwo : 2 ≤ n) {logging : Bool} {position : StagePosition}
    (hunfinished : position ≠ .finished) (hbefore : logging = true ∨ position ≠ .loopHead) :
    ComesFrom .toLogFile (Lost .toLogFile) id logging position := by
  induction hrank : position.rank using Nat.strongRecOn generalizing logging position with
  | _ rank ih =>
    cases logging with
    | true =>
      intro state hjoining halive hlogging hposition
      have hended : state.ended id = false := by
        by_contra hdead
        cases halive.symm.trans (hjoining.inv.ended id (by simpa using hdead))
      have hacts : lineNext .toLogFile state (.log id .logFile) =
          some { state.acts id with loggerMutex := some id } := by
        simp [lineNext, LineState.logNext, halive, hlogging, hjoining.inv.idle, hjoining.cancelled]
      refine .of_step hacts ⟨_, .refl, WaitsForItself.lost
        ⟨hjoining.destroyer, Function.update_self _ _ _, hended, ?_, rfl⟩⟩
      exact fun hfinished ↦ hunfinished (hposition.symm.trans hfinished)
    | false =>
      have hbehind : position ≠ .loopHead := hbefore.resolve_left Bool.false_ne_true
      by_cases hasleep : position.Asleep
      · intro state hjoining halive _ hposition
        exact hjoining.inv.lost_of_waiter hjoining.cancelled halive (hposition ▸ hasleep)
      · refine comesFrom_of_following htwo hasleep hunfinished fun line hcleared ↦ ?_
        refine ih _ (hrank ▸ StagePosition.rank_following hcleared hasleep hunfinished) ?_ ?_ rfl
        · intro hfinishes
          exact (StagePosition.loopHead_of_following_finished hfinishes).elim hbehind hunfinished
        · by_cases hhead : position.following line id = .loopHead
          · exact .inl (StagePosition.logs_of_following_loopHead hhead)
          · exact .inr hhead

/-- After a step of a stage that is not safe a stage can be lost. -/
theorem lost_of_unsafe_stage (htwo : 2 ≤ n) (hinv : LineInvariant state)
    (houtside : CancelledOutside messages state)
    (hforbidden : ¬ CancelsSafely messages state (.stage id))
    (hnext : state.stageNext id = some successor) : Comes messages (Lost messages) successor := by
  have hafter := hinv.stage htwo hnext
  simp only [CancelsSafely, Classical.not_imp] at hforbidden
  obtain ⟨hcancelled, hforbidden⟩ := hforbidden
  unfold LineState.stageNext at hnext
  split_ifs at hnext with hstopped
  obtain ⟨line, hline, rfl⟩ := Option.map_eq_some_iff.mp hnext
  have halive : state.acted id = false := by
    simpa using fun hacted ↦ hstopped (.inl hacted)
  have hfollows := stageThreadNext_following hinv.seated.running hline
  by_cases henters : state.line.positions id = .entering
  · rw [henters, StagePosition.following] at hfollows
    split_ifs at hfollows with hmissing
    · exact hafter.lost_of_waiter hcancelled halive hfollows
    · obtain rfl : messages = .toStderr := by
        by_contra hother
        refine hforbidden ⟨fun _ ↦ ⟨not_lt.mp hmissing, hother⟩, fun hlocking ↦ ?_⟩
        cases henters.symm.trans hlocking
      refine hafter.lost_of_message hcancelled halive ?_ (.inl hfollows)
      simp [LineState.moved, henters, hfollows, stageLogs]
  · obtain ⟨hlocking, rfl⟩ : state.line.positions id = .dining .lockingSecond ∧
        messages = .toStderr := by
      by_contra hnone
      refine hforbidden ⟨fun henters' ↦ absurd henters' henters, fun hlocking hstderr ↦ ?_⟩
      exact hnone ⟨hlocking, hstderr⟩
    rw [hlocking, StagePosition.following] at hfollows
    refine hafter.lost_of_message hcancelled halive ?_ (.inr hfollows)
    simp [LineState.moved, hlocking, hfollows, stageLogs]

/-- After a `pthread_cancel` that is not safe the stage can be lost. -/
theorem lost_of_unsafe_cancel (htwo : 2 ≤ n) (hinv : LineInvariant state)
    (hforbidden : ¬ CancelsSafely messages state .destroy)
    (hnext : assemblyLineDestroy state = some successor) :
    Comes messages (Lost messages) successor := by
  have hafter := hinv.destroy hnext
  simp only [CancelsSafely, Classical.not_forall] at hforbidden
  obtain ⟨id, hcancels, ⟨halive, hunfinished⟩, hforbidden⟩ := hforbidden
  simp only [assemblyLineDestroy, hcancels] at hnext
  obtain rfl := Option.some.inj hnext
  have hcancelled : Function.update state.cancelled id true id = true := Function.update_self _ _ _
  by_cases hasleep : (state.line.positions id).Asleep
  · exact hafter.lost_of_waiter hcancelled halive hasleep
  · cases messages with
    | dropped => exact absurd hasleep hforbidden
    | toLogFile =>
      refine comesFrom_lost htwo hunfinished ?_ _ ⟨hafter, rfl⟩ halive rfl rfl
      by_contra hquiet
      simp only [not_or, not_not, Bool.not_eq_true] at hquiet
      exact hforbidden ⟨hquiet.2, hquiet.1⟩
    | toStderr =>
      simp only [LineState.MayCancel, hasleep, not_false_eq_true, true_and, Classical.not_imp,
        not_not] at hforbidden
      exact hafter.lost_of_message hcancelled halive hforbidden.1 hforbidden.2

/-- An assembly line of two stages that has been asked to shut down. -/
def twoStageLine : LineState 2 where
  line :=
    { barrier := { count := 0, total := 2 }
      table := { running := true, forks := fun _ ↦ none }
      data := { temp := 0, pressure := 0, humidity := 0, gasResistance := 0 }
      running := fun _ ↦ true
      positions := fun _ ↦ .loopHead }
  barrierMutex := none
  loggerMutex := none
  logging := fun _ ↦ false
  cancelled := fun _ ↦ false
  acted := fun _ ↦ false
  ended := fun _ ↦ false
  destroyer := .notCalled

/-- The line of two stages starts as an assembly line does. -/
theorem twoStageLine_initial (messages : DebugMessages) :
    (lineSystem 2 messages).initial twoStageLine :=
  ⟨⟨rfl, ⟨fun _ ↦ true, 0, rfl⟩, fun _ ↦ ⟨rfl, rfl⟩⟩, rfl, rfl, fun _ ↦ ⟨rfl, rfl, rfl, rfl⟩, rfl⟩

end Bme680.Philosophers
