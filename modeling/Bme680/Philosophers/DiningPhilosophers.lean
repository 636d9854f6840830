import Bme680.SectionOutcome
import Bme680.Concurrency.TransitionSystem
import Bme680.Concurrency.WaitForOrder
import Mathlib.Order.Fin.Basic
import Mathlib.Data.Fintype.EquivFin

/-!
# The dining philosophers

`dining_philosophers.c` seats philosophers at a round table with a fork mutex between neighbours.
An even philosopher locks the fork of its own number first and the next one second, an odd
philosopher the other way round; with an odd number of philosophers the last one and the first
one, both even, meet at fork 0.

The system has one thread for each philosopher, repeating think, eat and done, with every single
acquisition and release of a fork as a step of its own. The parity rule is no numbering of the
forks, but it respects a rank: the odd forks rank highest, then fork 0, then the other even forks
(`forkRank`), and every philosopher locks its forks in increasing rank as soon as there are two of
them (`forkRank_lt`). `Seated` says who holds which fork in each phase; with the rank it gives
exclusion and the absence of deadlock, `philosophers_exclusive_and_live`.
-/

set_option autoImplicit false
set_option relaxedAutoImplicit false

namespace Bme680.Philosophers

open Concurrency

/-! ### The table -/

/-- `struct dining_philosophers` for a number of philosophers; a fork records the philosopher whose
thread has locked it. -/
structure DiningPhilosophers (numPhilosophers : ℕ) where
  running : Bool
  forks : Fin numPhilosophers → Option (Fin numPhilosophers)

/-- `dining_philosophers_init`, given whether the two allocations and the initialization of each
fork succeed, and the value of `errno`. -/
def diningPhilosophersInit (numPhilosophers : ℤ) (allocated forksAllocated : Bool)
    (forkInitialized : Fin numPhilosophers.toNat → Bool) (errno : ℕ) :
    Except ℤ (DiningPhilosophers numPhilosophers.toNat) :=
  if numPhilosophers ≤ 0 then .error (-EINVAL)
  else if ¬ allocated then .error (-ENOMEM)
  else if ¬ forksAllocated then .error (-ENOMEM)
  else if ∃ fork, ¬ forkInitialized fork then .error (-errno)
  else .ok { running := true, forks := fun _ ↦ none }

/-- The table an accepted number of philosophers starts with. -/
theorem diningPhilosophersInit_ok {numPhilosophers : ℤ} {allocated forksAllocated : Bool}
    {forkInitialized : Fin numPhilosophers.toNat → Bool} {errno : ℕ}
    {table : DiningPhilosophers numPhilosophers.toNat}
    (hinit : diningPhilosophersInit numPhilosophers allocated forksAllocated forkInitialized
      errno = .ok table) :
    0 < numPhilosophers ∧ table = { running := true, forks := fun _ ↦ none } := by
  unfold diningPhilosophersInit at hinit
  split_ifs at hinit with hnumber
  exact ⟨not_le.mp hnumber, (Except.ok.inj hinit).symm⟩

variable {n : ℕ}

/-- The test at the head of `dining_philosophers_think`, `_eat` and `_done`: the code the call
returns at once, zero where it goes on. -/
def DiningPhilosophers.check (table : DiningPhilosophers n) (id : ℤ) : ℤ :=
  if id < 0 ∨ id ≥ n then -EINVAL
  else if ¬ table.running then -EAGAIN
  else 0

/-- A running table lets its philosophers through. -/
theorem DiningPhilosophers.check_eq_zero {table : DiningPhilosophers n}
    (hrunning : table.running = true) (id : Fin n) : table.check (id : ℕ) = 0 := by
  have hid := id.isLt
  unfold DiningPhilosophers.check
  rw [if_neg (by omega), if_neg (not_not.mpr hrunning)]

/-- The fork `(id + 1) % num_philosophers`. -/
def nextFork (id : Fin n) : Fin n :=
  ⟨(id + 1) % n, Nat.mod_lt _ id.pos⟩

/-- The fork `dining_philosophers_eat` locks first. -/
def firstFork (id : Fin n) : Fin n :=
  if (id : ℕ) % 2 = 0 then id else nextFork id

/-- The fork `dining_philosophers_eat` locks second. -/
def secondFork (id : Fin n) : Fin n :=
  if (id : ℕ) % 2 = 0 then nextFork id else id

/-- Where a philosopher is: about to think, about to eat, at the lock of either fork, between the
return of eat and the call of done, or at the second unlock of done. -/
inductive PhilosopherPhase
  | thinking
  | hungry
  | lockingFirst
  | lockingSecond
  | eating
  | unlockingNext
  deriving DecidableEq, Repr

/-- The table and the philosophers. -/
structure TableState (n : ℕ) where
  table : DiningPhilosophers n
  phases : Fin n → PhilosopherPhase

/-- The state with one fork locked by a philosopher or unlocked, and one philosopher moved. -/
def TableState.move (state : TableState n) (id fork : Fin n) (owner : Option (Fin n))
    (phase : PhilosopherPhase) : TableState n :=
  { table := { state.table with forks := Function.update state.table.forks fork owner }
    phases := Function.update state.phases id phase }

/-- The next step of a philosopher, where it has one: a fork that is locked, by whatever thread,
cannot be locked. -/
def philosopherNext (state : TableState n) (id : Fin n) : Option (TableState n) :=
  match state.phases id with
  | .thinking => some { state with phases := Function.update state.phases id .hungry }
  | .hungry =>
    let phase := if state.table.check (id : ℕ) = 0 then .lockingFirst else .eating
    some { state with phases := Function.update state.phases id phase }
  | .lockingFirst =>
    if state.table.forks (firstFork id) = none then
      some (state.move id (firstFork id) (some id) .lockingSecond)
    else none
  | .lockingSecond =>
    if state.table.forks (secondFork id) = none then
      some (state.move id (secondFork id) (some id) .eating)
    else none
  | .eating =>
    if state.table.check (id : ℕ) = 0 then some (state.move id id none .unlockingNext)
    else some { state with phases := Function.update state.phases id .thinking }
  | .unlockingNext => some (state.move id (nextFork id) none .thinking)

/-- One thread for each philosopher of an accepted table, all about to think at first. -/
def philosopherSystem (n : ℕ) : TransitionSystem (TableState n) (Fin n) where
  initial := fun state ↦
    (∃ forkInitialized errno,
      diningPhilosophersInit n true true forkInitialized errno = .ok state.table) ∧
      ∀ id, state.phases id = .thinking
  next := philosopherNext

/-! ### Holding and waiting -/

/-- A philosopher holds a fork. -/
def HoldsFork (state : TableState n) (id fork : Fin n) : Prop :=
  state.table.forks fork = some id

/-- The fork the next step of a philosopher locks. -/
def wantedFork (state : TableState n) (id : Fin n) : Option (Fin n) :=
  match state.phases id with
  | .lockingFirst => some (firstFork id)
  | .lockingSecond => some (secondFork id)
  | _ => none

/-- A philosopher is blocked on a fork that is locked. -/
def BlockedOn (state : TableState n) (id fork : Fin n) : Prop :=
  wantedFork state id = some fork ∧ state.table.forks fork ≠ none

/-- The forks a philosopher holds in a phase. -/
def PhilosopherPhase.Holding (id fork : Fin n) : PhilosopherPhase → Prop
  | .thinking | .hungry | .lockingFirst => False
  | .lockingSecond => fork = firstFork id
  | .eating => fork = id ∨ fork = nextFork id
  | .unlockingNext => fork = nextFork id

/-- A philosopher that is not blocked has a step. -/
theorem exists_next {state : TableState n} {id : Fin n}
    (hfree : ∀ fork, ¬ BlockedOn state id fork) :
    ∃ successor, philosopherNext state id = some successor := by
  unfold philosopherNext
  cases hphase : state.phases id with
  | lockingFirst =>
    have hnone : state.table.forks (firstFork id) = none := by
      by_contra htaken
      exact hfree (firstFork id) ⟨by simp [wantedFork, hphase], htaken⟩
    exact ⟨_, if_pos hnone⟩
  | lockingSecond =>
    have hnone : state.table.forks (secondFork id) = none := by
      by_contra htaken
      exact hfree (secondFork id) ⟨by simp [wantedFork, hphase], htaken⟩
    exact ⟨_, if_pos hnone⟩
  | eating =>
    by_cases hcheck : state.table.check (id : ℕ) = 0
    · exact ⟨_, if_pos hcheck⟩
    · exact ⟨_, if_neg hcheck⟩
  | thinking => exact ⟨_, rfl⟩
  | hungry => exact ⟨_, rfl⟩
  | unlockingNext => exact ⟨_, rfl⟩

/-- A blocked philosopher has no step. -/
theorem next_eq_none_of_blocked {state : TableState n} {id fork : Fin n}
    (hblocked : BlockedOn state id fork) : philosopherNext state id = none := by
  obtain ⟨hwanted, htaken⟩ := hblocked
  unfold philosopherNext
  unfold wantedFork at hwanted
  cases hphase : state.phases id with
  | lockingFirst =>
    rw [hphase] at hwanted
    obtain rfl := Option.some.inj hwanted
    exact if_neg htaken
  | lockingSecond =>
    rw [hphase] at hwanted
    obtain rfl := Option.some.inj hwanted
    exact if_neg htaken
  | thinking | hungry | eating | unlockingNext =>
    rw [hphase] at hwanted
    cases hwanted

/-! ### The rank of the forks -/

/-- The rank of a fork: the odd forks above fork 0 above the other even forks. -/
def forkRank (fork : Fin n) : Fin 3 :=
  if (fork : ℕ) % 2 = 1 then 2 else if (fork : ℕ) = 0 then 1 else 0

/-- Among at least two forks every philosopher locks its forks in increasing rank. -/
theorem forkRank_lt (htwo : 2 ≤ n) (id : Fin n) :
    forkRank (firstFork id) < forkRank (secondFork id) := by
  have hid := id.isLt
  have hnext : (nextFork id : ℕ) = if (id : ℕ) + 1 = n then 0 else (id : ℕ) + 1 := by
    unfold nextFork
    split_ifs with hlast
    · show ((id : ℕ) + 1) % n = 0
      rw [hlast, Nat.mod_self]
    · exact Nat.mod_eq_of_lt (by omega)
  unfold firstFork secondFork forkRank
  by_cases heven : (id : ℕ) % 2 = 0
  · -- an even philosopher goes from its own fork up to an odd one, or the last one up to fork 0
    rw [if_pos heven, if_pos heven, if_neg (by omega)]
    split_ifs at hnext with hlast
    · rw [if_neg (by omega), if_neg (by omega), if_pos hnext]
      decide
    · rw [if_pos (show (nextFork id : ℕ) % 2 = 1 by omega)]
      split_ifs <;> decide
  · -- an odd philosopher goes from an even fork up to its own
    rw [if_neg heven, if_neg heven, if_pos (show (id : ℕ) % 2 = 1 by omega)]
    have hnextEven : ¬ (nextFork id : ℕ) % 2 = 1 := by
      split_ifs at hnext <;> omega
    rw [if_neg hnextEven]
    split_ifs <;> decide

/-- Among at least two forks a philosopher locks two different ones. -/
theorem firstFork_ne_secondFork (htwo : 2 ≤ n) (id : Fin n) : firstFork id ≠ secondFork id :=
  fun hsame ↦ absurd (congrArg forkRank hsame) (forkRank_lt htwo id).ne

/-- The two forks of a philosopher in the order it locks them. -/
theorem holding_eating_iff (id fork : Fin n) :
    PhilosopherPhase.eating.Holding id fork ↔ fork = firstFork id ∨ fork = secondFork id := by
  unfold PhilosopherPhase.Holding firstFork secondFork
  split_ifs
  · exact Iff.rfl
  · exact or_comm

/-! ### The invariant -/

/-- What every reachable state satisfies: the table is running, and a fork is locked exactly by
the philosopher whose phase says that it holds it. -/
structure Seated (state : TableState n) : Prop where
  running : state.table.running = true
  holds : ∀ id fork, HoldsFork state id fork ↔ (state.phases id).Holding id fork

namespace Seated

variable {state successor : TableState n} {id fork : Fin n} {phase : PhilosopherPhase}

/-- A philosopher moves to a phase in which it holds the same forks. -/
theorem stay (hseated : Seated state)
    (hsame : ∀ other, phase.Holding id other ↔ (state.phases id).Holding id other) :
    Seated { state with phases := Function.update state.phases id phase } := by
  refine ⟨hseated.running, fun holder other ↦ ?_⟩
  refine (hseated.holds holder other).trans ?_
  by_cases hholder : holder = id
  · subst holder
    simp only [Function.update_self]
    exact (hsame other).symm
  · simp only [Function.update_of_ne hholder]

/-- A philosopher locks a free fork. -/
theorem lock (hseated : Seated state) (hfree : state.table.forks fork = none)
    (hgain : ∀ other, phase.Holding id other ↔
      other = fork ∨ (state.phases id).Holding id other) :
    Seated (state.move id fork (some id) phase) := by
  refine ⟨hseated.running, fun holder other ↦ ?_⟩
  have hbefore := hseated.holds holder other
  simp only [HoldsFork, TableState.move] at hbefore ⊢
  by_cases hholder : holder = id
  · subst holder
    rw [Function.update_self, hgain]
    by_cases hother : other = fork
    · subst other
      rw [Function.update_self]
      simp
    · rw [Function.update_of_ne hother]
      simpa [hother] using hbefore
  · rw [Function.update_of_ne hholder]
    by_cases hother : other = fork
    · subst other
      rw [Function.update_self, ← hbefore, hfree]
      simpa [eq_comm] using hholder
    · rw [Function.update_of_ne hother]
      exact hbefore

/-- A philosopher unlocks a fork it holds. -/
theorem unlock (hseated : Seated state) (hheld : (state.phases id).Holding id fork)
    (hlose : ∀ other, phase.Holding id other ↔
      other ≠ fork ∧ (state.phases id).Holding id other) :
    Seated (state.move id fork none phase) := by
  refine ⟨hseated.running, fun holder other ↦ ?_⟩
  have hbefore := hseated.holds holder other
  have howner : state.table.forks fork = some id := (hseated.holds id fork).mpr hheld
  simp only [HoldsFork, TableState.move] at hbefore ⊢
  by_cases hholder : holder = id
  · subst holder
    rw [Function.update_self, hlose]
    by_cases hother : other = fork
    · subst other
      rw [Function.update_self]
      simp
    · rw [Function.update_of_ne hother]
      simpa [hother] using hbefore
  · rw [Function.update_of_ne hholder]
    by_cases hother : other = fork
    · subst other
      rw [Function.update_self, ← hbefore, howner]
      simpa [eq_comm] using hholder
    · rw [Function.update_of_ne hother]
      exact hbefore

/-- Every step keeps the invariant. -/
theorem step (htwo : 2 ≤ n) (hseated : Seated state)
    (hnext : philosopherNext state id = some successor) : Seated successor := by
  have hcheck := DiningPhilosophers.check_eq_zero hseated.running id
  unfold philosopherNext at hnext
  cases hphase : state.phases id with
  | thinking =>
    simp only [hphase] at hnext
    obtain rfl := Option.some.inj hnext
    exact hseated.stay fun other ↦ by rw [hphase]; exact Iff.rfl
  | hungry =>
    simp only [hphase, if_pos hcheck] at hnext
    obtain rfl := Option.some.inj hnext
    exact hseated.stay fun other ↦ by rw [hphase]; exact Iff.rfl
  | lockingFirst =>
    simp only [hphase] at hnext
    split_ifs at hnext with hfree
    obtain rfl := Option.some.inj hnext
    refine hseated.lock hfree fun other ↦ ?_
    rw [hphase]
    simp [PhilosopherPhase.Holding]
  | lockingSecond =>
    simp only [hphase] at hnext
    split_ifs at hnext with hfree
    obtain rfl := Option.some.inj hnext
    refine hseated.lock hfree fun other ↦ ?_
    rw [hphase, holding_eating_iff]
    exact or_comm
  | eating =>
    simp only [hphase, if_pos hcheck] at hnext
    obtain rfl := Option.some.inj hnext
    have hne : nextFork id ≠ id := by
      intro hsame
      refine firstFork_ne_secondFork htwo id ?_
      unfold firstFork secondFork
      rw [hsame, ite_self]
    refine hseated.unlock ?_ fun other ↦ ?_
    · rw [hphase]
      exact Or.inl rfl
    · rw [hphase]
      simp only [PhilosopherPhase.Holding]
      constructor
      · rintro rfl
        exact ⟨hne, Or.inr rfl⟩
      · rintro ⟨hother, hown | hnextFork⟩
        · exact absurd hown hother
        · exact hnextFork
  | unlockingNext =>
    simp only [hphase] at hnext
    obtain rfl := Option.some.inj hnext
    refine hseated.unlock ?_ fun other ↦ ?_
    · rw [hphase]
      exact rfl
    · rw [hphase]
      simp [PhilosopherPhase.Holding]

/-- A philosopher that is blocked and holds a fork holds its first and waits for its second. -/
theorem orderedWaits (htwo : 2 ≤ n) (hseated : Seated state) :
    OrderedWaits forkRank (HoldsFork state) (BlockedOn state) := by
  intro id held wanted hheld hblocked
  have hholding := (hseated.holds id held).mp hheld
  obtain ⟨hwanted, _⟩ := hblocked
  unfold wantedFork at hwanted
  cases hphase : state.phases id with
  | lockingSecond =>
    rw [hphase] at hwanted hholding
    obtain rfl := Option.some.inj hwanted
    obtain rfl : held = firstFork id := hholding
    exact forkRank_lt htwo id
  | lockingFirst =>
    rw [hphase] at hholding
    exact hholding.elim
  | thinking | hungry | eating | unlockingNext =>
    rw [hphase] at hwanted
    cases hwanted

/-- If a philosopher is blocked, some philosopher that holds a fork has a step. -/
theorem exists_running_holder (htwo : 2 ≤ n) (hseated : Seated state)
    (hblocked : BlockedOn state id fork) :
    ∃ holder held successor, HoldsFork state holder held ∧
      philosopherNext state holder = some successor := by
  have hheld (waiter wanted : Fin n) (hwaits : BlockedOn state waiter wanted) :
      ∃ holder, HoldsFork state holder wanted := Option.ne_none_iff_exists'.mp hwaits.2
  obtain ⟨holder, held, hholds, hfree⟩ :=
    (hseated.orderedWaits htwo).exists_running_holder hheld hblocked
  obtain ⟨successor, hnext⟩ := exists_next hfree
  exact ⟨holder, held, successor, hholds, hnext⟩

end Seated

/-- Every reachable state of a table for at least two satisfies the invariant. -/
theorem seated_reachable (htwo : 2 ≤ n) {state : TableState n}
    (hreach : (philosopherSystem n).Reachable state) : Seated state := by
  refine hreach.invariant (fun start hstart ↦ ?_) fun _ _ _ hseated _ hnext ↦
    hseated.step htwo hnext
  obtain ⟨⟨forkInitialized, errno, hinit⟩, hthinking⟩ := hstart
  have htable : start.table = { running := true, forks := fun _ ↦ none } :=
    (diningPhilosophersInit_ok hinit).2
  refine ⟨by rw [htable], fun id fork ↦ ?_⟩
  rw [hthinking id, HoldsFork, htable]
  exact iff_of_false nofun not_false

/-! ### Exclusion and progress -/

/-- Two philosophers share a fork. -/
def ShareFork (first second : Fin n) : Prop :=
  ∃ fork, (fork = first ∨ fork = nextFork first) ∧ (fork = second ∨ fork = nextFork second)

/-- With at least two philosophers, in every reachable state two of them that share a fork are
never both between a returned eat and their done; if one is blocked on a fork then one that holds
a fork can take a step; and no philosopher waits, through others, for itself. -/
theorem philosophers_exclusive_and_live (htwo : 2 ≤ n) {state : TableState n}
    (hreach : (philosopherSystem n).Reachable state) :
    (∀ first second, first ≠ second → ShareFork first second →
        ¬ (state.phases first = .eating ∧ state.phases second = .eating)) ∧
      (∀ id fork, BlockedOn state id fork →
        ∃ holder held successor, HoldsFork state holder held ∧
          (philosopherSystem n).next state holder = some successor) ∧
      ∀ id, ¬ Relation.TransGen (WaitsFor (HoldsFork state) (BlockedOn state)) id id := by
  have hseated := seated_reachable htwo hreach
  refine ⟨?_, fun id fork ↦ hseated.exists_running_holder htwo,
    (hseated.orderedWaits htwo).acyclic⟩
  rintro first second hne ⟨fork, hfirst, hsecond⟩ ⟨hfirstEats, hsecondEats⟩
  have hfirstHolds : HoldsFork state first fork :=
    (hseated.holds first fork).mpr (hfirstEats ▸ hfirst)
  have hsecondHolds : HoldsFork state second fork :=
    (hseated.holds second fork).mpr (hsecondEats ▸ hsecond)
  exact hne (Option.some.inj (hfirstHolds.symm.trans hsecondHolds))

/-- Of three philosophers, the first eats while the last, also even, waits for fork 0 holding its
own, and the second waits for that one. -/
theorem philosophers_exclusive_and_live_three :
    ∃ state : TableState 3, (philosopherSystem 3).Reachable state ∧
      BlockedOn state 2 0 ∧ BlockedOn state 1 2 ∧
      (¬ (state.phases 0 = .eating ∧ state.phases 2 = .eating)) ∧
      ∃ holder held successor, HoldsFork state holder held ∧
        (philosopherSystem 3).next state holder = some successor := by
  let start : TableState 3 :=
    { table := { running := true, forks := fun _ ↦ none }, phases := fun _ ↦ .thinking }
  obtain ⟨final, hrun, hlast, hmiddle⟩ : ∃ final,
      (philosopherSystem 3).run start [0, 0, 0, 0, 2, 2, 2, 1, 1] = some final ∧
      BlockedOn final 2 0 ∧ BlockedOn final 1 2 :=
    ⟨_, rfl, ⟨rfl, nofun⟩, ⟨rfl, nofun⟩⟩
  have hreach : (philosopherSystem 3).Reachable final :=
    TransitionSystem.reachable_of_run ⟨⟨fun _ ↦ true, 0, rfl⟩, fun _ ↦ rfl⟩ _ hrun
  have hsafe := philosophers_exclusive_and_live (by decide) hreach
  exact ⟨final, hreach, hlast, hmiddle, hsafe.1 0 2 (by decide) ⟨0, Or.inl rfl, Or.inr rfl⟩,
    hsafe.2.1 2 0 hlast⟩

end Bme680.Philosophers
