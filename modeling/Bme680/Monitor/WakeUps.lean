import Bme680.Monitor.FifoRefinement

/-!
# The monitor loses no wake-up

Every successful call signals one sleeper of the other side, a thread that has just arrived may
serve itself before the one made awake, and a sleeper may give up at any moment. Counting settles
that nobody is forgotten: while somebody sleeps on a side, the ring has no more for that side than
threads of it are awake and not yet past their wait loop (`Attended`).

One inequality covers every move of one thread (`Attended.move`): what the ring has for the side
grows by no more than the awake threads of the side do. A signal that finds nobody asleep makes
the condition void instead, and a section that goes to sleep finds nothing for its side.
-/

set_option autoImplicit false
set_option relaxedAutoImplicit false

namespace Bme680.Monitor

open Concurrency Deadlock ReadWriteLock

/-! ### Awake threads -/

/-- The thread was made awake in the wait loop of a side and has not locked the mutex since. -/
def MonitorClient.AwakeAs (role : MonitorRole) (client : MonitorClient) : Prop :=
  match client.phase with
  | .awake call => call.role = role
  | _ => False

instance (role : MonitorRole) : DecidablePred (MonitorClient.AwakeAs role)
  | ⟨.awake call, _, _⟩ => inferInstanceAs (Decidable (call.role = role))
  | ⟨.idle, _, _⟩ | ⟨.entering _, _, _⟩ | ⟨.asleep _, _, _⟩ | ⟨.leaving _ _, _, _⟩ =>
    inferInstanceAs (Decidable False)

/-- A sleeper made awake is awake on the side it slept on. -/
theorem MonitorClient.awaken_awakeAs {client : MonitorClient} {role other : MonitorRole}
    (hasleep : client.AsleepAs role) : client.awaken.AwakeAs other ↔ role = other := by
  unfold MonitorClient.AsleepAs at hasleep
  cases hphase : client.phase with
  | asleep call =>
    simp only [hphase] at hasleep
    simp only [MonitorClient.awaken, MonitorClient.AwakeAs, hphase, hasleep]
  | idle | entering call | awake call | leaving call ret => simp only [hphase] at hasleep

/-- A thread made awake is asleep nowhere. -/
theorem MonitorClient.awaken_not_asleepAs (client : MonitorClient) (role : MonitorRole) :
    ¬ client.awaken.AsleepAs role := by
  unfold MonitorClient.awaken MonitorClient.AsleepAs
  cases hphase : client.phase with
  | asleep call => exact not_false
  | idle | entering call | awake call | leaving call ret => simp only [hphase, not_false_eq_true]

/-- A thread asleep on a side is awake on none. -/
theorem MonitorClient.AsleepAs.not_awakeAs {client : MonitorClient} {role : MonitorRole}
    (hasleep : client.AsleepAs role) (other : MonitorRole) : ¬ client.AwakeAs other := by
  unfold MonitorClient.AsleepAs at hasleep
  unfold MonitorClient.AwakeAs
  cases hphase : client.phase with
  | asleep call => exact not_false
  | idle | entering call | awake call | leaving call ret => simp only [hphase] at hasleep

/-- A thread sleeps on one side. -/
theorem MonitorClient.AsleepAs.unique {client : MonitorClient} {first second : MonitorRole}
    (hfirst : client.AsleepAs first) (hsecond : client.AsleepAs second) : first = second := by
  unfold MonitorClient.AsleepAs at hfirst hsecond
  cases hphase : client.phase with
  | asleep call =>
    simp only [hphase] at hfirst hsecond
    exact hfirst.symm.trans hsecond
  | idle | entering call | awake call | leaving call ret => simp only [hphase] at hfirst

variable {Thread : Type*} [Fintype Thread] [DecidableEq Thread]

/-! ### The counting condition -/

/-- While a thread sleeps on a side, what the ring has for the side is no more than the threads
awake on it. -/
def Attended (role : MonitorRole) (serviceable : ℤ) (clients : Thread → MonitorClient) : Prop :=
  (∃ thread, (clients thread).AsleepAs role) →
    serviceable ≤ threadCount (MonitorClient.AwakeAs role) clients

variable {role : MonitorRole} {before after : ℤ} {clients : Thread → MonitorClient}

omit [DecidableEq Thread] in
/-- Where the ring has nothing for a side, the side is attended. -/
theorem Attended.of_nothing (hnothing : after = 0) : Attended role after clients := by
  intro _
  rw [hnothing]
  exact Int.natCast_nonneg _

/-- A move of one thread that does not send it to sleep on a side keeps the side attended, if what
the ring has for it grows by no more than the awake threads do. -/
theorem Attended.move (hattended : Attended role before clients) {thread : Thread}
    {client : MonitorClient}
    (hasleep : client.AsleepAs role → (clients thread).AsleepAs role)
    (hbalance : after + (if (clients thread).AwakeAs role then 1 else 0) ≤
      before + (if client.AwakeAs role then 1 else 0)) :
    Attended role after (Function.update clients thread client) := by
  rintro ⟨sleeper, hsleeper⟩
  have hbefore : ∃ other, (clients other).AsleepAs role := by
    by_cases hsame : sleeper = thread
    · rw [hsame, Function.update_self] at hsleeper
      exact ⟨thread, hasleep hsleeper⟩
    · rw [Function.update_of_ne hsame] at hsleeper
      exact ⟨sleeper, hsleeper⟩
  have hbound := hattended hbefore
  have hcount := threadCount_update_add (MonitorClient.AwakeAs role) clients thread client
  split_ifs at hcount hbalance <;> omega

/-- A signal of a side for which the ring has one more keeps the side attended, and a signal of
the other side keeps it too. -/
theorem Attended.signal (hattended : Attended role before clients) {signalled : MonitorRole}
    {woken : Thread → MonitorClient} {sleeper : Option Thread}
    (hsignal : signal (MonitorClient.AsleepAs signalled) MonitorClient.awaken clients sleeper =
      some woken)
    (hgrowth : after ≤ before + (if signalled = role then 1 else 0)) :
    Attended role after woken := by
  rcases signal_cases hsignal with ⟨hnobody, rfl⟩ | ⟨thread, hasleep, rfl⟩
  · by_cases hrole : signalled = role
    · -- nobody sleeps on the side
      rintro ⟨thread, hthread⟩
      rw [← hrole] at hthread
      exact absurd hthread (hnobody thread)
    · rw [if_neg hrole, add_zero] at hgrowth
      exact fun hsleeper ↦ hgrowth.trans (hattended hsleeper)
  · refine hattended.move (fun hafter ↦ absurd hafter (MonitorClient.awaken_not_asleepAs _ _)) ?_
    rw [if_neg (hasleep.not_awakeAs role), add_zero]
    simpa only [MonitorClient.awaken_awakeAs hasleep] using hgrowth

/-! ### What a section has for the two sides -/

omit [Fintype Thread] [DecidableEq Thread] in
/-- What the ring has for a side is read off its queue. -/
theorem Bme680Monitor.serviceable_congr {first second : Bme680Monitor Thread}
    (hsize : first.size = second.size) (hcount : first.count = second.count)
    (role : MonitorRole) : first.serviceable role = second.serviceable role := by
  cases role with
  | writer => exact congrArg₂ (fun size count : ℤ ↦ size - count) hsize hcount
  | reader => exact hcount

omit [Fintype Thread] [DecidableEq Thread] in
/-- A served call uses up one thing of its side and makes one for the other. -/
theorem MonitorCall.Serves.serviceable {monitor served : Bme680Monitor Thread}
    {queue rest : List Bme680FifoData} {received : Option Bme680FifoData} {call : MonitorCall}
    (hserves : call.Serves monitor.size queue rest received)
    (hbefore : monitor.ring.Represents queue) (hafter : served.ring.Represents rest)
    (hsize : served.size = monitor.size) (role : MonitorRole) :
    served.serviceable role + (if call.role = role then 1 else 0) =
      monitor.serviceable role + (if call.role.other = role then 1 else 0) := by
  have hcount : monitor.count = queue.length := hbefore.count_eq
  have hrest : served.count = rest.length := hafter.count_eq
  cases call with
  | write data =>
    obtain ⟨-, rfl⟩ := hserves
    rw [List.length_append, List.length_singleton] at hrest
    push_cast at hrest
    cases role <;> simp [Bme680Monitor.serviceable, MonitorCall.role, MonitorRole.other] <;> omega
  | read =>
    obtain ⟨data, rfl, -⟩ := hserves
    rw [List.length_cons] at hcount
    push_cast at hcount
    cases role <;> simp [Bme680Monitor.serviceable, MonitorCall.role, MonitorRole.other] <;> omega

/-! ### Runs -/

/-- Both sides of a monitor are attended. -/
def MonitorState.Attended (state : MonitorState Thread) : Prop :=
  ∀ role, Monitor.Attended role (state.monitor.serviceable role) state.clients

variable {state successor : MonitorState Thread} {queue : List Bme680FifoData}

/-- A move of one thread that leaves the ring as it is, does not send the thread to sleep, and does
not end its being awake keeps both sides attended. -/
theorem MonitorState.Attended.move (hattended : state.Attended) {thread : Thread}
    {monitor : Bme680Monitor Thread} {client : MonitorClient}
    (hring : monitor.ring = state.monitor.ring)
    (hasleep : ∀ role, ¬ client.AsleepAs role)
    (hawake : ∀ role, ¬ (state.clients thread).AwakeAs role) (role : MonitorRole) :
    Monitor.Attended role (monitor.serviceable role)
      (Function.update state.clients thread client) := by
  have hsame : monitor.serviceable role = state.monitor.serviceable role :=
    Bme680Monitor.serviceable_congr (congrArg RingBuffer.size hring)
      (congrArg RingBuffer.count hring) role
  refine (hattended role).move (fun hafter ↦ absurd hafter (hasleep role)) ?_
  rw [hsame, if_neg (hawake role)]
  split_ifs <;> omega

/-- A section that a thread enters or resumes awake keeps both sides attended. -/
theorem attended_finish (hrepresents : state.monitor.ring.Represents queue)
    (hattended : state.Attended) {thread : Thread} {call : MonitorCall} {woken : Option Thread}
    {rwlockWaits : List ℕ}
    (hawake : ∀ role, (state.clients thread).AwakeAs role → call.role = role)
    (hfinish : state.finish thread call woken (monitorWoken state.monitor 0 rwlockWaits call) =
      some successor) : successor.Attended := by
  rcases monitorWoken_zero_cases hrepresents rwlockWaits call with
    ⟨hnothing, hresult⟩ | ⟨served, rest, hresult, hending, hsize, hserves, hafter⟩
  · rw [hresult] at hfinish
    simp only [MonitorState.finish, wakeOther, Bme680Monitor.leftBy, reduceCtorEq, if_false,
      Option.map_some, Option.some.injEq] at hfinish
    subst hfinish
    intro role
    by_cases hrole : call.role = role
    · rw [hrole] at hnothing
      exact .of_nothing hnothing
    · refine (hattended role).move (fun hsleeps ↦ absurd hsleeps hrole) ?_
      rw [if_neg fun hold ↦ hrole (hawake role hold)]
      dsimp only
      split_ifs <;> omega
  · rw [hresult] at hfinish
    simp only [MonitorState.finish, wakeOther, hending, if_true,
      Option.map_eq_some_iff] at hfinish
    obtain ⟨clients, hsignal, rfl⟩ := hfinish
    intro role
    have hleaving : ((state.clients thread).finish call served).phase = .leaving call 0 := by
      simp only [MonitorClient.finish, hending]
    -- the mover leaves its side first, and then signals the other one
    have hmoved : Monitor.Attended role
        (state.monitor.serviceable role - (if call.role = role then 1 else 0))
        (Function.update state.clients thread ((state.clients thread).finish call served)) := by
      refine (hattended role).move (fun hsleeps ↦ ?_) ?_
      · simp only [MonitorClient.AsleepAs, hleaving] at hsleeps
      · have hgone : ¬ ((state.clients thread).finish call served).AwakeAs role := by
          simp only [MonitorClient.AwakeAs, hleaving, not_false_eq_true]
        rw [if_neg hgone]
        have hold := hawake role
        split_ifs <;> simp_all
    refine hmoved.signal hsignal ?_
    have hserviceable := hserves.serviceable hrepresents hafter hsize role
    dsimp only
    omega

/-- Every step keeps both sides attended. -/
theorem attended_step (hrepresents : state.monitor.ring.Represents queue)
    (hattended : state.Attended) {label : MonitorLabel Thread}
    (hstep : monitorStep state label = some successor) : successor.Attended := by
  cases label with
  | call thread call obtained =>
    simp only [monitorStep, Option.ite_none_right_eq_some, Option.some.injEq] at hstep
    obtain ⟨hidle, rfl⟩ := hstep
    refine hattended.move (monitorEnter_ring _ _ _ _) (fun role ↦ ?_) fun role ↦ ?_
    · unfold MonitorClient.enter
      split_ifs <;> simp only [MonitorClient.AsleepAs, hidle, not_false_eq_true]
    · simp only [MonitorClient.AwakeAs, hidle, not_false_eq_true]
  | check thread rwlockWaits woken =>
    unfold monitorStep at hstep
    cases hphase : (state.clients thread).phase with
    | entering call =>
      simp only [hphase] at hstep
      refine attended_finish hrepresents hattended (fun role hawake ↦ ?_) hstep
      simp only [MonitorClient.AwakeAs, hphase] at hawake
    | awake call =>
      simp only [hphase] at hstep
      refine attended_finish hrepresents hattended (fun role hawake ↦ ?_) hstep
      simpa only [MonitorClient.AwakeAs, hphase] using hawake
    | idle | asleep call | leaving call ret => simp [hphase] at hstep
  | spurious thread =>
    unfold monitorStep at hstep
    cases hphase : (state.clients thread).phase with
    | asleep call =>
      simp only [hphase, Option.some.injEq] at hstep
      subst hstep
      refine hattended.move rfl (MonitorClient.awaken_not_asleepAs _) fun role ↦ ?_
      simp only [MonitorClient.AwakeAs, hphase, not_false_eq_true]
    | idle | entering call | awake call | leaving call ret => simp [hphase] at hstep
  | giveUp thread ret =>
    unfold monitorStep at hstep
    cases hphase : (state.clients thread).phase with
    | asleep call =>
      simp only [hphase, Option.ite_none_right_eq_some] at hstep
      obtain ⟨hret, hfinish⟩ := hstep
      obtain ⟨code, hcode, hresult⟩ := monitorWoken_error state.monitor hret [] call
      have hfailed : SectionEnd.returns code ≠ .returns 0 := fun hsame ↦
        hcode (SectionEnd.returns.inj hsame)
      rw [hresult] at hfinish
      simp only [MonitorState.finish, wakeOther, Bme680Monitor.leftBy, hfailed, if_false,
        Option.map_some, Option.some.injEq] at hfinish
      subst hfinish
      refine hattended.move rfl (fun role ↦ not_false) fun role ↦ ?_
      simp only [MonitorClient.AwakeAs, hphase, not_false_eq_true]
    | idle | entering call | awake call | leaving call ret => simp [hphase] at hstep
  | leave thread =>
    unfold monitorStep at hstep
    cases hphase : (state.clients thread).phase with
    | leaving call ret =>
      simp only [hphase, Option.some.injEq] at hstep
      subst hstep
      refine hattended.move rfl (fun role ↦ not_false) fun role ↦ ?_
      simp only [MonitorClient.AwakeAs, hphase, not_false_eq_true]
    | idle | entering call | asleep call | awake call => simp [hphase] at hstep

/-- In every reachable state both sides are attended. -/
theorem attended_reachable {size : ℤ} (hsize : 0 ≤ size)
    (hreach : (monitorSystem Thread size).Reachable state) : state.Attended := by
  have hinitial : ∀ start, (monitorSystem Thread size).initial start →
      MonitorInvariant size start ∧ start.Attended := by
    rintro start ⟨hinit, hclients, hhistory, hchanged, hfault⟩
    refine ⟨.init hsize hinit hhistory hchanged hfault, fun role ⟨thread, hasleep⟩ ↦ ?_⟩
    rw [hclients thread] at hasleep
    exact hasleep.elim
  have hboth := hreach.invariant hinitial fun before label after hbefore _ hnext ↦ by
    obtain ⟨hinvariant, hattended⟩ := hbefore
    obtain ⟨queue, -, hrepresents⟩ := hinvariant.represents
    refine ⟨(hinvariant.step hnext).1, ?_⟩
    obtain ⟨moved, hstep, rfl⟩ := Option.map_eq_some_iff.mp hnext
    have hmoved : moved.Attended := attended_step hrepresents hattended hstep
    exact hmoved
  exact hboth.2

/-- In every reachable state of a monitor of a size that is not negative, while a read is asleep
the ring holds no more records than there are reads awake and not yet past their wait loop, and
while a write is asleep it has room for no more than there are such writes. So no thread sleeps on
a condition that is met unless another one awake is on its way to use it. -/
theorem monitor_no_lost_wake_up {size : ℤ} (hsize : 0 ≤ size)
    (hreach : (monitorSystem Thread size).Reachable state) :
    ((∃ thread, (state.clients thread).AsleepAs .reader) →
      state.monitor.count ≤ threadCount (MonitorClient.AwakeAs .reader) state.clients) ∧
    ((∃ thread, (state.clients thread).AsleepAs .writer) →
      size - state.monitor.count ≤ threadCount (MonitorClient.AwakeAs .writer) state.clients) ∧
    (∀ thread, (state.clients thread).AsleepAs .reader → 0 < state.monitor.count →
      ∃ other, other ≠ thread ∧ (state.clients other).AwakeAs .reader) ∧
    ∀ thread, (state.clients thread).AsleepAs .writer → state.monitor.count < size →
      ∃ other, other ≠ thread ∧ (state.clients other).AwakeAs .writer := by
  have hattended := attended_reachable hsize hreach
  have hreader : (∃ thread, (state.clients thread).AsleepAs .reader) →
      state.monitor.count ≤ threadCount (MonitorClient.AwakeAs .reader) state.clients :=
    hattended .reader
  have hwriter : (∃ thread, (state.clients thread).AsleepAs .writer) →
      state.monitor.size - state.monitor.count ≤
        threadCount (MonitorClient.AwakeAs .writer) state.clients :=
    hattended .writer
  rw [(monitorInvariant_reachable hsize hreach).size_eq] at hwriter
  have hon_the_way {role : MonitorRole} {thread : Thread}
      (hasleep : (state.clients thread).AsleepAs role)
      (hpositive : 0 < threadCount (MonitorClient.AwakeAs role) state.clients) :
      ∃ other, other ≠ thread ∧ (state.clients other).AwakeAs role := by
    obtain ⟨other, hawake⟩ := threadCount_pos_iff.mp hpositive
    refine ⟨other, fun hsame ↦ ?_, hawake⟩
    rw [hsame] at hawake
    exact hasleep.not_awakeAs role hawake
  refine ⟨hreader, hwriter, fun thread hasleep hrecords ↦ hon_the_way hasleep ?_,
    fun thread hasleep hroom ↦ hon_the_way hasleep ?_⟩
  · have hbound := hreader ⟨thread, hasleep⟩
    omega
  · have hbound := hwriter ⟨thread, hasleep⟩
    omega

/-- Three threads that share a monitor of one slot. -/
def threeThreads : MonitorState (Fin 3) where
  monitor := { oneSlot.monitor with dd := { locks := fun _ ↦ { owner := none, locked := false } } }
  clients := fun _ ↦ .fresh
  history := { accepted := [], delivered := [] }
  changed := fun _ ↦ false
  fault := false

/-- Two reads sleep on an empty ring, and a write signals the first of them: the second one sleeps
beside a record, which the first is on its way to take. -/
theorem monitor_no_lost_wake_up_two_readers :
    ∃ state : MonitorState (Fin 3), (monitorSystem (Fin 3) 1).Reachable state ∧
      (state.clients 0).AwakeAs .reader ∧ (state.clients 2).AsleepAs .reader ∧
      state.monitor.count = 1 ∧
      ∃ other, other ≠ 2 ∧ (state.clients other).AwakeAs .reader := by
  obtain ⟨final, hrun, hawake, hasleep, hcount⟩ : ∃ final,
      (monitorSystem (Fin 3) 1).run threeThreads
        [.call 0 .read true, .check 0 [] none, .call 2 .read true, .check 2 [] none,
          .call 1 (.write (readingOf 90000)) true, .check 1 [] (some 0)] = some final ∧
        (final.clients 0).AwakeAs .reader ∧ (final.clients 2).AsleepAs .reader ∧
        final.monitor.count = 1 :=
    ⟨_, rfl, rfl, rfl, rfl⟩
  have hreach : (monitorSystem (Fin 3) 1).Reachable final :=
    TransitionSystem.reachable_of_run
      ⟨⟨true, true, threeThreads.monitor, fun _ ↦ readingOf 0, rfl⟩, fun _ ↦ rfl, rfl,
        fun _ ↦ rfl, rfl⟩ _ hrun
  obtain ⟨-, -, hreader, -⟩ := monitor_no_lost_wake_up (by decide) hreach
  exact ⟨final, hreach, hawake, hasleep, hcount, hreader 2 hasleep (by rw [hcount]; decide)⟩

end Bme680.Monitor
