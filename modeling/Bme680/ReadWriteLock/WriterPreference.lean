import Bme680.Concurrency.PreferringLock
import Bme680.ReadWriteLock.LockClients

/-!
# The read-write lock prefers writers

`rwlock_rdlock` waits while a writer is active or waits, `rwlock_wrlock` while anybody is active.
Seen from outside, that is a lock for readers or one writer that lets no reader in while a thread
waits to write. `lockView` forgets the counters, the condition variables, the refused calls and the
waiting readers, and keeps who holds the lock and who waits to write.

Every step of the lock's code is a step of that abstract lock or changes nothing it shows
(`rwlock_refines_preferring`). So a reader never overtakes a writer that has begun to wait, however
long the writer waits and whatever wakes it up in vain (`readers_never_overtake`).
-/

set_option autoImplicit false
set_option relaxedAutoImplicit false

namespace Bme680.ReadWriteLock

open Concurrency

variable {Thread : Type*} [Fintype Thread] [DecidableEq Thread]

/-! ### The view -/

omit [Fintype Thread] [DecidableEq Thread] in
/-- Who holds the lock, and who is suspended inside the wait loop of `rwlock_wrlock`. -/
def lockView (clients : Thread → LockClient) : PreferringLock Thread where
  reads thread := (clients thread).readHolds
  writes thread := (clients thread).writeHolds
  awaiting := {thread | (clients thread).Waiting .write}

omit [Fintype Thread] in
/-- The view after one thread moved. -/
theorem lockView_update (clients : Thread → LockClient) (thread : Thread) (client : LockClient) :
    lockView (Function.update clients thread client) =
      { reads := Function.update (lockView clients).reads thread client.readHolds
        writes := Function.update (lockView clients).writes thread client.writeHolds
        awaiting :=
          if client.Waiting .write then insert thread (lockView clients).awaiting
          else (lockView clients).awaiting \ {thread} } := by
  unfold lockView
  congr 1
  · funext other
    exact Function.apply_update (fun _ client ↦ LockClient.readHolds client) clients thread client
      other
  · funext other
    exact Function.apply_update (fun _ client ↦ LockClient.writeHolds client) clients thread client
      other
  · ext other
    by_cases hsame : other = thread
    · subst other
      split_ifs with hwaiting <;> simp [hwaiting]
    · split_ifs with hwaiting <;> simp [hsame]

omit [Fintype Thread] in
/-- A thread that moves with its holds and its waiting for writing as they were is not seen to. -/
theorem lockView_update_same {clients : Thread → LockClient} {thread : Thread}
    {client : LockClient} (hreads : client.readHolds = (clients thread).readHolds)
    (hwrites : client.writeHolds = (clients thread).writeHolds)
    (hwaiting : client.Waiting .write ↔ (clients thread).Waiting .write) :
    lockView (Function.update clients thread client) = lockView clients := by
  rw [lockView_update, hreads, hwrites]
  unfold lockView
  rw [Function.update_eq_self, Function.update_eq_self]
  congr 1
  split_ifs with hwaits
  · exact Set.insert_eq_of_mem (hwaiting.mp hwaits)
  · exact Set.sdiff_singleton_eq_self fun hmem ↦ hwaits (hwaiting.mpr hmem)

/-- Waking sleepers is not seen. -/
theorem lockView_wake {clients successors : Thread → LockClient} {woken : Option Thread}
    {wakeup : Wakeup} (hwake : wakeSleepers clients woken wakeup = some successors) :
    lockView successors = lockView clients := by
  have hsame : ∀ thread, (successors thread).readHolds = (clients thread).readHolds ∧
      (successors thread).writeHolds = (clients thread).writeHolds ∧
      ((successors thread).Waiting .write ↔ (clients thread).Waiting .write) := by
    intro thread
    rcases wakeSleepers_apply hwake thread with hkept | ⟨mode, hasleep, hawake⟩
    · rw [hkept]
      exact ⟨rfl, rfl, Iff.rfl⟩
    · rw [hawake]
      exact ⟨rfl, rfl, LockClient.waiting_awaken hasleep .write⟩
  unfold lockView
  congr 1
  · funext thread
    exact (hsame thread).1
  · funext thread
    exact (hsame thread).2.1
  · ext thread
    exact (hsame thread).2.2

/-! ### The counters and the view -/

variable {state successor : LockState Thread}

omit [DecidableEq Thread] in
/-- No active thread of a mode means no holds of it. -/
theorem holds_eq_zero (hinvariant : LockInvariant state) (mode : LockMode)
    (hnone : mode.active state.lock = 0) (thread : Thread) :
    (state.clients thread).holds mode = 0 := by
  have hweight := le_tally (fun client : LockClient ↦ client.holds mode) state.clients thread
  have hactive := hinvariant.accounts.active mode
  omega

omit [DecidableEq Thread] in
/-- No waiting writer means that no thread waits to write. -/
theorem awaiting_eq_empty (hinvariant : LockInvariant state)
    (hnone : state.lock.waitingWriters = 0) : (lockView state.clients).awaiting = ∅ := by
  have hcount : state.lock.waitingWriters =
      threadCount (LockClient.Waiting .write) state.clients := hinvariant.accounts.waiting .write
  have hzero : threadCount (LockClient.Waiting .write) state.clients = 0 := by omega
  have hnobody := threadCount_eq_zero_iff.mp hzero
  exact Set.eq_empty_iff_forall_notMem.mpr hnobody

/-- The label of the abstract lock under which a thread gets the lock in a mode. -/
def acquireLabel (thread : Thread) : LockMode → PreferringLock.Label Thread
  | .read => .read thread
  | .write => .write thread

omit [Fintype Thread] in
/-- A thread that waits to write and moves to a client that does not leaves the waiting ones. -/
theorem lockView_finish_acquired (clients : Thread → LockClient) (thread : Thread)
    (mode : LockMode) :
    lockView (Function.update clients thread ((clients thread).finish mode (.returns 0))) =
      match mode with
      | .read =>
        { reads := Function.update (lockView clients).reads thread
            ((lockView clients).reads thread + 1)
          writes := (lockView clients).writes
          awaiting := (lockView clients).awaiting \ {thread} }
      | .write =>
        { reads := (lockView clients).reads
          writes := Function.update (lockView clients).writes thread
            ((lockView clients).writes thread + 1)
          awaiting := (lockView clients).awaiting \ {thread} } := by
  have hidle : ¬ ((clients thread).finish mode (.returns 0)).Waiting .write := by
    rw [LockClient.waiting_finish]
    simp
  rw [lockView_update, if_neg hidle]
  cases mode with
  | read =>
    have hwrites : Function.update (lockView clients).writes thread
        ((clients thread).finish .read (.returns 0)).writeHolds = (lockView clients).writes :=
      Function.update_eq_self thread _
    rw [hwrites]
    rfl
  | write =>
    have hreads : Function.update (lockView clients).reads thread
        ((clients thread).finish .write (.returns 0)).readHolds = (lockView clients).reads :=
      Function.update_eq_self thread _
    rw [hreads]
    rfl

/-- A thread that finds the lock free for its mode is given the abstract lock. -/
theorem lockView_acquires (hinvariant : LockInvariant state) {mode : LockMode}
    (hfree : ¬ mode.Busy state.lock) (thread : Thread) :
    PreferringLock.next (lockView state.clients) (acquireLabel thread mode) =
      some (lockView (Function.update state.clients thread
        ((state.clients thread).finish mode (.returns 0)))) := by
  rw [lockView_finish_acquired]
  cases mode with
  | read =>
    simp only [LockMode.Busy, not_or, not_not] at hfree
    have hnowriter : ∀ other, (lockView state.clients).writes other = 0 :=
      holds_eq_zero hinvariant .write hfree.1
    have hnobody := awaiting_eq_empty hinvariant hfree.2
    refine (if_pos ⟨hnowriter, hnobody⟩).trans ?_
    rw [hnobody, Set.empty_sdiff]
  | write =>
    simp only [LockMode.Busy, not_or, not_not] at hfree
    have hnobody : ∀ other, (lockView state.clients).reads other = 0 ∧
        (lockView state.clients).writes other = 0 := fun other ↦
      ⟨holds_eq_zero hinvariant .read hfree.1 other,
        holds_eq_zero hinvariant .write hfree.2 other⟩
    refine (if_pos hnobody).trans ?_
    rw [(hnobody thread).2]

/-! ### Refinement -/

omit [Fintype Thread] in
/-- A thread that stops waiting in a mode stops waiting to write or is not seen to move. -/
theorem lockView_stops {clients : Thread → LockClient} {thread : Thread} {mode : LockMode}
    {ret : ℤ} (hret : SectionEnd.returns ret ≠ .returns 0) :
    lockView (Function.update clients thread ((clients thread).finish mode (.returns ret))) =
      { lockView clients with awaiting := (lockView clients).awaiting \ {thread} } := by
  have hnonzero : ret ≠ 0 := fun hzero ↦ hret (congrArg SectionEnd.returns hzero)
  have hidle : ¬ ((clients thread).finish mode (.returns ret)).Waiting .write := by
    rw [LockClient.waiting_finish]
    simp
  have hreads : ((clients thread).finish mode (.returns ret)).readHolds =
      (lockView clients).reads thread := by
    simp [LockClient.finish, hnonzero, lockView]
  have hwrites : ((clients thread).finish mode (.returns ret)).writeHolds =
      (lockView clients).writes thread := by
    simp [LockClient.finish, hnonzero, lockView]
  rw [lockView_update, if_neg hidle, hreads, hwrites, Function.update_eq_self,
    Function.update_eq_self]

/-- Every step of the lock's code is a step of the abstract lock, or is not seen there. -/
theorem lockView_step (hinvariant : LockInvariant state) {label : LockLabel Thread}
    (hnext : matchedNext state label = some successor) :
    lockView successor.clients = lockView state.clients ∨
      ∃ matching, PreferringLock.next (lockView state.clients) matching =
        some (lockView successor.clients) := by
  cases hinvariant.step_cases hnext with
  | @refused thread mode hidle hfull =>
    refine Or.inr ⟨.withdraw thread, ?_⟩
    exact congrArg some (lockView_stops (by decide)).symm
  | @sleeps thread mode hidle hroom hbusy =>
    cases mode with
    | read =>
      refine Or.inl (lockView_update_same rfl rfl ?_)
      rw [LockClient.waiting_finish]
      exact iff_of_false (fun hboth ↦ LockMode.noConfusion hboth.2)
        (LockClient.not_waiting_of_idle hidle .write)
    | write =>
      refine Or.inr ⟨.await thread, ?_⟩
      have hwaiting : ((state.clients thread).finish .write .sleeps).Waiting .write := Or.inl rfl
      have hreads : Function.update (lockView state.clients).reads thread
          ((state.clients thread).finish .write .sleeps).readHolds =
            (lockView state.clients).reads := Function.update_eq_self thread _
      have hwrites : Function.update (lockView state.clients).writes thread
          ((state.clients thread).finish .write .sleeps).writeHolds =
            (lockView state.clients).writes := Function.update_eq_self thread _
      show _ = some (lockView (Function.update state.clients thread
        ((state.clients thread).finish .write .sleeps)))
      rw [lockView_update, if_pos hwaiting, hreads, hwrites]
      rfl
  | @acquires thread mode hidle hroom hfree =>
    exact Or.inr ⟨acquireLabel thread mode, lockView_acquires hinvariant hfree thread⟩
  | @spurious thread mode hasleep =>
    exact Or.inl (lockView_update_same rfl rfl (LockClient.waiting_awaken hasleep .write))
  | @sleepsAgain thread mode hawake hbusy =>
    refine Or.inl (lockView_update_same rfl rfl ?_)
    rw [LockClient.waiting_finish, LockClient.waiting_iff (Or.inl hawake)]
    exact and_iff_right rfl
  | @acquiresAwake thread mode hawake hfree =>
    exact Or.inr ⟨acquireLabel thread mode, lockView_acquires hinvariant hfree thread⟩
  | @givesUp thread mode ret hasleep hret =>
    refine Or.inr ⟨.withdraw thread, ?_⟩
    exact congrArg some (lockView_stops (failureCode_ne hret).1).symm
  | @unlocks thread mode woken clients hidle hheld hwake =>
    have hidleView : thread ∉ (lockView state.clients).awaiting :=
      LockClient.not_waiting_of_idle hidle .write
    have hstill : ¬ ((state.clients thread).unlocked 0 mode).Waiting .write :=
      LockClient.not_waiting_of_idle
        ((LockClient.phase_unlocked (state.clients thread) 0 mode).trans hidle) .write
    have hview := (lockView_wake hwake).trans (lockView_update state.clients thread
      ((state.clients thread).unlocked 0 mode))
    rw [if_neg hstill, Set.sdiff_singleton_eq_self hidleView] at hview
    cases mode with
    | read =>
      have hwrites : Function.update (lockView state.clients).writes thread
          ((state.clients thread).unlocked 0 .read).writeHolds =
            (lockView state.clients).writes := Function.update_eq_self thread _
      rw [hwrites] at hview
      exact Or.inr ⟨.releaseRead thread, (if_pos hheld).trans (congrArg some hview.symm)⟩
    | write =>
      have hreads : Function.update (lockView state.clients).reads thread
          ((state.clients thread).unlocked 0 .write).readHolds =
            (lockView state.clients).reads := Function.update_eq_self thread _
      rw [hreads] at hview
      exact Or.inr ⟨.releaseWrite thread, (if_pos hheld).trans (congrArg some hview.symm)⟩

/-- The lock's code refines the abstract lock. -/
theorem lockView_simulation (Thread : Type*) [Fintype Thread] [DecidableEq Thread] :
    Simulation (rwlockSystem Thread) (fun _ _ ↦ True) (PreferringLock.system Thread)
      (fun _ _ ↦ True) (fun state ↦ lockView state.clients) where
  initial := by
    rintro state ⟨-, hfresh⟩
    have hclients : state.clients = fun _ ↦ LockClient.fresh := funext hfresh
    rw [hclients]
    refine congrArg (PreferringLock.mk _ _) (Set.eq_empty_iff_forall_notMem.mpr fun thread ↦ ?_)
    exact LockClient.not_waiting_of_idle rfl .write
  step := by
    intro state label successor hreach _ _ hnext
    refine (lockView_step (lockInvariant_reachable hreach) hnext).imp_right ?_
    rintro ⟨matching, hmatch⟩
    exact ⟨matching, trivial, hmatch⟩

/-- What holds of the abstract lock holds of the code: a holder for writing is alone. -/
theorem lockView_exclusive (hreach : (rwlockSystem Thread).Reachable state) :
    PreferringLock.Exclusive (lockView state.clients) :=
  PreferringLock.exclusive_of_reachable ((lockView_simulation Thread).reachable hreach)

/-- The lock's code refines a lock for readers or one writer that prefers writers, and while a
thread waits to write no thread gets the lock for reading: the holds of every thread for reading,
and the active readers, only go down, whatever the other threads do and however often the writer is
woken up in vain. -/
theorem readers_never_overtake (Thread : Type*) [Fintype Thread] [DecidableEq Thread] :
    Simulation (rwlockSystem Thread) (fun _ _ ↦ True) (PreferringLock.system Thread)
        (fun _ _ ↦ True) (fun state ↦ lockView state.clients) ∧
      ∀ state successor waiter, (rwlockSystem Thread).Reachable state →
        (rwlockSystem Thread).Continuation
          (fun before _ ↦ (before.clients waiter).Waiting .write) state successor →
        (∀ thread, (successor.clients thread).readHolds ≤ (state.clients thread).readHolds) ∧
          successor.lock.activeReaders ≤ state.lock.activeReaders := by
  refine ⟨lockView_simulation Thread, fun state successor waiter hreach hmore ↦ ?_⟩
  obtain ⟨hreached, hview⟩ := (lockView_simulation Thread).continuation
    (fun view ↦ waiter ∈ view.awaiting) hreach (hmore.mono fun _ _ hwaits ↦ ⟨trivial, hwaits⟩)
  have hreads : ∀ thread,
      (successor.clients thread).readHolds ≤ (state.clients thread).readHolds :=
    PreferringLock.reads_le_of_awaiting (hview.mono fun _ _ ↦ And.right)
  refine ⟨hreads, ?_⟩
  have hbefore : state.lock.activeReaders = tally LockClient.readHolds state.clients :=
    (lockInvariant_reachable hreach).accounts.active .read
  have hafter : successor.lock.activeReaders = tally LockClient.readHolds successor.clients :=
    (lockInvariant_reachable hreached).accounts.active .read
  have hless : tally LockClient.readHolds successor.clients ≤
      tally LockClient.readHolds state.clients := Finset.sum_le_sum fun thread _ ↦ hreads thread
  omega

/-- Thread 0 reads and thread 1 waits to write: thread 2 does not get the lock for reading. -/
theorem readers_never_overtake_third_thread :
    ∃ state successor : LockState (Fin 3), (rwlockSystem (Fin 3)).Reachable state ∧
      (rwlockSystem (Fin 3)).next state (.lock 2 .read) = some successor ∧
      (successor.clients 2).readHolds = 0 ∧ successor.lock.activeReaders ≤ 1 := by
  obtain ⟨state, hrun, hwaits, hidle, hactive⟩ : ∃ state,
      (rwlockSystem (Fin 3)).run { lock := ⟨0, 0, 0, 0⟩, clients := fun _ ↦ LockClient.fresh }
        [.lock 0 .read, .lock 1 .write] = some state ∧ (state.clients 1).Waiting .write ∧
        (state.clients 2).readHolds = 0 ∧ state.lock.activeReaders = 1 :=
    ⟨_, rfl, by decide, rfl, rfl⟩
  have hreach : (rwlockSystem (Fin 3)).Reachable state :=
    TransitionSystem.reachable_of_run ⟨rfl, fun _ ↦ rfl⟩ _ hrun
  obtain ⟨successor, hnext⟩ : ∃ successor,
      (rwlockSystem (Fin 3)).next state (.lock 2 .read) = some successor := by
    obtain rfl := Option.some.inj hrun
    exact ⟨_, rfl⟩
  have hless := (readers_never_overtake (Fin 3)).2 state successor 1 hreach
    (.single ⟨.lock 2 .read, hwaits, hnext⟩)
  exact ⟨state, successor, hreach, hnext, Nat.le_zero.mp (hidle ▸ hless.1 2), hactive ▸ hless.2⟩

end Bme680.ReadWriteLock
