import Bme680.Concurrency.DestroyableMutex
import Bme680.Concurrency.GuardedQueue
import Bme680.Concurrency.ResourceLedger
import Bme680.Concurrency.TransitionSystem
import Bme680.SectionOutcome

/-!
# The memory of the subscriptions

`pubsub_subscribe` allocates a subscription and the copy of its topic, and links it in front of
`ps.subscribers` under `ps.mutex`; `pubsub_publish` follows the links; `pubsub_destroy` frees every
subscription it meets and leaves `ps.subscribers` as it was. `ps.mutex` is destroyed only after it
has been unlocked, so a thread that was at its lock meanwhile can still get it.

Only the memory is followed here: the callbacks, the handshake of a publish on `ps.ep` and the
destruction of `ps.ep` are left out, and a publish is taken to go on past a subscription for its
topic. What it does with one is in `Messaging.Publish`.

`SubscriptionInvariant` is kept by every step of any threads in the three functions while nobody
reads `ps.subscribers` after a subscription has been freed (`LoadsLiveList`). That is exactly when
their memory is in order (`pubsub_memory_exact`): no subscription or topic is used before its
allocation or after its release, or released twice, and while no thread is inside a call the
allocated ones are those still linked and those given up at the lock.
-/

set_option autoImplicit false
set_option relaxedAutoImplicit false

namespace Bme680.Messaging

open Concurrency

/-! ### The blocks and the threads -/

/-- The blocks of memory of a subscription, by the number of its allocation. -/
inductive SubscriptionBlock
  | record (subscriber : ℕ)
  | topic (subscriber : ℕ)
  deriving DecidableEq, Repr

/-- What has become of a subscription: not allocated yet; allocated by a thread, without a topic or
with one; linked; given up at the lock, or for want of a topic; stripped of its topic by the thread
that frees it; and freed. -/
inductive SubscriptionStatus (Thread : Type*)
  | absent
  | allocated (thread : Thread)
  | copied (thread : Thread)
  | linked
  | abandoned
  | discarded
  | stripped (thread : Thread)
  | freed
  deriving DecidableEq, Repr

/-- Where a thread is: outside, with what its last `pubsub_subscribe` returned; in
`pubsub_subscribe`, at its `strdup`, its lock or its links; in `pubsub_publish`, at its lock, at the
read of `ps.subscribers`, or in its loop, at the head or at a subscription it has compared; in
`pubsub_destroy`, at its lock, at the read of `ps.subscribers`, in its loop, at the head or at one
of the two calls of `free`, and after its unlock; or at the unlock of any of them. A lock is in two
parts, its beginning and its wait for a mutex that was not destroyed then. -/
inductive SubscriptionPhase
  | outside (ret : Option ℤ)
  | copying (subscriber : ℕ)
  | subscribeLocking (subscriber : ℕ)
  | subscribeWaiting (subscriber : ℕ)
  | linking (subscriber : ℕ)
  | publishLocking
  | publishWaiting
  | publishLoading
  | comparing (position : Option ℕ)
  | advancing (subscriber : ℕ)
  | destroyLocking
  | destroyWaiting
  | destroyLoading
  | freeing (position : Option ℕ)
  | freeingTopic (subscriber : ℕ) (next : Option ℕ)
  | freeingRecord (subscriber : ℕ) (next : Option ℕ)
  | unlocking (ret : Option ℤ)
  | destroyUnlocking
  | destroyingMutex
  deriving DecidableEq, Repr

/-- `struct pubsub` with the links of its subscriptions: the first of them, the one behind each, and
the mutex; the number of the next allocation, what has become of every subscription, and the ledger
of their blocks; and the threads. -/
structure SubscriptionState (Thread : Type*) where
  subscribers : Option ℕ
  next : ℕ → Option ℕ
  mutex : DestroyableMutex Thread
  fresh : ℕ
  status : ℕ → SubscriptionStatus Thread
  ledger : ResourceLedger SubscriptionBlock
  threads : Thread → SubscriptionPhase

/-- The steps of a thread: a call, with whether its arguments are valid and, in `pubsub_subscribe`,
whether there is memory for the record; its `strdup`, with whether there is memory for the topic;
its lock, refused or timed out; and its next statement otherwise. -/
inductive SubscriptionLabel (Thread : Type*)
  | subscribe (thread : Thread) (valid allocated : Bool)
  | publish (thread : Thread) (valid : Bool)
  | destroy (thread : Thread)
  | copy (thread : Thread) (copied : Bool)
  | lockFailed (thread : Thread)
  | step (thread : Thread)

variable {Thread : Type*} [DecidableEq Thread]

/-! ### The functions -/

/-- The state with a thread moved. -/
def SubscriptionState.goto (state : SubscriptionState Thread) (thread : Thread)
    (phase : SubscriptionPhase) : SubscriptionState Thread :=
  { state with threads := Function.update state.threads thread phase }

omit [DecidableEq Thread] in
/-- The state with a subscription changed and an action on its memory taken down. -/
def SubscriptionState.become (state : SubscriptionState Thread) (subscriber : ℕ)
    (status : SubscriptionStatus Thread) (actions : List (ResourceAction SubscriptionBlock)) :
    SubscriptionState Thread :=
  { state with
    status := Function.update state.status subscriber status
    ledger := state.ledger.perform actions }

omit [DecidableEq Thread] in
/-- The state after uses of a subscription. -/
def SubscriptionState.uses (state : SubscriptionState Thread)
    (blocks : List SubscriptionBlock) : SubscriptionState Thread :=
  { state with ledger := state.ledger.perform (blocks.map .use) }

/-- A thread begins to wait for the mutex, where that is not destroyed. -/
def SubscriptionState.lock (state : SubscriptionState Thread) (thread : Thread)
    (phase : SubscriptionPhase) : Option (SubscriptionState Thread) :=
  if state.mutex.destroyed then none else some (state.goto thread phase)

/-- A thread that waits for the mutex takes it, where it is free. -/
def SubscriptionState.acquire (state : SubscriptionState Thread) (thread : Thread)
    (phase : SubscriptionPhase) : Option (SubscriptionState Thread) :=
  (state.mutex.acquire thread).map fun mutex ↦ { state.goto thread phase with mutex := mutex }

/-- The next statement of a thread. -/
def subscriptionStep (state : SubscriptionState Thread) (thread : Thread) :
    Option (SubscriptionState Thread) :=
  match state.threads thread with
  | .outside _ | .copying _ => none
  | .subscribeLocking subscriber => state.lock thread (.subscribeWaiting subscriber)
  | .subscribeWaiting subscriber => state.acquire thread (.linking subscriber)
  | .linking subscriber =>
    some
      { (state.goto thread (.unlocking (some 0))).become subscriber .linked
          [.use (.record subscriber)] with
        next := Function.update state.next subscriber state.subscribers
        subscribers := some subscriber }
  | .publishLocking => state.lock thread .publishWaiting
  | .publishWaiting => state.acquire thread .publishLoading
  | .publishLoading => some (state.goto thread (.comparing state.subscribers))
  | .comparing none => some (state.goto thread (.unlocking none))
  | .comparing (some subscriber) =>
    some ((state.uses [.record subscriber, .topic subscriber]).goto thread (.advancing subscriber))
  | .advancing subscriber =>
    some ((state.uses [.record subscriber]).goto thread (.comparing (state.next subscriber)))
  | .destroyLocking => state.lock thread .destroyWaiting
  | .destroyWaiting => state.acquire thread .destroyLoading
  | .destroyLoading => some (state.goto thread (.freeing state.subscribers))
  | .freeing none => some (state.goto thread .destroyUnlocking)
  | .freeing (some subscriber) =>
    some ((state.uses [.record subscriber]).goto thread
      (.freeingTopic subscriber (state.next subscriber)))
  | .freeingTopic subscriber next =>
    some ((state.goto thread (.freeingRecord subscriber next)).become subscriber (.stripped thread)
      [.use (.record subscriber), .release (.topic subscriber)])
  | .freeingRecord subscriber next =>
    some ((state.goto thread (.freeing next)).become subscriber .freed
      [.release (.record subscriber)])
  | .unlocking ret => some { state.goto thread (.outside ret) with mutex := state.mutex.unlock }
  | .destroyUnlocking =>
    some { state.goto thread .destroyingMutex with mutex := state.mutex.unlock }
  | .destroyingMutex =>
    some { state.goto thread (.outside none) with mutex := state.mutex.destroy }

/-- One step of the threads. -/
def subscriptionNext (state : SubscriptionState Thread) :
    SubscriptionLabel Thread → Option (SubscriptionState Thread)
  | .subscribe thread valid allocated =>
    match state.threads thread with
    | .outside _ =>
      if valid = false then some (state.goto thread (.outside (some (-EINVAL))))
      else if allocated = false then some (state.goto thread (.outside (some (-ENOMEM))))
      else
        some
          { (state.goto thread (.copying state.fresh)).become state.fresh (.allocated thread)
              [.create (.record state.fresh)] with
            fresh := state.fresh + 1 }
    | _ => none
  | .publish thread valid =>
    match state.threads thread with
    | .outside _ =>
      some (state.goto thread (if valid then .publishLocking else .outside none))
    | _ => none
  | .destroy thread =>
    match state.threads thread with
    | .outside _ => some (state.goto thread .destroyLocking)
    | _ => none
  | .copy thread copied =>
    match state.threads thread with
    | .copying subscriber =>
      if copied then
        some
          { (state.goto thread (.subscribeLocking subscriber)).become subscriber (.copied thread)
              [.create (.topic subscriber), .use (.record subscriber)] with
            next := Function.update state.next subscriber none }
      else
        some ((state.goto thread (.outside (some (-ENOMEM)))).become subscriber .discarded
          [.use (.record subscriber), .release (.record subscriber)])
    | _ => none
  | .lockFailed thread =>
    match state.threads thread with
    | .subscribeLocking subscriber | .subscribeWaiting subscriber =>
      some ((state.goto thread (.outside (some (-ETIMEDOUT)))).become subscriber .abandoned [])
    | .publishLocking | .publishWaiting | .destroyLocking | .destroyWaiting =>
      some (state.goto thread (.outside none))
    | _ => none
  | .step thread => subscriptionStep state thread

/-- Threads using the pubsub from `pubsub_init` on. -/
def subscriptionSystem (Thread : Type*) [DecidableEq Thread] :
    TransitionSystem (SubscriptionState Thread) (SubscriptionLabel Thread) where
  initial state :=
    state.subscribers = none ∧ state.mutex = .intact ∧ state.fresh = 0 ∧
      state.status = (fun _ ↦ .absent) ∧ state.ledger = .empty ∧
      state.threads = fun _ ↦ .outside none
  next := subscriptionNext

/-! ### What is promised -/

/-- The thread is about to read `ps.subscribers` for its loop. -/
def SubscriptionPhase.Loads : SubscriptionPhase → Prop
  | .publishLoading | .destroyLoading => True
  | _ => False

omit [DecidableEq Thread] in
/-- No publish and no destruction reads `ps.subscribers` after a subscription has been freed. -/
def LoadsLiveList (state : SubscriptionState Thread) : SubscriptionLabel Thread → Prop
  | .step thread => (state.threads thread).Loads →
      ∀ subscriber < state.fresh, state.status subscriber ≠ .freed
  | _ => True

omit [DecidableEq Thread] in
/-- While no thread is inside a call, the blocks that are allocated are those of the subscriptions
that are linked or were given up at the lock. -/
def OnlyLinkedRemain (state : SubscriptionState Thread) : Prop :=
  (∀ thread, ∃ ret, state.threads thread = .outside ret) → ∀ subscriber,
    (state.ledger.Live (.record subscriber) ↔
        state.status subscriber = .linked ∨ state.status subscriber = .abandoned) ∧
      (state.ledger.Live (.topic subscriber) ↔
        state.status subscriber = .linked ∨ state.status subscriber = .abandoned)

/-! ### The invariant -/

section Status

omit [DecidableEq Thread]

/-- The life of the record of a subscription. -/
def SubscriptionStatus.recordLife : SubscriptionStatus Thread → ResourceLedger.Lifetime
  | .absent => .unborn
  | .allocated _ | .copied _ | .linked | .abandoned | .stripped _ => .alive
  | .discarded | .freed => .dead

/-- The life of the topic of a subscription. -/
def SubscriptionStatus.topicLife : SubscriptionStatus Thread → ResourceLedger.Lifetime
  | .absent | .allocated _ | .discarded => .unborn
  | .copied _ | .linked | .abandoned => .alive
  | .stripped _ | .freed => .dead

/-- The life of a block, from what has become of its subscription. -/
def blockLifetime (status : ℕ → SubscriptionStatus Thread) :
    SubscriptionBlock → ResourceLedger.Lifetime
  | .record subscriber => (status subscriber).recordLife
  | .topic subscriber => (status subscriber).topicLife

/-- The thread a subscription belongs to, while it belongs to one. -/
def SubscriptionStatus.owner : SubscriptionStatus Thread → Option Thread
  | .allocated thread | .copied thread | .stripped thread => some thread
  | .absent | .linked | .abandoned | .discarded | .freed => none

/-- The subscription can be met on the way from `ps.subscribers`. -/
def SubscriptionStatus.OnList : SubscriptionStatus Thread → Prop
  | .linked | .stripped _ | .freed => True
  | .absent | .allocated _ | .copied _ | .abandoned | .discarded => False

/-- The subscription that belongs to a thread, and what has become of it. -/
def SubscriptionPhase.own (thread : Thread) :
    SubscriptionPhase → Option (ℕ × SubscriptionStatus Thread)
  | .copying subscriber => some (subscriber, .allocated thread)
  | .subscribeLocking subscriber | .subscribeWaiting subscriber | .linking subscriber =>
    some (subscriber, .copied thread)
  | .freeingRecord subscriber _ => some (subscriber, .stripped thread)
  | _ => none

/-- The thread has the mutex. -/
def SubscriptionPhase.Holds : SubscriptionPhase → Prop
  | .linking _ | .publishLoading | .comparing _ | .advancing _ | .destroyLoading | .freeing _
  | .freeingTopic _ _ | .freeingRecord _ _ | .unlocking _ | .destroyUnlocking => True
  | _ => False

/-- The thread is in none of the loops. -/
def SubscriptionPhase.Quiet : SubscriptionPhase → Prop
  | .comparing _ | .advancing _ | .freeing _ | .freeingTopic _ _ | .freeingRecord _ _ => False
  | _ => True

/-- The linked subscriptions are those of one list, and the freed ones those of another. -/
structure Listed (status : ℕ → SubscriptionStatus Thread) (live dead : List ℕ) : Prop where
  linked : ∀ subscriber, status subscriber = .linked ↔ subscriber ∈ live
  freed : ∀ subscriber, status subscriber = .freed ↔ subscriber ∈ dead

/-- How the list of subscriptions looks where the holder of the mutex is at a phase: outside the
loops the linked ones come first; a publish has nothing freed before it and splits the list where it
is; and a destruction has freed the ones before it. -/
def SubscriptionPhase.View (status : ℕ → SubscriptionStatus Thread) (first second : List ℕ) :
    SubscriptionPhase → Prop
  | .comparing position => Listed status (first ++ second) [] ∧ position = second.head?
  | .advancing subscriber =>
    Listed status (first ++ second) [] ∧ ∃ rest, second = subscriber :: rest
  | .freeing position => Listed status second first ∧ position = second.head?
  | .freeingTopic subscriber next =>
    Listed status second first ∧ ∃ rest, second = subscriber :: rest ∧ next = rest.head?
  | .freeingRecord subscriber next =>
    ∃ rest, second = subscriber :: rest ∧ next = rest.head? ∧ Listed status rest first
  | _ => Listed status first second

/-- Where the holder of the mutex is; outside, where there is none. -/
def SubscriptionState.holderPhase (state : SubscriptionState Thread) : SubscriptionPhase :=
  match state.mutex.holder with
  | none => .outside none
  | some thread => state.threads thread

/-- The list of subscriptions, in the two parts in which the holder of the mutex sees it. -/
structure ListView (state : SubscriptionState Thread) (first second : List ℕ) : Prop where
  chain : Chain state.next state.subscribers (first ++ second)
  nodup : (first ++ second).Nodup
  onList : ∀ subscriber ∈ first ++ second, (state.status subscriber).OnList
  view : state.holderPhase.View state.status first second

/-- Every thread has the subscription its phase says, and no other belongs to it. -/
structure Owned (status : ℕ → SubscriptionStatus Thread) (threads : Thread → SubscriptionPhase) :
    Prop where
  owns : ∀ thread subscriber current, (threads thread).own thread = some (subscriber, current) →
    status subscriber = current
  owned : ∀ thread subscriber, (status subscriber).owner = some thread →
    ∃ current, (threads thread).own thread = some (subscriber, current)

/-- The ledger follows what has become of the subscriptions; those not made yet are absent; every
thread has its own; the threads that hold the mutex are its holder; and the list is in order. -/
structure SubscriptionInvariant (state : SubscriptionState Thread) : Prop where
  follows : state.ledger.Follows (blockLifetime state.status)
  unmade : ∀ subscriber, state.fresh ≤ subscriber → state.status subscriber = .absent
  owned : Owned state.status state.threads
  holder : ∀ thread, (state.threads thread).Holds → state.mutex.holder = some thread
  list : ∃ first second, ListView state first second

/-! ### What belongs to a thread -/

variable {status : ℕ → SubscriptionStatus Thread} {threads : Thread → SubscriptionPhase}
  {thread : Thread} {phase : SubscriptionPhase} {subscriber : ℕ}
  {current : SubscriptionStatus Thread}

/-- What a phase says belongs to the thread does. -/
theorem SubscriptionPhase.owner_of_own (hown : phase.own thread = some (subscriber, current)) :
    current.owner = some thread := by
  cases phase with
  | copying _ | subscribeLocking _ | subscribeWaiting _ | linking _ | freeingRecord _ _ =>
    obtain ⟨-, rfl⟩ := Prod.mk.inj (Option.some.inj hown)
    rfl
  | _ => cases hown

namespace Owned

variable [DecidableEq Thread]

/-- A thread that moves and keeps its subscription. -/
theorem move (howned : Owned status threads)
    (hsame : phase.own thread = (threads thread).own thread) :
    Owned status (Function.update threads thread phase) := by
  have hown (other : Thread) :
      (Function.update threads thread phase other).own other = (threads other).own other := by
    by_cases hother : other = thread
    · subst hother
      rw [Function.update_self, hsame]
    · rw [Function.update_of_ne hother]
  refine ⟨fun other subscriber current hcurrent ↦ ?_, fun other subscriber howner ↦ ?_⟩
  · rw [hown] at hcurrent
    exact howned.owns other subscriber current hcurrent
  · rw [hown]
    exact howned.owned other subscriber howner

omit [DecidableEq Thread] in
/-- A subscription that a thread has, or nobody where it has none, is no other thread's. -/
theorem owner_eq (howned : Owned status threads)
    (hhas : (∃ before, (threads thread).own thread = some (subscriber, before)) ∨
      (threads thread).own thread = none ∧ (status subscriber).owner = none) {other : Thread}
    (howner : (status subscriber).owner = some other) : other = thread := by
  rcases hhas with ⟨before, hown⟩ | ⟨-, hnobody⟩
  · rw [howned.owns thread subscriber before hown, SubscriptionPhase.owner_of_own hown] at howner
    exact (Option.some.inj howner).symm
  · rw [hnobody] at howner
    cases howner

/-- A thread that moves and changes a subscription, which it has or nobody does, before and
after. -/
theorem become (howned : Owned status threads)
    (hbefore : (∃ before, (threads thread).own thread = some (subscriber, before)) ∨
      (threads thread).own thread = none ∧ (status subscriber).owner = none)
    (hafter : phase.own thread = some (subscriber, current) ∨
      phase.own thread = none ∧ current.owner = none) :
    Owned (Function.update status subscriber current) (Function.update threads thread phase) := by
  refine ⟨fun holder other state hstate ↦ ?_, fun holder other howner ↦ ?_⟩
  · by_cases hholder : holder = thread
    · subst hholder
      rw [Function.update_self] at hstate
      rcases hafter with hown | ⟨hnone, -⟩
      · obtain ⟨rfl, rfl⟩ := Prod.mk.inj (Option.some.inj (hstate.symm.trans hown))
        exact Function.update_self _ _ _
      · cases hnone.symm.trans hstate
    · rw [Function.update_of_ne hholder] at hstate
      have hstatus := howned.owns holder other state hstate
      have hother : other ≠ subscriber := by
        rintro rfl
        rw [← hstatus] at hstate
        exact hholder (howned.owner_eq hbefore (SubscriptionPhase.owner_of_own hstate))
      rw [Function.update_of_ne hother, hstatus]
  · by_cases hother : other = subscriber
    · subst hother
      rw [Function.update_self] at howner
      rcases hafter with hown | ⟨-, hnobody⟩
      · have hholder : holder = thread :=
          Option.some.inj (howner.symm.trans (SubscriptionPhase.owner_of_own hown))
        rw [hholder, Function.update_self]
        exact ⟨current, hown⟩
      · cases hnobody.symm.trans howner
    · rw [Function.update_of_ne hother] at howner
      obtain ⟨state, hstate⟩ := howned.owned holder other howner
      have hholder : holder ≠ thread := by
        rintro rfl
        rcases hbefore with ⟨before, hown⟩ | ⟨hnone, -⟩
        · exact hother (Prod.mk.inj (Option.some.inj (hstate.symm.trans hown))).1
        · cases hnone.symm.trans hstate
      rw [Function.update_of_ne hholder]
      exact ⟨state, hstate⟩

end Owned

/-! ### The list -/

/-- The lists of linked and freed subscriptions stay while those on the list do. -/
theorem Listed.congr {after : ℕ → SubscriptionStatus Thread} {live dead : List ℕ}
    (hlisted : Listed status live dead)
    (hsame : ∀ subscriber, (status subscriber).OnList ∨ (after subscriber).OnList →
      after subscriber = status subscriber) : Listed after live dead := by
  have hstatus (value : SubscriptionStatus Thread) (hon : value.OnList) (subscriber : ℕ) :
      after subscriber = value ↔ status subscriber = value := by
    constructor
    · intro hafter
      rw [← hsame subscriber (.inr (by rwa [hafter])), hafter]
    · intro hbefore
      rw [hsame subscriber (.inl (by rwa [hbefore])), hbefore]
  exact ⟨fun subscriber ↦ (hstatus .linked trivial subscriber).trans (hlisted.linked subscriber),
    fun subscriber ↦ (hstatus .freed trivial subscriber).trans (hlisted.freed subscriber)⟩

/-- A new subscription comes first among the linked ones. -/
theorem Listed.link {live dead : List ℕ} (hlisted : Listed status live dead)
    (hnew : status subscriber ≠ .freed) :
    Listed (Function.update status subscriber .linked) (subscriber :: live) dead := by
  constructor
  · intro other
    by_cases hother : other = subscriber
    · simp [hother]
    · rw [Function.update_of_ne hother, hlisted.linked, List.mem_cons]
      exact ⟨.inr, fun hmem ↦ hmem.resolve_left hother⟩
  · intro other
    by_cases hother : other = subscriber
    · subst hother
      rw [Function.update_self, ← hlisted.freed]
      exact iff_of_false (by simp) hnew
    · rw [Function.update_of_ne hother, hlisted.freed]

/-- A subscription stripped of its topic is no longer among the linked ones. -/
theorem Listed.strip {rest dead : List ℕ} (hlisted : Listed status (subscriber :: rest) dead)
    (honce : subscriber ∉ rest) :
    Listed (Function.update status subscriber (.stripped thread)) rest dead := by
  constructor
  · intro other
    by_cases hother : other = subscriber
    · subst hother
      rw [Function.update_self]
      exact iff_of_false (by simp) honce
    · rw [Function.update_of_ne hother, hlisted.linked, List.mem_cons]
      exact ⟨fun hmem ↦ hmem.resolve_left hother, .inr⟩
  · intro other
    by_cases hother : other = subscriber
    · subst hother
      rw [Function.update_self, ← hlisted.freed,
        (hlisted.linked other).mpr List.mem_cons_self]
      simp
    · rw [Function.update_of_ne hother, hlisted.freed]

/-- A subscription that is freed comes last among the freed ones. -/
theorem Listed.free {rest dead : List ℕ} (hlisted : Listed status rest dead)
    (hold : status subscriber ≠ .linked) :
    Listed (Function.update status subscriber .freed) rest (dead ++ [subscriber]) := by
  constructor
  · intro other
    by_cases hother : other = subscriber
    · subst hother
      rw [Function.update_self, ← hlisted.linked]
      exact iff_of_false (by simp) hold
    · rw [Function.update_of_ne hother, hlisted.linked]
  · intro other
    by_cases hother : other = subscriber
    · simp [hother]
    · rw [Function.update_of_ne hother, hlisted.freed, List.mem_append, List.mem_singleton]
      exact ⟨.inl, fun hmem ↦ hmem.resolve_right hother⟩

/-- What the holder of the mutex sees stays while the subscriptions on the list do. -/
theorem SubscriptionPhase.View.congr {after : ℕ → SubscriptionStatus Thread}
    {first second : List ℕ} (hview : phase.View status first second)
    (hsame : ∀ subscriber, (status subscriber).OnList ∨ (after subscriber).OnList →
      after subscriber = status subscriber) : phase.View after first second := by
  cases phase with
  | comparing _ | advancing _ | freeing _ | freeingTopic _ _ =>
    exact ⟨hview.1.congr hsame, hview.2⟩
  | freeingRecord _ _ =>
    obtain ⟨rest, hsecond, hnext, hlisted⟩ := hview
    exact ⟨rest, hsecond, hnext, hlisted.congr hsame⟩
  | _ => exact Listed.congr hview hsame

/-- Outside the loops the linked subscriptions come first. -/
theorem SubscriptionPhase.Quiet.view_iff (hquiet : phase.Quiet) {first second : List ℕ} :
    phase.View status first second ↔ Listed status first second := by
  cases phase with
  | comparing _ | advancing _ | freeing _ | freeingTopic _ _ | freeingRecord _ _ =>
    exact hquiet.elim
  | _ => exact Iff.rfl

end Status

/-! ### The steps -/

omit [DecidableEq Thread] in
/-- A ledger follows a subscription that has changed when it has the lives of its two blocks, and
those of the others. -/
theorem follows_update {status : ℕ → SubscriptionStatus Thread} {subscriber : ℕ}
    {current : SubscriptionStatus Thread} {ledger : ResourceLedger SubscriptionBlock}
    {lifetime : SubscriptionBlock → ResourceLedger.Lifetime} (hfollows : ledger.Follows lifetime)
    (hrecord : lifetime (.record subscriber) = current.recordLife)
    (htopic : lifetime (.topic subscriber) = current.topicLife)
    (hother : ∀ other, other ≠ subscriber →
      lifetime (.record other) = (status other).recordLife ∧
        lifetime (.topic other) = (status other).topicLife) :
    ledger.Follows (blockLifetime (Function.update status subscriber current)) := by
  refine hfollows.congr fun block ↦ ?_
  cases block with
  | record other =>
    by_cases hsame : other = subscriber
    · subst hsame
      rw [hrecord, blockLifetime, Function.update_self]
    · rw [(hother other hsame).1, blockLifetime, Function.update_of_ne hsame]
  | topic other =>
    by_cases hsame : other = subscriber
    · subst hsame
      rw [htopic, blockLifetime, Function.update_self]
    · rw [(hother other hsame).2, blockLifetime, Function.update_of_ne hsame]

namespace SubscriptionInvariant

variable {state successor : SubscriptionState Thread} {thread : Thread} {phase : SubscriptionPhase}
  {first second : List ℕ} {subscriber : ℕ}

omit [DecidableEq Thread] in
/-- The list as the holder of the mutex sees it. -/
theorem view_of_holds (hinvariant : SubscriptionInvariant state)
    (hholds : (state.threads thread).Holds) (hlist : ListView state first second) :
    (state.threads thread).View state.status first second := by
  have hview := hlist.view
  simpa only [SubscriptionState.holderPhase, hinvariant.holder thread hholds] using hview

omit [DecidableEq Thread] in
/-- A subscription that is not absent was made. -/
theorem lt_fresh (hinvariant : SubscriptionInvariant state)
    (hmade : state.status subscriber ≠ .absent) : subscriber < state.fresh := by
  by_contra hlater
  exact hmade (hinvariant.unmade subscriber (not_lt.mp hlater))

omit [DecidableEq Thread] in
/-- A change of a subscription that was made leaves those not made yet absent. -/
theorem unmade_update (hinvariant : SubscriptionInvariant state)
    {current : SubscriptionStatus Thread} (hmade : state.status subscriber ≠ .absent) (other : ℕ)
    (hlater : state.fresh ≤ other) :
    Function.update state.status subscriber current other = .absent := by
  refine (Function.update_of_ne ?_ _ _).trans (hinvariant.unmade other hlater)
  rintro rfl
  exact hmade (hinvariant.unmade other hlater)

omit [DecidableEq Thread] in
/-- The subscriptions on the list stay on it when one of them changes and does. -/
theorem onList_update (current : SubscriptionStatus Thread) (hon : current.OnList) {other : ℕ}
    (hother : (state.status other).OnList) :
    (Function.update state.status subscriber current other).OnList := by
  by_cases hsame : other = subscriber
  · subst hsame
    rwa [Function.update_self]
  · rwa [Function.update_of_ne hsame]

omit [DecidableEq Thread] in
/-- A subscription on the list is alive in the ledger while it is linked. -/
theorem live_of_linked (hinvariant : SubscriptionInvariant state)
    (hlinked : state.status subscriber = .linked) :
    state.ledger.Live (.record subscriber) ∧ state.ledger.Live (.topic subscriber) := by
  rw [hinvariant.follows.live_iff, hinvariant.follows.live_iff, blockLifetime, blockLifetime,
    hlinked]
  exact ⟨rfl, rfl⟩

/-- A thread that moves takes the mutex where it is free, or gives it back. -/
theorem holder_move (hinvariant : SubscriptionInvariant state) {mutex : Option Thread}
    (hmutex : mutex = state.mutex.holder ∨ state.mutex.holder = none ∨
      state.mutex.holder = some thread)
    (hholds : phase.Holds → mutex = some thread) (other : Thread)
    (hother : (Function.update state.threads thread phase other).Holds) : mutex = some other := by
  by_cases hsame : other = thread
  · subst hsame
    rw [Function.update_self] at hother
    exact hholds hother
  · rw [Function.update_of_ne hsame] at hother
    have hholder := hinvariant.holder other hother
    rcases hmutex with hkept | hfree | hown
    · rw [hkept, hholder]
    · rw [hfree] at hholder
      cases hholder
    · rw [hown] at hholder
      exact absurd (Option.some.inj hholder).symm hsame

omit [DecidableEq Thread] in
/-- What the holder of the mutex sees where a thread outside the loops moves to a phase outside
them, and may take the mutex or give it back. -/
theorem view_move [DecidableEq Thread] (successor : SubscriptionState Thread)
    (hbefore : (state.threads thread).Quiet) (hafter : phase.Quiet)
    (hthreads : successor.threads = Function.update state.threads thread phase)
    (hmutex : successor.mutex.holder = state.mutex.holder ∨
      (state.mutex.holder = none ∧ successor.mutex.holder = some thread) ∨
        (state.mutex.holder = some thread ∧ successor.mutex.holder = none))
    {status : ℕ → SubscriptionStatus Thread} (hview : state.holderPhase.View status first second) :
    successor.holderPhase.View status first second := by
  have hself : successor.threads thread = phase := by rw [hthreads, Function.update_self]
  unfold SubscriptionState.holderPhase at hview ⊢
  rcases hmutex with hkept | ⟨hfree, htaken⟩ | ⟨hheld, hgiven⟩
  · rw [hkept]
    cases hholder : state.mutex.holder with
    | none => simpa only [hholder] using hview
    | some holder =>
      simp only [hholder] at hview ⊢
      by_cases hsame : holder = thread
      · subst hsame
        rw [hself, hafter.view_iff]
        exact hbefore.view_iff.mp hview
      · rwa [hthreads, Function.update_of_ne hsame]
  · simp only [hfree] at hview
    simp only [htaken, hself]
    exact hafter.view_iff.mpr hview
  · simp only [hheld] at hview
    simp only [hgiven]
    exact hbefore.view_iff.mp hview

/-- A thread outside the loops that moves to a phase outside them, with the same subscription, and
may take the mutex or give it back. -/
theorem quiet (hinvariant : SubscriptionInvariant state) {mutex : DestroyableMutex Thread}
    (hbefore : (state.threads thread).Quiet) (hafter : phase.Quiet)
    (hown : phase.own thread = (state.threads thread).own thread)
    (hmutex : mutex.holder = state.mutex.holder ∨
      (state.mutex.holder = none ∧ mutex.holder = some thread) ∨
        (state.mutex.holder = some thread ∧ mutex.holder = none))
    (hholds : phase.Holds → mutex.holder = some thread) :
    SubscriptionInvariant { state.goto thread phase with mutex := mutex } := by
  obtain ⟨first, second, hlist⟩ := hinvariant.list
  refine ⟨hinvariant.follows, hinvariant.unmade, hinvariant.owned.move hown,
    hinvariant.holder_move ?_ hholds, first, second, hlist.chain, hlist.nodup, hlist.onList, ?_⟩
  · exact hmutex.imp_right fun hmoved ↦ hmoved.imp And.left And.left
  · exact view_move _ hbefore hafter rfl hmutex hlist.view

/-- A thread outside the mutex that moves and changes a subscription off the list. -/
theorem become (hinvariant : SubscriptionInvariant state) (phase : SubscriptionPhase)
    (subscriber : ℕ) (current : SubscriptionStatus Thread)
    (actions : List (ResourceAction SubscriptionBlock)) {next : ℕ → Option ℕ} {fresh : ℕ}
    (hbefore : (state.threads thread).Quiet) (hafter : phase.Quiet) (houtside : ¬ phase.Holds)
    (hoff : ¬ (state.status subscriber).OnList) (hoff' : ¬ current.OnList)
    (hnext : ∀ other, other ≠ subscriber → next other = state.next other)
    (hfresh : state.fresh ≤ fresh) (hmade : subscriber < fresh)
    (hfollows : (state.ledger.perform actions).Follows
      (blockLifetime (Function.update state.status subscriber current)))
    (howned : Owned (Function.update state.status subscriber current)
      (Function.update state.threads thread phase)) :
    SubscriptionInvariant
      { (state.goto thread phase).become subscriber current actions with
        next := next
        fresh := fresh } := by
  obtain ⟨first, second, hlist⟩ := hinvariant.list
  have hsame (other : ℕ) (hon : (state.status other).OnList ∨
      (Function.update state.status subscriber current other).OnList) :
      Function.update state.status subscriber current other = state.status other := by
    by_cases hother : other = subscriber
    · subst hother
      rw [Function.update_self] at hon
      exact (hon.elim hoff hoff').elim
    · rw [Function.update_of_ne hother]
  refine ⟨hfollows, fun other hlater ↦ ?_, howned,
    hinvariant.holder_move (.inl rfl) fun hholds ↦ absurd hholds houtside, first, second,
    hlist.chain.congr fun other hother ↦ hnext other ?_, hlist.nodup, fun other hother ↦ ?_, ?_⟩
  · have hne : other ≠ subscriber := by
      rintro rfl
      exact absurd hmade (not_lt.mpr hlater)
    exact (Function.update_of_ne hne _ _).trans
      (hinvariant.unmade other (hfresh.trans hlater))
  · rintro rfl
    exact hoff (hlist.onList other hother)
  · have hon := hlist.onList other hother
    show (Function.update state.status subscriber current other).OnList
    rwa [hsame other (.inl hon)]
  · have hview : state.holderPhase.View (Function.update state.status subscriber current) first
        second := hlist.view.congr hsame
    exact view_move
      { (state.goto thread phase).become subscriber current actions with
        next := next
        fresh := fresh }
      hbefore hafter rfl (.inl rfl) hview

/-- The holder of the mutex goes on, and sees the list split elsewhere. -/
theorem walk (hinvariant : SubscriptionInvariant state) (hholds : (state.threads thread).Holds)
    (hown : phase.own thread = (state.threads thread).own thread)
    (hlist : ListView state first second) {before after : List ℕ}
    (hsplit : before ++ after = first ++ second) (hview : phase.View state.status before after) :
    SubscriptionInvariant (state.goto thread phase) := by
  have hmutex := hinvariant.holder thread hholds
  refine ⟨hinvariant.follows, hinvariant.unmade, hinvariant.owned.move hown,
    hinvariant.holder_move (.inl rfl) fun _ ↦ hmutex, before, after, ?_, ?_, ?_, ?_⟩
  · rw [hsplit]
    exact hlist.chain
  · rw [hsplit]
    exact hlist.nodup
  · rw [hsplit]
    exact hlist.onList
  · simp only [SubscriptionState.holderPhase, SubscriptionState.goto, hmutex, Function.update_self]
    exact hview

/-- A subscription that is linked comes first on the list. -/
theorem link (hinvariant : SubscriptionInvariant state)
    (hphase : state.threads thread = .linking subscriber) :
    SubscriptionInvariant
      { (state.goto thread (.unlocking (some 0))).become subscriber .linked
          [.use (.record subscriber)] with
        next := Function.update state.next subscriber state.subscribers
        subscribers := some subscriber } := by
  have hholds : (state.threads thread).Holds := by
    rw [hphase]
    trivial
  have hmutex := hinvariant.holder thread hholds
  have hown : (state.threads thread).own thread = some (subscriber, .copied thread) := by
    rw [hphase]
    rfl
  have hcopied : state.status subscriber = .copied thread :=
    hinvariant.owned.owns thread subscriber _ hown
  obtain ⟨first, second, hlist⟩ := hinvariant.list
  have hview := hinvariant.view_of_holds hholds hlist
  rw [hphase] at hview
  have hnew : subscriber ∉ first ++ second := by
    intro hmem
    have hon := hlist.onList subscriber hmem
    rw [hcopied] at hon
    exact hon
  have hother {other : ℕ} (hmem : other ∈ first ++ second) : other ≠ subscriber := by
    rintro rfl
    exact hnew hmem
  refine ⟨?_, hinvariant.unmade_update (by simp [hcopied]),
    hinvariant.owned.become (.inl ⟨_, hown⟩) (.inr ⟨rfl, rfl⟩),
    hinvariant.holder_move (.inl rfl) fun _ ↦ hmutex, subscriber :: first, second,
    ⟨rfl, ?_⟩, List.nodup_cons.mpr ⟨hnew, hlist.nodup⟩, ?_, ?_⟩
  · have halive : blockLifetime state.status (.record subscriber) = .alive := by
      rw [blockLifetime, hcopied]
      rfl
    refine follows_update (hinvariant.follows.use halive) ?_ ?_ fun _ _ ↦ ⟨rfl, rfl⟩
    · exact halive
    · rw [blockLifetime, hcopied]
      rfl
  · show Chain (Function.update state.next subscriber state.subscribers)
      (Function.update state.next subscriber state.subscribers subscriber) (first ++ second)
    rw [Function.update_self]
    exact hlist.chain.congr fun other hmem ↦ Function.update_of_ne (hother hmem) _ _
  · intro other hmem
    rcases List.mem_cons.mp hmem with rfl | hmem
    · show (Function.update state.status other .linked other).OnList
      rw [Function.update_self]
      trivial
    · exact onList_update .linked trivial (hlist.onList other hmem)
  · have hlisted : Listed state.status first second := hview
    simp only [SubscriptionState.holderPhase, SubscriptionState.become, SubscriptionState.goto,
      hmutex, Function.update_self]
    exact hlisted.link (by simp [hcopied])

/-- A subscription that is stripped of its topic. -/
theorem strip (hinvariant : SubscriptionInvariant state) {next : Option ℕ}
    (hphase : state.threads thread = .freeingTopic subscriber next) :
    SubscriptionInvariant
      ((state.goto thread (.freeingRecord subscriber next)).become subscriber (.stripped thread)
        [.use (.record subscriber), .release (.topic subscriber)]) := by
  have hholds : (state.threads thread).Holds := by
    rw [hphase]
    trivial
  have hmutex := hinvariant.holder thread hholds
  obtain ⟨first, second, hlist⟩ := hinvariant.list
  have hview := hinvariant.view_of_holds hholds hlist
  rw [hphase] at hview
  obtain ⟨hlisted, rest, rfl, hnext⟩ := hview
  have hlinked : state.status subscriber = .linked :=
    (hlisted.linked subscriber).mpr List.mem_cons_self
  have honce : subscriber ∉ rest :=
    (List.nodup_cons.mp (List.nodup_append.mp hlist.nodup).2.1).1
  have hnobody : (state.threads thread).own thread = none ∧
      (state.status subscriber).owner = none := by
    rw [hphase, hlinked]
    exact ⟨rfl, rfl⟩
  refine ⟨?_, hinvariant.unmade_update (by simp [hlinked]),
    hinvariant.owned.become (.inr hnobody) (.inl rfl),
    hinvariant.holder_move (.inl rfl) fun _ ↦ hmutex, first, subscriber :: rest, hlist.chain,
    hlist.nodup,
    fun other hmem ↦ onList_update (.stripped thread) trivial (hlist.onList other hmem), ?_⟩
  · have hrecord : blockLifetime state.status (.record subscriber) = .alive := by
      rw [blockLifetime, hlinked]
      rfl
    have htopic : blockLifetime state.status (.topic subscriber) = .alive := by
      rw [blockLifetime, hlinked]
      rfl
    refine follows_update ((hinvariant.follows.use hrecord).release htopic) ?_ ?_ fun other hother ↦
      ⟨?_, ?_⟩
    · rw [Function.update_of_ne (by simp)]
      exact hrecord
    · exact Function.update_self _ _ _
    · exact Function.update_of_ne (by simp) _ _
    · exact Function.update_of_ne (by simpa using hother) _ _
  · simp only [SubscriptionState.holderPhase, SubscriptionState.become, SubscriptionState.goto,
      hmutex, Function.update_self]
    exact ⟨rest, rfl, hnext, hlisted.strip honce⟩

/-- A subscription that is freed. -/
theorem free (hinvariant : SubscriptionInvariant state) {next : Option ℕ}
    (hphase : state.threads thread = .freeingRecord subscriber next) :
    SubscriptionInvariant
      ((state.goto thread (.freeing next)).become subscriber .freed
        [.release (.record subscriber)]) := by
  have hholds : (state.threads thread).Holds := by
    rw [hphase]
    trivial
  have hmutex := hinvariant.holder thread hholds
  have hown : (state.threads thread).own thread = some (subscriber, .stripped thread) := by
    rw [hphase]
    rfl
  have hstripped : state.status subscriber = .stripped thread :=
    hinvariant.owned.owns thread subscriber _ hown
  obtain ⟨first, second, hlist⟩ := hinvariant.list
  have hview := hinvariant.view_of_holds hholds hlist
  rw [hphase] at hview
  obtain ⟨rest, rfl, hnext, hlisted⟩ := hview
  have hsplit : (first ++ [subscriber]) ++ rest = first ++ subscriber :: rest := by
    rw [List.append_assoc, List.singleton_append]
  refine ⟨?_, hinvariant.unmade_update (by simp [hstripped]),
    hinvariant.owned.become (.inl ⟨_, hown⟩) (.inr ⟨rfl, rfl⟩),
    hinvariant.holder_move (.inl rfl) fun _ ↦ hmutex, first ++ [subscriber], rest, ?_, ?_,
    fun other hmem ↦ ?_, ?_⟩
  · have hrecord : blockLifetime state.status (.record subscriber) = .alive := by
      rw [blockLifetime, hstripped]
      rfl
    refine follows_update (hinvariant.follows.release hrecord) ?_ ?_ fun other hother ↦ ⟨?_, ?_⟩
    · exact Function.update_self _ _ _
    · rw [Function.update_of_ne (by simp), blockLifetime, hstripped]
      rfl
    · exact Function.update_of_ne (by simpa using hother) _ _
    · exact Function.update_of_ne (by simp) _ _
  · rw [hsplit]
    exact hlist.chain
  · rw [hsplit]
    exact hlist.nodup
  · rw [hsplit] at hmem
    exact onList_update .freed trivial (hlist.onList other hmem)
  · simp only [SubscriptionState.holderPhase, SubscriptionState.become, SubscriptionState.goto,
      hmutex, Function.update_self]
    exact ⟨hlisted.free (by simp [hstripped]), hnext⟩

omit [DecidableEq Thread] in
/-- Uses of live blocks change nothing. -/
theorem uses_of_live {blocks : List SubscriptionBlock}
    (hlive : ∀ block ∈ blocks, state.ledger.Live block) : state.uses blocks = state := by
  unfold SubscriptionState.uses
  rw [ResourceLedger.perform_uses blocks hlive]

omit [DecidableEq Thread] in
/-- Where no subscription was freed, all those on the list are linked. -/
theorem eq_nil_of_not_freed (hinvariant : SubscriptionInvariant state)
    (hlisted : Listed state.status first second)
    (hnone : ∀ subscriber < state.fresh, state.status subscriber ≠ .freed) : second = [] := by
  refine List.eq_nil_iff_forall_not_mem.mpr fun subscriber hmem ↦ ?_
  have hfreed := (hlisted.freed subscriber).mpr hmem
  exact hnone subscriber (hinvariant.lt_fresh (by simp [hfreed])) hfreed

omit [DecidableEq Thread] in
/-- The subscription behind one on the list is the next one there. -/
theorem next_of_split (hlist : ListView state first second) {rest : List ℕ}
    (hsecond : second = subscriber :: rest) : state.next subscriber = rest.head? := by
  subst hsecond
  have hchain := hlist.chain
  generalize state.subscribers = head at hchain
  clear hlist
  induction first generalizing head with
  | nil => exact hchain.2.head_eq
  | cons other first ih => exact ih _ hchain.2

/-- The next statement of a thread keeps the invariant, if it reads `ps.subscribers` while nothing
was freed. -/
theorem step (hinvariant : SubscriptionInvariant state)
    (hallowed : LoadsLiveList state (.step thread))
    (hnext : subscriptionStep state thread = some successor) :
    SubscriptionInvariant successor := by
  obtain ⟨first, second, hlist⟩ := hinvariant.list
  have hview (hholds : (state.threads thread).Holds) := hinvariant.view_of_holds hholds hlist
  have hloads : (state.threads thread).Loads → Listed state.status first second → second = [] :=
    fun hloads hlisted ↦ hinvariant.eq_nil_of_not_freed hlisted (hallowed hloads)
  unfold subscriptionStep at hnext
  cases hphase : state.threads thread with
  | outside _ | copying _ =>
    simp only [hphase] at hnext
    cases hnext
  | subscribeLocking _ | publishLocking | destroyLocking =>
    simp only [hphase, SubscriptionState.lock] at hnext
    split_ifs at hnext
    obtain rfl := Option.some.inj hnext
    refine hinvariant.quiet ?_ trivial ?_ (.inl rfl) False.elim
    · rw [hphase]
      trivial
    · rw [hphase]
      rfl
  | subscribeWaiting _ | publishWaiting | destroyWaiting =>
    simp only [hphase] at hnext
    obtain ⟨mutex, hmutex, rfl⟩ := Option.map_eq_some_iff.mp hnext
    obtain ⟨hfree, rfl⟩ := DestroyableMutex.acquire_eq_some_iff.mp hmutex
    refine hinvariant.quiet ?_ trivial ?_ (.inr (.inl ⟨hfree, rfl⟩)) fun _ ↦ rfl
    · rw [hphase]
      trivial
    · rw [hphase]
      rfl
  | linking subscriber =>
    simp only [hphase] at hnext
    obtain rfl := Option.some.inj hnext
    exact hinvariant.link hphase
  | publishLoading | destroyLoading =>
    simp only [hphase] at hnext hview hloads
    obtain rfl := Option.some.inj hnext
    have hlisted : Listed state.status first second := hview trivial
    obtain rfl := hloads trivial hlisted
    have hchain := hlist.chain
    rw [List.append_nil] at hchain
    have hsplit : [] ++ first = first ++ [] := (List.append_nil first).symm
    exact hinvariant.walk (by rw [hphase]; trivial) (by rw [hphase]; rfl) hlist hsplit
      ⟨hlisted, hchain.head_eq⟩
  | comparing position =>
    simp only [hphase] at hnext hview
    obtain ⟨hlisted, hposition⟩ := hview trivial
    cases position with
    | none =>
      obtain rfl := Option.some.inj hnext
      exact hinvariant.walk (by rw [hphase]; trivial) (by rw [hphase]; rfl) hlist
        (List.append_nil _) hlisted
    | some subscriber =>
      obtain rfl := Option.some.inj hnext
      obtain ⟨rest, rfl⟩ := List.head?_eq_some_iff.mp hposition.symm
      have hlinked : state.status subscriber = .linked :=
        (hlisted.linked subscriber).mpr (List.mem_append_right _ List.mem_cons_self)
      rw [uses_of_live (by simpa using hinvariant.live_of_linked hlinked)]
      exact hinvariant.walk (by rw [hphase]; trivial) (by rw [hphase]; rfl) hlist rfl
        ⟨hlisted, rest, rfl⟩
  | advancing subscriber =>
    simp only [hphase] at hnext hview
    obtain ⟨hlisted, rest, rfl⟩ := hview trivial
    obtain rfl := Option.some.inj hnext
    have hlinked : state.status subscriber = .linked :=
      (hlisted.linked subscriber).mpr (List.mem_append_right _ List.mem_cons_self)
    have hsplit : (first ++ [subscriber]) ++ rest = first ++ subscriber :: rest := by
      rw [List.append_assoc, List.singleton_append]
    rw [uses_of_live (by simpa using (hinvariant.live_of_linked hlinked).1)]
    refine hinvariant.walk (by rw [hphase]; trivial) (by rw [hphase]; rfl) hlist hsplit
      ⟨?_, next_of_split hlist rfl⟩
    rwa [hsplit]
  | freeing position =>
    simp only [hphase] at hnext hview
    obtain ⟨hlisted, hposition⟩ := hview trivial
    cases position with
    | none =>
      obtain rfl := Option.some.inj hnext
      obtain rfl := List.head?_eq_none_iff.mp hposition.symm
      have hsplit : [] ++ first = first ++ [] := (List.append_nil first).symm
      exact hinvariant.walk (by rw [hphase]; trivial) (by rw [hphase]; rfl) hlist hsplit hlisted
    | some subscriber =>
      obtain rfl := Option.some.inj hnext
      obtain ⟨rest, rfl⟩ := List.head?_eq_some_iff.mp hposition.symm
      have hlinked : state.status subscriber = .linked :=
        (hlisted.linked subscriber).mpr List.mem_cons_self
      rw [uses_of_live (by simpa using (hinvariant.live_of_linked hlinked).1)]
      exact hinvariant.walk (by rw [hphase]; trivial) (by rw [hphase]; rfl) hlist rfl
        ⟨hlisted, rest, rfl, next_of_split hlist rfl⟩
  | freeingTopic subscriber next =>
    simp only [hphase] at hnext
    obtain rfl := Option.some.inj hnext
    exact hinvariant.strip hphase
  | freeingRecord subscriber next =>
    simp only [hphase] at hnext
    obtain rfl := Option.some.inj hnext
    exact hinvariant.free hphase
  | unlocking ret | destroyUnlocking =>
    simp only [hphase] at hnext
    obtain rfl := Option.some.inj hnext
    have hmutex := hinvariant.holder thread (by rw [hphase]; trivial)
    refine hinvariant.quiet ?_ trivial ?_
      (DestroyableMutex.unlock_holder_cases.imp_right fun hfreed ↦ .inr ⟨hmutex, hfreed⟩) False.elim
    · rw [hphase]
      trivial
    · rw [hphase]
      rfl
  | destroyingMutex =>
    simp only [hphase] at hnext
    obtain rfl := Option.some.inj hnext
    refine hinvariant.quiet ?_ trivial ?_ (.inl DestroyableMutex.destroy_holder) False.elim
    · rw [hphase]
      trivial
    · rw [hphase]
      rfl

/-- A subscription for which there is memory. -/
theorem allocate (hinvariant : SubscriptionInvariant state) {ret : Option ℤ}
    (hphase : state.threads thread = .outside ret) :
    SubscriptionInvariant
      { (state.goto thread (.copying state.fresh)).become state.fresh (.allocated thread)
          [.create (.record state.fresh)] with
        fresh := state.fresh + 1 } := by
  have habsent := hinvariant.unmade state.fresh le_rfl
  have hrecord : blockLifetime state.status (.record state.fresh) = .unborn := by
    rw [blockLifetime, habsent]
    rfl
  have hnobody : (state.threads thread).own thread = none ∧
      (state.status state.fresh).owner = none := by
    rw [hphase, habsent]
    exact ⟨rfl, rfl⟩
  refine hinvariant.become (.copying state.fresh) state.fresh (.allocated thread) _
    (by rw [hphase]; trivial) trivial id ?_ id (fun _ _ ↦ rfl) (Nat.le_succ _) (Nat.lt_succ_self _)
    ?_ (hinvariant.owned.become (.inr hnobody) (.inl rfl))
  · rw [habsent]
    exact id
  · refine follows_update (hinvariant.follows.create hrecord) ?_ ?_ fun other hother ↦ ⟨?_, ?_⟩
    · exact Function.update_self _ _ _
    · rw [Function.update_of_ne (by simp), blockLifetime, habsent]
      rfl
    · exact Function.update_of_ne (by simpa using hother) _ _
    · exact Function.update_of_ne (by simp) _ _

omit [DecidableEq Thread] in
/-- A subscription whose topic is being copied is its thread's, with its record alone. -/
theorem of_copying (hinvariant : SubscriptionInvariant state)
    (hphase : state.threads thread = .copying subscriber) :
    (state.threads thread).own thread = some (subscriber, .allocated thread) ∧
      state.status subscriber = .allocated thread ∧
      blockLifetime state.status (.record subscriber) = .alive ∧
      blockLifetime state.status (.topic subscriber) = .unborn := by
  have hown : (state.threads thread).own thread = some (subscriber, .allocated thread) := by
    rw [hphase]
    rfl
  have hallocated := hinvariant.owned.owns thread subscriber _ hown
  refine ⟨hown, hallocated, ?_, ?_⟩
  · rw [blockLifetime, hallocated]
    rfl
  · rw [blockLifetime, hallocated]
    rfl

/-- A subscription whose topic is copied. -/
theorem copy (hinvariant : SubscriptionInvariant state)
    (hphase : state.threads thread = .copying subscriber) :
    SubscriptionInvariant
      { (state.goto thread (.subscribeLocking subscriber)).become subscriber (.copied thread)
          [.create (.topic subscriber), .use (.record subscriber)] with
        next := Function.update state.next subscriber none } := by
  obtain ⟨hown, hallocated, hrecord, htopic⟩ := hinvariant.of_copying hphase
  refine hinvariant.become (.subscribeLocking subscriber) subscriber (.copied thread) _
    (by rw [hphase]; trivial) trivial id ?_ id
    (fun other hother ↦ Function.update_of_ne hother _ _) le_rfl
    (hinvariant.lt_fresh (by simp [hallocated])) ?_
    (hinvariant.owned.become (.inl ⟨_, hown⟩) (.inl rfl))
  · rw [hallocated]
    exact id
  · have hcreated : Function.update (blockLifetime state.status) (.topic subscriber) .alive
        (.record subscriber) = .alive := by
      rw [Function.update_of_ne (by simp)]
      exact hrecord
    refine follows_update ((hinvariant.follows.create htopic).use hcreated) hcreated ?_
      fun other hother ↦ ⟨?_, ?_⟩
    · exact Function.update_self _ _ _
    · exact Function.update_of_ne (by simp) _ _
    · exact Function.update_of_ne (by simpa using hother) _ _

/-- A subscription that is discarded, since there is no memory for its topic. -/
theorem discard (hinvariant : SubscriptionInvariant state)
    (hphase : state.threads thread = .copying subscriber) :
    SubscriptionInvariant
      ((state.goto thread (.outside (some (-ENOMEM)))).become subscriber .discarded
        [.use (.record subscriber), .release (.record subscriber)]) := by
  obtain ⟨hown, hallocated, hrecord, htopic⟩ := hinvariant.of_copying hphase
  refine hinvariant.become (.outside (some (-ENOMEM))) subscriber .discarded
    [.use (.record subscriber), .release (.record subscriber)] (by rw [hphase]; trivial) trivial id
    ?_ id (fun _ _ ↦ rfl) le_rfl (hinvariant.lt_fresh (by simp [hallocated])) ?_
    (hinvariant.owned.become (.inl ⟨_, hown⟩) (.inr ⟨rfl, rfl⟩))
  · rw [hallocated]
    exact id
  · refine follows_update ((hinvariant.follows.use hrecord).release hrecord) ?_ ?_
      fun other hother ↦ ⟨?_, ?_⟩
    · exact Function.update_self _ _ _
    · rw [Function.update_of_ne (by simp)]
      exact htopic
    · exact Function.update_of_ne (by simpa using hother) _ _
    · exact Function.update_of_ne (by simp) _ _

/-- A subscription that is given up at the lock. -/
theorem abandon (hinvariant : SubscriptionInvariant state)
    (hquiet : (state.threads thread).Quiet)
    (hown : (state.threads thread).own thread = some (subscriber, .copied thread)) :
    SubscriptionInvariant
      ((state.goto thread (.outside (some (-ETIMEDOUT)))).become subscriber .abandoned []) := by
  have hcopied := hinvariant.owned.owns thread subscriber _ hown
  refine hinvariant.become (.outside (some (-ETIMEDOUT))) subscriber .abandoned [] hquiet trivial id
    ?_ id (fun _ _ ↦ rfl) le_rfl (hinvariant.lt_fresh (by simp [hcopied])) ?_
    (hinvariant.owned.become (.inl ⟨_, hown⟩) (.inr ⟨rfl, rfl⟩))
  · rw [hcopied]
    exact id
  · refine follows_update hinvariant.follows ?_ ?_ fun _ _ ↦ ⟨rfl, rfl⟩
    · rw [blockLifetime, hcopied]
      rfl
    · rw [blockLifetime, hcopied]
      rfl

/-- A thread outside a call that begins one which has no subscription of its own yet, or ends it. -/
theorem begin (hinvariant : SubscriptionInvariant state) {ret : Option ℤ}
    (hphase : state.threads thread = .outside ret) (hafter : phase.Quiet)
    (hown : phase.own thread = none) (houtside : ¬ phase.Holds) :
    SubscriptionInvariant (state.goto thread phase) := by
  refine hinvariant.quiet ?_ hafter ?_ (.inl rfl) fun hholds ↦ absurd hholds houtside
  · rw [hphase]
    trivial
  · rw [hphase, hown]
    rfl

/-- A step keeps the invariant, if it reads `ps.subscribers` while nothing was freed. -/
theorem next (hinvariant : SubscriptionInvariant state) {label : SubscriptionLabel Thread}
    (hallowed : LoadsLiveList state label)
    (hnext : subscriptionNext state label = some successor) : SubscriptionInvariant successor := by
  cases label with
  | step thread => exact hinvariant.step hallowed hnext
  | publish thread valid =>
    simp only [subscriptionNext] at hnext
    split at hnext
    · rename_i hphase
      obtain rfl := Option.some.inj hnext
      cases valid <;> exact hinvariant.begin hphase trivial rfl id
    · cases hnext
  | destroy thread =>
    simp only [subscriptionNext] at hnext
    split at hnext
    · rename_i hphase
      obtain rfl := Option.some.inj hnext
      exact hinvariant.begin hphase trivial rfl id
    · cases hnext
  | subscribe thread valid allocated =>
    simp only [subscriptionNext] at hnext
    split at hnext
    · rename_i hphase
      split_ifs at hnext
      · obtain rfl := Option.some.inj hnext
        exact hinvariant.begin hphase trivial rfl id
      · obtain rfl := Option.some.inj hnext
        exact hinvariant.begin hphase trivial rfl id
      · obtain rfl := Option.some.inj hnext
        exact hinvariant.allocate hphase
    · cases hnext
  | copy thread copied =>
    simp only [subscriptionNext] at hnext
    split at hnext
    · rename_i subscriber hphase
      split_ifs at hnext
      · obtain rfl := Option.some.inj hnext
        exact hinvariant.copy hphase
      · obtain rfl := Option.some.inj hnext
        exact hinvariant.discard hphase
    · cases hnext
  | lockFailed thread =>
    simp only [subscriptionNext] at hnext
    cases hphase : state.threads thread with
    | subscribeLocking subscriber | subscribeWaiting subscriber =>
      simp only [hphase] at hnext
      obtain rfl := Option.some.inj hnext
      exact hinvariant.abandon (by rw [hphase]; trivial) (by rw [hphase]; rfl)
    | publishLocking | publishWaiting | destroyLocking | destroyWaiting =>
      simp only [hphase] at hnext
      obtain rfl := Option.some.inj hnext
      exact hinvariant.quiet (by rw [hphase]; trivial) trivial (by rw [hphase]; rfl) (.inl rfl)
        False.elim
    | _ =>
      simp only [hphase] at hnext
      cases hnext

end SubscriptionInvariant

variable {state : SubscriptionState Thread} {thread : Thread}

/-- The invariant holds in every run that reads `ps.subscribers` only while nothing was freed. -/
theorem subscriptionInvariant_of_reachable
    (hreach : (subscriptionSystem Thread).ReachableUnder LoadsLiveList state) :
    SubscriptionInvariant state := by
  refine hreach.invariant (fun start hinitial ↦ ?_) fun _ _ _ hbefore hallowed hnext ↦
    hbefore.next hallowed hnext
  obtain ⟨hsubscribers, hmutex, -, hstatus, hledger, hthreads⟩ := hinitial
  refine ⟨?_, fun subscriber _ ↦ by rw [hstatus], ⟨?_, ?_⟩, ?_, [], [], ?_⟩
  · rw [hledger, hstatus]
    refine .empty fun block ↦ ?_
    cases block with
    | record subscriber | topic subscriber => rfl
  · intro thread subscriber current hown
    rw [hthreads] at hown
    cases hown
  · intro thread subscriber howner
    rw [hstatus] at howner
    cases howner
  · intro thread hholds
    rw [hthreads] at hholds
    exact hholds.elim
  · refine ⟨hsubscribers, List.nodup_nil, fun _ hmem ↦ absurd hmem List.not_mem_nil, ?_⟩
    simp only [SubscriptionState.holderPhase, hmutex]
    refine ⟨fun subscriber ↦ ?_, fun subscriber ↦ ?_⟩
    · rw [hstatus]
      simp
    · rw [hstatus]
      simp

omit [DecidableEq Thread] in
/-- While no thread is inside a call, no subscription belongs to one. -/
theorem SubscriptionInvariant.onlyLinkedRemain (hinvariant : SubscriptionInvariant state) :
    OnlyLinkedRemain state := by
  intro houtside subscriber
  have hnobody : (state.status subscriber).owner = none := by
    refine Option.eq_none_iff_forall_ne_some.mpr fun thread howner ↦ ?_
    obtain ⟨current, hown⟩ := hinvariant.owned.owned thread subscriber howner
    obtain ⟨ret, hret⟩ := houtside thread
    rw [hret] at hown
    cases hown
  rw [hinvariant.follows.live_iff, hinvariant.follows.live_iff, blockLifetime, blockLifetime]
  cases hstatus : state.status subscriber with
  | allocated thread | copied thread | stripped thread =>
    rw [hstatus] at hnobody
    cases hnobody
  | absent | linked | abandoned | discarded | freed =>
    simp [SubscriptionStatus.recordLife, SubscriptionStatus.topicLife]

/-! ### A list with freed subscriptions -/

/-- A publish whose way comes to a freed subscription uses it. -/
theorem publish_strays {live rest : List ℕ} {dead : ℕ} {position : Option ℕ}
    (hphase : state.threads thread = .comparing position)
    (hchain : Chain state.next position (live ++ dead :: rest))
    (hdead : ¬ state.ledger.Live (.record dead)) :
    ∃ final, (subscriptionSystem Thread).Continuation (fun _ _ ↦ True) state final ∧
      ¬ final.ledger.Sound := by
  induction live generalizing state position with
  | nil =>
    obtain ⟨rfl, -⟩ := hchain
    refine ⟨(state.uses [.record dead, .topic dead]).goto thread (.advancing dead),
      .single ⟨.step thread, trivial, ?_⟩,
      ResourceLedger.not_sound_perform_use hdead [.use (.topic dead)]⟩
    simp only [subscriptionSystem, subscriptionNext, subscriptionStep, hphase]
  | cons subscriber live ih =>
    obtain ⟨rfl, hrest⟩ := hchain
    let compared : SubscriptionState Thread :=
      (state.uses [.record subscriber, .topic subscriber]).goto thread (.advancing subscriber)
    let advanced : SubscriptionState Thread :=
      (compared.uses [.record subscriber]).goto thread (.comparing (state.next subscriber))
    have hcompares : subscriptionNext state (.step thread) = some compared := by
      simp only [subscriptionNext, subscriptionStep, hphase]
      rfl
    have hadvances : subscriptionNext compared (.step thread) = some advanced := by
      have hadvancing : compared.threads thread = .advancing subscriber :=
        Function.update_self _ _ _
      simp only [subscriptionNext, subscriptionStep, hadvancing]
      rfl
    obtain ⟨final, hmore, hfinal⟩ := @ih advanced _ (Function.update_self _ _ _) hrest (by
      show ¬ ((state.ledger.perform _).perform _).Live _
      rw [ResourceLedger.live_perform_uses, ResourceLedger.live_perform_uses]
      exact hdead)
    exact ⟨final, .head ⟨.step thread, trivial, hcompares⟩
      (.head ⟨.step thread, trivial, hadvances⟩ hmore), hfinal⟩

/-- A destruction whose way comes to a freed subscription uses it. -/
theorem destroy_strays {live rest : List ℕ} {dead : ℕ} {position : Option ℕ}
    (hphase : state.threads thread = .freeing position)
    (hchain : Chain state.next position (live ++ dead :: rest))
    (hdead : ¬ state.ledger.Live (.record dead)) :
    ∃ final, (subscriptionSystem Thread).Continuation (fun _ _ ↦ True) state final ∧
      ¬ final.ledger.Sound := by
  induction live generalizing state position with
  | nil =>
    obtain ⟨rfl, -⟩ := hchain
    refine ⟨(state.uses [.record dead]).goto thread (.freeingTopic dead (state.next dead)),
      .single ⟨.step thread, trivial, ?_⟩, ResourceLedger.not_sound_perform_use hdead []⟩
    simp only [subscriptionSystem, subscriptionNext, subscriptionStep, hphase]
  | cons subscriber live ih =>
    obtain ⟨rfl, hrest⟩ := hchain
    let read : SubscriptionState Thread :=
      (state.uses [.record subscriber]).goto thread
        (.freeingTopic subscriber (state.next subscriber))
    let stripped : SubscriptionState Thread :=
      (read.goto thread (.freeingRecord subscriber (state.next subscriber))).become subscriber
        (.stripped thread) [.use (.record subscriber), .release (.topic subscriber)]
    let freed : SubscriptionState Thread :=
      (stripped.goto thread (.freeing (state.next subscriber))).become subscriber .freed
        [.release (.record subscriber)]
    have hreads : subscriptionNext state (.step thread) = some read := by
      simp only [subscriptionNext, subscriptionStep, hphase]
      rfl
    have hstrips : subscriptionNext read (.step thread) = some stripped := by
      have hphase' : read.threads thread = .freeingTopic subscriber (state.next subscriber) :=
        Function.update_self _ _ _
      simp only [subscriptionNext, subscriptionStep, hphase']
      rfl
    have hfrees : subscriptionNext stripped (.step thread) = some freed := by
      have hphase' : stripped.threads thread = .freeingRecord subscriber (state.next subscriber) :=
        Function.update_self _ _ _
      simp only [subscriptionNext, subscriptionStep, hphase']
      rfl
    have hstill : ¬ freed.ledger.Live (.record dead) := by
      intro hlive
      have hreleased : (((read.ledger.act (.use (.record subscriber))).act
          (.release (.topic subscriber))).act (.release (.record subscriber))).Live
            (.record dead) := hlive
      have hused := ResourceLedger.live_of_live_release
        (ResourceLedger.live_of_live_release hreleased)
      have hread : read.ledger = state.ledger.perform ([.record subscriber].map .use) := rfl
      rw [ResourceLedger.live_use, hread, ResourceLedger.live_perform_uses] at hused
      exact hdead hused
    have hfreeing : freed.threads thread = .freeing (state.next subscriber) :=
      Function.update_self _ _ _
    have hway : Chain freed.next (state.next subscriber) (live ++ dead :: rest) := by
      simp only [freed, stripped, read, SubscriptionState.become, SubscriptionState.goto,
        SubscriptionState.uses]
      exact hrest
    obtain ⟨final, hmore, hfinal⟩ := ih hfreeing hway hstill
    exact ⟨final, .head ⟨.step thread, trivial, hreads⟩
      (.head ⟨.step thread, trivial, hstrips⟩
        (.head ⟨.step thread, trivial, hfrees⟩ hmore)), hfinal⟩

/-- The memory of the subscriptions is in order exactly while no publish and no destruction reads
`ps.subscribers` after a subscription was freed: no block is used before its allocation or after its
release, or released twice, and while no thread is inside a call the blocks that are allocated are
those of the subscriptions that are linked or were given up at the lock. -/
theorem pubsub_memory_exact (Thread : Type*) [DecidableEq Thread] :
    (subscriptionSystem Thread).ExactFor LoadsLiveList fun state ↦
      state.ledger.Sound ∧ OnlyLinkedRemain state := by
  refine ⟨fun state hreach ↦ ?_, fun state label successor hreach hnot hnext ↦ ?_⟩
  · have hinvariant := subscriptionInvariant_of_reachable hreach
    exact ⟨hinvariant.follows.sound, hinvariant.onlyLinkedRemain⟩
  · have hinvariant := subscriptionInvariant_of_reachable hreach
    cases label with
    | subscribe _ _ _ | publish _ _ | destroy _ | copy _ _ | lockFailed _ =>
      exact absurd trivial hnot
    | step thread =>
      simp only [LoadsLiveList, not_forall, not_not] at hnot
      obtain ⟨hloads, subscriber, -, hfreed⟩ := hnot
      obtain ⟨first, second, hlist⟩ := hinvariant.list
      have hdead : ¬ state.ledger.Live (.record subscriber) := by
        rw [hinvariant.follows.live_iff, blockLifetime, hfreed]
        simp [SubscriptionStatus.recordLife]
      have hchain (hlisted : Listed state.status first second) : ∃ before after,
          Chain state.next state.subscribers (before ++ subscriber :: after) := by
        obtain ⟨before, after, hsplit⟩ :=
          List.append_of_mem ((hlisted.freed subscriber).mp hfreed)
        refine ⟨first ++ before, after, ?_⟩
        rw [List.append_assoc, ← hsplit]
        exact hlist.chain
      cases hphase : state.threads thread with
      | publishLoading =>
        have hview := hinvariant.view_of_holds (by rw [hphase]; trivial) hlist
        rw [hphase] at hview
        obtain ⟨before, after, hway⟩ := hchain hview
        simp only [subscriptionSystem, subscriptionNext, subscriptionStep, hphase] at hnext
        obtain rfl := Option.some.inj hnext
        have hloaded : (state.goto thread (.comparing state.subscribers)).threads thread =
            .comparing state.subscribers := Function.update_self _ _ _
        obtain ⟨final, hmore, hstray⟩ := publish_strays hloaded hway hdead
        exact ⟨final, hmore, fun hkept ↦ hstray hkept.1⟩
      | destroyLoading =>
        have hview := hinvariant.view_of_holds (by rw [hphase]; trivial) hlist
        rw [hphase] at hview
        obtain ⟨before, after, hway⟩ := hchain hview
        simp only [subscriptionSystem, subscriptionNext, subscriptionStep, hphase] at hnext
        obtain rfl := Option.some.inj hnext
        have hloaded : (state.goto thread (.freeing state.subscribers)).threads thread =
            .freeing state.subscribers := Function.update_self _ _ _
        obtain ⟨final, hmore, hstray⟩ := destroy_strays hloaded hway hdead
        exact ⟨final, hmore, fun hkept ↦ hstray hkept.1⟩
      | _ =>
        rw [hphase] at hloads
        exact hloads.elim

/-- A thread waits at the lock of `pubsub_publish` while another one destroys the pubsub, gets the
mutex after it was destroyed, and uses the subscription that was freed. -/
theorem publish_during_destroy_strays :
    ∃ state, (subscriptionSystem Bool).Reachable state ∧ ¬ state.ledger.Sound := by
  obtain ⟨final, hrun, hstray⟩ : ∃ final,
      (subscriptionSystem Bool).run
        { subscribers := none
          next := fun _ ↦ none
          mutex := .intact
          fresh := 0
          status := fun _ ↦ .absent
          ledger := .empty
          threads := fun _ ↦ .outside none }
        [.subscribe true true true, .copy true true, .step true, .step true, .step true, .step true,
          .publish false true, .step false, .destroy true, .step true, .step true, .step true,
          .step true, .step true, .step true, .step true, .step true, .step true, .step false,
          .step false, .step false] =
          some final ∧
        final.ledger.strayUses = 2 := ⟨_, rfl, rfl⟩
  have hreach : (subscriptionSystem Bool).Reachable final :=
    TransitionSystem.reachable_of_run ⟨rfl, rfl, rfl, rfl, rfl, rfl⟩ _ hrun
  refine ⟨final, hreach, fun hsound ↦ ?_⟩
  rw [hsound.2] at hstray
  cases hstray

end Bme680.Messaging
