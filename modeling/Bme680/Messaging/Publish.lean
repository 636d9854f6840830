import Bme680.Events.EventPair

/-!
# Publishing to the subscribers

`pubsub_publish` walks the list of subscriptions with `ps.mutex` held, calls the callback of each
one for its topic, and after each call signals the first event of the pubsub event pair and waits
for the second one. The pair belongs to `pubsub.c` alone, whose functions signal the first event and
wait for the second; none of them signals the second.

What `pubsub_publish` passes to `event_pair_signal1` is `&ps.ep`, the address of the pointer to the
pair, and not the pair. As the code stands the lock call there takes that pointer for the word of a
mutex, which is then not that of a free one, and does not return: the publish stays there with
`ps.mutex`. The system has a parameter for it, so that what a publish would do with the pair passed
can be followed as well.

The system is any threads subscribing and publishing on any topics. `PublishInvariant` is kept by
every step. The walk itself is right: a publish calls the callbacks of the subscriptions for its
topic, the most recent first, each once, and no others. But it does not get beyond the first of
them as the code stands; and with the pair passed the second event is never signalled, so that no
wait for it has returned zero, and none can. So `pubsub_publish_iff` leaves the publishes that call
one callback at most, or with the pair passed none.
-/

set_option autoImplicit false
set_option relaxedAutoImplicit false

namespace Bme680.Messaging

open Concurrency Events

/-! ### The subscriptions and the threads -/

/-- `struct subscriber` without its link. -/
structure Subscriber (Topic Callback : Type*) where
  topic : Topic
  callback : Option Callback
  deriving DecidableEq

/-- `struct pubsub`: the subscriptions, the most recent first, the holder of the mutex, and the
event pair. -/
structure Pubsub (Thread Topic Callback : Type*) where
  subscribers : List (Subscriber Topic Callback)
  mutex : Option Thread
  ep : EventPair

/-- Where a thread is: outside, at the lock of `pubsub_subscribe` with its new subscription, at the
lock of `pubsub_publish`, or in its walk with the subscriptions that remain: about to look at the
next one, about to signal the first event, or in the wait for the second one. -/
inductive PubsubPhase (Topic Callback : Type*)
  | idle
  | subscribing (subscriber : Subscriber Topic Callback)
  | publishing (topic : Topic)
  | walking (topic : Topic) (remaining : List (Subscriber Topic Callback))
  | signalling (topic : Topic) (remaining : List (Subscriber Topic Callback))
  | waiting (topic : Topic) (remaining : List (Subscriber Topic Callback)) (point : WaitPoint)

/-- A thread: where it is, the code its last `pubsub_subscribe` returned, the subscriptions there
were when its last publish took the mutex, those whose callbacks that publish has called, and how
many of its waits for the second event returned zero. -/
structure PubsubThread (Topic Callback : Type*) where
  phase : PubsubPhase Topic Callback
  lastReturn : ℤ
  subscriptions : List (Subscriber Topic Callback)
  invoked : List (Subscriber Topic Callback)
  answered : ℕ

/-- A publish that has returned: its topic, the subscriptions in the order they were made, and those
whose callbacks it called. -/
structure Delivery (Topic Callback : Type*) where
  topic : Topic
  subscriptions : List (Subscriber Topic Callback)
  invoked : List (Subscriber Topic Callback)

/-- The pubsub and its threads, with the subscriptions in the order they were made and the publishes
that have returned. -/
structure PubsubState (Thread Topic Callback : Type*) where
  ps : Pubsub Thread Topic Callback
  threads : Thread → PubsubThread Topic Callback
  subscriptions : List (Subscriber Topic Callback)
  deliveries : List (Delivery Topic Callback)

/-- The steps of a thread: a call with its arguments, null or not, and whether the allocations of a
subscription succeed; its next section; a lock that times out; and the return of
`pthread_cond_timedwait`. -/
inductive PubsubLabel (Thread Topic Callback : Type*)
  | subscribe (thread : Thread) (topic : Option Topic) (callback : Option Callback)
      (allocated copied : Bool)
  | publish (thread : Thread) (topic : Option Topic) (data : Bool)
  | step (thread : Thread)
  | lockTimeout (thread : Thread)
  | wake (thread : Thread) (ret : ℕ)

variable {Thread Topic Callback : Type*} [DecidableEq Thread] [DecidableEq Topic]

/-! ### The functions -/

omit [DecidableEq Topic] in
/-- The state with one thread changed. -/
def PubsubState.set (state : PubsubState Thread Topic Callback) (thread : Thread)
    (current : PubsubThread Topic Callback) : PubsubState Thread Topic Callback :=
  { state with threads := Function.update state.threads thread current }

omit [DecidableEq Topic] in
/-- The state with one thread moved. -/
def PubsubState.goto (state : PubsubState Thread Topic Callback) (thread : Thread)
    (phase : PubsubPhase Topic Callback) : PubsubState Thread Topic Callback :=
  state.set thread { state.threads thread with phase := phase }

omit [DecidableEq Thread] [DecidableEq Topic] in
/-- `pubsub_subscribe` up to its lock: the code it returns, or the subscription it has allocated. -/
def pubsubSubscribe (topic : Option Topic) (callback : Option Callback)
    (allocated copied : Bool) : Except ℤ (Subscriber Topic Callback) :=
  match topic, callback with
  | some topic, some callback =>
    if allocated && copied then .ok { topic := topic, callback := some callback }
    else .error (-ENOMEM)
  | _, _ => .error (-EINVAL)

omit [DecidableEq Topic] in
/-- The state at the end of a section of `event_pair_wait2`. The walk goes on whatever it
returns. -/
def PubsubState.finishWait (state : PubsubState Thread Topic Callback) (thread : Thread)
    (topic : Topic) (remaining : List (Subscriber Topic Callback)) :
    EventPair × SectionEnd → PubsubState Thread Topic Callback
  | (ep, .sleeps) =>
    { state.goto thread (.waiting topic remaining .asleep) with ps := { state.ps with ep := ep } }
  | (ep, .returns ret) =>
    let current := state.threads thread
    { state.set thread
        { current with
          phase := .walking topic remaining
          answered := if ret = 0 then current.answered + 1 else current.answered } with
      ps := { state.ps with ep := ep } }

/-- The next section of a thread, where `event_pair_signal1` and `event_pair_wait2` are passed the
pair, or its address. -/
def pubsubStep (pairPassed : Bool) (state : PubsubState Thread Topic Callback) (thread : Thread) :
    Option (PubsubState Thread Topic Callback) :=
  let current := state.threads thread
  match current.phase with
  | .idle => none
  | .subscribing subscriber =>
    if state.ps.mutex = none then
      some
        { state.set thread { current with phase := .idle, lastReturn := 0 } with
          ps := { state.ps with subscribers := subscriber :: state.ps.subscribers }
          subscriptions := state.subscriptions ++ [subscriber] }
    else none
  | .publishing topic =>
    if state.ps.mutex = none then
      some
        { state.set thread
            { current with
              phase := .walking topic state.ps.subscribers
              subscriptions := state.subscriptions
              invoked := [] } with
          ps := { state.ps with mutex := some thread } }
    else none
  | .walking topic [] =>
    some
      { state.goto thread .idle with
        ps := { state.ps with mutex := none }
        deliveries := state.deliveries ++
          [{ topic := topic, subscriptions := current.subscriptions, invoked := current.invoked }] }
  | .walking topic (subscriber :: remaining) =>
    if subscriber.topic = topic then
      match subscriber.callback with
      | some _ =>
        some (state.set thread
          { current with
            phase := .signalling topic remaining
            invoked := current.invoked ++ [subscriber] })
      | none => some (state.goto thread (.walking topic remaining))
    else some (state.goto thread (.walking topic remaining))
  | .signalling topic remaining =>
    if pairPassed then
      some
        { state.goto thread (.waiting topic remaining .testing) with
          ps := { state.ps with ep := eventPairSignal1 state.ps.ep } }
    else none
  | .waiting topic remaining .testing =>
    some (state.finishWait thread topic remaining (eventPairWait2 state.ps.ep 0))
  | .waiting _ _ .asleep => none

/-- One step of the threads. -/
def pubsubNext (pairPassed : Bool) (state : PubsubState Thread Topic Callback) :
    PubsubLabel Thread Topic Callback → Option (PubsubState Thread Topic Callback)
  | .subscribe thread topic callback allocated copied =>
    match (state.threads thread).phase with
    | .idle =>
      match pubsubSubscribe topic callback allocated copied with
      | .ok subscriber => some (state.goto thread (.subscribing subscriber))
      | .error ret => some (state.set thread { state.threads thread with lastReturn := ret })
    | _ => none
  | .publish thread topic data =>
    match (state.threads thread).phase with
    | .idle =>
      match topic, data with
      | some topic, true => some (state.goto thread (.publishing topic))
      | _, _ => some state
    | _ => none
  | .step thread => pubsubStep pairPassed state thread
  | .lockTimeout thread =>
    match (state.threads thread).phase with
    | .subscribing _ =>
      some (state.set thread
        { state.threads thread with phase := .idle, lastReturn := -ETIMEDOUT })
    | .publishing _ => some (state.goto thread .idle)
    | _ => none
  | .wake thread ret =>
    match (state.threads thread).phase with
    | .waiting topic remaining .asleep =>
      some (state.finishWait thread topic remaining (eventPairWait2 state.ps.ep ret))
    | _ => none

/-- Threads using the pubsub from `pubsub_init` on. -/
def pubsubSystem (Thread Topic Callback : Type*) [DecidableEq Thread] [DecidableEq Topic]
    (pairPassed : Bool) :
    TransitionSystem (PubsubState Thread Topic Callback) (PubsubLabel Thread Topic Callback) where
  initial state :=
    state.ps.subscribers = [] ∧ state.ps.mutex = none ∧ eventPairInit true = .ok state.ps.ep ∧
      state.threads = (fun _ ↦
        { phase := .idle, lastReturn := 0, subscriptions := [], invoked := [], answered := 0 }) ∧
      state.subscriptions = [] ∧ state.deliveries = []
  next := pubsubNext pairPassed

/-! ### What a publish promises -/

omit [DecidableEq Thread] in
/-- The subscriptions whose callbacks a publish on a topic is to call, in order, given all of them
in the order they were made. -/
def recipients (topic : Topic) (subscriptions : List (Subscriber Topic Callback)) :
    List (Subscriber Topic Callback) :=
  subscriptions.reverse.filter fun subscriber ↦ subscriber.topic = topic

omit [DecidableEq Thread] in
/-- Every publish that has returned called the callbacks of the subscriptions for its topic, the
most recent first, each once, and no others. -/
def DeliversOnce (state : PubsubState Thread Topic Callback) : Prop :=
  ∀ delivery ∈ state.deliveries,
    delivery.invoked = recipients delivery.topic delivery.subscriptions

omit [DecidableEq Thread] [DecidableEq Topic] in
/-- The topic of the walk a thread is in. -/
def PubsubPhase.walkTopic : PubsubPhase Topic Callback → Option Topic
  | .walking topic _ | .signalling topic _ | .waiting topic _ _ => some topic
  | .idle | .subscribing _ | .publishing _ => none

omit [DecidableEq Thread] in
/-- Every publish under way has called the callbacks of the first ones of those subscriptions, and
no others. -/
def DeliversInOrder (state : PubsubState Thread Topic Callback) : Prop :=
  ∀ thread topic, (state.threads thread).phase.walkTopic = some topic →
    (state.threads thread).invoked <+: recipients topic (state.threads thread).subscriptions

omit [DecidableEq Thread] [DecidableEq Topic] in
/-- The thread is blocked in `event_pair_wait2`. -/
def Blocked (state : PubsubState Thread Topic Callback) (thread : Thread) : Prop :=
  ∃ topic remaining, (state.threads thread).phase = .waiting topic remaining .asleep

omit [DecidableEq Thread] [DecidableEq Topic] in
/-- No lock and no wait times out. -/
def TimeoutFree (_ : PubsubState Thread Topic Callback) :
    PubsubLabel Thread Topic Callback → Prop
  | .lockTimeout _ => False
  | .wake _ ret => ret ≠ ETIMEDOUT
  | _ => True

/-- From where a thread is blocked, its wait can return zero without a timeout. -/
def WaitsAnswered (pairPassed : Bool) (state : PubsubState Thread Topic Callback) : Prop :=
  ∀ thread, Blocked state thread → ∃ final,
    (pubsubSystem Thread Topic Callback pairPassed).Continuation TimeoutFree state final ∧
      (state.threads thread).answered < (final.threads thread).answered

omit [DecidableEq Thread] in
/-- The thread is in a publish on a topic with these subscriptions, and has called the callbacks of
all of those for the topic. -/
def CalledAll (thread : Thread) (topic : Topic) (subscriptions : List (Subscriber Topic Callback))
    (state : PubsubState Thread Topic Callback) : Prop :=
  (state.threads thread).phase.walkTopic = some topic ∧
    (state.threads thread).subscriptions = subscriptions ∧
    (state.threads thread).invoked = recipients topic subscriptions

/-- Every publish under way can come to call all of those callbacks. -/
def CallsAll (pairPassed : Bool) (state : PubsubState Thread Topic Callback) : Prop :=
  ∀ thread topic, (state.threads thread).phase.walkTopic = some topic → ∃ final,
    (pubsubSystem Thread Topic Callback pairPassed).Continuation (fun _ _ ↦ True) state final ∧
      CalledAll thread topic (state.threads thread).subscriptions final

omit [DecidableEq Thread] [DecidableEq Topic] in
/-- How many callbacks a publish may have to call. -/
def callLimit (pairPassed : Bool) : ℕ :=
  if pairPassed then 0 else 1

omit [DecidableEq Thread] in
/-- No publish takes the mutex while there are two subscriptions for its topic, or with the pair
passed one. -/
def PublishesToFew (pairPassed : Bool) (state : PubsubState Thread Topic Callback) :
    PubsubLabel Thread Topic Callback → Prop
  | .step thread => ∀ topic, (state.threads thread).phase = .publishing topic →
      (state.ps.subscribers.filter fun subscriber ↦ subscriber.topic = topic).length ≤
        callLimit pairPassed
  | _ => True

/-! ### The steps -/

/-- What a step can do: nothing; the beginning of a call, refused, with a subscription to link, or
with a topic to publish on; what the threads do with the mutex; the walk; and the handshake. -/
inductive PubsubStep (pairPassed : Bool) (state : PubsubState Thread Topic Callback) :
    PubsubLabel Thread Topic Callback → PubsubState Thread Topic Callback → Prop
  | nothing {label : PubsubLabel Thread Topic Callback} : PubsubStep pairPassed state label state
  | refused {label : PubsubLabel Thread Topic Callback} {thread : Thread} (ret : ℤ)
      (hphase : (state.threads thread).phase = .idle) :
      PubsubStep pairPassed state label
        (state.set thread { state.threads thread with lastReturn := ret })
  | allocates {label : PubsubLabel Thread Topic Callback} {thread : Thread}
      {subscriber : Subscriber Topic Callback} (hphase : (state.threads thread).phase = .idle)
      (hcallable : subscriber.callback ≠ none) :
      PubsubStep pairPassed state label (state.goto thread (.subscribing subscriber))
  | begins {label : PubsubLabel Thread Topic Callback} {thread : Thread} {topic : Topic}
      (hphase : (state.threads thread).phase = .idle) :
      PubsubStep pairPassed state label (state.goto thread (.publishing topic))
  | timesOut {label : PubsubLabel Thread Topic Callback} {thread : Thread} (ret : ℤ)
      (hphase : (∃ subscriber, (state.threads thread).phase = .subscribing subscriber) ∨
        ∃ topic, (state.threads thread).phase = .publishing topic) :
      PubsubStep pairPassed state label
        (state.set thread { state.threads thread with phase := .idle, lastReturn := ret })
  | subscribes {label : PubsubLabel Thread Topic Callback} {thread : Thread}
      {subscriber : Subscriber Topic Callback}
      (hphase : (state.threads thread).phase = .subscribing subscriber) :
      PubsubStep pairPassed state label
        { state.set thread { state.threads thread with phase := .idle, lastReturn := 0 } with
          ps := { state.ps with subscribers := subscriber :: state.ps.subscribers }
          subscriptions := state.subscriptions ++ [subscriber] }
  | takes {thread : Thread} {topic : Topic}
      (hphase : (state.threads thread).phase = .publishing topic) :
      PubsubStep pairPassed state (.step thread)
        { state.set thread
            { state.threads thread with
              phase := .walking topic state.ps.subscribers
              subscriptions := state.subscriptions
              invoked := [] } with
          ps := { state.ps with mutex := some thread } }
  | returns {label : PubsubLabel Thread Topic Callback} {thread : Thread} {topic : Topic}
      (hphase : (state.threads thread).phase = .walking topic []) :
      PubsubStep pairPassed state label
        { state.goto thread .idle with
          ps := { state.ps with mutex := none }
          deliveries := state.deliveries ++
            [{ topic := topic
               subscriptions := (state.threads thread).subscriptions
               invoked := (state.threads thread).invoked }] }
  | skips {label : PubsubLabel Thread Topic Callback} {thread : Thread} {topic : Topic}
      {subscriber : Subscriber Topic Callback} {remaining : List (Subscriber Topic Callback)}
      (hphase : (state.threads thread).phase = .walking topic (subscriber :: remaining))
      (hskips : subscriber.topic = topic → subscriber.callback = none) :
      PubsubStep pairPassed state label (state.goto thread (.walking topic remaining))
  | calls {label : PubsubLabel Thread Topic Callback} {thread : Thread} {topic : Topic}
      {subscriber : Subscriber Topic Callback} {remaining : List (Subscriber Topic Callback)}
      (hphase : (state.threads thread).phase = .walking topic (subscriber :: remaining))
      (htopic : subscriber.topic = topic) :
      PubsubStep pairPassed state label
        (state.set thread
          { state.threads thread with
            phase := .signalling topic remaining
            invoked := (state.threads thread).invoked ++ [subscriber] })
  | signals {label : PubsubLabel Thread Topic Callback} {thread : Thread} {topic : Topic}
      {remaining : List (Subscriber Topic Callback)}
      (hphase : (state.threads thread).phase = .signalling topic remaining)
      (hpassed : pairPassed = true) :
      PubsubStep pairPassed state label
        { state.goto thread (.waiting topic remaining .testing) with
          ps := { state.ps with ep := eventPairSignal1 state.ps.ep } }
  | waits {label : PubsubLabel Thread Topic Callback} {thread : Thread} {topic : Topic}
      {remaining : List (Subscriber Topic Callback)} {point : WaitPoint} (ret : ℕ)
      (hphase : (state.threads thread).phase = .waiting topic remaining point) :
      PubsubStep pairPassed state label
        (state.finishWait thread topic remaining (eventPairWait2 state.ps.ep ret))

omit [DecidableEq Thread] [DecidableEq Topic] in
/-- A subscription that is allocated can be called. -/
theorem callable_of_pubsubSubscribe {topic : Option Topic} {callback : Option Callback}
    {allocated copied : Bool} {subscriber : Subscriber Topic Callback}
    (hok : pubsubSubscribe topic callback allocated copied = .ok subscriber) :
    subscriber.callback ≠ none := by
  unfold pubsubSubscribe at hok
  split at hok
  · split_ifs at hok
    obtain rfl := Except.ok.inj hok
    exact Option.some_ne_none _
  · cases hok

/-- The sections of a thread are among these. -/
theorem pubsubStep_cases {pairPassed : Bool} {state successor : PubsubState Thread Topic Callback}
    {thread : Thread} (hnext : pubsubStep pairPassed state thread = some successor) :
    PubsubStep pairPassed state (.step thread) successor := by
  unfold pubsubStep at hnext
  cases hphase : (state.threads thread).phase with
  | idle => simp [hphase] at hnext
  | subscribing subscriber =>
    simp only [hphase] at hnext
    split_ifs at hnext
    obtain rfl := Option.some.inj hnext
    exact .subscribes hphase
  | publishing topic =>
    simp only [hphase] at hnext
    split_ifs at hnext
    obtain rfl := Option.some.inj hnext
    exact .takes hphase
  | walking topic remaining =>
    cases remaining with
    | nil =>
      simp only [hphase] at hnext
      obtain rfl := Option.some.inj hnext
      exact .returns hphase
    | cons subscriber remaining =>
      simp only [hphase] at hnext
      split_ifs at hnext with htopic
      · cases hcallback : subscriber.callback with
        | none =>
          simp only [hcallback] at hnext
          obtain rfl := Option.some.inj hnext
          exact .skips hphase fun _ ↦ hcallback
        | some callback =>
          simp only [hcallback] at hnext
          obtain rfl := Option.some.inj hnext
          exact .calls hphase htopic
      · obtain rfl := Option.some.inj hnext
        exact .skips hphase fun hsame ↦ absurd hsame htopic
  | signalling topic remaining =>
    simp only [hphase] at hnext
    split_ifs at hnext with hpassed
    obtain rfl := Option.some.inj hnext
    exact .signals hphase hpassed
  | waiting topic remaining point =>
    cases point with
    | testing =>
      simp only [hphase] at hnext
      obtain rfl := Option.some.inj hnext
      exact .waits 0 hphase
    | asleep => simp [hphase] at hnext

/-- Every step is one of these. -/
theorem pubsubNext_cases {pairPassed : Bool} {state successor : PubsubState Thread Topic Callback}
    {label : PubsubLabel Thread Topic Callback}
    (hnext : pubsubNext pairPassed state label = some successor) :
    PubsubStep pairPassed state label successor := by
  cases label with
  | subscribe thread topic callback allocated copied =>
    simp only [pubsubNext] at hnext
    split at hnext
    case h_1 hphase =>
      split at hnext
      case h_1 subscriber hok =>
        obtain rfl := Option.some.inj hnext
        exact .allocates hphase (callable_of_pubsubSubscribe hok)
      case h_2 ret _ =>
        obtain rfl := Option.some.inj hnext
        exact .refused ret hphase
    case h_2 => cases hnext
  | publish thread topic data =>
    simp only [pubsubNext] at hnext
    split at hnext
    case h_1 hphase =>
      split at hnext
      · obtain rfl := Option.some.inj hnext
        exact .begins hphase
      · obtain rfl := Option.some.inj hnext
        exact .nothing
    case h_2 => cases hnext
  | step thread => exact pubsubStep_cases hnext
  | lockTimeout thread =>
    simp only [pubsubNext] at hnext
    split at hnext
    case h_1 subscriber hphase =>
      obtain rfl := Option.some.inj hnext
      exact .timesOut _ (.inl ⟨subscriber, hphase⟩)
    case h_2 topic hphase =>
      obtain rfl := Option.some.inj hnext
      exact .timesOut _ (.inr ⟨topic, hphase⟩)
    case h_3 => cases hnext
  | wake thread ret =>
    simp only [pubsubNext] at hnext
    split at hnext
    case h_1 topic remaining hphase =>
      obtain rfl := Option.some.inj hnext
      exact .waits ret hphase
    case h_2 => cases hnext

/-! ### The walk -/

/-- The callbacks a thread has called in its walk are followed by those it is still to call, and the
subscriptions that remain can be called. -/
def Walks (current : PubsubThread Topic Callback) (topic : Topic)
    (remaining : List (Subscriber Topic Callback)) : Prop :=
  current.invoked ++ remaining.filter (fun subscriber ↦ subscriber.topic = topic) =
      recipients topic current.subscriptions ∧
    ∀ subscriber ∈ remaining, subscriber.callback ≠ none

/-- What is known of a thread: its new subscription can be called; its walk is right, and it signals
and waits after a call, and waits where the pair is passed; and none of its waits has returned
zero. -/
def ThreadFits (pairPassed : Bool) (current : PubsubThread Topic Callback) : Prop :=
  current.answered = 0 ∧
    match current.phase with
    | .idle | .publishing _ => True
    | .subscribing subscriber => subscriber.callback ≠ none
    | .walking topic remaining => Walks current topic remaining
    | .signalling topic remaining => Walks current topic remaining ∧ current.invoked ≠ []
    | .waiting topic remaining _ =>
      Walks current topic remaining ∧ current.invoked ≠ [] ∧ pairPassed = true

/-- The list holds the subscriptions, all of which can be called; every thread fits; the publishes
that have returned were right; and the second event is not signalled. -/
structure PublishInvariant (pairPassed : Bool) (state : PubsubState Thread Topic Callback) :
    Prop where
  subscribers : state.ps.subscribers = state.subscriptions.reverse
  callable : ∀ subscriber ∈ state.ps.subscribers, subscriber.callback ≠ none
  threads : ∀ thread, ThreadFits pairPassed (state.threads thread)
  delivered : DeliversOnce state
  unanswered : state.ps.ep.state ≠ 2

namespace PublishInvariant

variable {pairPassed : Bool} {state successor : PubsubState Thread Topic Callback}
  {thread : Thread} {topic : Topic} {remaining : List (Subscriber Topic Callback)}

omit [DecidableEq Thread] in
/-- Where a thread is in its walk, the walk is right. -/
theorem walks (hinv : PublishInvariant pairPassed state)
    (hphase : (state.threads thread).phase = .walking topic remaining ∨
      (state.threads thread).phase = .signalling topic remaining ∨
        ∃ point, (state.threads thread).phase = .waiting topic remaining point) :
    Walks (state.threads thread) topic remaining := by
  have hfits := hinv.threads thread
  rcases hphase with hphase | hphase | ⟨point, hphase⟩
  · simp only [ThreadFits, hphase] at hfits
    exact hfits.2
  · simp only [ThreadFits, hphase] at hfits
    exact hfits.2.1
  · simp only [ThreadFits, hphase] at hfits
    exact hfits.2.1

/-- The threads fit when one of them is changed to another that fits. -/
theorem threads_set (hinv : PublishInvariant pairPassed state)
    {current : PubsubThread Topic Callback} (hfits : ThreadFits pairPassed current)
    (other : Thread) : ThreadFits pairPassed ((state.set thread current).threads other) := by
  by_cases hother : other = thread
  · subst hother
    simpa [PubsubState.set] using hfits
  · simpa [PubsubState.set, hother] using hinv.threads other

/-- A step that changes one thread, and leaves it fitting, keeps the invariant. -/
theorem set (hinv : PublishInvariant pairPassed state) {current : PubsubThread Topic Callback}
    (hfits : ThreadFits pairPassed current) :
    PublishInvariant pairPassed (state.set thread current) :=
  ⟨hinv.subscribers, hinv.callable, hinv.threads_set hfits, hinv.delivered, hinv.unanswered⟩

/-- A section of the wait sleeps or times out, since the second event is not signalled. -/
theorem finishWait (hinv : PublishInvariant pairPassed state) {point : WaitPoint} {ret : ℕ}
    (hphase : (state.threads thread).phase = .waiting topic remaining point) :
    PublishInvariant pairPassed
      (state.finishWait thread topic remaining (eventPairWait2 state.ps.ep ret)) := by
  have hfits := hinv.threads thread
  simp only [ThreadFits, hphase] at hfits
  obtain ⟨hanswered, hwalks, hcalled⟩ := hfits
  rcases eventPairWaitWoken_cases 2 state.ps.ep ret with hsleeps | htimeout | ⟨hstate, -⟩
  · rw [show eventPairWait2 state.ps.ep ret = _ from hsleeps]
    exact hinv.set ⟨hanswered, hwalks, hcalled⟩
  · rw [show eventPairWait2 state.ps.ep ret = _ from htimeout]
    refine hinv.set ⟨?_, hwalks⟩
    simpa [ETIMEDOUT] using hanswered
  · exact absurd hstate hinv.unanswered

/-- Every step keeps the invariant. -/
theorem next (hinv : PublishInvariant pairPassed state)
    {label : PubsubLabel Thread Topic Callback}
    (hnext : pubsubNext pairPassed state label = some successor) :
    PublishInvariant pairPassed successor := by
  cases pubsubNext_cases hnext with
  | nothing => exact hinv
  | @refused _ thread ret hphase =>
    refine hinv.set ⟨(hinv.threads thread).1, ?_⟩
    simp only [hphase]
  | @allocates _ thread subscriber hphase hcallable =>
    exact hinv.set ⟨(hinv.threads thread).1, hcallable⟩
  | @begins _ thread topic hphase => exact hinv.set ⟨(hinv.threads thread).1, trivial⟩
  | @timesOut _ thread ret hphase => exact hinv.set ⟨(hinv.threads thread).1, trivial⟩
  | @subscribes _ thread subscriber hphase =>
    have hfits := hinv.threads thread
    simp only [ThreadFits, hphase] at hfits
    refine ⟨?_, ?_, hinv.threads_set ⟨hfits.1, trivial⟩, hinv.delivered, hinv.unanswered⟩
    · simp [hinv.subscribers]
    · intro other hother
      rcases List.mem_cons.mp hother with rfl | hbefore
      · exact hfits.2
      · exact hinv.callable other hbefore
  | @takes thread topic hphase =>
    refine ⟨hinv.subscribers, hinv.callable,
      hinv.threads_set ⟨(hinv.threads thread).1, ?_, hinv.callable⟩, hinv.delivered,
      hinv.unanswered⟩
    rw [List.nil_append, hinv.subscribers]
    rfl
  | @returns _ thread topic hphase =>
    obtain ⟨hinvoked, -⟩ := hinv.walks (.inl hphase)
    refine ⟨hinv.subscribers, hinv.callable,
      hinv.threads_set ⟨(hinv.threads thread).1, trivial⟩, ?_, hinv.unanswered⟩
    intro delivery hdelivery
    rcases List.mem_append.mp hdelivery with hbefore | hlast
    · exact hinv.delivered delivery hbefore
    · obtain rfl := List.mem_singleton.mp hlast
      simpa using hinvoked
  | @skips _ thread topic subscriber remaining hphase hskips =>
    obtain ⟨hinvoked, hcallable⟩ := hinv.walks (.inl hphase)
    have hother : subscriber.topic ≠ topic :=
      fun hsame ↦ hcallable subscriber List.mem_cons_self (hskips hsame)
    refine hinv.set ⟨(hinv.threads thread).1, ?_,
      fun other hmem ↦ hcallable other (List.mem_cons_of_mem _ hmem)⟩
    simpa [hother] using hinvoked
  | @calls _ thread topic subscriber remaining hphase htopic =>
    obtain ⟨hinvoked, hcallable⟩ := hinv.walks (.inl hphase)
    refine hinv.set ⟨(hinv.threads thread).1,
      ⟨?_, fun other hmem ↦ hcallable other (List.mem_cons_of_mem _ hmem)⟩, by simp⟩
    simpa [htopic] using hinvoked
  | @signals _ thread topic remaining hphase hpassed =>
    have hfits := hinv.threads thread
    simp only [ThreadFits, hphase] at hfits
    obtain ⟨hanswered, hwalks, hcalled⟩ := hfits
    refine ⟨hinv.subscribers, hinv.callable,
      hinv.threads_set ⟨hanswered, hwalks, hcalled, hpassed⟩, hinv.delivered, ?_⟩
    simp [eventPairSignal1, eventPairSignal]
  | waits ret hphase => exact hinv.finishWait hphase

end PublishInvariant

/-- The invariant holds in every run. -/
theorem publishInvariant_reachable {pairPassed : Bool}
    {allowed : PubsubState Thread Topic Callback → PubsubLabel Thread Topic Callback → Prop}
    {state : PubsubState Thread Topic Callback}
    (hreach : (pubsubSystem Thread Topic Callback pairPassed).ReachableUnder allowed state) :
    PublishInvariant pairPassed state := by
  refine hreach.invariant ?_ fun _ _ _ hinv _ hnext ↦ hinv.next hnext
  rintro start ⟨hsubscribers, -, hpair, hthreads, hsubscriptions, hdeliveries⟩
  have hep : start.ps.ep = { state := 0 } := (Except.ok.inj hpair).symm
  refine ⟨?_, ?_, ?_, ?_, ?_⟩
  · rw [hsubscribers, hsubscriptions]
    rfl
  · simp [hsubscribers]
  · intro thread
    rw [hthreads]
    exact ⟨rfl, trivial⟩
  · simp [DeliversOnce, hdeliveries]
  · simp [hep]

section Walk

variable {pairPassed : Bool} {state : PubsubState Thread Topic Callback} {thread : Thread}
  {topic : Topic} {remaining : List (Subscriber Topic Callback)}

omit [DecidableEq Thread] [DecidableEq Topic] in
/-- The topic of a walk is that of one of its three phases. -/
theorem walkTopic_cases
    (hwalk : (state.threads thread).phase.walkTopic = some topic) :
    ∃ remaining, (state.threads thread).phase = .walking topic remaining ∨
      (state.threads thread).phase = .signalling topic remaining ∨
        ∃ point, (state.threads thread).phase = .waiting topic remaining point := by
  cases hphase : (state.threads thread).phase with
  | walking walked remaining =>
    obtain rfl : walked = topic := by simpa [hphase, PubsubPhase.walkTopic] using hwalk
    exact ⟨remaining, .inl rfl⟩
  | signalling walked remaining =>
    obtain rfl : walked = topic := by simpa [hphase, PubsubPhase.walkTopic] using hwalk
    exact ⟨remaining, .inr (.inl rfl)⟩
  | waiting walked remaining point =>
    obtain rfl : walked = topic := by simpa [hphase, PubsubPhase.walkTopic] using hwalk
    exact ⟨remaining, .inr (.inr ⟨point, rfl⟩)⟩
  | idle | subscribing subscriber | publishing published =>
    simp [hphase, PubsubPhase.walkTopic] at hwalk

omit [DecidableEq Thread] in
/-- A publish under way has called the first ones. -/
theorem PublishInvariant.inOrder (hinv : PublishInvariant pairPassed state) :
    DeliversInOrder state := by
  intro thread topic hwalk
  obtain ⟨remaining, hphase⟩ := walkTopic_cases hwalk
  rw [← (hinv.walks hphase).1]
  exact List.prefix_append _ _

omit [DecidableEq Thread] in
/-- A publish under way with nobody left to call has called them all. -/
theorem PublishInvariant.calledAll (hinv : PublishInvariant pairPassed state)
    (hphase : (state.threads thread).phase = .walking topic remaining ∨
      (state.threads thread).phase = .signalling topic remaining ∨
        ∃ point, (state.threads thread).phase = .waiting topic remaining point)
    (hnone : remaining.filter (fun subscriber ↦ subscriber.topic = topic) = []) :
    CalledAll thread topic (state.threads thread).subscriptions state := by
  refine ⟨?_, rfl, ?_⟩
  · rcases hphase with hphase | hphase | ⟨point, hphase⟩ <;>
      · rw [hphase]
        rfl
  · rw [← (hinv.walks hphase).1, hnone, List.append_nil]

end Walk

/-! ### Calling all of them -/

section Calls

variable {pairPassed : Bool} {state : PubsubState Thread Topic Callback} {thread : Thread}
  {topic : Topic} {remaining : List (Subscriber Topic Callback)}

/-- A thread that has signalled the first event comes to sleep in its wait. -/
theorem PublishInvariant.exists_asleep (hinv : PublishInvariant true state)
    (hphase : (state.threads thread).phase = .signalling topic remaining ∨
      (state.threads thread).phase = .waiting topic remaining .testing) :
    ∃ after, (pubsubSystem Thread Topic Callback true).Continuation (fun _ _ ↦ True) state after ∧
      PublishInvariant true after ∧
      (after.threads thread).phase = .waiting topic remaining .asleep ∧
      (after.threads thread).subscriptions = (state.threads thread).subscriptions := by
  have hof_testing {testing : PubsubState Thread Topic Callback}
      (htested : PublishInvariant true testing)
      (htesting : (testing.threads thread).phase = .waiting topic remaining .testing) :
      ∃ asleep, pubsubNext true testing (.step thread) = some asleep ∧
        (asleep.threads thread).phase = .waiting topic remaining .asleep ∧
        (asleep.threads thread).subscriptions = (testing.threads thread).subscriptions := by
    have hsleeps : eventPairWait2 testing.ps.ep 0 = (testing.ps.ep, .sleeps) := by
      simp [eventPairWait2, eventPairWaitWoken, eventPairWaitLoop, htested.unanswered, ETIMEDOUT]
    simp [pubsubNext, pubsubStep, htesting, hsleeps, PubsubState.finishWait, PubsubState.set,
      PubsubState.goto]
  rcases hphase with hsignalling | htesting
  · obtain ⟨testing, hsignals, htesting, hsame⟩ : ∃ testing,
        pubsubNext true state (.step thread) = some testing ∧
          (testing.threads thread).phase = .waiting topic remaining .testing ∧
          (testing.threads thread).subscriptions = (state.threads thread).subscriptions := by
      simp [pubsubNext, pubsubStep, hsignalling, PubsubState.set, PubsubState.goto]
    have htested := hinv.next hsignals
    obtain ⟨asleep, htests, hasleep, hkept⟩ := hof_testing htested htesting
    exact ⟨asleep, .tail (.single ⟨.step thread, trivial, hsignals⟩)
      ⟨.step thread, trivial, htests⟩, htested.next htests, hasleep, hkept.trans hsame⟩
  · obtain ⟨asleep, htests, hasleep, hkept⟩ := hof_testing hinv htesting
    exact ⟨asleep, .single ⟨.step thread, trivial, htests⟩, hinv.next htests, hasleep, hkept⟩

/-- A wait that is slept through times out, and the walk goes on. -/
theorem PublishInvariant.exists_walking (hinv : PublishInvariant true state)
    (hphase : (state.threads thread).phase = .signalling topic remaining ∨
      ∃ point, (state.threads thread).phase = .waiting topic remaining point) :
    ∃ after, (pubsubSystem Thread Topic Callback true).Continuation (fun _ _ ↦ True) state after ∧
      PublishInvariant true after ∧ (after.threads thread).phase = .walking topic remaining ∧
      (after.threads thread).subscriptions = (state.threads thread).subscriptions := by
  have hof_asleep {asleep : PubsubState Thread Topic Callback}
      (hasleep : (asleep.threads thread).phase = .waiting topic remaining .asleep) :
      ∃ after, pubsubNext true asleep (.wake thread ETIMEDOUT) = some after ∧
        (after.threads thread).phase = .walking topic remaining ∧
        (after.threads thread).subscriptions = (asleep.threads thread).subscriptions := by
    simp [pubsubNext, hasleep, eventPairWait2, eventPairWaitWoken, PubsubState.finishWait,
      PubsubState.set]
  have hof_awake (hawake : (state.threads thread).phase = .signalling topic remaining ∨
        (state.threads thread).phase = .waiting topic remaining .testing) :
      ∃ after, (pubsubSystem Thread Topic Callback true).Continuation (fun _ _ ↦ True) state
          after ∧ PublishInvariant true after ∧
        (after.threads thread).phase = .walking topic remaining ∧
        (after.threads thread).subscriptions = (state.threads thread).subscriptions := by
    obtain ⟨asleep, hmore, hslept, hasleep, hsame⟩ := hinv.exists_asleep hawake
    obtain ⟨after, hwakes, hwalking, hkept⟩ := hof_asleep hasleep
    exact ⟨after, hmore.tail ⟨.wake thread ETIMEDOUT, trivial, hwakes⟩, hslept.next hwakes,
      hwalking, hkept.trans hsame⟩
  rcases hphase with hsignalling | ⟨point, hwaiting⟩
  · exact hof_awake (.inl hsignalling)
  · cases point with
    | testing => exact hof_awake (.inr hwaiting)
    | asleep =>
      obtain ⟨after, hwakes, hwalking, hkept⟩ := hof_asleep hwaiting
      exact ⟨after, .single ⟨.wake thread ETIMEDOUT, trivial, hwakes⟩, hinv.next hwakes, hwalking,
        hkept⟩

/-- A walk goes on past a subscription for another topic. -/
theorem exists_skip (pairPassed : Bool) {subscriber : Subscriber Topic Callback}
    (hphase : (state.threads thread).phase = .walking topic (subscriber :: remaining))
    (htopic : subscriber.topic ≠ topic) :
    ∃ after, pubsubNext pairPassed state (.step thread) = some after ∧
      (after.threads thread).phase = .walking topic remaining ∧
      (after.threads thread).subscriptions = (state.threads thread).subscriptions := by
  simp [pubsubNext, pubsubStep, hphase, htopic, PubsubState.goto, PubsubState.set]

/-- A walk calls the callback of a subscription for its topic. -/
theorem PublishInvariant.exists_call (hinv : PublishInvariant pairPassed state)
    {subscriber : Subscriber Topic Callback}
    (hphase : (state.threads thread).phase = .walking topic (subscriber :: remaining))
    (htopic : subscriber.topic = topic) :
    ∃ after, pubsubNext pairPassed state (.step thread) = some after ∧
      (after.threads thread).phase = .signalling topic remaining ∧
      (after.threads thread).subscriptions = (state.threads thread).subscriptions := by
  obtain ⟨callback, hcallback⟩ := Option.ne_none_iff_exists'.mp
    ((hinv.walks (.inl hphase)).2 subscriber List.mem_cons_self)
  simp [pubsubNext, pubsubStep, hphase, htopic, hcallback, PubsubState.set]

/-- A walk can come to call all the callbacks that remain, where the pair is passed or there is one
of them at most. -/
theorem PublishInvariant.exists_calledAll (hinv : PublishInvariant pairPassed state)
    (hphase : (state.threads thread).phase = .walking topic remaining)
    (hfew : pairPassed = true ∨
      (remaining.filter fun subscriber ↦ subscriber.topic = topic).length ≤ 1) :
    ∃ final,
      (pubsubSystem Thread Topic Callback pairPassed).Continuation (fun _ _ ↦ True) state final ∧
        CalledAll thread topic (state.threads thread).subscriptions final := by
  induction remaining generalizing state with
  | nil => exact ⟨state, .refl, hinv.calledAll (.inl hphase) rfl⟩
  | cons subscriber remaining ih =>
    by_cases htopic : subscriber.topic = topic
    · obtain ⟨called, hcalls, hsignalling, hsame⟩ := hinv.exists_call hphase htopic
      have hcalled := hinv.next hcalls
      rw [List.filter_cons_of_pos (by simpa using htopic), List.length_cons] at hfew
      cases pairPassed with
      | true =>
        obtain ⟨after, hmore, hafter, hwalking, hkept⟩ := hcalled.exists_walking (.inl hsignalling)
        obtain ⟨final, hrest, hfinal⟩ := ih hafter hwalking (.inl rfl)
        rw [hkept, hsame] at hfinal
        exact ⟨final, (hmore.trans hrest).head ⟨.step thread, trivial, hcalls⟩, hfinal⟩
      | false =>
        have hnone := List.eq_nil_of_length_eq_zero
          (Nat.le_zero.mp (Nat.le_of_succ_le_succ (hfew.resolve_left Bool.false_ne_true)))
        refine ⟨called, .single ⟨.step thread, trivial, hcalls⟩, ?_⟩
        rw [← hsame]
        exact hcalled.calledAll (.inr (.inl hsignalling)) hnone
    · obtain ⟨after, hskips, hwalking, hkept⟩ := exists_skip pairPassed hphase htopic
      rw [List.filter_cons_of_neg (by simpa using htopic)] at hfew
      obtain ⟨final, hrest, hfinal⟩ := ih (hinv.next hskips) hwalking hfew
      rw [hkept] at hfinal
      exact ⟨final, .head ⟨.step thread, trivial, hskips⟩ hrest, hfinal⟩

/-- With the pair passed every publish under way can come to call all of its callbacks. -/
theorem PublishInvariant.callsAll (hinv : PublishInvariant true state) : CallsAll true state := by
  intro thread topic hwalk
  obtain ⟨remaining, hphase⟩ := walkTopic_cases hwalk
  rcases hphase with hwalking | hcalled
  · exact hinv.exists_calledAll hwalking (.inl rfl)
  · obtain ⟨after, hmore, hafter, hwalking, hkept⟩ := hinv.exists_walking hcalled
    obtain ⟨final, hrest, hfinal⟩ := hafter.exists_calledAll hwalking (.inl rfl)
    rw [hkept] at hfinal
    exact ⟨final, hmore.trans hrest, hfinal⟩

end Calls

/-! ### Publishes that call few -/

/-- Every publish under way has few callbacks to call. -/
def FewCalled (pairPassed : Bool) (state : PubsubState Thread Topic Callback) : Prop :=
  ∀ thread topic, (state.threads thread).phase.walkTopic = some topic →
    (recipients topic (state.threads thread).subscriptions).length ≤ callLimit pairPassed

namespace FewCalled

variable {pairPassed : Bool} {state successor : PubsubState Thread Topic Callback}
  {thread : Thread}

/-- A step that changes one thread, and leaves it with few, leaves all of them so. -/
theorem of_set (hfew : FewCalled pairPassed state) {current : PubsubThread Topic Callback}
    (hthreads : successor.threads = (state.set thread current).threads)
    (hcurrent : ∀ topic, current.phase.walkTopic = some topic →
      (recipients topic current.subscriptions).length ≤ callLimit pairPassed) :
    FewCalled pairPassed successor := by
  intro other
  rw [hthreads]
  by_cases hother : other = thread
  · subst hother
    simpa only [PubsubState.set, Function.update_self] using hcurrent
  · simpa only [PubsubState.set, Function.update_of_ne hother] using hfew other

/-- A section of the wait leaves the publish as it is. -/
theorem finishWait (hfew : FewCalled pairPassed state) {topic : Topic}
    {remaining : List (Subscriber Topic Callback)} {point : WaitPoint}
    (hphase : (state.threads thread).phase = .waiting topic remaining point)
    (result : EventPair × SectionEnd) :
    FewCalled pairPassed (state.finishWait thread topic remaining result) := by
  have hbefore := hfew thread topic (by rw [hphase]; rfl)
  obtain ⟨ep, ending⟩ := result
  cases ending with
  | sleeps =>
    refine hfew.of_set rfl fun walked hwalked ↦ ?_
    obtain rfl : topic = walked := Option.some.inj hwalked
    exact hbefore
  | returns ret =>
    refine hfew.of_set rfl fun walked hwalked ↦ ?_
    obtain rfl : topic = walked := Option.some.inj hwalked
    exact hbefore

/-- A step of publishes that call few leaves them so. -/
theorem next (hfew : FewCalled pairPassed state) (hinv : PublishInvariant pairPassed state)
    {label : PubsubLabel Thread Topic Callback}
    (hallowed : PublishesToFew pairPassed state label)
    (hnext : pubsubNext pairPassed state label = some successor) :
    FewCalled pairPassed successor := by
  have hsame {thread : Thread} {topic : Topic}
      (hwalk : (state.threads thread).phase.walkTopic = some topic) (walked : Topic)
      (hwalked : some topic = some walked) :
      (recipients walked (state.threads thread).subscriptions).length ≤ callLimit pairPassed := by
    obtain rfl := Option.some.inj hwalked
    exact hfew thread topic hwalk
  cases pubsubNext_cases hnext with
  | nothing => exact hfew
  | @refused _ thread ret hphase =>
    refine hfew.of_set rfl fun topic hwalked ↦ hfew thread topic ?_
    exact hwalked
  | allocates hphase hcallable => exact hfew.of_set rfl fun _ hwalked ↦ by cases hwalked
  | begins hphase => exact hfew.of_set rfl fun _ hwalked ↦ by cases hwalked
  | timesOut ret hphase => exact hfew.of_set rfl fun _ hwalked ↦ by cases hwalked
  | subscribes hphase => exact hfew.of_set rfl fun _ hwalked ↦ by cases hwalked
  | @takes thread topic hphase =>
    refine hfew.of_set rfl fun walked hwalked ↦ ?_
    obtain rfl : topic = walked := Option.some.inj hwalked
    have hcount := hallowed topic hphase
    rwa [hinv.subscribers] at hcount
  | returns hphase => exact hfew.of_set rfl fun _ hwalked ↦ by cases hwalked
  | skips hphase hskips => exact hfew.of_set rfl (hsame (by rw [hphase]; rfl))
  | calls hphase htopic => exact hfew.of_set rfl (hsame (by rw [hphase]; rfl))
  | signals hphase hpassed => exact hfew.of_set rfl (hsame (by rw [hphase]; rfl))
  | waits ret hphase => exact hfew.finishWait hphase _

omit [DecidableEq Thread] in
/-- A publish with nobody to call does not come to signal or wait. -/
theorem not_called (hfew : FewCalled true state) (hinv : PublishInvariant true state)
    {topic : Topic} {remaining : List (Subscriber Topic Callback)} :
    ¬ ((state.threads thread).phase = .signalling topic remaining ∨
      ∃ point, (state.threads thread).phase = .waiting topic remaining point) := by
  intro hphase
  obtain ⟨hwalk, hinvoked⟩ : (state.threads thread).phase.walkTopic = some topic ∧
      (state.threads thread).invoked ≠ [] := by
    have hfits := hinv.threads thread
    rcases hphase with hphase | ⟨point, hphase⟩
    · simp only [ThreadFits, hphase] at hfits
      exact ⟨by rw [hphase]; rfl, hfits.2.2⟩
    · simp only [ThreadFits, hphase] at hfits
      exact ⟨by rw [hphase]; rfl, hfits.2.2.1⟩
  have hnone := List.eq_nil_of_length_eq_zero (Nat.le_zero.mp (hfew thread topic hwalk))
  have hprefix := hinv.inOrder thread topic hwalk
  rw [hnone] at hprefix
  exact hinvoked (List.prefix_nil.mp hprefix)

/-- Publishes that call few can come to call them all. -/
theorem callsAll (hfew : FewCalled pairPassed state) (hinv : PublishInvariant pairPassed state) :
    CallsAll pairPassed state := by
  cases pairPassed with
  | true => exact hinv.callsAll
  | false =>
    intro thread topic hwalk
    have hcount := hfew thread topic hwalk
    obtain ⟨remaining, hphase⟩ := walkTopic_cases hwalk
    have hsplit := congrArg List.length (hinv.walks hphase).1
    rw [List.length_append] at hsplit
    rw [← hsplit] at hcount
    rcases hphase with hwalking | hcalled
    · exact hinv.exists_calledAll hwalking (.inr ((Nat.le_add_left _ _).trans hcount))
    · -- the one callback has been called
      have hinvoked : (state.threads thread).invoked ≠ [] := by
        have hfits := hinv.threads thread
        rcases hcalled with hphase | ⟨point, hphase⟩
        · simp only [ThreadFits, hphase] at hfits
          exact hfits.2.2
        · simp only [ThreadFits, hphase] at hfits
          exact hfits.2.2.1
      have hpositive := List.length_pos_iff.mpr hinvoked
      replace hcount : (state.threads thread).invoked.length +
          (remaining.filter fun subscriber ↦ subscriber.topic = topic).length ≤ 1 := hcount
      exact ⟨state, .refl, hinv.calledAll (.inr hcalled)
        (List.eq_nil_of_length_eq_zero (by omega))⟩

/-- Publishes that call few are not left waiting. -/
theorem waitsAnswered (hfew : FewCalled pairPassed state)
    (hinv : PublishInvariant pairPassed state) : WaitsAnswered pairPassed state := by
  rintro thread ⟨topic, remaining, hphase⟩
  have hfits := hinv.threads thread
  simp only [ThreadFits, hphase] at hfits
  obtain rfl : pairPassed = true := hfits.2.2.2
  exact absurd (.inr ⟨_, hphase⟩) (hfew.not_called hinv)

end FewCalled

/-- Publishes to few call few. -/
theorem fewCalled_reachable {pairPassed : Bool} {state : PubsubState Thread Topic Callback}
    (hreach : (pubsubSystem Thread Topic Callback pairPassed).ReachableUnder
      (PublishesToFew pairPassed) state) :
    FewCalled pairPassed state := by
  induction hreach with
  | @initial start hinitial =>
    obtain ⟨-, -, -, hthreads, -⟩ := hinitial
    intro thread topic hwalk
    rw [hthreads] at hwalk
    cases hwalk
  | step hbefore hallowed hnext ih =>
    exact ih.next (publishInvariant_reachable hbefore) hallowed hnext

/-! ### Publishes that call more -/

section Broken

variable {pairPassed : Bool} {state : PubsubState Thread Topic Callback} {thread : Thread}
  {topic : Topic} {remaining : List (Subscriber Topic Callback)}

/-- The wait of a blocked thread does not return zero. -/
theorem PublishInvariant.not_answered (hinv : PublishInvariant pairPassed state)
    (hblocked : Blocked state thread) : ¬ WaitsAnswered pairPassed state := by
  intro hanswers
  obtain ⟨final, hmore, hanswered⟩ := hanswers thread hblocked
  have hfinal : PublishInvariant pairPassed final :=
    hmore.invariant (fun _ _ _ hbefore _ hnext ↦ hbefore.next hnext) hinv
  rw [(hfinal.threads thread).1] at hanswered
  exact Nat.not_lt_zero _ hanswered

/-- A thread in `event_pair_signal1`, where the pair is not passed, stays there. -/
theorem signalling_kept {successor : PubsubState Thread Topic Callback}
    {label : PubsubLabel Thread Topic Callback}
    (hphase : (state.threads thread).phase = .signalling topic remaining)
    (hnext : pubsubNext false state label = some successor) :
    successor.threads thread = state.threads thread := by
  have hother {other : Thread} {phase : PubsubPhase Topic Callback}
      {current : PubsubThread Topic Callback} (hmoved : (state.threads other).phase = phase)
      (hdiffer : phase ≠ .signalling topic remaining) :
      (state.set other current).threads thread = state.threads thread := by
    refine Function.update_of_ne ?_ _ _
    rintro rfl
    exact hdiffer (hmoved.symm.trans hphase)
  cases pubsubNext_cases hnext with
  | nothing => rfl
  | refused ret hidle => exact hother hidle (by simp)
  | allocates hidle hcallable => exact hother hidle (by simp)
  | begins hidle => exact hother hidle (by simp)
  | timesOut ret hlocks =>
    rcases hlocks with ⟨subscriber, hlocks⟩ | ⟨published, hlocks⟩
    · exact hother hlocks (by simp)
    · exact hother hlocks (by simp)
  | subscribes hlocks => exact hother hlocks (by simp)
  | takes hlocks => exact hother hlocks (by simp)
  | returns hwalks => exact hother hwalks (by simp)
  | skips hwalks hskips => exact hother hwalks (by simp)
  | calls hwalks htopic => exact hother hwalks (by simp)
  | signals hsignals hpassed => cases hpassed
  | waits ret hwaits =>
    rcases hresult : eventPairWait2 state.ps.ep ret with ⟨ep, _ | code⟩
    · exact hother hwaits (by simp)
    · exact hother hwaits (by simp)

/-- It stays there in every run. -/
theorem signalling_kept_run {allowed : PubsubState Thread Topic Callback →
      PubsubLabel Thread Topic Callback → Prop} {final : PubsubState Thread Topic Callback}
    (hphase : (state.threads thread).phase = .signalling topic remaining)
    (hmore : (pubsubSystem Thread Topic Callback false).Continuation allowed state final) :
    final.threads thread = state.threads thread := by
  induction hmore with
  | refl => rfl
  | tail _ hlast ih =>
    obtain ⟨label, -, hnext⟩ := hlast
    exact (signalling_kept (ih.symm ▸ hphase) hnext).trans ih

/-- A publish that hangs in `event_pair_signal1` with callbacks left does not call them all. -/
theorem PublishInvariant.not_callsAll (hinv : PublishInvariant false state)
    (hphase : (state.threads thread).phase = .signalling topic remaining)
    (hleft : remaining.filter (fun subscriber ↦ subscriber.topic = topic) ≠ []) :
    ¬ CallsAll false state := by
  intro hcalls
  obtain ⟨final, hmore, -, -, hinvoked⟩ := hcalls thread topic (by rw [hphase]; rfl)
  have hsame := signalling_kept_run hphase hmore
  have hsplit := (hinv.walks (.inr (.inl hphase))).1
  rw [hsame] at hinvoked
  rw [← hinvoked] at hsplit
  exact hleft (List.append_right_eq_self.mp hsplit)

/-- A walk with more callbacks to call than it may comes to one where it goes no further as it
should. -/
theorem PublishInvariant.exists_broken (hinv : PublishInvariant pairPassed state)
    (hphase : (state.threads thread).phase = .walking topic remaining)
    (hmany : callLimit pairPassed <
      (remaining.filter fun subscriber ↦ subscriber.topic = topic).length) :
    ∃ final,
      (pubsubSystem Thread Topic Callback pairPassed).Continuation (fun _ _ ↦ True) state final ∧
        ¬ (CallsAll pairPassed final ∧ WaitsAnswered pairPassed final) := by
  induction remaining generalizing state with
  | nil => exact absurd hmany (Nat.not_lt_zero _)
  | cons subscriber remaining ih =>
    by_cases htopic : subscriber.topic = topic
    · obtain ⟨called, hcalls, hsignalling, -⟩ := hinv.exists_call hphase htopic
      have hcalled := hinv.next hcalls
      cases pairPassed with
      | true =>
        obtain ⟨asleep, hmore, hslept, hasleep, -⟩ := hcalled.exists_asleep (.inl hsignalling)
        exact ⟨asleep, hmore.head ⟨.step thread, trivial, hcalls⟩, fun hkept ↦
          hslept.not_answered ⟨topic, remaining, hasleep⟩ hkept.2⟩
      | false =>
        rw [List.filter_cons_of_pos (by simpa using htopic), List.length_cons] at hmany
        refine ⟨called, .single ⟨.step thread, trivial, hcalls⟩, fun hkept ↦
          hcalled.not_callsAll hsignalling ?_ hkept.1⟩
        exact List.ne_nil_of_length_pos (Nat.lt_of_succ_lt_succ hmany)
    · obtain ⟨after, hskips, hwalking, -⟩ := exists_skip pairPassed hphase htopic
      rw [List.filter_cons_of_neg (by simpa using htopic)] at hmany
      obtain ⟨final, hmore, hfinal⟩ := ih (hinv.next hskips) hwalking hmany
      exact ⟨final, .head ⟨.step thread, trivial, hskips⟩ hmore, hfinal⟩

end Broken

/-- Every publish calls the callbacks of the subscriptions for its topic, the most recent first,
each once, and no others; and it can come to call all of them, and its waits for the second event
can all return zero, exactly while no publish takes the mutex with two subscriptions for its topic,
or with the pair passed with one. With the pair passed the calls all come about in any case. -/
theorem pubsub_publish_iff (Thread Topic Callback : Type*) [DecidableEq Thread]
    [DecidableEq Topic] (pairPassed : Bool) :
    (∀ state, (pubsubSystem Thread Topic Callback pairPassed).Reachable state →
        DeliversOnce state ∧ DeliversInOrder state ∧
          (pairPassed = true → CallsAll pairPassed state)) ∧
      (pubsubSystem Thread Topic Callback pairPassed).ExactFor (PublishesToFew pairPassed)
        fun state ↦ (DeliversOnce state ∧ DeliversInOrder state) ∧
          CallsAll pairPassed state ∧ WaitsAnswered pairPassed state := by
  refine ⟨fun state hreach ↦ ?_, fun state hreach ↦ ?_, ?_⟩
  · have hinv := publishInvariant_reachable hreach
    refine ⟨hinv.delivered, hinv.inOrder, ?_⟩
    rintro rfl
    exact hinv.callsAll
  · have hinv := publishInvariant_reachable hreach
    have hfew := fewCalled_reachable hreach
    exact ⟨⟨hinv.delivered, hinv.inOrder⟩, hfew.callsAll hinv, hfew.waitsAnswered hinv⟩
  · intro state label successor hreach hnot hnext
    have hinv := (publishInvariant_reachable hreach).next hnext
    cases label with
    | step thread =>
      simp only [PublishesToFew, not_forall, not_le] at hnot
      obtain ⟨topic, hphase, hmany⟩ := hnot
      simp only [pubsubSystem, pubsubNext, pubsubStep, hphase] at hnext
      split_ifs at hnext
      have hwalk : (successor.threads thread).phase = .walking topic state.ps.subscribers := by
        rw [← Option.some.inj hnext]
        simp only [PubsubState.set, Function.update_self]
      obtain ⟨final, hmore, hfinal⟩ := hinv.exists_broken hwalk hmany
      exact ⟨final, hmore, fun hkept ↦ hfinal hkept.2⟩
    | subscribe thread topic callback allocated copied => exact absurd trivial hnot
    | publish thread topic data => exact absurd trivial hnot
    | lockTimeout thread => exact absurd trivial hnot
    | wake thread ret => exact absurd trivial hnot

/-- A thread subscribes to a topic twice and publishes on it. As the code stands it calls one
callback and hangs in `event_pair_signal1`; with the pair passed it signals the first event and
waits for a second one that nobody signals. -/
theorem publish_hangs_after_first :
    (∃ state, (pubsubSystem Unit ℕ ℕ false).Reachable state ∧
      (state.threads ()).invoked.length = 1 ∧
      (recipients 5 (state.threads ()).subscriptions).length = 2 ∧ ¬ CallsAll false state) ∧
      ∃ state, (pubsubSystem Unit ℕ ℕ true).Reachable state ∧ Blocked state () ∧
        ¬ WaitsAnswered true state := by
  let start : PubsubState Unit ℕ ℕ :=
    { ps := { subscribers := [], mutex := none, ep := { state := 0 } }
      threads := fun _ ↦
        { phase := .idle, lastReturn := 0, subscriptions := [], invoked := [], answered := 0 }
      subscriptions := []
      deliveries := [] }
  let labels : List (PubsubLabel Unit ℕ ℕ) :=
    [.subscribe () (some 5) (some 1) true true, .step (),
      .subscribe () (some 5) (some 2) true true, .step (), .publish () (some 5) true, .step (),
      .step ()]
  constructor
  · obtain ⟨final, hrun, hphase, hinvoked, hrecipients⟩ : ∃ final,
        (pubsubSystem Unit ℕ ℕ false).run start labels = some final ∧
          (final.threads ()).phase = .signalling 5 [{ topic := 5, callback := some 1 }] ∧
          (final.threads ()).invoked.length = 1 ∧
          (recipients 5 (final.threads ()).subscriptions).length = 2 := ⟨_, rfl, rfl, rfl, rfl⟩
    have hreach : (pubsubSystem Unit ℕ ℕ false).Reachable final :=
      TransitionSystem.reachable_of_run ⟨rfl, rfl, rfl, rfl, rfl, rfl⟩ _ hrun
    exact ⟨final, hreach, hinvoked, hrecipients,
      (publishInvariant_reachable hreach).not_callsAll hphase (by decide)⟩
  · obtain ⟨final, hrun, hphase⟩ : ∃ final,
        (pubsubSystem Unit ℕ ℕ true).run start (labels ++ [.step (), .step ()]) = some final ∧
          (final.threads ()).phase = .waiting 5 [{ topic := 5, callback := some 1 }] .asleep :=
      ⟨_, rfl, rfl⟩
    have hreach : (pubsubSystem Unit ℕ ℕ true).Reachable final :=
      TransitionSystem.reachable_of_run ⟨rfl, rfl, rfl, rfl, rfl, rfl⟩ _ hrun
    have hblocked : Blocked final () := ⟨5, _, hphase⟩
    exact ⟨final, hreach, hblocked, (publishInvariant_reachable hreach).not_answered hblocked⟩

end Bme680.Messaging
