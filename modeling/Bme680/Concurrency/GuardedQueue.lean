import Mathlib.Data.List.Basic
import Mathlib.Data.List.Nodup
import Mathlib.Logic.Function.Basic

/-!
# A linked queue under a mutex

`Chain` reads a list off a head and a successor function: the nodes met from the head up to the
one without a successor. `GuardedQueue` is a queue kept that way, with a pointer to its last node,
by threads whose critical sections run between taking and releasing one mutex, a statement at a
time: a producer tests whether the queue is empty, sets the head or the successor of the tail, and
then the tail; a consumer reads the head, advances it, and clears the tail of an emptied queue.

In the middle of such a section the tail is not the last node. `QueuePoint.View` says what holds
of the queue when the thread that has the mutex is at a given point of its section, and
`QueueInvariant` that the queue looks as that thread's point says, and in order where the mutex is
free. From it, nodes are taken in the order in which they were put in, each at most once.
-/

set_option autoImplicit false
set_option relaxedAutoImplicit false

namespace Bme680.Concurrency

/-! ### Chains -/

section Chain

variable {Node : Type*} {next next' : Node → Option Node} {head : Option Node}
  {nodes : List Node}

/-- The nodes from a head up to the one without a successor. -/
def Chain (next : Node → Option Node) : Option Node → List Node → Prop
  | head, [] => head = none
  | head, node :: rest => head = some node ∧ Chain next (next node) rest

/-- The first node of a chain is its head. -/
theorem Chain.head_eq (hchain : Chain next head nodes) : head = nodes.head? := by
  cases nodes with
  | nil => exact hchain
  | cons node rest => exact hchain.1

/-- A chain without a head is empty. -/
theorem Chain.eq_nil_iff (hchain : Chain next head nodes) : head = none ↔ nodes = [] := by
  rw [hchain.head_eq]
  exact List.head?_eq_none_iff

/-- A chain depends on the successors of its nodes only. -/
theorem Chain.congr (hchain : Chain next head nodes)
    (hsame : ∀ node ∈ nodes, next' node = next node) : Chain next' head nodes := by
  induction nodes generalizing head with
  | nil => exact hchain
  | cons node rest ih =>
    refine ⟨hchain.1, ?_⟩
    rw [hsame node List.mem_cons_self]
    exact ih hchain.2 fun other hother ↦ hsame other (List.mem_cons_of_mem _ hother)

/-- A new node without a successor, linked behind the last node, extends the chain. -/
theorem Chain.append (hchain : Chain next head nodes) (hnodup : nodes.Nodup) {last fresh : Node}
    (hlast : nodes.getLast? = some last)
    (hsame : ∀ node ∈ nodes, node ≠ last → next' node = next node)
    (hlink : next' last = some fresh) (hend : next' fresh = none) :
    Chain next' head (nodes ++ [fresh]) := by
  induction nodes generalizing head with
  | nil => cases hlast
  | cons node rest ih =>
    obtain ⟨hhead, hrest⟩ := hchain
    refine ⟨hhead, ?_⟩
    cases rest with
    | nil =>
      obtain rfl : node = last := Option.some.inj hlast
      exact ⟨hlink, hend⟩
    | cons second others =>
      have hlast' : (second :: others).getLast? = some last := by
        rwa [List.getLast?_cons_cons] at hlast
      have hne : node ≠ last := by
        rintro rfl
        exact (List.nodup_cons.mp hnodup).1 (List.mem_of_getLast? hlast')
      rw [hsame node List.mem_cons_self hne]
      exact ih hrest (List.nodup_cons.mp hnodup).2 hlast'
        fun other hother ↦ hsame other (List.mem_cons_of_mem _ hother)

end Chain

/-! ### The queue and its critical sections -/

/-- Where a thread is in its critical section: outside, at a point where the queue is in order,
about to set the head of an empty queue, about to link behind the tail of another, about to set
the tail to its node, about to advance the head over a node, or about to clear the tail if the
queue is empty. -/
inductive QueuePoint (Node : Type*)
  | outside
  | inside
  | settingHead
  | linking
  | settingTail (node : Node)
  | advancing (node : Node)
  | clearing

/-- The queue, the nodes put in and taken so far, the thread that has the mutex, and the points of
the threads. -/
@[ext] structure GuardedQueue (Thread Node : Type*) where
  next : Node → Option Node
  head : Option Node
  tail : Option Node
  enqueued : List Node
  taken : List Node
  mutex : Option Thread
  points : Thread → QueuePoint Node

/-- A thread at the point has the mutex. -/
def QueuePoint.Holds {Node : Type*} (point : QueuePoint Node) : Prop :=
  point ≠ .outside

section Steps

variable {Thread Node : Type*} [DecidableEq Thread] [DecidableEq Node]

omit [DecidableEq Node] in
/-- The queue with one thread moved to a point. -/
def GuardedQueue.move (queue : GuardedQueue Thread Node) (thread : Thread)
    (point : QueuePoint Node) : GuardedQueue Thread Node :=
  { queue with points := Function.update queue.points thread point }

/-- The statements of the critical sections, each run by a thread at its point, and the allocation
of a node without a successor. A node is put in once. -/
inductive QueueStep (queue : GuardedQueue Thread Node) : GuardedQueue Thread Node → Prop
  | allocate (node : Node) (hnew : node ∉ queue.enqueued) :
      QueueStep queue { queue with next := Function.update queue.next node none }
  | acquire (thread : Thread) (hfree : queue.mutex = none)
      (hpoint : queue.points thread = .outside) :
      QueueStep queue { queue.move thread .inside with mutex := some thread }
  | release (thread : Thread) (hpoint : queue.points thread = .inside) :
      QueueStep queue { queue.move thread .outside with mutex := none }
  | testEmpty (thread : Thread) (hpoint : queue.points thread = .inside)
      (hempty : queue.head = none) : QueueStep queue (queue.move thread .settingHead)
  | testOccupied (thread : Thread) (hpoint : queue.points thread = .inside)
      (hoccupied : queue.head ≠ none) : QueueStep queue (queue.move thread .linking)
  | setHead (thread : Thread) (node : Node) (hpoint : queue.points thread = .settingHead)
      (hnew : node ∉ queue.enqueued) (hend : queue.next node = none) :
      QueueStep queue { queue.move thread (.settingTail node) with
        head := some node
        enqueued := queue.enqueued ++ [node] }
  | link (thread : Thread) (last node : Node) (hpoint : queue.points thread = .linking)
      (htail : queue.tail = some last) (hnew : node ∉ queue.enqueued)
      (hend : queue.next node = none) :
      QueueStep queue { queue.move thread (.settingTail node) with
        next := Function.update queue.next last (some node)
        enqueued := queue.enqueued ++ [node] }
  | setTail (thread : Thread) (node : Node) (hpoint : queue.points thread = .settingTail node) :
      QueueStep queue { queue.move thread .inside with tail := some node }
  | readHead (thread : Thread) (node : Node) (hpoint : queue.points thread = .inside)
      (hhead : queue.head = some node) : QueueStep queue (queue.move thread (.advancing node))
  | advance (thread : Thread) (node : Node) (hpoint : queue.points thread = .advancing node) :
      QueueStep queue { queue.move thread .clearing with
        head := queue.next node
        taken := queue.taken ++ [node] }
  | clearTail (thread : Thread) (hpoint : queue.points thread = .clearing) :
      QueueStep queue { queue.move thread .inside with
        tail := if queue.head = none then none else queue.tail }

/-- A step to a queue is one to any queue equal to it. -/
theorem QueueStep.to_eq {queue successor other : GuardedQueue Thread Node}
    (hstep : QueueStep queue successor) (hsame : other = successor) : QueueStep queue other := by
  rw [hsame]
  exact hstep

/-! ### The invariant -/

/-- What the tail and the nodes of the queue look like when the thread with the mutex is at a
point. -/
def QueuePoint.View (tail : Option Node) (nodes : List Node) : QueuePoint Node → Prop
  | .outside | .inside => tail = nodes.getLast?
  | .settingHead => nodes = [] ∧ tail = nodes.getLast?
  | .linking => nodes ≠ [] ∧ tail = nodes.getLast?
  | .settingTail node => nodes.getLast? = some node
  | .advancing node => nodes.head? = some node ∧ tail = nodes.getLast?
  | .clearing => nodes ≠ [] → tail = nodes.getLast?

/-- The point of the thread that has the mutex, outside where it is free. -/
def GuardedQueue.activePoint (queue : GuardedQueue Thread Node) : QueuePoint Node :=
  queue.mutex.elim .outside queue.points

/-- A thread has the mutex exactly inside its critical section, the queue holds the nodes put in
and not taken, in their order, and it looks as the thread with the mutex sees it. -/
structure QueueInvariant (queue : GuardedQueue Thread Node) (nodes : List Node) : Prop where
  mutex : ∀ thread, queue.mutex = some thread ↔ (queue.points thread).Holds
  chain : Chain queue.next queue.head nodes
  order : queue.enqueued = queue.taken ++ nodes
  nodup : queue.enqueued.Nodup
  view : queue.activePoint.View queue.tail nodes

namespace QueueInvariant

variable {queue successor : GuardedQueue Thread Node} {nodes : List Node} {thread : Thread}

omit [DecidableEq Thread] [DecidableEq Node] in
/-- A thread inside its critical section has the mutex. -/
theorem mutex_of_point (hinvariant : QueueInvariant queue nodes) {point : QueuePoint Node}
    (hpoint : queue.points thread = point) (hholds : point.Holds) : queue.mutex = some thread :=
  (hinvariant.mutex thread).mpr (hpoint ▸ hholds)

omit [DecidableEq Thread] [DecidableEq Node] in
/-- The queue looks as a thread inside its critical section sees it. -/
theorem view_of_point (hinvariant : QueueInvariant queue nodes) {point : QueuePoint Node}
    (hpoint : queue.points thread = point) (hholds : point.Holds) :
    point.View queue.tail nodes := by
  have hview := hinvariant.view
  rw [GuardedQueue.activePoint, hinvariant.mutex_of_point hpoint hholds, Option.elim_some,
    hpoint] at hview
  exact hview

omit [DecidableEq Node] in
/-- A thread that moves within its critical section keeps the mutex. -/
theorem mutex_move (hinvariant : QueueInvariant queue nodes) {before after : QueuePoint Node}
    (hpoint : queue.points thread = before) (hbefore : before.Holds) (hafter : after.Holds)
    (other : Thread) :
    queue.mutex = some other ↔ (Function.update queue.points thread after other).Holds := by
  by_cases hother : other = thread
  · subst other
    rw [Function.update_self]
    exact iff_of_true (hinvariant.mutex_of_point hpoint hbefore) hafter
  · rw [Function.update_of_ne hother]
    exact hinvariant.mutex other

omit [DecidableEq Node] in
/-- A statement within a critical section keeps the invariant when it leaves the queue as its
thread then sees it. -/
theorem move (hinvariant : QueueInvariant queue nodes) {before : QueuePoint Node}
    (after : QueuePoint Node) (hpoint : queue.points thread = before) (hbefore : before.Holds)
    (hafter : after.Holds)
    {remaining : List Node} (hpoints : successor.points = Function.update queue.points thread after)
    (hmutex : successor.mutex = queue.mutex)
    (hchain : Chain successor.next successor.head remaining)
    (horder : successor.enqueued = successor.taken ++ remaining)
    (hnodup : successor.enqueued.Nodup) (hview : after.View successor.tail remaining) :
    QueueInvariant successor remaining := by
  refine ⟨fun other ↦ ?_, hchain, horder, hnodup, ?_⟩
  · rw [hmutex, hpoints]
    exact hinvariant.mutex_move hpoint hbefore hafter other
  · rw [GuardedQueue.activePoint, hmutex, hinvariant.mutex_of_point hpoint hbefore,
      Option.elim_some, hpoints, Function.update_self]
    exact hview

/-- Every statement keeps the invariant. -/
theorem step (hinvariant : QueueInvariant queue nodes) (hstep : QueueStep queue successor) :
    ∃ remaining, QueueInvariant successor remaining := by
  have hchain := hinvariant.chain
  have horder := hinvariant.order
  have hnodup := hinvariant.nodup
  cases hstep with
  | allocate node hnew =>
    refine ⟨nodes, hinvariant.mutex, hchain.congr fun other hother ↦ ?_, horder, hnodup,
      hinvariant.view⟩
    refine Function.update_of_ne (fun hsame ↦ hnew ?_) _ _
    rw [horder, ← hsame]
    exact List.mem_append_right _ hother
  | acquire thread hfree hpoint =>
    have hsettled : queue.tail = nodes.getLast? := by
      have hview := hinvariant.view
      rw [GuardedQueue.activePoint, hfree] at hview
      exact hview
    refine ⟨nodes, fun other ↦ ?_, hchain, horder, hnodup, ?_⟩
    · show some thread = some other ↔ (Function.update queue.points thread .inside other).Holds
      by_cases hother : other = thread
      · subst other
        rw [Function.update_self]
        exact iff_of_true rfl nofun
      · rw [Function.update_of_ne hother, ← hinvariant.mutex other, hfree]
        exact iff_of_false (fun hsame ↦ hother (Option.some.inj hsame).symm) nofun
    · show (Function.update queue.points thread .inside thread).View queue.tail nodes
      rw [Function.update_self]
      exact hsettled
  | release thread hpoint =>
    have hview := hinvariant.view_of_point hpoint nofun
    have hmutex := hinvariant.mutex_of_point hpoint nofun
    refine ⟨nodes, fun other ↦ ?_, hchain, horder, hnodup, hview⟩
    show none = some other ↔ (Function.update queue.points thread .outside other).Holds
    by_cases hother : other = thread
    · subst other
      rw [Function.update_self]
      exact iff_of_false nofun (not_not.mpr rfl)
    · rw [Function.update_of_ne hother, ← hinvariant.mutex other, hmutex]
      exact iff_of_false nofun fun hsame ↦ hother (Option.some.inj hsame).symm
  | testEmpty thread hpoint hempty =>
    have hview := hinvariant.view_of_point hpoint nofun
    exact ⟨nodes, hinvariant.move .settingHead hpoint nofun nofun rfl rfl hchain horder hnodup
      ⟨hchain.eq_nil_iff.mp hempty, hview⟩⟩
  | testOccupied thread hpoint hoccupied =>
    have hview := hinvariant.view_of_point hpoint nofun
    exact ⟨nodes, hinvariant.move .linking hpoint nofun nofun rfl rfl hchain horder hnodup
      ⟨fun hnil ↦ hoccupied (hchain.eq_nil_iff.mpr hnil), hview⟩⟩
  | setHead thread node hpoint hnew hend =>
    obtain ⟨rfl, _⟩ := hinvariant.view_of_point hpoint nofun
    refine ⟨[node], hinvariant.move (.settingTail node) hpoint nofun nofun rfl rfl ⟨rfl, hend⟩
      ?_ ?_ rfl⟩
    · show queue.enqueued ++ [node] = queue.taken ++ [node]
      rw [horder, List.append_nil]
    · rw [← List.concat_eq_append]
      exact List.Nodup.concat hnew hnodup
  | link thread last node hpoint htail hnew hend =>
    obtain ⟨_, hview⟩ := hinvariant.view_of_point hpoint nofun
    have hlast : nodes.getLast? = some last := hview.symm.trans htail
    have hmember : last ∈ queue.enqueued := by
      rw [horder]
      exact List.mem_append_right _ (List.mem_of_getLast? hlast)
    have hne : node ≠ last := fun hsame ↦ hnew (hsame ▸ hmember)
    have hremaining : nodes.Nodup := (List.nodup_append.mp (horder ▸ hnodup)).2.1
    refine ⟨nodes ++ [node], hinvariant.move (.settingTail node) hpoint nofun nofun rfl rfl
      ?_ ?_ ?_ ?_⟩
    · refine hchain.append hremaining hlast (fun other _ hother ↦ ?_) ?_ ?_
      · exact Function.update_of_ne hother _ _
      · exact Function.update_self _ _ _
      · exact (Function.update_of_ne hne _ _).trans hend
    · show queue.enqueued ++ [node] = queue.taken ++ (nodes ++ [node])
      rw [horder, List.append_assoc]
    · rw [← List.concat_eq_append]
      exact List.Nodup.concat hnew hnodup
    · exact List.getLast?_concat
  | setTail thread node hpoint =>
    have hlast : nodes.getLast? = some node := hinvariant.view_of_point hpoint nofun
    exact ⟨nodes, hinvariant.move .inside hpoint nofun nofun rfl rfl hchain horder hnodup
      hlast.symm⟩
  | readHead thread node hpoint hhead =>
    have hview := hinvariant.view_of_point hpoint nofun
    exact ⟨nodes, hinvariant.move (.advancing node) hpoint nofun nofun rfl rfl hchain horder
      hnodup ⟨hchain.head_eq.symm.trans hhead, hview⟩⟩
  | advance thread node hpoint =>
    obtain ⟨hhead, hview⟩ := hinvariant.view_of_point hpoint nofun
    obtain ⟨rest, rfl⟩ := List.head?_eq_some_iff.mp hhead
    refine ⟨rest, hinvariant.move .clearing hpoint nofun nofun rfl rfl hchain.2 ?_ hnodup ?_⟩
    · show queue.enqueued = queue.taken ++ [node] ++ rest
      rw [horder, List.append_assoc, List.singleton_append]
    · intro hrest
      obtain ⟨second, others, rfl⟩ := List.exists_cons_of_ne_nil hrest
      rw [List.getLast?_cons_cons] at hview
      exact hview
  | clearTail thread hpoint =>
    have hview := hinvariant.view_of_point hpoint nofun
    refine ⟨nodes, hinvariant.move .inside hpoint nofun nofun rfl rfl hchain horder hnodup ?_⟩
    show (if queue.head = none then none else queue.tail) = nodes.getLast?
    split_ifs with hempty
    · rw [hchain.eq_nil_iff.mp hempty]
      rfl
    · exact hview fun hnil ↦ hempty (hchain.eq_nil_iff.mpr hnil)

end QueueInvariant

end Steps

end Bme680.Concurrency
