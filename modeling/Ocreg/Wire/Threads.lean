/-
Module: Ocreg.Wire.Threads
Purpose: The threads of service.cpp: the acceptor, the workers, and the one that stops the service. Every access to the
  queue and to the active list is made under the service's mutex, except one: after a connection a worker tests the
  queue without it, and races with whatever thread changes the queue meanwhile. The two never hold more connections
  than they may.
-/
import Mathlib.Data.Fintype.Defs
import Mathlib.Data.List.Induction
import Mathlib.Logic.Function.Basic

namespace Ocreg.Threads

open List

abbrev Socket := Nat

/-- The threads of a server. -/
inductive Thread (workers : Nat)
  | acceptor
  | worker (index : Fin workers)
  | stopper
deriving DecidableEq

variable {container : Container}

/-- What a thread does next. -/
inductive Point
  -- `accept_loop`
  | accept
  | acceptLock (socket : Socket)
  | size (socket : Socket)
  | pushQueue (socket : Socket)
  -- `worker_loop`, with `serve_connection` up to the section it ends with
  | workerLock
  | wait
  | testQueue
  | popQueue
  | pushActive (connection : Nat)
  | testStopping (connection : Nat)
  | dropActive (connection : Nat)
  | serve (connection : Nat)
  | eraseActive (connection : Nat)
  | testStopped
  | testUnlocked
  -- `stop`
  | stopLock
  | setStopping
  | joinAcceptor
  | drainLock
  | drain
  | clearQueue
  | joinWorkers
  | closeLock
  | closeActive
  | clearActive
  | finished
deriving DecidableEq

variable {point : Point}

namespace Point

/-- The points inside a section of the mutex. -/
def locked : Point → Bool
  | size _ | pushQueue _ | wait | testQueue | popQueue | pushActive _ | testStopping _ | dropActive _
  | eraseActive _ | setStopping | drain | clearQueue | closeActive | clearActive => true
  | _ => false

/-- The place a thread has taken for a connection that is in neither container. -/
def taken : Point → Nat
  | pushQueue _ | pushActive _ => 1
  | _ => 0

end Point

structure Shared where
  queue : List Socket := []
  /-- Connections, numbered as the workers make them. -/
  active : List Nat := []
  made : Nat := 0
  stopping : Bool := false

structure State (workers : Nat) where
  points : Thread workers → Point
  shared : Shared := {}
  /-- The thread that holds the mutex. -/
  holder : Option (Thread workers) := none

namespace State

variable {workers : Nat} (maxConnections : Nat) (turns : List (Thread workers × Option Socket))

/-- Where a thread goes from a point and what it leaves. `accepted` is what `accept_one` returns; the mutex is given
    back with the last access of its section. -/
def advance (state : State workers) (accepted : Option Socket) (point : Point) : Point × Shared :=
  let shared := state.shared
  match point with
  -- `accept_loop`
  | .accept => (if shared.stopping then .finished else accepted.elim .accept .acceptLock, shared)
  | .acceptLock socket => (.size socket, shared)
  | .size socket =>
    (if shared.active.length + shared.queue.length < maxConnections then .pushQueue socket else .accept, shared)
  | .pushQueue socket => (.accept, { shared with queue := shared.queue ++ [socket] })
  -- `worker_loop`
  | .workerLock => (.wait, shared)
  -- a worker that waits gives the mutex back and asks for it again
  | .wait => (if shared.stopping ∨ shared.queue ≠ [] then .testQueue else .workerLock, shared)
  | .testQueue =>
    (if shared.queue ≠ [] then .popQueue else if shared.stopping then .finished else .workerLock, shared)
  | .popQueue => (.pushActive shared.made, { shared with queue := shared.queue.tail, made := shared.made + 1 })
  | .pushActive connection => (.testStopping connection, { shared with active := shared.active ++ [connection] })
  | .testStopping connection => (if shared.stopping then .dropActive connection else .serve connection, shared)
  | .dropActive connection => (.finished, { shared with active := shared.active.filter (· ≠ connection) })
  | .serve connection => (.eraseActive connection, shared)
  | .eraseActive connection => (.testStopped, { shared with active := shared.active.filter (· ≠ connection) })
  | .testStopped => (if shared.stopping then .testUnlocked else .workerLock, shared)
  | .testUnlocked => (if shared.queue = [] then .finished else .workerLock, shared)
  -- `stop`
  | .stopLock => (.setStopping, shared)
  | .setStopping => (if shared.stopping then .finished else .joinAcceptor, { shared with stopping := true })
  | .joinAcceptor => (if state.points .acceptor = .finished then .drainLock else point, shared)
  | .drainLock => (.drain, shared)
  | .drain => (.clearQueue, shared)
  | .clearQueue => (.joinWorkers, { shared with queue := [] })
  | .joinWorkers => (if ∀ index, state.points (.worker index) = .finished then .closeLock else point, shared)
  | .closeLock => (.closeActive, shared)
  | .closeActive => (.clearActive, shared)
  | .clearActive => (.finished, { shared with active := [] })
  | .finished => (.finished, shared)

/-- One step of a thread. At the mutex it waits while another one holds it. -/
def step (state : State workers) (turn : Thread workers × Option Socket) : State workers :=
  let point := state.points turn.1
  let next := state.advance maxConnections turn.2 point
  if next.1.locked ∧ ¬ point.locked ∧ state.holder ≠ none then state
  else
    { points := Function.update state.points turn.1 next.1
      shared := next.2
      holder := if next.1.locked then some turn.1 else if point.locked then none else state.holder }

/-- The threads as `start` leaves them. -/
def started (workers : Nat) : State workers where
  points
    | .acceptor => .accept
    | .worker _ => .workerLock
    | .stopper => .stopLock

/-- The threads in turns, a step each. -/
def run : State workers :=
  turns.foldl (step maxConnections) (started workers)

/-- Who is inside a section holds the mutex. -/
def Exclusive (state : State workers) : Prop :=
  ∀ thread, (state.points thread).locked = true → state.holder = some thread

variable {state : State workers}

theorem Exclusive.outside (h : state.Exclusive) {thread other : Thread workers}
    (hinside : (state.points thread).locked = true) (hne : thread ≠ other) : ¬ (state.points other).locked = true :=
  fun hlocked => hne (Option.some.inj ((h thread hinside).symm.trans (h other hlocked)))

theorem Exclusive.step (h : state.Exclusive) (turn : Thread workers × Option Socket) :
    (state.step maxConnections turn).Exclusive := by
  rw [State.step]
  split
  · exact h
  next hfree =>
    intro thread hlocked
    dsimp only at hlocked ⊢
    by_cases hturn : thread = turn.1
    · subst hturn
      rw [Function.update_self] at hlocked
      exact if_pos hlocked
    · rw [Function.update_of_ne hturn] at hlocked
      have hholder := h thread hlocked
      -- another thread is inside, so this one neither enters nor leaves a section
      have houtside := h.outside hlocked hturn
      rw [if_neg, if_neg houtside]
      · exact hholder
      · intro henters
        exact hfree ⟨henters, houtside, hholder ▸ Option.some_ne_none thread⟩

theorem run_exclusive : (run maxConnections turns).Exclusive := by
  refine foldlRecOn turns (step maxConnections) ?_ fun _ h turn _ => h.step maxConnections turn
  rintro (_ | _ | _) hlocked <;> cases hlocked

/-- The connections that are queued or active, and one that a thread moves, are within the bound; a worker that takes
    one off the queue finds it. -/
def Within (shared : Shared) (point : Point) : Prop :=
  shared.active.length + shared.queue.length + point.taken ≤ maxConnections ∧ (point = .popQueue → shared.queue ≠ [])

theorem advance_within (accepted : Option Socket) (h : Within maxConnections state.shared point) :
    Within maxConnections (state.advance maxConnections accepted point).2
      (state.advance maxConnections accepted point).1 := by
  obtain ⟨hle, hpop⟩ := h
  cases point with
  | accept => cases accepted <;> simp only [advance] <;> split <;> simp_all [Within, Point.taken]
  | popQueue =>
    have hlength := length_pos_iff.mpr (hpop rfl)
    simp_all [advance, Within, Point.taken]
    omega
  | dropActive connection | eraseActive connection =>
    have hfewer := length_filter_le (· ≠ connection) state.shared.active
    simp_all [advance, Within, Point.taken]
    omega
  | _ =>
    simp only [advance]
    (try split_ifs) <;> simp_all [Within, Point.taken] <;> omega

theorem advance_unlocked (accepted : Option Socket) (h : ¬ point.locked = true) :
    (state.advance maxConnections accepted point).2 = state.shared := by
  cases point <;> first | rfl | exact absurd rfl h

theorem within_step (hexclusive : state.Exclusive)
    (h : ∀ thread, Within maxConnections state.shared (state.points thread)) (turn : Thread workers × Option Socket)
    (thread : Thread workers) :
    Within maxConnections (state.step maxConnections turn).shared ((state.step maxConnections turn).points thread) := by
  have hown := advance_within maxConnections turn.2 (h turn.1)
  rw [State.step]
  split
  · exact h thread
  dsimp only
  by_cases hturn : thread = turn.1
  · rw [hturn, Function.update_self]
    exact hown
  · rw [Function.update_of_ne hturn]
    by_cases hinside : (state.points thread).locked = true
    · -- nothing moves while this thread is inside
      rw [advance_unlocked _ _ (hexclusive.outside hinside hturn)]
      exact h thread
    · refine ⟨?_, fun hpop => absurd (hpop ▸ rfl) hinside⟩
      have hnone : (state.points thread).taken = 0 := by
        cases hpoint : state.points thread <;> first | rfl | exact absurd (hpoint ▸ rfl) hinside
      rw [hnone]
      exact (Nat.le_add_right _ _).trans hown.1

theorem run_within (thread : Thread workers) :
    Within maxConnections (run maxConnections turns).shared ((run maxConnections turns).points thread) := by
  induction turns using reverseRecOn generalizing thread with
  | nil => cases thread <;> exact ⟨Nat.zero_le _, nofun⟩
  | append_singleton turns turn ih =>
    rw [run, foldl_append]
    exact within_step maxConnections (run_exclusive maxConnections turns) ih turn thread

/-- In every interleaving the queued and the active connections stay within their bound. -/
theorem connections_bounded :
    (run maxConnections turns).shared.active.length + (run maxConnections turns).shared.queue.length ≤
      maxConnections :=
  (Nat.le_add_right _ _).trans (run_within maxConnections turns .acceptor).1

/-! ### A race -/

end State

end Ocreg.Threads
