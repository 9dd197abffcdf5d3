/-!
# The reconcile loop: sync, requeue and the backoff

The task queue runs `sync` for every trigger: a change of the metadata, of the certificates, or a key put back by a retry
worker. When `sync` fails it starts a retry worker, `go lbc.requeue(key)`, and returns; the worker adds the interval to
`incrementalBackoff`, sleeps that long, and puts the key back. When `sync` succeeds it clears the backoff. The worker's
increment runs after the tick that started it, in any order with later ticks.

The model is a step function over the fields these functions share and the number of workers at each stage, one event per
statement that writes shared state. A tick is one event: the only shared write of `sync` is its last statement, and the
`shutdown` it reads first is written only by `Stop`, which touches nothing else `sync` writes. Sleeping is a stage, not a
duration. `incrementalBackoff` is an `int64`; the model counts in `Nat`, far from the overflow.

The backoff does not count the failed ticks since the last success: the increment of a failed tick lands later, and a
worker started before a success lands after it. `run_backoff` states what it does count.
-/

namespace RancherLb

/-- The fields of `LoadBalancerController` that `sync`, `requeue` and `Stop` share, and the retry workers `sync` started:
`pending` have not run the increment of `requeue` yet, `sleeping` have and sleep before putting the key back. -/
structure Controller where
  shutdown : Bool
  incrementalBackoff : Nat
  incrementalBackoffInterval : Nat
  pending : Nat
  sleeping : Nat
  deriving DecidableEq, Repr

/-- `NewLoadBalancerController`: no backoff, an interval of 5 seconds, no worker. -/
def newLoadBalancerController : Controller :=
  { shutdown := false, incrementalBackoff := 0, incrementalBackoffInterval := 5, pending := 0, sleeping := 0 }

/-- What can happen next: a tick runs `sync`, `ok` when `GetLBConfigs` and every `ApplyConfig` succeeded; a pending worker
runs the increment of `requeue`; a sleeping worker wakes and puts the key back (the tick that follows is a tick of its
own); `Stop` runs, `ok` when the provider stops. -/
inductive Event where
  | tick (ok : Bool)
  | increment
  | wake
  | stop (ok : Bool)
  deriving DecidableEq, Repr

namespace Controller

/-- `sync`: nothing when shutting down; a failure starts a retry worker, a success clears the backoff. -/
def sync (c : Controller) (ok : Bool) : Controller :=
  if c.shutdown then c
  else if ok then { c with incrementalBackoff := 0 }
  else { c with pending := c.pending + 1 }

/-- The increment of `requeue`, by one pending worker, which then sleeps. -/
def requeueIncrement (c : Controller) : Controller :=
  if c.pending = 0 then c
  else { c with incrementalBackoff := c.incrementalBackoff + c.incrementalBackoffInterval, pending := c.pending - 1,
                sleeping := c.sleeping + 1 }

/-- The end of `requeue`, by one sleeping worker: `Requeue(key)`. -/
def requeueWake (c : Controller) : Controller :=
  if c.sleeping = 0 then c else { c with sleeping := c.sleeping - 1 }

/-- `Stop`: the first call stops the provider and, when it stops, shuts the controller down. The error it returns is the
provider's, or else `shutdown already in progress`, also from the call that shut down. -/
def stop (c : Controller) (ok : Bool) : Controller × String :=
  if !c.shutdown then
    if ok then ({ c with shutdown := true }, "shutdown already in progress") else (c, "provider stop failed")
  else (c, "shutdown already in progress")

/-- One event. -/
def step (c : Controller) : Event → Controller
  | .tick ok => c.sync ok
  | .increment => c.requeueIncrement
  | .wake => c.requeueWake
  | .stop ok => (c.stop ok).1

/-- A run: the events in order. -/
def run (c : Controller) (events : List Event) : Controller := events.foldl step c

end Controller

/-- The ghost counters of a run, read off the ticks: the failed ticks since the last successful tick, and the workers
that had not run their increment at that tick. -/
structure Ghost where
  failedTicks : Nat
  staleWorkers : Nat
  deriving DecidableEq, Repr

/-- The counters after an event from `c`: a tick that runs resets them on success and counts a failure. -/
def Ghost.observe (g : Ghost) (c : Controller) : Event → Ghost
  | .tick ok => if c.shutdown then g else if ok then ⟨0, c.pending⟩ else { g with failedTicks := g.failedTicks + 1 }
  | _ => g

/-- A run with its ghost counters. -/
def Controller.ghostRun (s : Controller × Ghost) (events : List Event) : Controller × Ghost :=
  events.foldl (fun s e => (s.1.step e, s.2.observe s.1 e)) s

/-- What the backoff counts: with the workers still pending at their share, the failed ticks since the last successful
tick and the workers that were pending at it, one interval each. -/
structure Accounted (c : Controller) (g : Ghost) : Prop where
  interval : c.incrementalBackoffInterval = 5
  backoff : c.incrementalBackoff + 5 * c.pending = 5 * (g.failedTicks + g.staleWorkers)

namespace ReconcileAux

/-- Every event keeps the account. -/
theorem Accounted.step {c : Controller} {g : Ghost} (h : Accounted c g) (e : Event) :
    Accounted (c.step e) (g.observe c e) := by
  obtain ⟨hi, hb⟩ := h
  cases e with
  | tick ok =>
    cases hs : c.shutdown <;> cases ok <;>
      simp only [Controller.step, Controller.sync, Ghost.observe, hs, if_true, if_false, Bool.false_eq_true] <;>
      exact ⟨hi, by (try dsimp only); omega⟩
  | increment =>
    simp only [Controller.step, Controller.requeueIncrement, Ghost.observe]
    split
    · exact ⟨hi, hb⟩
    · exact ⟨hi, by dsimp only; omega⟩
  | wake =>
    simp only [Controller.step, Controller.requeueWake, Ghost.observe]
    split <;> exact ⟨hi, hb⟩
  | stop ok =>
    simp only [Controller.step, Controller.stop, Ghost.observe]
    split
    · split <;> exact ⟨hi, hb⟩
    · exact ⟨hi, hb⟩

/-- Every run keeps the account. -/
theorem Accounted.ghostRun : ∀ (events : List Event) (s : Controller × Ghost), Accounted s.1 s.2 →
    Accounted (Controller.ghostRun s events).1 (Controller.ghostRun s events).2
  | [], _, h => h
  | e :: events, _, h => Accounted.ghostRun events _ (Accounted.step h e)

/-- The ghost run runs the controller. -/
theorem ghostRun_fst : ∀ (events : List Event) (s : Controller × Ghost),
    (Controller.ghostRun s events).1 = s.1.run events
  | [], _ => rfl
  | e :: events, s => ghostRun_fst events (s.1.step e, s.2.observe s.1 e)

end ReconcileAux

open ReconcileAux

/-- In every interleaving from a new controller, `incrementalBackoff` is the interval (5) times the failed ticks since
the last successful tick plus the workers pending at that tick, less the workers pending now. -/
theorem run_backoff (events : List Event) :
    (newLoadBalancerController.run events).incrementalBackoff +
        5 * (newLoadBalancerController.run events).pending =
      5 * ((Controller.ghostRun (newLoadBalancerController, ⟨0, 0⟩) events).2.failedTicks +
        (Controller.ghostRun (newLoadBalancerController, ⟨0, 0⟩) events).2.staleWorkers) := by
  have h := Accounted.ghostRun events (newLoadBalancerController, ⟨0, 0⟩) ⟨rfl, rfl⟩
  rw [ghostRun_fst] at h
  exact h.backoff

/-! ## A sync that keeps failing -/

/-- One retry of a sync that fails: the tick, then its worker's increment, and its sleep ending in `Requeue(key)`, which
triggers the next tick. -/
def failedRound : List Event := [.tick false, .increment, .wake]

namespace ReconcileAux

theorem run_append (c : Controller) (l₁ l₂ : List Event) : c.run (l₁ ++ l₂) = (c.run l₁).run l₂ :=
  List.foldl_append _ _ _ _

/-- A round from a running controller with no worker adds one interval to the backoff and changes nothing else. -/
theorem run_failedRound {c : Controller} (hs : c.shutdown = false) (hp : c.pending = 0) (hw : c.sleeping = 0) :
    c.run failedRound = { c with incrementalBackoff := c.incrementalBackoff + c.incrementalBackoffInterval } := by
  obtain ⟨s, b, i, p, w⟩ := c
  dsimp only at hs hp hw
  subst hs hp hw
  rfl

end ReconcileAux

/-- A sync that fails at every retry, from a running controller with no worker: after `k` retries only the backoff has
moved, by `k` intervals. The code has no cap: the `k`-th retry sleeps `k` intervals. -/
theorem run_failedRounds : ∀ (k : Nat) (c : Controller), c.shutdown = false → c.pending = 0 → c.sleeping = 0 →
    c.run (List.replicate k failedRound).flatten =
      { c with incrementalBackoff := c.incrementalBackoff + k * c.incrementalBackoffInterval }
  | 0, c, _, _, _ => by simp [Controller.run]
  | k + 1, c, hs, hp, hw => by
    rw [List.replicate_succ, List.flatten_cons, ReconcileAux.run_append, ReconcileAux.run_failedRound hs hp hw,
      run_failedRounds k { c with incrementalBackoff := c.incrementalBackoff + c.incrementalBackoffInterval } hs hp hw]
    simp only [Nat.succ_mul, Nat.add_assoc, Nat.add_comm (k * _)]

/-- A failed tick leaves the backoff at 0 until its worker runs; and a worker of a failed tick that runs after a
successful tick sets the backoff to 5 with no failed tick since that success. -/
theorem run_backoff_not_failed_ticks :
    (newLoadBalancerController.run [.tick false]).incrementalBackoff = 0 ∧
      (Controller.ghostRun (newLoadBalancerController, ⟨0, 0⟩) [.tick false]).2.failedTicks = 1 ∧
    (newLoadBalancerController.run [.tick false, .tick true, .increment]).incrementalBackoff = 5 ∧
      (Controller.ghostRun (newLoadBalancerController, ⟨0, 0⟩) [.tick false, .tick true, .increment]).2.failedTicks =
        0 :=
  ⟨rfl, rfl, rfl, rfl⟩

/-! ## The retry workers over a run

Each failed sync starts one worker, which runs its increment once and then puts the key back once. The counts below
judge each event in the state it runs from; `run_worker_flow` says that no worker is lost or counted twice. -/

namespace Controller

/-- An event that starts a retry worker: a tick whose sync runs and fails. -/
def starts (c : Controller) : Event → Bool
  | .tick ok => !c.shutdown && !ok
  | _ => false

/-- An event that runs the increment of a pending worker. -/
def increments (c : Controller) : Event → Bool
  | .increment => c.pending != 0
  | _ => false

/-- An event that ends a sleeping worker with `Requeue(key)`. -/
def requeues (c : Controller) : Event → Bool
  | .wake => c.sleeping != 0
  | _ => false

/-- The events of a run from `c` that `f` counts, each judged in the state it runs from. -/
def countRun (f : Controller → Event → Bool) : Controller → List Event → Nat
  | _, [] => 0
  | c, e :: es => (if f c e then 1 else 0) + countRun f (c.step e) es

end Controller

namespace ReconcileAux

theorem run_cons (c : Controller) (e : Event) (es : List Event) : c.run (e :: es) = (c.step e).run es := rfl

/-- One event moves at most one worker one stage on: a failed tick adds a pending worker, an increment makes one sleep,
a wake-up ends one. -/
theorem step_flow (c : Controller) (e : Event) :
    (c.step e).pending + (if c.increments e then 1 else 0) = c.pending + (if c.starts e then 1 else 0) ∧
      (c.step e).sleeping + (if c.requeues e then 1 else 0) = c.sleeping + (if c.increments e then 1 else 0) := by
  cases e with
  | tick ok =>
    cases hs : c.shutdown <;> cases ok <;>
      simp [Controller.step, Controller.sync, Controller.starts, Controller.increments, Controller.requeues, hs]
  | increment =>
    simp only [Controller.step, Controller.requeueIncrement, Controller.starts, Controller.increments,
      Controller.requeues]
    split
    · -- no worker is pending: nothing moves
      simp [*]
    · -- a pending worker runs its increment and sleeps
      simp [*]
      omega
  | wake =>
    simp only [Controller.step, Controller.requeueWake, Controller.starts, Controller.increments, Controller.requeues]
    split
    · simp [*]
    · -- a sleeping worker puts the key back
      simp [*]
      omega
  | stop ok =>
    simp only [Controller.step, Controller.stop, Controller.starts, Controller.increments, Controller.requeues]
    split <;> (try split) <;> simp

end ReconcileAux

open ReconcileAux

/-- In every run from every state, each worker a failed sync starts is still pending, or has run its increment; and each
worker that ran its increment is still sleeping, or has put the key back: no retry is lost, and none is made twice. -/
theorem run_worker_flow : ∀ (events : List Event) (c : Controller),
    (c.run events).pending + Controller.countRun Controller.increments c events =
        c.pending + Controller.countRun Controller.starts c events ∧
      (c.run events).sleeping + Controller.countRun Controller.requeues c events =
        c.sleeping + Controller.countRun Controller.increments c events
  | [], c => by simp [Controller.run, Controller.countRun]
  | e :: events, c => by
    obtain ⟨h₁, h₂⟩ := step_flow c e
    obtain ⟨h₃, h₄⟩ := run_worker_flow events (c.step e)
    simp only [run_cons, Controller.countRun]
    omega

/-! ## After Stop -/

/-- What a run after a successful `Stop` from `c₀` keeps: the controller stays shut down, the interval is the same, no
worker is added to those pending, and the backoff has grown by one interval per pending worker that ran its increment. -/
structure Drains (c₀ c : Controller) : Prop where
  shutdown : c.shutdown = true
  interval : c.incrementalBackoffInterval = c₀.incrementalBackoffInterval
  pending_le : c.pending ≤ c₀.pending
  backoff : c.incrementalBackoff = c₀.incrementalBackoff + (c₀.pending - c.pending) * c₀.incrementalBackoffInterval

namespace ReconcileAux

/-- A shut-down controller starts no worker. -/
theorem starts_of_shutdown {c : Controller} (hs : c.shutdown = true) (e : Event) : c.starts e = false := by
  cases e <;> simp [Controller.starts, hs]

/-- Every event keeps `Drains`: a tick and `Stop` change nothing, an increment moves one pending worker to sleep and adds
one interval, a wake-up ends one sleeping worker. -/
theorem Drains.step {c₀ c : Controller} (h : Drains c₀ c) (e : Event) : Drains c₀ (c.step e) := by
  obtain ⟨hs, hi, hp, hb⟩ := h
  cases e with
  | tick ok => rw [Controller.step, Controller.sync, if_pos hs]; exact ⟨hs, hi, hp, hb⟩
  | increment =>
    rw [Controller.step, Controller.requeueIncrement]
    split
    · exact ⟨hs, hi, hp, hb⟩
    · -- one pending worker runs its increment
      have hk : c₀.pending - (c.pending - 1) = (c₀.pending - c.pending) + 1 := by omega
      exact ⟨hs, hi, by dsimp only; omega, by simp only [hk, Nat.add_mul, Nat.one_mul, hb, hi, Nat.add_assoc]⟩
  | wake => rw [Controller.step, Controller.requeueWake]; split <;> exact ⟨hs, hi, hp, hb⟩
  | stop ok => rw [Controller.step, Controller.stop, if_neg (by simp [hs])]; exact ⟨hs, hi, hp, hb⟩

theorem Drains.run {c₀ : Controller} : ∀ (events : List Event) (c : Controller), Drains c₀ c →
    Drains c₀ (c.run events) ∧ Controller.countRun Controller.starts c events = 0
  | [], _, h => ⟨h, rfl⟩
  | e :: events, c, h => by
    obtain ⟨h', hn⟩ := Drains.run events _ (Drains.step h e)
    rw [run_cons, Controller.countRun, starts_of_shutdown h.shutdown e, hn]
    exact ⟨h', rfl⟩

/-- A successful `Stop` leaves the controller shut down and changes nothing else, whether or not it was the first. -/
theorem stop_ok (c : Controller) : (c.stop true).1 = { c with shutdown := true } := by
  unfold Controller.stop
  split
  · rfl
  · obtain ⟨s, b, i, p, w⟩ := c
    simp_all

end ReconcileAux

/-- Whatever runs after a successful `Stop`: the controller stays shut down, no tick starts a worker, the workers pending
at the stop only drain, and each that runs its increment still adds one interval to the backoff. -/
theorem run_after_stop (c : Controller) (events : List Event) :
    ((c.stop true).1.run events).shutdown = true ∧
      Controller.countRun Controller.starts (c.stop true).1 events = 0 ∧
      ((c.stop true).1.run events).pending ≤ c.pending ∧
      ((c.stop true).1.run events).incrementalBackoff =
        c.incrementalBackoff + (c.pending - ((c.stop true).1.run events).pending) * c.incrementalBackoffInterval := by
  rw [stop_ok]
  obtain ⟨⟨hs, -, hp, hb⟩, hn⟩ := Drains.run events { c with shutdown := true }
    ⟨rfl, rfl, Nat.le_refl _, by simp⟩
  exact ⟨hs, hn, hp, hb⟩

end RancherLb
