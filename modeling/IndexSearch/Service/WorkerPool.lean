import IndexSearch.Fault
import IndexSearch.Text.Numeral

/-!
# Worker pools

A fixed number of workers take tasks from one queue, first in, first out. The pool is a
transition system: each action is possible in some states and leads to one next state. A task
that gives up while it runs is over like any other and its worker goes on; one that gives up
before it runs takes its worker with it. A pool whose workers are all gone drops its queue and
accepts nothing.
-/

namespace IndexSearch

/-- What becomes of a task in a worker's hands. -/
inductive TaskFate where
  | completes
  | failsRunning
  | failsStarting
deriving DecidableEq, Repr

inductive Worker (τ : Type) where
  | idle
  | busy (task : τ)
  | gone
deriving DecidableEq, Repr

namespace Worker

variable {τ : Type}

def isGone : Worker τ → Bool
  | .gone => true
  | _ => false

def task? : Worker τ → Option τ
  | .busy task => some task
  | _ => none

end Worker

/-- A worker pool with its queue and what has become of the tasks so far, in order. -/
structure WorkerPool (τ : Type) where
  workers : List (Worker τ)
  queue : List τ := []
  completed : List τ := []
  failed : List τ := []
  dropped : List τ := []
  isOpen : Bool := true
  isShutDown : Bool := false
deriving DecidableEq, Repr

inductive PoolAction (τ : Type) where
  | dispatch (task : τ)
  | take (worker : Nat)
  | settle (worker : Nat)
  | close
  | leave (worker : Nat)
  | finish
deriving DecidableEq, Repr

namespace WorkerPool

variable {τ : Type}

def ofSize (size : Nat) : Except Breach (WorkerPool τ) :=
  if size = 0 then .error .noWorkers else .ok { workers := List.replicate size .idle }

def size (pool : WorkerPool τ) : Nat :=
  pool.workers.length

def description (pool : WorkerPool τ) : Text :=
  "WorkerPool \x7b size: ".toList ++ Numeral.render pool.size ++ " \x7d".toList

def isStaffed (pool : WorkerPool τ) : Bool :=
  pool.workers.any fun worker => !worker.isGone

def held (pool : WorkerPool τ) : List τ :=
  pool.workers.filterMap Worker.task?

/-- The pool with a worker's state set. When the last worker is gone the queue is dropped. -/
def setWorker (pool : WorkerPool τ) (index : Nat) (worker : Worker τ) : WorkerPool τ :=
  let pool := { pool with workers := pool.workers.set index worker }
  if pool.isStaffed then pool
  else { pool with queue := [], dropped := pool.dropped ++ pool.queue }

/-- Queues a task for the next idle worker. The flag is false if every worker is gone, and the
task is then dropped. -/
def dispatch (pool : WorkerPool τ) (task : τ) : Bool × WorkerPool τ :=
  if pool.isStaffed then (true, { pool with queue := pool.queue ++ [task] })
  else (false, { pool with dropped := pool.dropped ++ [task] })

/-- The pool after an action, if the action is possible. Idle workers take the front of the queue;
busy ones settle their task; once the pool is closed and the queue is empty idle workers leave,
and when all are gone the shutdown is over. -/
def step? (fate : τ → TaskFate) (pool : WorkerPool τ) : PoolAction τ → Option (WorkerPool τ)
  | .dispatch task => if pool.isOpen then some (pool.dispatch task).2 else none
  | .take index =>
    match pool.workers[index]?, pool.queue with
    | some .idle, task :: rest =>
      some { pool with workers := pool.workers.set index (.busy task), queue := rest }
    | _, _ => none
  | .settle index =>
    match pool.workers[index]? with
    | some (.busy task) =>
      match fate task with
      | .completes => some { pool.setWorker index .idle with completed := pool.completed ++ [task] }
      | .failsRunning => some { pool.setWorker index .idle with failed := pool.failed ++ [task] }
      | .failsStarting => some { pool.setWorker index .gone with failed := pool.failed ++ [task] }
    | _ => none
  | .close => if pool.isOpen then some { pool with isOpen := false } else none
  | .leave index =>
    match pool.workers[index]?, pool.queue with
    | some .idle, [] => if pool.isOpen then none else some (pool.setWorker index .gone)
    | _, _ => none
  | .finish =>
    if pool.isOpen || pool.isStaffed || pool.isShutDown then none
    else some { pool with isShutDown := true }

def run? (fate : τ → TaskFate) (pool : WorkerPool τ) (actions : List (PoolAction τ)) :
    Option (WorkerPool τ) :=
  actions.foldlM (step? fate) pool

def dispatchAll (pool : WorkerPool τ) : List τ → List Bool × WorkerPool τ
  | [] => ([], pool)
  | task :: rest =>
    let (isAccepted, pool) := pool.dispatch task
    let (others, pool) := pool.dispatchAll rest
    (isAccepted :: others, pool)

/-- The schedule of a worker that works through the queue alone: it takes and settles a task for
every one queued, as far as it survives. -/
def alone (fate : τ → TaskFate) (index : Nat) : List τ → List (PoolAction τ)
  | [] => []
  | task :: rest =>
    .take index :: .settle index ::
      if fate task = .failsStarting then [] else alone fate index rest

/-- The pool when the workers, one after the other, have worked on the queue. -/
def drain (fate : τ → TaskFate) (pool : WorkerPool τ) : WorkerPool τ :=
  (List.range pool.size).foldl
    (fun pool index => (pool.run? fate (alone fate index pool.queue)).getD pool) pool

/-- The actions that end a pool without tasks: it is closed, its workers leave, and it is over. -/
def ending (pool : WorkerPool τ) : List (PoolAction τ) :=
  let present := (List.range pool.size).filter fun index =>
    (pool.workers[index]?.map Worker.isGone) == some false
  .close :: present.map .leave ++ [.finish]

def shutDown (fate : τ → TaskFate) (pool : WorkerPool τ) : WorkerPool τ :=
  let pool := pool.drain fate
  (pool.run? fate pool.ending).getD pool

/-- The life of a pool that is given tasks and then shut down: which tasks it accepted, and the
pool as it is left. -/
def lifetime (fate : τ → TaskFate) (size : Nat) (tasks : List τ) :
    Except Breach (List Bool × WorkerPool τ) := do
  let (accepted, pool) := (← ofSize size).dispatchAll tasks
  .ok (accepted, pool.shutDown fate)

end WorkerPool

end IndexSearch
