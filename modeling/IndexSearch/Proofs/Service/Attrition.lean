import IndexSearch.Proofs.Service.Delivery

/-!
# Attrition of workers

What a task does to the worker that took it. A worker outlives a task that gives up while it runs,
as it outlives one that completes. A task that gives up before it runs takes its worker with it:
an open pool has lost one worker to each such task and to nothing else. It accepts what is
dispatched and drops nothing as long as one worker is left, which is as long as there were fewer
such tasks than workers.
-/

namespace IndexSearch

variable {τ : Type}

namespace WorkerPool

variable {fate : τ → TaskFate} {pool next later : WorkerPool τ} {index size : Nat} {task : τ}

def present (pool : WorkerPool τ) : Nat :=
  pool.workers.countP fun worker => !worker.isGone

/-- How many tasks gave up before they ran. -/
def losses (fate : τ → TaskFate) (pool : WorkerPool τ) : Nat :=
  pool.failed.countP fun task => fate task = .failsStarting

theorem isStaffed_iff_present : pool.isStaffed = true ↔ 0 < pool.present := by
  rw [isStaffed, List.any_eq_true, present, List.countP_pos_iff]

theorem workers_setWorker (worker : Worker τ) :
    (pool.setWorker index worker).workers = pool.workers.set index worker := by
  rw [setWorker]
  split <;> rfl

theorem present_setWorker (worker : Worker τ) :
    (pool.setWorker index worker).present =
      present { pool with workers := pool.workers.set index worker } := by
  rw [present, workers_setWorker, present]

/-- A worker that is there is counted once before its state is set, and afterwards unless it is
gone. -/
theorem present_set {old : Worker τ} (h : pool.workers[index]? = some old)
    (here : old.isGone = false) (new : Worker τ) :
    present { pool with workers := pool.workers.set index new } + 1 =
      pool.present + if new.isGone then 0 else 1 := by
  obtain ⟨hindex, hold⟩ := List.getElem?_eq_some_iff.mp h
  have hmem : old ∈ pool.workers := List.mem_of_getElem? h
  have hpos : 0 < pool.present := List.countP_pos_iff.mpr ⟨old, hmem, by simp [here]⟩
  rw [present] at hpos
  simp only [present]
  rw [List.countP_set hindex, hold, here]
  cases new.isGone
  · simp only [Bool.not_false, if_true, Bool.false_eq_true, if_false]
    omega
  · simp only [Bool.not_false, Bool.not_true, if_true, Bool.false_eq_true, if_false]
    omega

theorem present_set_eq {old new : Worker τ} (h : pool.workers[index]? = some old)
    (here : old.isGone = false) (stays : new.isGone = false) :
    present { pool with workers := pool.workers.set index new } = pool.present := by
  have hcount := present_set h here new
  rw [stays] at hcount
  exact Nat.add_right_cancel hcount

theorem present_set_gone {old : Worker τ} (h : pool.workers[index]? = some old)
    (here : old.isGone = false) : (pool.setWorker index .gone).present + 1 = pool.present := by
  rw [present_setWorker]
  exact present_set h here .gone

/-- The queue is dropped only with the last worker. -/
theorem setWorker_of_present {worker : Worker τ}
    (left : 0 < (pool.setWorker index worker).present) :
    pool.setWorker index worker = { pool with workers := pool.workers.set index worker } := by
  rw [present_setWorker, ← isStaffed_iff_present] at left
  rw [setWorker]
  exact if_pos left

/-- After a task that got to run its worker is idle, and no worker more is lost than before. -/
theorem step?_settle_of_starts (busy : pool.workers[index]? = some (.busy task))
    (starts : fate task ≠ .failsStarting) :
    ∃ completed failed, pool.step? fate (.settle index) = some { pool with
        workers := pool.workers.set index .idle, completed := completed, failed := failed } ∧
      losses fate { pool with failed := failed } = pool.losses fate := by
  cases hfate : fate task with
  | completes =>
    refine ⟨pool.completed ++ [task], pool.failed, ?_, rfl⟩
    simp only [step?, busy, hfate, setWorker_idle busy]
  | failsRunning =>
    refine ⟨pool.completed, pool.failed ++ [task], step?_settle_of_failsRunning busy hfate, ?_⟩
    simp [losses, hfate]
  | failsStarting => exact absurd hfate starts

theorem step?_settle_of_failsStarting (busy : pool.workers[index]? = some (.busy task))
    (fails : fate task = .failsStarting) :
    pool.step? fate (.settle index) =
      some { pool.setWorker index .gone with failed := pool.failed ++ [task] } := by
  simp only [step?, busy, fails]

/-- A worker that is gone takes nothing. -/
theorem step?_take_of_gone (gone : pool.workers[index]? = some .gone) :
    pool.step? fate (.take index) = none := by
  simp only [step?, gone]

theorem isOpen_setWorker (worker : Worker τ) :
    (pool.setWorker index worker).isOpen = pool.isOpen := by
  rw [setWorker]
  split <;> rfl

/-- A pool that has been closed stays closed. -/
theorem isOpen_of_step {action : PoolAction τ} (h : pool.step? fate action = some next)
    (isOpen : next.isOpen = true) : pool.isOpen = true := by
  cases action with
  | dispatch task =>
    simp only [step?] at h
    split at h
    · assumption
    · cases h
  | take index =>
    simp only [step?] at h
    split at h
    · cases h
      exact isOpen
    · cases h
  | settle index =>
    simp only [step?] at h
    split at h
    · split at h
      all_goals
        cases h
        exact (isOpen_setWorker _).symm.trans isOpen
    · cases h
  | close =>
    simp only [step?] at h
    split at h
    · assumption
    · cases h
  | leave index =>
    simp only [step?] at h
    split at h
    · split at h
      · cases h
      · cases h
        exact (isOpen_setWorker _).symm.trans isOpen
    · cases h
  | finish =>
    simp only [step?] at h
    split at h
    · cases h
    · cases h
      exact isOpen

/-- A pool that has lost a worker to each task that gave up before it ran, and has dropped nothing
while one is left. -/
structure Wears (fate : τ → TaskFate) (size : Nat) (pool : WorkerPool τ) : Prop where
  headcount : pool.present + pool.losses fate = size
  keeps : 0 < pool.present → pool.dropped = []

namespace Wears

theorem dispatch (wears : pool.Wears fate size) (task : τ) :
    (pool.dispatch task).2.Wears fate size := by
  rw [WorkerPool.dispatch]
  split
  · exact ⟨wears.headcount, wears.keeps⟩
  · rename_i hunstaffed
    refine ⟨wears.headcount, fun hleft => ?_⟩
    exact absurd (isStaffed_iff_present.mpr hleft) hunstaffed

theorem take (wears : pool.Wears fate size) (idle : pool.workers[index]? = some .idle)
    (task : τ) (rest : List τ) :
    Wears fate size { pool with workers := pool.workers.set index (.busy task), queue := rest } := by
  have hsame : present { pool with workers := pool.workers.set index (.busy task) } =
      pool.present := present_set_eq idle rfl rfl
  constructor
  · exact (congrArg (· + pool.losses fate) hsame).trans wears.headcount
  · intro hleft
    exact wears.keeps (hsame ▸ hleft)

theorem settle (wears : pool.Wears fate size) (busy : pool.workers[index]? = some (.busy task))
    (h : pool.step? fate (.settle index) = some next) : next.Wears fate size := by
  by_cases hfate : fate task = .failsStarting
  · rw [step?_settle_of_failsStarting busy hfate] at h
    cases h
    have hcount : (pool.setWorker index .gone).present + 1 = pool.present :=
      present_set_gone busy rfl
    have hlost : losses fate { pool with failed := pool.failed ++ [task] } =
        pool.losses fate + 1 := by simp [losses, hfate]
    constructor
    · change (pool.setWorker index .gone).present +
        losses fate { pool with failed := pool.failed ++ [task] } = size
      have hsize := wears.headcount
      omega
    · intro hleft
      change (pool.setWorker index .gone).dropped = []
      rw [setWorker_of_present hleft]
      exact wears.keeps (by omega)
  · obtain ⟨completed, failed, hstep, hlosses⟩ := step?_settle_of_starts busy hfate
    rw [hstep] at h
    cases h
    have hsame : present { pool with workers := pool.workers.set index .idle } = pool.present :=
      present_set_eq busy rfl rfl
    constructor
    · change present { pool with workers := pool.workers.set index .idle } +
        losses fate { pool with failed := failed } = size
      rw [hsame, hlosses]
      exact wears.headcount
    · intro hleft
      exact wears.keeps (hsame ▸ hleft)

/-- Whatever happens to a pool that stays open, only a task that gave up before it ran costs it a
worker. -/
theorem step (wears : pool.Wears fate size) {action : PoolAction τ}
    (h : pool.step? fate action = some next) (isOpen : next.isOpen = true) :
    next.Wears fate size := by
  have hopen : pool.isOpen = true := isOpen_of_step h isOpen
  cases action with
  | dispatch task =>
    simp only [step?, hopen, if_true] at h
    cases h
    exact wears.dispatch task
  | take index =>
    simp only [step?] at h
    split at h
    · rename_i hidle _
      cases h
      exact wears.take hidle _ _
    · cases h
  | settle index =>
    have hbusy : ∃ task, pool.workers[index]? = some (.busy task) := by
      simp only [step?] at h
      split at h
      · rename_i hbusy
        exact ⟨_, hbusy⟩
      · cases h
    obtain ⟨task, hbusy⟩ := hbusy
    exact wears.settle hbusy h
  | close =>
    simp only [step?, hopen, if_true] at h
    cases h
    exact absurd isOpen Bool.false_ne_true
  | leave index =>
    -- no worker leaves an open pool
    simp only [step?, hopen, if_true] at h
    split at h <;> cases h
  | finish =>
    simp only [step?, hopen, Bool.true_or, if_true] at h
    cases h

end Wears

section Run

variable {actions : List (PoolAction τ)}

theorem isOpen_of_run (ran : pool.run? fate actions = some later) (isOpen : later.isOpen = true) :
    pool.isOpen = true := by
  induction actions generalizing pool with
  | nil =>
    obtain rfl : pool = later := by simpa [run?] using ran
    exact isOpen
  | cons action actions ih =>
    obtain ⟨next, hnext, hrest⟩ := exists_step_of_run? ran
    exact isOpen_of_step hnext (ih hrest)

/-- A run that leaves a pool open costs it a worker for each task that gave up before it ran. -/
theorem run_wears (wears : pool.Wears fate size) (ran : pool.run? fate actions = some later)
    (isOpen : later.isOpen = true) : later.Wears fate size := by
  induction actions generalizing pool with
  | nil =>
    obtain rfl : pool = later := by simpa [run?] using ran
    exact wears
  | cons action actions ih =>
    obtain ⟨next, hnext, hrest⟩ := exists_step_of_run? ran
    exact ih (wears.step hnext (isOpen_of_run hrest isOpen)) hrest

end Run

theorem wears_of_ofSize (opened : ofSize size = .ok pool) : pool.Wears fate size := by
  obtain ⟨-, -, rfl⟩ := intact_of_ofSize opened
  refine ⟨?_, fun _ => rfl⟩
  simp only [present, losses, List.countP_nil, Nat.add_zero]
  exact List.countP_replicate

/-- How an open pool of a size stands to the tasks that gave up. -/
structure Outlives (fate : τ → TaskFate) (size : Nat) (pool : WorkerPool τ) : Prop where
  /-- A worker that was to run its task goes on to the next one, whatever became of it. -/
  goes_on : ∀ (index : Nat) (task : τ), pool.workers[index]? = some (.busy task) →
    fate task ≠ .failsStarting → ∃ next, pool.step? fate (.settle index) = some next ∧
      next.queue = pool.queue ∧ next.present = pool.present ∧
      ∀ first rest, pool.queue = first :: rest → next.step? fate (.take index) =
        some { next with workers := next.workers.set index (.busy first), queue := rest }
  /-- A task that gives up before it runs takes its worker with it. -/
  lost : ∀ (index : Nat) (task : τ), pool.workers[index]? = some (.busy task) →
    fate task = .failsStarting → ∃ next, pool.step? fate (.settle index) = some next ∧
      next.present + 1 = pool.present ∧ next.step? fate (.take index) = none
  headcount : pool.present + pool.losses fate = size
  accepts_iff : ∀ task, (pool.dispatch task).1 = true ↔ pool.losses fate < size
  keeps : pool.losses fate < size → pool.dropped = []

theorem dispatch_accepts_iff (task : τ) : (pool.dispatch task).1 = true ↔ 0 < pool.present := by
  rw [← isStaffed_iff_present, dispatch]
  split
  · rename_i hstaffed
    exact iff_of_true rfl hstaffed
  · rename_i hunstaffed
    exact iff_of_false Bool.false_ne_true hunstaffed

/-- Whatever becomes of tasks, and whatever actions a new pool goes through, while it is open it has
lost one worker to each task that gave up before it ran, and no other. -/
theorem run_outlives {actions : List (PoolAction τ)} (opened : ofSize size = .ok pool)
    (ran : pool.run? fate actions = some later) (isOpen : later.isOpen = true) :
    later.Outlives fate size := by
  have hwears : later.Wears fate size := run_wears (wears_of_ofSize opened) ran isOpen
  have hleft : 0 < later.present ↔ later.losses fate < size := by
    have hsize := hwears.headcount
    omega
  refine ⟨fun index task busy starts => ?_, fun index task busy fails => ?_, hwears.headcount,
    fun task => (dispatch_accepts_iff task).trans hleft, fun h => hwears.keeps (hleft.mpr h)⟩
  · obtain ⟨completed, failed, hstep, -⟩ := step?_settle_of_starts busy starts
    refine ⟨_, hstep, rfl, present_set_eq busy rfl rfl, fun first rest hfirst => ?_⟩
    have hindex : index < later.workers.length := (List.getElem?_eq_some_iff.mp busy).1
    exact step?_take (List.getElem?_set_self hindex) hfirst
  · refine ⟨_, step?_settle_of_failsStarting busy fails, present_set_gone busy rfl,
      step?_take_of_gone ?_⟩
    have hindex : index < later.workers.length := (List.getElem?_eq_some_iff.mp busy).1
    change (later.setWorker index .gone).workers[index]? = some .gone
    rw [workers_setWorker]
    exact List.getElem?_set_self hindex

/-- Task 0 gives up before it runs, task 1 while it runs, the others do not. -/
def frail : Nat → TaskFate
  | 0 => .failsStarting
  | 1 => .failsRunning
  | _ => .completes

/-- Task 0 takes one of two workers with it; the other outlives task 1 and takes task 2. -/
theorem run_outlives_frail :
    ∃ later, pair.run? frail [.dispatch 0, .dispatch 1, .dispatch 2, .take 0, .take 1, .settle 0] =
        some later ∧ later.isOpen = true ∧ later.present = 1 ∧ later.dropped = [] ∧
      (later.dispatch 3).1 = true ∧
      ∃ next, later.step? frail (.settle 1) = some next ∧ next.queue = [2] ∧ next.present = 1 ∧
        (next.step? frail (.take 1)).isSome = true := by
  have opened : ofSize 2 = .ok pair := rfl
  have ran : pair.run? frail
      [.dispatch 0, .dispatch 1, .dispatch 2, .take 0, .take 1, .settle 0] =
        some { workers := [.gone, .busy 1], queue := [2], failed := [0] } := rfl
  have outlives := run_outlives opened ran rfl
  have hlosses : losses frail { workers := [.gone, .busy 1], queue := [2], failed := [0] } < 2 := by
    decide
  obtain ⟨next, hstep, hqueue, hpresent, htake⟩ := outlives.goes_on 1 1 rfl (by decide)
  refine ⟨_, ran, rfl, rfl, outlives.keeps hlosses, (outlives.accepts_iff 3).mpr hlosses, next,
    hstep, hqueue, hpresent, ?_⟩
  rw [htake 2 [] rfl]
  rfl

/-- A pool of one worker is left without any by a task that gives up before it runs. What is queued
behind the task is dropped, and nothing is accepted any more. -/
theorem worker_lost_before_task_runs :
    ∃ pool : WorkerPool Nat, ofSize 1 = .ok pool ∧
      ∃ later, pool.run? frail [.dispatch 0, .dispatch 2, .take 0, .settle 0] = some later ∧
        later.isOpen = true ∧ later.present = 0 ∧ later.dropped = [2] ∧
        ∀ task, (later.dispatch task).1 = false :=
  ⟨{ workers := [.idle] }, rfl, { workers := [.gone], failed := [0], dropped := [2] }, rfl, rfl, rfl,
    rfl, fun _ => rfl⟩

end WorkerPool

end IndexSearch
