import IndexSearch.Service.WorkerPool
import Mathlib.Data.List.Perm.Basic

/-!
# Delivery of tasks

A pool gives every task to one worker, in the order in which the tasks were dispatched, if no task
gives up before it runs. What an action does to such a pool is said once, by `Step`; the rest is
what every step keeps and, by induction on the actions, every run. Tasks may be equal, so they are
counted: a list of tasks stands for as many of each as are in it.
-/

namespace IndexSearch

variable {τ : Type}

def PoolAction.dispatched? : PoolAction τ → Option τ
  | .dispatch task => some task
  | _ => none

def dispatched (actions : List (PoolAction τ)) : List τ :=
  actions.filterMap PoolAction.dispatched?

namespace WorkerPool

variable {fate : τ → TaskFate} {pool next later : WorkerPool τ}

inductive Place where
  | queued
  | held (worker : Nat)
  | finished
deriving DecidableEq, Repr

/-- The tasks that are over, whatever became of them. -/
def finished (pool : WorkerPool τ) : List τ :=
  pool.completed ++ pool.failed

def Has (pool : WorkerPool τ) (task : τ) : Place → Prop
  | .queued => task ∈ pool.queue
  | .held worker => pool.workers[worker]? = some (.busy task)
  | .finished => task ∈ pool.finished

def taken? (pool : WorkerPool τ) : PoolAction τ → Option τ
  | .take _ => pool.queue.head?
  | _ => none

def taken (fate : τ → TaskFate) (pool : WorkerPool τ) : List (PoolAction τ) → List τ
  | [] => []
  | action :: actions =>
    (pool.taken? action).toList ++
      match pool.step? fate action with
      | some next => next.taken fate actions
      | none => []

/-- What an action does to a pool that has its workers, if every task gets to run. -/
inductive Step (fate : τ → TaskFate) (pool : WorkerPool τ) : PoolAction τ → WorkerPool τ → Prop
  | dispatch (task : τ) (isOpen : pool.isOpen = true) :
    Step fate pool (.dispatch task) { pool with queue := pool.queue ++ [task] }
  | take {index : Nat} {task : τ} {rest : List τ} (idle : pool.workers[index]? = some .idle)
      (queue : pool.queue = task :: rest) :
    Step fate pool (.take index)
      { pool with workers := pool.workers.set index (.busy task), queue := rest }
  | complete {index : Nat} {task : τ} (busy : pool.workers[index]? = some (.busy task))
      (completes : fate task = .completes) :
    Step fate pool (.settle index) { pool with
      workers := pool.workers.set index .idle, completed := pool.completed ++ [task] }
  | fail {index : Nat} {task : τ} (busy : pool.workers[index]? = some (.busy task))
      (fails : fate task = .failsRunning) :
    Step fate pool (.settle index) { pool with
      workers := pool.workers.set index .idle, failed := pool.failed ++ [task] }
  | close (isOpen : pool.isOpen = true) : Step fate pool .close { pool with isOpen := false }
  | leave {index : Nat} (idle : pool.workers[index]? = some .idle) (queue : pool.queue = [])
      (closed : pool.isOpen = false) :
    Step fate pool (.leave index) { pool with workers := pool.workers.set index .gone }
  | finish (closed : pool.isOpen = false) (unstaffed : pool.isStaffed = false) :
    Step fate pool .finish { pool with isShutDown := true }

/-- A pool of a size whose workers stay until it is closed and its queue is empty, and are all gone
when it is shut down. -/
structure Intact (size : Nat) (pool : WorkerPool τ) : Prop where
  length_workers : pool.workers.length = size
  staying : .gone ∈ pool.workers → pool.isOpen = false ∧ pool.queue = []
  allGone : pool.isShutDown = true → ∀ worker ∈ pool.workers, worker = .gone

theorem isStaffed_of_mem {worker : Worker τ} (mem : worker ∈ pool.workers)
    (present : worker ≠ .gone) : pool.isStaffed = true := by
  refine List.any_eq_true.mpr ⟨worker, mem, ?_⟩
  cases worker <;> simp_all [Worker.isGone]

theorem eq_gone_of_not_isStaffed (unstaffed : pool.isStaffed = false) {worker : Worker τ}
    (mem : worker ∈ pool.workers) : worker = .gone := by
  by_contra present
  exact Bool.false_ne_true (unstaffed.symm.trans (isStaffed_of_mem mem present))

/-- Nothing is dropped when a worker that was there is there afterwards. -/
theorem setWorker_idle {index : Nat} {old : Worker τ} (h : pool.workers[index]? = some old) :
    pool.setWorker index .idle = { pool with workers := pool.workers.set index .idle } := by
  have hindex : index < pool.workers.length := (List.getElem?_eq_some_iff.mp h).1
  have hstaffed : isStaffed { pool with workers := pool.workers.set index .idle } = true :=
    isStaffed_of_mem (List.mem_set hindex .idle) nofun
  simp only [setWorker, hstaffed, if_true]

theorem setWorker_of_queue_nil (queue : pool.queue = []) (index : Nat) (worker : Worker τ) :
    pool.setWorker index worker = { pool with workers := pool.workers.set index worker } := by
  simp only [setWorker, queue, List.append_nil]
  split <;> rfl

namespace Intact

variable {size : Nat}

theorem gone_not_mem (intact : pool.Intact size) (needed : pool.isOpen = true ∨ pool.queue ≠ []) :
    .gone ∉ pool.workers := by
  intro hgone
  obtain ⟨hclosed, hqueue⟩ := intact.staying hgone
  rcases needed with hopen | hfilled
  · exact Bool.false_ne_true (hclosed.symm.trans hopen)
  · exact hfilled hqueue

theorem exists_worker (intact : pool.Intact size) (nonempty : 0 < size) :
    ∃ worker, worker ∈ pool.workers :=
  List.exists_mem_of_length_pos (intact.length_workers.symm ▸ nonempty)

theorem isStaffed (intact : pool.Intact size) (nonempty : 0 < size)
    (needed : pool.isOpen = true ∨ pool.queue ≠ []) : pool.isStaffed = true := by
  obtain ⟨worker, hmem⟩ := intact.exists_worker nonempty
  exact isStaffed_of_mem hmem fun hgone => intact.gone_not_mem needed (hgone ▸ hmem)

/-- A worker that is there may do something else. -/
theorem set_workers (intact : pool.Intact size) {index : Nat} {old : Worker τ}
    (h : pool.workers[index]? = some old) (here : old ≠ .gone) (new : Worker τ)
    (stays : new ≠ .gone) :
    Intact size { pool with workers := pool.workers.set index new } := by
  refine ⟨(List.length_set ..).trans intact.length_workers, fun hgone => ?_, fun hdown => ?_⟩
  · exact intact.staying ((List.mem_or_eq_of_mem_set hgone).resolve_right stays.symm)
  · exact absurd (intact.allGone hdown old (List.mem_of_getElem? h)) here

/-- What else an action could do, it does only to a pool without workers. -/
theorem step (intact : pool.Intact size) (nonempty : 0 < size)
    (starts : ∀ task, fate task ≠ .failsStarting) {action : PoolAction τ}
    (h : pool.step? fate action = some next) : Step fate pool action next := by
  cases action with
  | dispatch task =>
    simp only [step?] at h
    split at h
    · rename_i hopen
      rw [WorkerPool.dispatch, if_pos (intact.isStaffed nonempty (.inl hopen))] at h
      cases h
      exact .dispatch task hopen
    · cases h
  | take index =>
    simp only [step?] at h
    split at h
    · rename_i hidle hqueue
      cases h
      exact .take hidle hqueue
    · cases h
  | settle index =>
    simp only [step?] at h
    split at h
    · rename_i task hbusy
      rw [setWorker_idle hbusy] at h
      split at h
      · rename_i hfate
        cases h
        exact .complete hbusy hfate
      · rename_i hfate
        cases h
        exact .fail hbusy hfate
      · rename_i hfate
        exact absurd hfate (starts task)
    · cases h
  | close =>
    simp only [step?] at h
    split at h
    · rename_i hopen
      cases h
      exact .close hopen
    · cases h
  | leave index =>
    simp only [step?] at h
    split at h
    · rename_i hidle hqueue
      split at h
      · cases h
      · rename_i hclosed
        rw [setWorker_of_queue_nil hqueue] at h
        cases h
        exact .leave hidle hqueue (by simpa using hclosed)
    · cases h
  | finish =>
    simp only [step?] at h
    split at h
    · cases h
    · rename_i hover
      simp only [Bool.or_eq_true, not_or, Bool.not_eq_true] at hover
      cases h
      exact .finish hover.1.1 hover.1.2

end Intact

/-- An intact pool stays intact: a worker leaves only when nothing can be queued any more, and once
the shutdown is over no worker is left that could do anything. -/
theorem Step.intact {size : Nat} {action : PoolAction τ} (step : Step fate pool action next)
    (before : pool.Intact size) : next.Intact size := by
  cases step with
  | dispatch task hopen =>
    refine ⟨before.length_workers, fun hgone => ?_, before.allGone⟩
    exact absurd hgone (before.gone_not_mem (.inl hopen))
  | take hidle hqueue =>
    rename_i task rest
    have hset := before.set_workers hidle nofun (.busy task) nofun
    refine ⟨hset.length_workers, fun hgone => ?_, hset.allGone⟩
    have hempty : pool.queue = [] := (hset.staying hgone).2
    exact absurd (hqueue.symm.trans hempty) (List.cons_ne_nil task rest)
  | complete hbusy _ =>
    have hset := before.set_workers hbusy nofun .idle nofun
    exact ⟨hset.length_workers, hset.staying, hset.allGone⟩
  | fail hbusy _ =>
    have hset := before.set_workers hbusy nofun .idle nofun
    exact ⟨hset.length_workers, hset.staying, hset.allGone⟩
  | close _ =>
    exact ⟨before.length_workers, fun hgone => ⟨rfl, (before.staying hgone).2⟩, before.allGone⟩
  | leave hidle hqueue hclosed =>
    refine ⟨(List.length_set ..).trans before.length_workers, fun _ => ⟨hclosed, hqueue⟩,
      fun hdown => ?_⟩
    exact nomatch before.allGone hdown _ (List.mem_of_getElem? hidle)
  | finish _ hunstaffed =>
    exact ⟨before.length_workers, before.staying,
      fun _ worker hmem => eq_gone_of_not_isStaffed hunstaffed hmem⟩

/-- What is taken is taken from the front of the queue, and what is dispatched joins it at the
back. -/
theorem Step.queue_eq {action : PoolAction τ} (step : Step fate pool action next) :
    (pool.taken? action).toList ++ next.queue = pool.queue ++ action.dispatched?.toList := by
  cases step <;> simp_all [taken?, PoolAction.dispatched?]

/-- A worker's old task for its new one is all that changes among the tasks held. -/
theorem held_set_perm {workers : List (Worker τ)} {index : Nat} {old : Worker τ}
    (h : workers[index]? = some old) (new : Worker τ) :
    (new.task?.toList ++ workers.filterMap Worker.task?).Perm
      (old.task?.toList ++ (workers.set index new).filterMap Worker.task?) := by
  simp only [List.filterMap_eq_flatMap_toList]
  induction workers generalizing index with
  | nil => simp at h
  | cons worker workers ih =>
    cases index with
    | zero =>
      obtain rfl : worker = old := by simpa using h
      exact List.perm_append_comm_assoc _ _ _
    | succ index =>
      have hrest := (ih (by simpa using h)).append_left worker.task?.toList
      exact (List.perm_append_comm_assoc _ _ _).trans
        (hrest.trans (List.perm_append_comm_assoc _ _ _))

/-- A task that a worker is done with may stand anywhere among those that are over. -/
theorem settled_perm {workers : List (Worker τ)} {index : Nat} {task : τ}
    (busy : workers[index]? = some (.busy task)) (before after : List τ) :
    (workers.filterMap Worker.task? ++ (before ++ after)).Perm
      ((workers.set index .idle).filterMap Worker.task? ++ (before ++ task :: after)) := by
  have hheld : (workers.filterMap Worker.task?).Perm
      (task :: (workers.set index .idle).filterMap Worker.task?) := held_set_perm busy .idle
  refine (hheld.append_right _).trans ?_
  rw [List.cons_append, ← List.append_assoc, ← List.append_assoc]
  exact List.perm_middle.symm

/-- A task that is taken is held, and a task that is no longer held is over. -/
theorem Step.held_perm {action : PoolAction τ} (step : Step fate pool action next) :
    ((pool.taken? action).toList ++ (pool.held ++ pool.finished)).Perm
      (next.held ++ next.finished) := by
  cases step with
  | dispatch | close | finish => exact List.Perm.refl _
  | take hidle hqueue =>
    rename_i task _
    have hheld := (held_set_perm hidle (.busy task)).append_right pool.finished
    rw [taken?, hqueue]
    rw [List.append_assoc] at hheld
    exact hheld
  | complete hbusy _ =>
    rename_i task _
    simpa [taken?, held, finished] using settled_perm hbusy pool.completed pool.failed
  | fail hbusy _ =>
    rename_i task _
    simpa [taken?, held, finished] using settled_perm hbusy (pool.completed ++ pool.failed) []
  | leave hidle _ _ =>
    exact (held_set_perm hidle .gone).append_right pool.finished

theorem mem_held_iff {task : τ} :
    task ∈ pool.held ↔ ∃ worker : Nat, pool.workers[worker]? = some (Worker.busy task) := by
  rw [held, List.mem_filterMap]
  constructor
  · rintro ⟨worker, hmem, htask⟩
    obtain ⟨index, hindex⟩ := List.mem_iff_getElem?.mp hmem
    cases worker with
    | busy other =>
      cases htask
      exact ⟨index, hindex⟩
    | idle | gone => cases htask
  · rintro ⟨index, hindex⟩
    exact ⟨.busy task, List.mem_of_getElem? hindex, rfl⟩

/-- Two workers hold two tasks. -/
theorem worker_unique (distinct : pool.held.Nodup) {task : τ} {first second : Nat}
    (hfirst : pool.workers[first]? = some (.busy task))
    (hsecond : pool.workers[second]? = some (.busy task)) : first = second := by
  obtain ⟨hlt, hfirst⟩ := List.getElem?_eq_some_iff.mp hfirst
  obtain ⟨hlt', hsecond⟩ := List.getElem?_eq_some_iff.mp hsecond
  have hapart := List.pairwise_iff_getElem.mp (List.pairwise_filterMap.mp distinct)
  rcases Nat.lt_trichotomy first second with h | h | h
  · exact absurd rfl (hapart _ _ hlt hlt' h task (by rw [hfirst]; rfl) task (by rw [hsecond]; rfl))
  · exact h
  · exact absurd rfl (hapart _ _ hlt' hlt h task (by rw [hsecond]; rfl) task (by rw [hfirst]; rfl))

/-- Where no task is twice, every task is in one place. -/
theorem existsUnique_place {task : τ}
    (distinct : (pool.queue ++ (pool.held ++ pool.finished)).Nodup)
    (mem : task ∈ pool.queue ++ (pool.held ++ pool.finished)) : ∃! place, pool.Has task place := by
  obtain ⟨-, hothers, hqueued⟩ := List.nodup_append.mp distinct
  obtain ⟨hheld, -, happart⟩ := List.nodup_append.mp hothers
  have apart {worker : Nat} (h : pool.Has task (.held worker)) :
      ¬ pool.Has task .queued ∧ ¬ pool.Has task .finished := by
    have hmem : task ∈ pool.held := mem_held_iff.mpr ⟨worker, h⟩
    exact ⟨fun hqueue => hqueued task hqueue task (List.mem_append_left _ hmem) rfl,
      fun hfinished => happart task hmem task hfinished rfl⟩
  have notQueued (h : pool.Has task .finished) : ¬ pool.Has task .queued := fun hqueue =>
    hqueued task hqueue task (List.mem_append_right _ h) rfl
  have somewhere : ∃ place, pool.Has task place := by
    rcases List.mem_append.mp mem with h | h
    · exact ⟨.queued, h⟩
    rcases List.mem_append.mp h with h | h
    · obtain ⟨worker, hworker⟩ := mem_held_iff.mp h
      exact ⟨.held worker, hworker⟩
    · exact ⟨.finished, h⟩
  refine existsUnique_of_exists_of_unique somewhere fun place other hplace hother => ?_
  match place, other with
  | .queued, .queued | .finished, .finished => rfl
  | .held _, .held _ => exact congrArg Place.held (worker_unique hheld hplace hother)
  | .queued, .held _ => exact absurd hplace (apart hother).1
  | .held _, .queued => exact absurd hother (apart hplace).1
  | .finished, .held _ => exact absurd hplace (apart hother).2
  | .held _, .finished => exact absurd hother (apart hplace).2
  | .queued, .finished => exact absurd hplace (notQueued hother)
  | .finished, .queued => exact absurd hother (notQueued hplace)

section Run

variable {size : Nat} {actions : List (PoolAction τ)}

theorem exists_step_of_run? {action : PoolAction τ}
    (ran : pool.run? fate (action :: actions) = some later) :
    ∃ next, pool.step? fate action = some next ∧ next.run? fate actions = some later := by
  simpa [run?, List.foldlM_cons, Option.bind_eq_some_iff] using ran

/-- What every run of an intact pool keeps: it stays intact, tasks leave its queue in the order in
which they joined it, and those that left it are held or over. -/
theorem run_keeps (nonempty : 0 < size) (starts : ∀ task, fate task ≠ .failsStarting)
    (intact : pool.Intact size) (ran : pool.run? fate actions = some later) :
    later.Intact size ∧
      pool.taken fate actions ++ later.queue = pool.queue ++ dispatched actions ∧
      (pool.taken fate actions ++ (pool.held ++ pool.finished)).Perm
        (later.held ++ later.finished) := by
  induction actions generalizing pool with
  | nil =>
    obtain rfl : pool = later := by simpa [run?] using ran
    exact ⟨intact, by simp [taken, dispatched], by simp [taken]⟩
  | cons action actions ih =>
    obtain ⟨next, hnext, hrest⟩ := exists_step_of_run? ran
    have hstep := intact.step nonempty starts hnext
    obtain ⟨hlater, hqueue, hheld⟩ := ih (hstep.intact intact) hrest
    have htaken : pool.taken fate (action :: actions) =
        (pool.taken? action).toList ++ next.taken fate actions := by rw [taken, hnext]
    refine ⟨hlater, ?_, ?_⟩
    · have hdispatched : dispatched (action :: actions) =
          action.dispatched?.toList ++ dispatched actions := by
        simp [dispatched, List.filterMap_eq_flatMap_toList]
      rw [htaken, List.append_assoc, hqueue, ← List.append_assoc, hstep.queue_eq, hdispatched,
        List.append_assoc]
    · rw [htaken, List.append_assoc]
      exact (List.perm_append_comm_assoc _ _ _).trans
        ((hstep.held_perm.append_left _).trans hheld)

end Run

/-- A task that gives up while it runs is over, and nothing else changes but that its worker is
idle. -/
theorem step?_settle_of_failsRunning {index : Nat} {task : τ}
    (busy : pool.workers[index]? = some (.busy task)) (fails : fate task = .failsRunning) :
    pool.step? fate (.settle index) = some { pool with
      workers := pool.workers.set index .idle, failed := pool.failed ++ [task] } := by
  simp only [step?, busy, fails, setWorker_idle busy]

/-- An idle worker can take what is at the front of the queue. -/
theorem step?_take {index : Nat} (idle : pool.workers[index]? = some .idle) {task : τ}
    {rest : List τ} (queue : pool.queue = task :: rest) :
    pool.step? fate (.take index) =
      some { pool with workers := pool.workers.set index (.busy task), queue := rest } := by
  simp only [step?, idle, queue]

/-- How a pool of a size stands to the tasks dispatched to it and those taken from its queue. -/
structure Delivers (fate : τ → TaskFate) (size : Nat) (tasks taken : List τ)
    (pool : WorkerPool τ) : Prop where
  /-- A task is queued, held and over as often, taken together, as it was dispatched. -/
  accounted : tasks.Perm (pool.queue ++ (pool.held ++ pool.finished))
  one_place : tasks.Nodup → ∀ task ∈ tasks, ∃! place, pool.Has task place
  in_order : taken ++ pool.queue = tasks
  bounded : pool.held.length ≤ size
  /-- A task that gives up while it runs is over without a change to any other, and its worker can
  take the next one. -/
  survives : ∀ (index : Nat) (task : τ), pool.workers[index]? = some (.busy task) →
    fate task = .failsRunning → ∃ next, pool.step? fate (.settle index) = some next ∧
      next = { pool with
        workers := pool.workers.set index .idle, failed := pool.failed ++ [task] } ∧
      ∀ first rest, pool.queue = first :: rest → next.step? fate (.take index) =
        some { next with workers := next.workers.set index (.busy first), queue := rest }
  staffed : pool.isOpen = true ∨ pool.queue ≠ [] →
    pool.workers.length = size ∧ .gone ∉ pool.workers
  accepts : pool.isOpen = true → ∀ task, (pool.dispatch task).1 = true
  /-- After the shutdown every task that was dispatched is over, as often as it was dispatched. -/
  allFinished : pool.isShutDown = true → tasks.Perm pool.finished

theorem intact_of_ofSize {size : Nat} (opened : ofSize size = .ok pool) :
    0 < size ∧ pool.Intact size ∧ pool = { workers := List.replicate size .idle } := by
  rw [ofSize] at opened
  split at opened
  · cases opened
  · rename_i nonzero
    cases opened
    refine ⟨Nat.pos_of_ne_zero nonzero, ⟨List.length_replicate, fun hgone => ?_, nofun⟩, rfl⟩
    exact nomatch List.eq_of_mem_replicate hgone

/-- Whatever actions a new pool goes through, in whatever order, it runs every task once. -/
theorem run_delivers {size : Nat} {actions : List (PoolAction τ)}
    (starts : ∀ task, fate task ≠ .failsStarting) (opened : ofSize size = .ok pool)
    (ran : pool.run? fate actions = some later) :
    later.Delivers fate size (dispatched actions) (pool.taken fate actions) := by
  obtain ⟨nonempty, intact, hpool⟩ := intact_of_ofSize opened
  obtain ⟨hlater, hqueue, hheld⟩ := run_keeps nonempty starts intact ran
  have hstart : pool.queue = [] ∧ pool.held ++ pool.finished = [] := by
    simp [hpool, held, finished, Worker.task?]
  rw [hstart.1, List.nil_append] at hqueue
  rw [hstart.2, List.append_nil] at hheld
  have haccounted : (dispatched actions).Perm (later.queue ++ (later.held ++ later.finished)) := by
    rw [← hqueue]
    exact List.perm_append_comm.trans (hheld.append_left later.queue)
  refine ⟨haccounted, fun hdistinct task hmem => ?_, hqueue, ?_, fun index task hbusy hfails => ?_,
    fun hneeded => ⟨hlater.length_workers, hlater.gone_not_mem hneeded⟩, fun hopen task => ?_,
    fun hdown => ?_⟩
  · exact existsUnique_place (haccounted.nodup hdistinct) (haccounted.mem_iff.mp hmem)
  · rw [← hlater.length_workers]
    exact List.length_filterMap_le ..
  · refine ⟨_, step?_settle_of_failsRunning hbusy hfails, rfl, fun first rest hfirst => ?_⟩
    have hindex : index < later.workers.length := (List.getElem?_eq_some_iff.mp hbusy).1
    exact step?_take (List.getElem?_set_self hindex) hfirst
  · rw [dispatch, if_pos (hlater.isStaffed nonempty (.inl hopen))]
  · have hgone := hlater.allGone hdown
    have hworkers : later.held = [] := List.filterMap_eq_nil_iff.mpr fun worker hmem => by
      rw [hgone worker hmem]
      rfl
    obtain ⟨worker, hmem⟩ := hlater.exists_worker nonempty
    have hempty := (hlater.staying (hgone worker hmem ▸ hmem)).2
    rwa [hworkers, hempty, List.nil_append, List.nil_append] at haccounted

/-- The first task gives up while it runs, the others do not. -/
def fragile (task : Nat) : TaskFate :=
  if task = 0 then .failsRunning else .completes

/-- Three tasks for two workers, the last of them for the one whose first task gave up, and a
shutdown. -/
def mishap : List (PoolAction Nat) :=
  [.dispatch 0, .dispatch 1, .take 1, .dispatch 2, .take 0, .settle 1, .close, .take 1, .settle 1,
    .leave 1, .settle 0, .leave 0, .finish]

def pair : WorkerPool Nat where
  workers := [.idle, .idle]

def pairAfterMishap : WorkerPool Nat where
  workers := [.gone, .gone]
  completed := [2, 1]
  failed := [0]
  isOpen := false
  isShutDown := true

/-- While two tasks run each is with one worker; when the first gives up its worker takes the third;
in the end each of the three is over once. -/
theorem run_delivers_mishap :
    ofSize 2 = .ok pair ∧
      (∃ midway, pair.run? fragile (mishap.take 5) = some midway ∧ midway.Has 0 (.held 1) ∧
        (∃! place, midway.Has 0 place) ∧
        ∃ next, midway.step? fragile (.settle 1) = some next ∧ next.failed = [0] ∧
          ∃ last, next.step? fragile (.take 1) = some last ∧ last.Has 2 (.held 1)) ∧
      ∃ later, pair.run? fragile mishap = some later ∧ later.isShutDown = true ∧
        later.failed = [0] ∧ [0, 1, 2].Perm later.finished := by
  have starts : ∀ task, fragile task ≠ .failsStarting := by
    intro task
    unfold fragile
    split <;> nofun
  have opened : ofSize 2 = .ok pair := rfl
  have midway : pair.run? fragile (mishap.take 5) =
      some { workers := [.busy 1, .busy 0], queue := [2] } := rfl
  have ended : pair.run? fragile mishap = some pairAfterMishap := rfl
  have delivers := run_delivers starts opened midway
  obtain ⟨next, hnext, hsettled, htake⟩ := delivers.survives 1 0 rfl rfl
  refine ⟨opened, ⟨_, midway, rfl, delivers.one_place (by decide) 0 (by decide), next, hnext, ?_, _,
    htake 2 [] rfl, ?_⟩, _, ended, rfl, rfl, (run_delivers starts opened ended).allFinished rfl⟩
  · rw [hsettled]
    rfl
  · rw [hsettled]
    rfl

end WorkerPool

end IndexSearch
