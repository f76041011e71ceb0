import Mathlib.Algebra.BigOperators.Group.List.Basic
import Mathlib.Algebra.GroupWithZero.Nat
import StaticInjection.Proofs.Diagnostic.Report

/-! # Tasks that run together

Each module has one task. Tasks wait for a permit, report their diagnostics into one
log while others report theirs, and end; their results are taken in any order. What
is taken in the end is the result of every task, and the log says of each module what
its task reports, in that order. -/

namespace StaticInjection

structure Task (α : Type) where
  module : ModuleId
  /-- What it has still to report, in this order. -/
  reports : List Diagnostic
  result : α

/-- Tasks and results are in no order, except for results that have been taken. -/
structure Pool (α : Type) where
  waiting : List (Task α)
  running : List (Task α)
  ended : List α
  taken : List α
  log : List Diagnostic

namespace Task

variable {α : Type}

/-- What a task reports is about its own module. -/
def OwnReports (task : Task α) : Prop :=
  ∀ diagnostic ∈ task.reports, diagnostic.scope = some task.module

/-- What tasks report is told apart by the modules. -/
structure Apart (tasks : List (Task α)) : Prop where
  modules : (tasks.map (·.module)).Nodup
  own : ∀ task ∈ tasks, task.OwnReports

def allReports (tasks : List (Task α)) : List Diagnostic :=
  tasks.flatMap (·.reports)

namespace Apart

variable {tasks others : List (Task α)}

theorem perm (apart : Apart tasks) (same : tasks.Perm others) : Apart others :=
  ⟨(same.map _).nodup_iff.mp apart.modules, fun task member => apart.own task (same.mem_iff.mpr member)⟩

theorem tail {task : Task α} (apart : Apart (task :: tasks)) : Apart tasks :=
  ⟨(List.nodup_cons.mp apart.modules).2, fun other member =>
    apart.own other (List.mem_cons_of_mem _ member)⟩

/-- Only the task of a module reports about it. -/
theorem filter_reports (apart : Apart tasks) {task : Task α} (member : task ∈ tasks) :
    (allReports tasks).filter (·.scope == some task.module) = task.reports := by
  induction tasks with
  | nil => cases member
  | cons head rest induction =>
      obtain ⟨fresh, _⟩ := List.nodup_cons.mp apart.modules
      have restSilent : ∀ diagnostic ∈ allReports rest, diagnostic.scope ≠ some head.module := by
        intro diagnostic report scope
        obtain ⟨other, listed, report⟩ := List.mem_flatMap.mp report
        rw [apart.tail.own other listed diagnostic report] at scope
        exact fresh (List.mem_map.mpr ⟨other, listed, Option.some.inj scope⟩)
      rw [allReports, List.flatMap_cons, List.filter_append]
      rcases List.mem_cons.mp member with equal | later
      · subst equal
        have own : task.reports.filter (·.scope == some task.module) = task.reports :=
          List.filter_eq_self.mpr fun diagnostic report => by
            simp [apart.own task List.mem_cons_self diagnostic report]
        have none : (allReports rest).filter (·.scope == some task.module) = [] :=
          List.filter_eq_nil_iff.mpr fun diagnostic report => by
            simpa using restSilent diagnostic report
        exact (congrArg₂ _ own none).trans (List.append_nil _)
      · have different : head.module ≠ task.module := fun same =>
          fresh (List.mem_map.mpr ⟨task, later, same.symm⟩)
        have none : head.reports.filter (·.scope == some task.module) = [] :=
          List.filter_eq_nil_iff.mpr fun diagnostic report => by
            rw [apart.own head List.mem_cons_self diagnostic report]
            simpa using different
        exact (congrArg₂ _ none (induction apart.tail later)).trans (List.nil_append _)

theorem filter_reports_of_none (apart : Apart tasks) {scope : Option ModuleId}
    (none : ∀ task ∈ tasks, some task.module ≠ scope) :
    (allReports tasks).filter (·.scope == scope) = [] := by
  refine List.filter_eq_nil_iff.mpr fun diagnostic report => ?_
  obtain ⟨task, member, report⟩ := List.mem_flatMap.mp report
  rw [apart.own task member diagnostic report]
  simpa using none task member

/-- What is reported about each module does not depend on the order of the tasks. -/
theorem alike (apart : Apart tasks) (same : tasks.Perm others) :
    Diagnostic.Alike (allReports tasks) (allReports others) := by
  intro scope
  by_cases some : ∃ task ∈ tasks, some task.module = scope
  · obtain ⟨task, member, rfl⟩ := some
    rw [apart.filter_reports member, (apart.perm same).filter_reports (same.mem_iff.mp member)]
  · have none : ∀ task ∈ tasks, Option.some task.module ≠ scope := fun task member equal =>
      some ⟨task, member, equal⟩
    rw [apart.filter_reports_of_none none, (apart.perm same).filter_reports_of_none
      fun task member => none task (same.mem_iff.mpr member)]

end Apart

end Task

namespace Pool

variable {α : Type} {permits : Nat} {pool next : Pool α}

/-! ## Steps -/

def start (tasks : List (Task α)) (log : List Diagnostic) : Pool α :=
  { waiting := tasks, running := [], ended := [], taken := [], log }

/-- Nothing is left to do. -/
structure Finished (pool : Pool α) : Prop where
  waiting : pool.waiting = []
  running : pool.running = []
  ended : pool.ended = []

/-- What can happen next when so many tasks may run at once. -/
inductive Step (permits : Nat) (pool : Pool α) : Pool α → Prop
  | start {task : Task α} {waiting : List (Task α)} (free : pool.running.length < permits)
      (chosen : pool.waiting.Perm (task :: waiting)) :
      Step permits pool { pool with waiting, running := task :: pool.running }
  | report {task : Task α} {running : List (Task α)} {diagnostic : Diagnostic}
      {reports : List Diagnostic} (chosen : pool.running.Perm (task :: running))
      (first : task.reports = diagnostic :: reports) :
      Step permits pool { pool with
        running := { task with reports } :: running
        log := pool.log ++ [diagnostic] }
  | finish {task : Task α} {running : List (Task α)} (chosen : pool.running.Perm (task :: running))
      (silent : task.reports = []) :
      Step permits pool { pool with running, ended := task.result :: pool.ended }
  | take {result : α} {ended : List α} (chosen : pool.ended.Perm (result :: ended)) :
      Step permits pool { pool with ended, taken := pool.taken ++ [result] }

/-- A pool with a permit at least comes to its end only when everything is done. -/
theorem exists_step (positive : 0 < permits) (unfinished : ¬ pool.Finished) :
    ∃ next, pool.Step permits next := by
  cases isEnded : pool.ended with
  | cons result ended => exact ⟨_, .take (.of_eq isEnded)⟩
  | nil =>
      cases isRunning : pool.running with
      | cons task running =>
          cases isReports : task.reports with
          | nil => exact ⟨_, .finish (.of_eq isRunning) isReports⟩
          | cons diagnostic reports => exact ⟨_, .report (.of_eq isRunning) isReports⟩
      | nil =>
          cases isWaiting : pool.waiting with
          | cons task waiting =>
              have free : pool.running.length < permits := by simpa [isRunning] using positive
              exact ⟨_, .start free (.of_eq isWaiting)⟩
          | nil => exact absurd ⟨isWaiting, isRunning, isEnded⟩ unfinished

/-- How many steps are left. -/
def remaining (pool : Pool α) : Nat :=
  (pool.waiting.map (·.reports.length + 3)).sum + (pool.running.map (·.reports.length + 2)).sum +
    pool.ended.length

theorem Step.remaining_lt (step : pool.Step permits next) : next.remaining < pool.remaining := by
  unfold remaining
  cases step with
  | start free chosen =>
      rw [(chosen.map _).sum_eq]
      simp only [List.map_cons, List.sum_cons]
      omega
  | report chosen first =>
      rw [(chosen.map (·.reports.length + 2)).sum_eq]
      simp only [List.map_cons, List.sum_cons, first, List.length_cons]
      omega
  | finish chosen silent =>
      rw [(chosen.map (·.reports.length + 2)).sum_eq]
      simp only [List.map_cons, List.sum_cons, List.length_cons]
      omega
  | take chosen =>
      simp only [chosen.length_eq, List.length_cons]
      omega

/-! ## What all runs have in common -/

def pending (pool : Pool α) : List (Task α) :=
  pool.running ++ pool.waiting

/-- The pool is on the way from the tasks and the log that it began with. -/
structure Runs (tasks : List (Task α)) (log : List Diagnostic) (pool : Pool α) : Prop where
  apart : Task.Apart pool.pending
  results : (pool.taken ++ pool.ended ++ pool.pending.map (·.result)).Perm (tasks.map (·.result))
  log : Diagnostic.Alike (pool.log ++ Task.allReports pool.pending) (log ++ Task.allReports tasks)

variable {tasks : List (Task α)} {log : List Diagnostic}

theorem runs_start (apart : Task.Apart tasks) {begun : List Diagnostic}
    (alike : Diagnostic.Alike begun log) : (start tasks begun).Runs tasks log :=
  ⟨apart, .refl _, alike.append_right _⟩

namespace Runs

variable {others : List (Task α)}

theorem results_of_perm (runs : pool.Runs tasks log) (same : pool.pending.Perm others) :
    (pool.taken ++ pool.ended ++ others.map (·.result)).Perm (tasks.map (·.result)) :=
  ((same.map (·.result)).append_left _).symm.trans runs.results

theorem log_of_perm (runs : pool.Runs tasks log) (same : pool.pending.Perm others) :
    Diagnostic.Alike (pool.log ++ Task.allReports others) (log ++ Task.allReports tasks) :=
  ((runs.apart.alike same).append_left pool.log).symm.trans runs.log

theorem starts {task : Task α} {waiting : List (Task α)} (runs : pool.Runs tasks log)
    (chosen : pool.waiting.Perm (task :: waiting)) :
    Runs tasks log { pool with waiting, running := task :: pool.running } := by
  have same : pool.pending.Perm (task :: pool.running ++ waiting) :=
    (chosen.append_left pool.running).trans List.perm_middle
  exact ⟨runs.apart.perm same, runs.results_of_perm same, runs.log_of_perm same⟩

theorem reports {task : Task α} {running : List (Task α)} {diagnostic : Diagnostic}
    {rest : List Diagnostic} (runs : pool.Runs tasks log)
    (chosen : pool.running.Perm (task :: running)) (first : task.reports = diagnostic :: rest) :
    Runs tasks log { pool with
      running := { task with reports := rest } :: running
      log := pool.log ++ [diagnostic] } := by
  have same : pool.pending.Perm (task :: (running ++ pool.waiting)) := chosen.append_right _
  have apart := runs.apart.perm same
  have results := runs.results_of_perm same
  refine ⟨⟨apart.modules, ?_⟩, results, ?_⟩
  · intro other member
    rcases List.mem_cons.mp member with equal | later
    · subst equal
      exact fun report listed => apart.own task List.mem_cons_self report
        (first ▸ List.mem_cons_of_mem _ listed)
    · exact apart.own other (List.mem_cons_of_mem _ later)
  · -- The diagnostic only moves from the task into the log.
    have logged := runs.log_of_perm same
    rw [Task.allReports, List.flatMap_cons, first, List.cons_append, List.append_cons] at logged
    exact logged

theorem finishes {task : Task α} {running : List (Task α)} (runs : pool.Runs tasks log)
    (chosen : pool.running.Perm (task :: running)) (silent : task.reports = []) :
    Runs tasks log { pool with running, ended := task.result :: pool.ended } := by
  have same : pool.pending.Perm (task :: (running ++ pool.waiting)) := chosen.append_right _
  refine ⟨(runs.apart.perm same).tail, ?_, ?_⟩
  · have moved : (pool.taken ++ task.result :: pool.ended).Perm
        (task.result :: (pool.taken ++ pool.ended)) := List.perm_middle
    exact (moved.append_right _).trans (List.perm_middle.symm.trans (runs.results_of_perm same))
  · have logged := runs.log_of_perm same
    rw [Task.allReports, List.flatMap_cons, silent, List.nil_append] at logged
    exact logged

theorem takes {result : α} {ended : List α} (runs : pool.Runs tasks log)
    (chosen : pool.ended.Perm (result :: ended)) :
    Runs tasks log { pool with ended, taken := pool.taken ++ [result] } := by
  have moved : (pool.taken ++ [result] ++ ended).Perm (pool.taken ++ pool.ended) := by
    rw [List.append_assoc]
    exact (chosen.append_left _).symm
  exact ⟨runs.apart, (moved.append_right _).trans runs.results, runs.log⟩

/-- Every step keeps to the way. -/
theorem step (runs : pool.Runs tasks log) (step : pool.Step permits next) :
    next.Runs tasks log := by
  cases step with
  | start _ chosen => exact runs.starts chosen
  | report chosen first => exact runs.reports chosen first
  | finish chosen silent => exact runs.finishes chosen silent
  | take chosen => exact runs.takes chosen

/-- When everything is done, the results of all tasks are taken and all that they
report is in the log. -/
theorem finished (runs : pool.Runs tasks log) (finished : pool.Finished) :
    pool.taken.Perm (tasks.map (·.result)) ∧
      Diagnostic.Alike pool.log (log ++ Task.allReports tasks) := by
  have results := runs.results
  have logged := runs.log
  simp only [pending, finished.waiting, finished.running, finished.ended, Task.allReports,
    List.append_nil, List.map_nil, List.flatMap_nil] at results logged
  exact ⟨results, logged⟩

end Runs

end Pool

end StaticInjection
