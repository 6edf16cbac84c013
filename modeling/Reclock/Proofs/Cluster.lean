/-
**A system whose cores interleave.**

`Reclock.System` lets the other cores come to rest between two actions of the one operation that
it runs.  Here every core goes its own way: it begins operations, makes their actions one by one,
and answers the quiesce interrupt step by step, and any core may be the next to move.  An action of
an operation and a step of an answer are the ones defined for the sequential system; only the order
is free.  A register read may return anything.

A core takes the interrupt only while it runs no operation, and begins an operation only while it
does not answer the interrupt.  The interrupt becomes pending through the operations, and through
a disturbance, which comes from nowhere.

Besides the memories and the cores the system keeps a record: the stage of every operation, counts
for every core, and what the operations have done.  Nothing that happens depends on the record.

Main definitions:

* `Reclock.Workload` — the operations that cores may run, each keeping to the protocol;
* `Reclock.Cluster`, `Reclock.Move` — the systems, and what can happen next;
* `Reclock.Cluster.step`, `Reclock.Cluster.run` — **one move, and a whole run**;
* `Reclock.Cluster.Effect` — what an action does, one case for each kind of action;
* `Reclock.Cluster.Along` — a condition on every move of a run;
* `Reclock.Controller.workload`, `Reclock.Workload.visits` — the transitions of a controller, and
  bare sessions with any set of cores of the system.

Main results:

* `Reclock.Cluster.invariant` — what every move keeps, a run keeps;
* `Reclock.Cluster.run_append` — runs in a row.
-/

import Mathlib.Logic.Function.Basic
import Reclock.Proofs.Answer
import Reclock.Proofs.Conduct

set_option relaxedAutoImplicit false
set_option autoImplicit false

namespace Reclock

/-! ### Workloads -/

/-- **The operations that the cores of a system may run**, each of them keeping to the protocol of
a session. -/
structure Workload (n : Nat) (Call : Type) where
  /-- The operation that carries out a call on a core. -/
  program : Call → Fin n → Operation TransitionError Unit
  /-- What a call is there for. -/
  purpose : Call → Purpose
  /-- Every operation keeps to the protocol. -/
  keeps : ∀ (call : Call) (core : Fin n),
    (program call core).Keeps (protocol ⟨n, core, purpose call⟩) {}
      (Stage.Ends ⟨n, core, purpose call⟩)

/-- What is known from the start of a call on a core. -/
def Workload.brief {n : Nat} {Call : Type} (w : Workload n Call) (call : Call) (core : Fin n) :
    Brief :=
  ⟨n, core, w.purpose call⟩

/-- The transitions of a controller. -/
def Controller.workload (c : Controller) : Workload c.coreCount Request where
  program request core := c.operation core request
  purpose := Request.purpose
  keeps request core := c.operation_keeps core request

/-- The sets of cores of a system of `n` cores. -/
abbrev Roster (n : Nat) := { online : CoreMask // (CoreMask.all n).containsAll online = true }

/-- Core 0 of a pair. -/
abbrev Cluster.lead : Fin 2 := ⟨0, Nat.zero_lt_two⟩

/-- Core 1 of a pair. -/
abbrev Cluster.peer : Fin 2 := ⟨1, Nat.one_lt_two⟩

/-- Both cores of a pair. -/
def Roster.both : Roster 2 := ⟨.all 2, by decide⟩

/-- Core 0 of a pair alone. -/
def Roster.alone : Roster 2 := ⟨.all 1, by decide⟩

/-- Bare sessions with any set of cores of the system. -/
def Workload.visits (n : Nat) : Workload n (Roster n) where
  program call core := Session.visit core call.val
  purpose call := .parks call.val
  keeps call _ := Session.visit_keeps rfl call.property

/-- Every operation gives the session back before it ends, if it was granted it. -/
def Workload.Returns {n : Nat} {Call : Type} (w : Workload n Call) : Prop :=
  ∀ (call : Call) (core : Fin n),
    (w.program call core).Keeps (protocol (w.brief call core)) {} fun _ s => s.holds = false

theorem Workload.visits_returns (n : Nat) : (visits n).Returns :=
  fun call _ => Session.visit_returns rfl call.property

/-! ### The systems -/

/-- Counts that concern one core. -/
structure Tally where
  /-- The interrupts it has ended since arrivals were last forgotten. -/
  ended : Nat := 0
  /-- The releases begun since it last sampled the epoch. -/
  spanned : Nat := 0
  /-- The releases finished since it last reported its arrival. -/
  outlasted : Nat := 0
  deriving DecidableEq

namespace Tally

/-- The counts after a step on the memory of the barrier. -/
def afterAccess (t : Tally) : BarrierAccess → Tally
  | .clearArrived => { t with ended := 0 }
  | .advanceEpoch => { t with spanned := t.spanned + 1 }
  | _ => t

/-- The counts after the core's own step from a phase. -/
def afterPhase (t : Tally) : Phase → Tally
  | .taken => { t with ended := t.ended + 1 }
  | .ended => { t with spanned := 0 }
  | .admitted _ => { t with outlasted := 0 }
  | _ => t

end Tally

/-- An operation under way on a core. -/
structure Task (Call : Type) where
  /-- Its number among all operations begun. -/
  id : Nat
  /-- The call that it carries out. -/
  call : Call
  /-- Its stage. -/
  stage : Stage
  /-- What is left of it. -/
  rest : Operation TransitionError Unit

/-- Something that an operation did. -/
inductive Feat
  /-- It made an action. -/
  | acted (a : Action)
  /-- It ended. -/
  | returned (result : Except TransitionError Unit)

/-- Something that an operation did, and which operation it was. -/
structure Deed (Call : Type) where
  /-- The number of the operation. -/
  id : Nat
  /-- The call that it carries out. -/
  call : Call
  /-- What it did. -/
  what : Feat

/-- **A system of `n` cores**, each on its own way. -/
structure Cluster (n : Nat) (Call : Type) where
  /-- The memory of the barrier. -/
  barrier : Barrier
  /-- The memory of retention. -/
  retention : Retention
  /-- The cores. -/
  cores : Fin n → Core
  /-- The counts of each core. -/
  tallies : Fin n → Tally
  /-- The operation under way on each core. -/
  tasks : Fin n → Option (Task Call)
  /-- How many operations have been begun. -/
  begun : Nat
  /-- What the operations have done, the latest first. -/
  history : List (Deed Call)

/-- What can happen next in a system. -/
inductive Move (n : Nat) (Call : Type)
  /-- A core begins an operation. -/
  | begin (core : Fin n) (call : Call)
  /-- A core makes the next action of its operation; a register read returns the value. -/
  | act (core : Fin n) (value : UInt32)
  /-- A core makes the next step of its answer to the interrupt. -/
  | respond (core : Fin n)
  /-- The interrupt becomes pending on a core without having been sent. -/
  | disturb (core : Fin n)
  deriving DecidableEq

/-- Whether a move is a disturbance. -/
def Move.disturbs {n : Nat} {Call : Type} : Move n Call → Bool
  | disturb _ => true
  | _ => false

namespace Cluster

variable {n : Nat} {Call : Type}

/-- A system in which nothing has happened. -/
def start (n : Nat) (Call : Type) (current : FrequencyIndex) (snapshot : Snapshot) :
    Cluster n Call where
  barrier := .start current
  retention := { snapshot }
  cores _ := {}
  tallies _ := {}
  tasks _ := none
  begun := 0
  history := []

/-! ### Moves -/

/-- The operation of a core ends. -/
def leave (s : Cluster n Call) (core : Fin n) (t : Task Call)
    (result : Except TransitionError Unit) : Cluster n Call :=
  { s with
    tasks := Function.update s.tasks core none
    history := ⟨t.id, t.call, .returned result⟩ :: s.history }

/-- A core goes on with an operation, which ends here if nothing is left of it. -/
def resume (s : Cluster n Call) (core : Fin n) (t : Task Call) : Cluster n Call :=
  match t.rest with
  | .done result => s.leave core t (.ok result)
  | .fail e => s.leave core t (.error e)
  | .act _ _ => { s with tasks := Function.update s.tasks core (some t) }

/-- A core begins an operation. -/
def launch (w : Workload n Call) (s : Cluster n Call) (core : Fin n) (call : Call) :
    Cluster n Call :=
  { s with begun := s.begun + 1 }.resume core ⟨s.begun, call, {}, w.program call core⟩

/-- The interrupt becomes pending on the cores of a set. -/
def interrupt (s : Cluster n Call) (targets : CoreMask) : Cluster n Call :=
  { s with
    cores := fun core =>
      if targets.contains core then { s.cores core with pending := true } else s.cores core }

/-- An event is latched on every core. -/
def sendEvent (s : Cluster n Call) : Cluster n Call :=
  { s with
    cores := fun core => { s.cores core with event := true }
    tallies := fun core =>
      { s.tallies core with outlasted := (s.tallies core).outlasted + 1 } }

/-- A step on the memory of the barrier has been made. -/
def accessed (s : Cluster n Call) (a : BarrierAccess) (barrier : Barrier) : Cluster n Call :=
  { s with barrier, tallies := fun core => (s.tallies core).afterAccess a }

/-- **What an action does**, and what it is answered with, if it can be made. -/
def perform (s : Cluster n Call) (value : UInt32) :
    (a : Action) → Option (a.Reply × Cluster n Call)
  | .access (.read _) => some (value, s)
  | .access (.write _ _) => some ((), s)
  | .signal (.interrupt targets) => some ((), s.interrupt targets)
  | .signal .event => some ((), s.sendEvent)
  | .signal .flush => some ((), s)
  | .log _ => some ((), s)
  | .barrier a => (a.apply s.barrier).map fun (reply, barrier) => (reply, s.accessed a barrier)
  | .retention a =>
      let (reply, retention) := a.apply s.retention
      some (reply, { s with retention })
  | .abort _ => none

/-- An operation has made an action. -/
def record (s : Cluster n Call) (t : Task Call) (a : Action) : Cluster n Call :=
  { s with history := ⟨t.id, t.call, .acted a⟩ :: s.history }

/-- The operation after an action. -/
def next (t : Task Call) (a : Action) (reply : a.Reply)
    (rest : Operation TransitionError Unit) : Task Call :=
  { t with stage := t.stage.after a reply, rest }

/-- A core makes the next action of its operation. -/
def act (s : Cluster n Call) (core : Fin n) (value : UInt32) : Option (Cluster n Call) :=
  match s.tasks core with
  | none => none
  | some t =>
      match t.rest with
      | .act a rest =>
          (s.perform value a).map fun (reply, s') =>
            (s'.record t a).resume core (next t a reply (rest reply))
      | _ => none

/-- A core makes the next step of its answer to the interrupt. -/
def respond (s : Cluster n Call) (core : Fin n) : Option (Cluster n Call) :=
  match s.tasks core with
  | some _ => none
  | none =>
      ((s.cores core).step core s.barrier).map fun (c, barrier) =>
        { s with
          barrier
          cores := Function.update s.cores core c
          tallies := Function.update s.tallies core
            ((s.tallies core).afterPhase (s.cores core).phase) }

/-- The interrupt becomes pending on a core. -/
def disturb (s : Cluster n Call) (core : Fin n) : Cluster n Call :=
  { s with cores := Function.update s.cores core { s.cores core with pending := true } }

/-- Whether a core may begin an operation. -/
def free (s : Cluster n Call) (core : Fin n) : Bool :=
  (s.tasks core).isNone && (s.cores core).phase = .idle

/-- **One move**, if it can be made. -/
def step (w : Workload n Call) (s : Cluster n Call) : Move n Call → Option (Cluster n Call)
  | .begin core call => if s.free core then some (s.launch w core call) else none
  | .act core value => s.act core value
  | .respond core => s.respond core
  | .disturb core => some (s.disturb core)

/-- An action that can be made makes a move. -/
theorem step_act (w : Workload n Call) {s s₁ : Cluster n Call} {core : Fin n} {value : UInt32}
    {t : Task Call} {a : Action} {rest : a.Reply → Operation TransitionError Unit} {r : a.Reply}
    (htask : s.tasks core = some t) (hrest : t.rest = .act a rest)
    (hperform : s.perform value a = some (r, s₁)) :
    s.step w (.act core value) = some ((s₁.record t a).resume core (next t a r (rest r))) := by
  simp [step, act, htask, hrest, hperform]

/-! ### What a move leaves alone -/

section Frame

variable (s : Cluster n Call) (core : Fin n) (t : Task Call)

@[simp] theorem resume_barrier : (s.resume core t).barrier = s.barrier := by
  unfold resume
  split <;> rfl

@[simp] theorem resume_retention : (s.resume core t).retention = s.retention := by
  unfold resume
  split <;> rfl

@[simp] theorem resume_cores : (s.resume core t).cores = s.cores := by
  unfold resume
  split <;> rfl

@[simp] theorem resume_tallies : (s.resume core t).tallies = s.tallies := by
  unfold resume
  split <;> rfl

@[simp] theorem resume_begun : (s.resume core t).begun = s.begun := by
  unfold resume
  split <;> rfl

variable {s core t}

theorem resume_tasks_of_ne {i : Fin n} (h : i ≠ core) :
    (s.resume core t).tasks i = s.tasks i := by
  unfold resume
  split <;> simp [leave, h]

/-- A core is under way after an operation has gone on exactly if something is left of it. -/
theorem resume_tasks_self {u : Task Call} :
    (s.resume core t).tasks core = some u ↔ u = t ∧ ∃ a next, t.rest = .act a next := by
  unfold resume
  split <;> simp_all [leave, eq_comm]

/-- The operations under way after one of them has gone on. -/
theorem of_resume_tasks {i : Fin n} {u : Task Call} (h : (s.resume core t).tasks i = some u) :
    (i = core ∧ u = t ∧ ∃ a next, t.rest = .act a next) ∨ (i ≠ core ∧ s.tasks i = some u) := by
  by_cases hi : i = core
  · subst hi
    exact Or.inl ⟨rfl, resume_tasks_self.1 h⟩
  · rw [resume_tasks_of_ne hi] at h
    exact Or.inr ⟨hi, h⟩

end Frame

/-! ### What an action does -/

section Effect

variable {s s₁ : Cluster n Call} {value : UInt32} {a : Action} {r : a.Reply}

/-- **The effects of actions**: with what an action is answered, and to which system it leads. -/
inductive Effect (s : Cluster n Call) : (a : Action) → a.Reply → Cluster n Call → Prop
  | access (a : Access) (r : a.Reply) : Effect s (.access a) r s
  | interrupt (targets : CoreMask) : Effect s (.signal (.interrupt targets)) () (s.interrupt targets)
  | event : Effect s (.signal .event) () s.sendEvent
  | flush : Effect s (.signal .flush) () s
  | log (record : LogRecord) : Effect s (.log record) () s
  | barrier {a : BarrierAccess} {r : a.Reply} {barrier : Barrier}
      (happly : a.apply s.barrier = some (r, barrier)) :
      Effect s (.barrier a) r (s.accessed a barrier)
  | retention (a : RetentionAccess) :
      Effect s (.retention a) (a.apply s.retention).1
        { s with retention := (a.apply s.retention).2 }

/-- An action that is made has its effect. -/
theorem effect_of_perform (h : s.perform value a = some (r, s₁)) : Effect s a r s₁ := by
  cases a with
  | access a =>
      cases a with
      | read a =>
          cases h
          exact .access (.read a) value
      | write a v =>
          cases h
          exact .access (.write a v) ()
  | signal a =>
      cases a with
      | interrupt targets =>
          cases h
          exact .interrupt targets
      | event =>
          cases h
          exact .event
      | flush =>
          cases h
          exact .flush
  | log record =>
      cases h
      exact .log record
  | barrier a =>
      obtain ⟨⟨reply, barrier⟩, happly, heq⟩ := Option.map_eq_some_iff.1 h
      cases heq
      exact .barrier happly
  | retention a =>
      cases h
      exact .retention a
  | abort a => cases r

/-- An action changes neither which operations are under way nor the record of what they did. -/
theorem perform_frame (h : s.perform value a = some (r, s₁)) :
    s₁.tasks = s.tasks ∧ s₁.begun = s.begun ∧ s₁.history = s.history := by
  cases effect_of_perform h <;> exact ⟨rfl, rfl, rfl⟩

/-- An action moves no core in its answer to the interrupt. -/
theorem perform_phase (h : s.perform value a = some (r, s₁)) (i : Fin n) :
    (s₁.cores i).phase = (s.cores i).phase := by
  cases effect_of_perform h with
  | interrupt targets =>
      simp only [Cluster.interrupt]
      split <;> rfl
  | _ => rfl

/-- Only one action forgets arrivals, and it forgets all of them. -/
theorem perform_arrived (h : s.perform value a = some (r, s₁)) :
    s₁.barrier.arrived = s.barrier.arrived ∨
      (a = .barrier .clearArrived ∧ s₁.barrier.arrived = .empty) := by
  cases effect_of_perform h with
  | @barrier a r barrier happly =>
      by_cases ha : a = .clearArrived
      · subst ha
        cases happly
        exact Or.inr ⟨rfl, rfl⟩
      · exact Or.inl (BarrierAccess.arrived_of_apply ha happly)
  | _ => exact Or.inl rfl

/-- Apart from the claim and the end of a session, an action leaves alone whether one is in
flight. -/
theorem perform_inProgress (h : s.perform value a = some (r, s₁)) (hclaim : a ≠ .barrier .claim)
    (hunclaim : a ≠ .barrier .unclaim) :
    s₁.barrier.inProgress = s.barrier.inProgress := by
  cases effect_of_perform h with
  | barrier happly =>
      exact BarrierAccess.inProgress_of_apply (fun heq => hclaim (congrArg _ heq))
        (fun heq => hunclaim (congrArg _ heq)) happly
  | _ => rfl

/-- The current point is changed only by recording another. -/
theorem perform_current (h : s.perform value a = some (r, s₁)) :
    (∃ index, a = .barrier (.writeCurrent index) ∧ s₁.barrier.current = index) ∨
      s₁.barrier.current = s.barrier.current := by
  cases effect_of_perform h with
  | barrier happly =>
      exact (BarrierAccess.current_of_apply happly).imp_left fun ⟨index, heq, hindex⟩ =>
        ⟨index, congrArg Action.barrier heq, hindex⟩
  | _ => exact Or.inr rfl

/-- The operations under way after an action of one of them. -/
theorem of_act_tasks {core i : Fin n} {t t' u : Task Call}
    (h : s.perform value a = some (r, s₁))
    (hu : ((s₁.record t a).resume core t').tasks i = some u) :
    (i = core ∧ u = t' ∧ ∃ x next, t'.rest = .act x next) ∨ (i ≠ core ∧ s.tasks i = some u) := by
  have hu := of_resume_tasks hu
  rwa [record, (perform_frame h).1] at hu

/-- An action leaves the operations of the other cores as they are. -/
theorem act_tasks_of_ne {core i : Fin n} {t t' : Task Call} (h : s.perform value a = some (r, s₁))
    (hi : i ≠ core) : ((s₁.record t a).resume core t').tasks i = s.tasks i := by
  rw [resume_tasks_of_ne hi, record, (perform_frame h).1]

end Effect

/-! ### Runs -/

/-- **A run**: moves one after the other, if all of them can be made. -/
def run (w : Workload n Call) : Cluster n Call → List (Move n Call) → Option (Cluster n Call)
  | s, [] => some s
  | s, m :: ms =>
      match s.step w m with
      | some s' => s'.run w ms
      | none => none

/-- A condition on every move of a run: on the system before it, the move, and the system after
it. -/
def Along (w : Workload n Call) (C : Cluster n Call → Move n Call → Cluster n Call → Prop) :
    Cluster n Call → List (Move n Call) → Prop
  | _, [] => True
  | s, m :: ms =>
      match s.step w m with
      | some s' => C s m s' ∧ Along w C s' ms
      | none => True

variable {w : Workload n Call} {s t : Cluster n Call} {m : Move n Call} {ms : List (Move n Call)}

theorem run_cons_eq_some {u : Cluster n Call} :
    s.run w (m :: ms) = some u ↔ ∃ s', s.step w m = some s' ∧ s'.run w ms = some u := by
  cases h : s.step w m <;> simp [run, h]

/-- A condition that can be decided for a move can be decided along a run. -/
instance decidableAlong {C : Cluster n Call → Move n Call → Cluster n Call → Prop}
    [∀ s m s', Decidable (C s m s')] :
    (s : Cluster n Call) → (ms : List (Move n Call)) → Decidable (Along w C s ms)
  | _, [] => isTrue trivial
  | s, m :: ms =>
      match h : s.step w m with
      | some s' =>
          have : Decidable (Along w C s' ms) := decidableAlong s' ms
          decidable_of_iff (C s m s' ∧ Along w C s' ms) (by simp [Along, h])
      | none => isTrue (by simp [Along, h])

theorem run_append (ms ms' : List (Move n Call)) :
    s.run w (ms ++ ms') = (s.run w ms).bind fun s' => s'.run w ms' := by
  induction ms generalizing s with
  | nil => rfl
  | cons m ms ih =>
      cases h : s.step w m with
      | none => simp [run, h]
      | some s' => simpa [run, h] using ih

theorem along_cons {C : Cluster n Call → Move n Call → Cluster n Call → Prop}
    (hstep : s.step w m = some t) (h : Along w C s (m :: ms)) : C s m t ∧ Along w C t ms := by
  simpa [Along, hstep] using h

theorem Along.and {C D : Cluster n Call → Move n Call → Cluster n Call → Prop}
    (hC : Along w C s ms) (hD : Along w D s ms) :
    Along w (fun s m s' => C s m s' ∧ D s m s') s ms := by
  induction ms generalizing s with
  | nil => trivial
  | cons m ms ih =>
      unfold Along at hC hD ⊢
      split
      case h_1 s' hstep =>
        simp only [hstep] at hC hD
        exact ⟨⟨hC.1, hD.1⟩, ih hC.2 hD.2⟩
      case h_2 => trivial

/-- **What every move keeps, a run keeps**, under a condition that holds along the run. -/
theorem invariant {C : Cluster n Call → Move n Call → Cluster n Call → Prop}
    {P : Cluster n Call → Prop}
    (hstep : ∀ {s m s'}, P s → s.step w m = some s' → C s m s' → P s')
    (hs : P s) (halong : Along w C s ms) (hrun : s.run w ms = some t) : P t := by
  induction ms generalizing s with
  | nil =>
      cases hrun
      exact hs
  | cons m ms ih =>
      obtain ⟨s', hs', hrun⟩ := run_cons_eq_some.1 hrun
      obtain ⟨hC, halong⟩ := along_cons hs' halong
      exact ih (hstep hs hs' hC) halong hrun

/-- A condition on the moves alone holds along a run of such moves. -/
theorem along_of_forall {A : Move n Call → Prop} (h : ∀ m ∈ ms, A m) :
    Along w (fun _ m _ => A m) s ms := by
  induction ms generalizing s with
  | nil => trivial
  | cons m ms ih =>
      unfold Along
      split
      · exact ⟨h m (List.mem_cons_self ..), ih fun m' hm' => h m' (List.mem_cons_of_mem _ hm')⟩
      · trivial

end Cluster

end Reclock
