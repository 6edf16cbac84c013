/-
**How a system comes to rest.**

If no core begins anything new, a system comes to rest however its cores go on: an operation has
only so many actions left, and between two actions every answer to the interrupt comes to an end.
An action may wake every core, so the answers only count among systems with the same operations
left.

An operation is never stopped by anything but its own wait for arrivals.

Main definitions:

* `Reclock.Cluster.Goes` — a system goes on by an action or by a step of an answer;
* `Reclock.Cluster.left` — what is left of the operations;
* `Reclock.Cluster.AtRest` — a system that cannot go on.

Main results:

* `Reclock.Cluster.goes_wellFounded` — **no system goes on forever**;
* `Reclock.Cluster.Custody.act_or_awaits` — an operation can make its next action, or it waits
  for arrivals.
-/

import Mathlib.Algebra.Order.BigOperators.Group.Finset
import Mathlib.Data.DFinsupp.WellFounded
import Reclock.Proofs.Custody

set_option relaxedAutoImplicit false
set_option autoImplicit false

namespace Reclock

namespace Cluster

variable {n : Nat} {Call : Type} {w : Workload n Call} {s s' : Cluster n Call}
  {g : Holder n Call}

/-! ### Going on -/

/-- A system goes on by an action of an operation or by a step of an answer. -/
def Goes (w : Workload n Call) (s s' : Cluster n Call) : Prop :=
  ∃ core, (∃ value, s.step w (.act core value) = some s') ∨ s.step w (.respond core) = some s'

/-- A system that cannot go on. -/
def AtRest (w : Workload n Call) (s : Cluster n Call) : Prop := ∀ s', ¬ s.Goes w s'

/-- What is left of the operation of each core. -/
def left (s : Cluster n Call) (i : Fin n) : Option (Operation TransitionError Unit) :=
  (s.tasks i).map Task.rest

/-- What is left of an operation after its next action. -/
inductive Shorter : Option (Operation TransitionError Unit) →
    Option (Operation TransitionError Unit) → Prop
  | ended {a : Action} {rest : a.Reply → Operation TransitionError Unit} :
      Shorter none (some (.act a rest))
  | next {a : Action} {rest : a.Reply → Operation TransitionError Unit} (r : a.Reply) :
      Shorter (some (rest r)) (some (.act a rest))

theorem shorter_wellFounded : WellFounded Shorter := by
  have hnone : Acc Shorter none := ⟨_, fun _ h => nomatch h⟩
  refine ⟨fun left => ?_⟩
  cases left with
  | none => exact hnone
  | some p =>
      induction p with
      | done a => exact ⟨_, fun _ h => nomatch h⟩
      | fail e => exact ⟨_, fun _ h => nomatch h⟩
      | act a rest ih =>
          refine ⟨_, fun left h => ?_⟩
          cases h with
          | ended => exact hnone
          | next r => exact ih r

/-- An action leaves less of one operation, and as much of the others. -/
theorem left_act {core : Fin n} {value : UInt32} (h : s.step w (.act core value) = some s') :
    Shorter (s'.left core) (s.left core) ∧ ∀ i, i ≠ core → s'.left i = s.left i := by
  obtain ⟨g', hturn⟩ := turn_of_step none h
  cases hturn with
  | act htask hrest hperform =>
      rename_i t a rest r s₁
      constructor
      · have hleft : s.left core = some (.act a rest) := by simp [left, htask, hrest]
        rw [hleft]
        cases hu : ((s₁.record t a).resume core (next t a r (rest r))).tasks core with
        | none =>
            have hleft' : left ((s₁.record t a).resume core (next t a r (rest r))) core = none := by
              rw [left, hu]
              rfl
            rw [hleft']
            exact .ended
        | some u =>
            obtain ⟨rfl, -⟩ := resume_tasks_self.1 hu
            have hleft' : left ((s₁.record t a).resume core (next t a r (rest r))) core =
                some (rest r) := by
              rw [left, hu]
              rfl
            rw [hleft']
            exact .next r
      · intro i hi
        simp [left, act_tasks_of_ne hperform hi]

/-- A step of an answer leaves as much of every operation, and brings its core closer to rest. -/
theorem weight_respond {core : Fin n} (h : s.step w (.respond core) = some s') :
    s'.left = s.left ∧ (s'.cores core).weight < (s.cores core).weight ∧
      ∀ i, i ≠ core → s'.cores i = s.cores i := by
  obtain ⟨g', hturn⟩ := turn_of_step none h
  cases hturn with
  | respond htask hanswer =>
      refine ⟨rfl, ?_, fun i hi => ?_⟩
      · simpa using Core.weight_step hanswer
      · simp [hi]

/-- **No system goes on forever.** -/
theorem goes_wellFounded (w : Workload n Call) :
    WellFounded fun s' s : Cluster n Call => s.Goes w s' := by
  have hleft : WellFounded (Pi.Lex (fun i j : Fin n => i < j) (fun {_} => Shorter)) :=
    Pi.Lex.wellFounded (fun i j : Fin n => i < j) fun _ => shorter_wellFounded
  refine Subrelation.wf ?_ (InvImage.wf
    (fun s : Cluster n Call => (s.left, ∑ i, (s.cores i).weight)) (hleft.prod_lex Nat.lt_wfRel.wf))
  rintro s' s ⟨core, ⟨value, h⟩ | h⟩
  · obtain ⟨hshorter, hsame⟩ := left_act h
    exact Prod.Lex.left _ _ ⟨core, fun i hi => hsame i (ne_of_lt hi), hshorter⟩
  · obtain ⟨hsame, hless, hcores⟩ := weight_respond h
    have hsum : ∑ i, (s'.cores i).weight < ∑ i, (s.cores i).weight := by
      refine Finset.sum_lt_sum (fun i _ => ?_) ⟨core, Finset.mem_univ core, hless⟩
      by_cases hi : i = core
      · subst hi
        exact le_of_lt hless
      · rw [hcores i hi]
    change Prod.Lex _ _ (s'.left, _) (s.left, _)
    rw [hsame]
    exact Prod.Lex.right _ hsum

/-! ### What stops an operation -/

/-- The operation of a core waits for the arrival of others. -/
def Awaits (s : Cluster n Call) (i : Fin n) (others : CoreMask) : Prop :=
  ∃ t rest, s.tasks i = some t ∧ t.rest = .act (.barrier (.awaitArrival others)) rest

/-- **An operation can make its next action**, unless it waits for others that have not arrived. -/
theorem Custody.act_or_awaits {i : Fin n} {t : Task Call} (hn : n ≤ 32) (h : Custody w s g)
    (htask : s.tasks i = some t) (value : UInt32) :
    (∃ s', s.step w (.act i value) = some s') ∨
      ∃ others, s.Awaits i others ∧ s.barrier.arrived.containsAll others = false := by
  obtain ⟨a, rest, hrest⟩ := (h.fits i t htask).going
  have hact : ∀ r s₁, s.perform value a = some (r, s₁) →
      ∃ s', s.step w (.act i value) = some s' := by
    intro r s₁ hperform
    exact ⟨_, step_act w htask hrest hperform⟩
  cases a with
  | access a => cases a <;> exact Or.inl (hact _ _ rfl)
  | signal a => cases a <;> exact Or.inl (hact _ _ rfl)
  | log a => exact Or.inl (hact _ _ rfl)
  | barrier a =>
      cases a with
      | awaitArrival others =>
          cases harrived : s.barrier.arrived.containsAll others with
          | true =>
              refine Or.inl (hact () (s.accessed (.awaitArrival others) s.barrier) ?_)
              simp [perform, BarrierAccess.apply, harrived]
          | false => exact Or.inr ⟨others, ⟨t, rest, htask, hrest⟩, harrived⟩
      | _ => exact Or.inl (hact _ _ rfl)
  | retention a => exact Or.inl (hact _ _ rfl)
  | abort a =>
      -- No core of the system has a number that large.
      have hcore : 32 ≤ (i : Nat) := (h.allows htask hrest).2
      omega

/-! ### Sessions that are never given back -/

/-- The session is in flight, but no operation under way holds it. -/
def GivenUp (s : Cluster n Call) : Prop :=
  s.barrier.inProgress = true ∧ ∀ i t, s.tasks i = some t → t.stage.holds = false

/-- The operations under way will give the session back, and its holder is one of them. -/
structure Returning (w : Workload n Call) (s : Cluster n Call) (g : Holder n Call) : Prop where
  /-- Every operation gives the session back before it ends. -/
  returns : ∀ i t, s.tasks i = some t →
    t.rest.Keeps (protocol (w.brief t.call i)) t.stage fun _ s => s.holds = false
  /-- The holder is under way. -/
  present : ∀ i t, g = some (i, t) → s.tasks i = some t

theorem Returning.begin {core : Fin n} {call : Call} (hw : w.Returns) (h : Returning w s g)
    (htask : s.tasks core = none) : Returning w (s.launch w core call) g where
  returns i t ht := by
    rcases of_resume_tasks ht with ⟨rfl, rfl, -⟩ | ⟨-, ht⟩
    · exact hw call i
    · exact h.returns i t ht
  present i t hg := by
    have ht := h.present i t hg
    have hi : i ≠ core := by
      rintro rfl
      cases htask.symm.trans ht
    rwa [launch, resume_tasks_of_ne hi]

theorem Returning.act {core : Fin n} {value : UInt32} {t : Task Call} {a : Action}
    {rest : a.Reply → Operation TransitionError Unit} {r : a.Reply} {s₁ : Cluster n Call}
    (h : Returning w s g) (hcustody : Custody w s g) (htask : s.tasks core = some t)
    (hrest : t.rest = .act a rest) (hperform : s.perform value a = some (r, s₁)) :
    Returning w ((s₁.record t a).resume core (next t a r (rest r)))
      (g.after core t (next t a r (rest r))) := by
  have hreturns : (rest r).Keeps (protocol (w.brief t.call core)) (t.stage.after a r)
      fun _ s => s.holds = false := by
    have hreturns := h.returns core t htask
    rw [hrest] at hreturns
    exact hreturns.2 r
  constructor
  case returns =>
    intro i u hu
    rcases of_act_tasks hperform hu with ⟨rfl, rfl, -⟩ | ⟨-, hu⟩
    · exact hreturns
    · exact h.returns i u hu
  case present =>
    intro i u hg
    rcases Holder.after_eq_some hg with ⟨rfl, rfl, hholds⟩ | ⟨-, hbefore, hstays⟩
    · -- An operation that still holds the session is not at its end.
      cases hcase : rest r with
      | done result =>
          rw [hcase] at hreturns
          cases hholds.symm.trans hreturns
      | fail e =>
          rw [hcase] at hreturns
          cases hholds.symm.trans hreturns
      | act a' rest' => exact resume_tasks_self.2 ⟨rfl, a', rest', rfl⟩
    · have hu := h.present i u hstays
      rwa [act_tasks_of_ne hperform (hcustody.holder_ne htask hbefore hstays hu)]

theorem Returning.turn {m : Move n Call} {g' : Holder n Call} (hw : w.Returns)
    (h : Returning w s g) (hcustody : Custody w s g) (hturn : Turn w s g m s' g') :
    Returning w s' g' := by
  cases hturn with
  | begin htask hphase => exact h.begin hw htask
  | act htask hrest hperform => exact h.act hcustody htask hrest hperform
  | respond htask hanswer => exact ⟨h.returns, h.present⟩
  | disturb => exact ⟨h.returns, h.present⟩

/-- **Operations that always give the session back leave no session behind.** -/
theorem not_givenUp {ms : List (Move n Call)} (hw : w.Returns) (current : FrequencyIndex)
    (snapshot : Snapshot) (hrun : (start n Call current snapshot).run w ms = some s) :
    ¬ s.GivenUp := by
  have hstart : Returning w (start n Call current snapshot) none :=
    ⟨fun _ _ ht => (nomatch ht), fun _ _ hg => (nomatch hg)⟩
  have halong : Along w (fun _ _ _ => True) (start n Call current snapshot) ms :=
    along_of_forall fun _ _ => trivial
  obtain ⟨g, hg, hreturning⟩ : ∃ g, Custody w s g ∧ Returning w s g := by
    refine invariant (P := fun s => ∃ g, Custody w s g ∧ Returning w s g) ?_
      ⟨none, custody_start w current snapshot, hstart⟩ halong hrun
    rintro s m s' ⟨g, h, hreturning⟩ hstep -
    obtain ⟨g', hturn, h'⟩ := h.step hstep
    exact ⟨g', h', hreturning.turn hw h hturn⟩
  rintro ⟨hbusy, hnobody⟩
  rw [hg.busy] at hbusy
  obtain ⟨⟨i, t⟩, rfl⟩ := Option.isSome_iff_exists.1 hbusy
  have hholds := hg.holds i t rfl
  rw [hnobody i t (hreturning.present i t rfl)] at hholds
  cases hholds

end Cluster

end Reclock
