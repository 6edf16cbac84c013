/-
**A system as one core sees it.**

How the answer of a core fares depends on little: on the core, on its own arrival, on the hold and
the epoch of the barrier, on how far the holder of the session is with parking, and on whether the
core is one of those that are parked.  Every move of a system shows in this view as one of a dozen
turns, and so an invariant about answers is proved for one view at a time.

Main definitions:

* `Reclock.View` — what concerns one core, and `Reclock.View.Turn`, the ways in which it changes;
* `Reclock.Cluster.view` — the view of a core of a system.

Main results:

* `Reclock.Cluster.view_turn` — **every move of a system is a turn of every view**;
* `Reclock.Cluster.Custody.views_of_run` — what every turn of every view keeps, a run keeps.
-/

import Reclock.Proofs.Custody

set_option relaxedAutoImplicit false
set_option autoImplicit false

namespace Reclock

/-! ### Views -/

/-- **What concerns one core.** -/
structure View where
  /-- The core. -/
  core : Core
  /-- Its counts. -/
  tally : Tally
  /-- Whether its arrival is noted. -/
  arrived : Bool
  /-- Whether cores that arrive have to wait. -/
  hold : Bool
  /-- The epoch of the barrier. -/
  epoch : UInt32
  /-- How far the holder of the session is with parking. -/
  parking : Parking
  /-- Whether the holder parks this core. -/
  target : Bool

namespace View

/-- The view after a step of the core's answer. -/
@[simp] def answered (v : View) (c : Core) : View :=
  { v with
    core := c
    arrived := v.arrived || v.core.phase.arrives
    tally := v.tally.afterPhase v.core.phase }

/-- **The ways in which a view changes.** -/
inductive Turn (disturbs : Bool) (v : View) : View → Prop
  | still : Turn disturbs v v
  | settle (target : Bool) (hparking : v.parking = .unasked ∨ v.parking = .released) :
      Turn disturbs v { v with parking := .unasked, target }
  | clear (hparking : v.parking = .unasked) :
      Turn disturbs v
        { v with parking := .cleared, arrived := false, tally := { v.tally with ended := 0 } }
  | hold (hparking : v.parking = .cleared) :
      Turn disturbs v { v with parking := .held, hold := true }
  | interrupt (hparking : v.parking = .held) :
      Turn disturbs v
        { v with parking := .raised, core := { v.core with pending := v.core.pending || v.target } }
  | await (hparking : v.parking = .raised ∨ (v.parking = .held ∧ v.target = false))
      (harrived : v.target = true → v.arrived = true) :
      Turn disturbs v { v with parking := .parked }
  | advance (hparking : v.parking = .parked) :
      Turn disturbs v
        { v with
          parking := .advanced
          epoch := v.epoch + 1
          tally := { v.tally with spanned := v.tally.spanned + 1 } }
  | drop (hparking : v.parking = .advanced) :
      Turn disturbs v { v with parking := .dropped, hold := false }
  | event (hparking : v.parking = .dropped) :
      Turn disturbs v
        { v with
          parking := .released
          core := { v.core with event := true }
          tally := { v.tally with outlasted := v.tally.outlasted + 1 } }
  | answer {c : Core} (hanswer : v.core.Answers v.hold v.epoch c) :
      Turn disturbs v (v.answered c)
  | disturb (hdisturbs : disturbs = true) :
      Turn disturbs v { v with core := { v.core with pending := true } }

/-- Only one turn drops the hold. -/
theorem Turn.dropped {d : Bool} {v v' : View} (h : v.Turn d v') (hhold : v.hold = true)
    (hdropped : v'.hold = false) :
    v'.parking = .dropped ∧ v'.core = v.core ∧ v'.epoch = v.epoch := by
  cases h with
  | drop hparking => exact ⟨rfl, rfl, rfl⟩
  | _ => simp_all

end View

/-! ### The views of a system -/

namespace Holder

variable {n : Nat} {Call : Type}

/-- How far the holder is with parking. -/
def parking (g : Holder n Call) : Parking :=
  match g with
  | some (_, t) => t.stage.parking
  | none => .unasked

/-- The cores that the holder parks. -/
def targets (w : Workload n Call) (g : Holder n Call) : CoreMask :=
  match g with
  | some (i, t) => (w.brief t.call i).others
  | none => .empty

end Holder

namespace Cluster

variable {n : Nat} {Call : Type} {w : Workload n Call} {s s' : Cluster n Call} {m : Move n Call}
  {g g' : Holder n Call}

/-- **The view of a core** of a system with a holder. -/
def view (w : Workload n Call) (s : Cluster n Call) (g : Holder n Call) (i : Fin n) : View where
  core := s.cores i
  tally := s.tallies i
  arrived := s.barrier.arrived.contains i
  hold := s.barrier.hold
  epoch := s.barrier.epoch
  parking := g.parking
  target := (g.targets w).contains i

/-- An operation in the middle of parking is the holder, and its targets are the online cores but
its own. -/
theorem Custody.holder_of_parking {i : Fin n} {t : Task Call} (hn : n ≤ 32) (h : Custody w s g)
    (htask : s.tasks i = some t) (hunasked : t.stage.parking ≠ .unasked)
    (hreleased : t.stage.parking ≠ .released) :
    g = some (i, t) ∧ ∃ online, w.purpose t.call = .parks online ∧
      g.targets w = online.erase (Fin.castLE hn i) := by
  have hsound := (h.fits i t htask).sound
  have hg := h.unique i t htask (hsound.seated hunasked hreleased).holds
  obtain ⟨online, hpurpose⟩ := (hsound.asked hunasked).1
  refine ⟨hg, online, hpurpose, ?_⟩
  rw [hg]
  exact others_eq (CoreId.ofNat_castLE hn i) hpurpose

section Act

variable {core : Fin n} {value : UInt32} {t : Task Call} {a : Action}
  {rest : a.Reply → Operation TransitionError Unit} {r : a.Reply} {s₁ : Cluster n Call}

/-- An action that leaves the parking and the cores alone is no turn at all. -/
theorem turn_of_same (d : Bool) (i : Fin n) (p : Operation TransitionError Unit)
    (hparking : (t.stage.after a r).parking = t.stage.parking) (hcores : s₁.cores = s.cores)
    (htallies : s₁.tallies = s.tallies) (harrived : s₁.barrier.arrived = s.barrier.arrived)
    (hhold : s₁.barrier.hold = s.barrier.hold) (hepoch : s₁.barrier.epoch = s.barrier.epoch) :
    View.Turn d (view w s (some (core, t)) i) (view w s₁ (some (core, next t a r p)) i) := by
  have hview : view w s₁ (some (core, next t a r p)) i = view w s (some (core, t)) i := by
    simp [view, Holder.parking, Holder.targets, next, *]
  rw [hview]
  exact .still

/-- The holder's steps on the memory of the barrier are turns of every view. -/
theorem turn_of_apply (d : Bool) (i : Fin n) (p : Operation TransitionError Unit)
    {a : BarrierAccess} {r : a.Reply} {barrier : Barrier}
    (hallows : t.stage.Allows (w.brief t.call core) (.barrier a)) (hholds : t.stage.holds = true)
    (hunclaim : a ≠ .unclaim) (happly : a.apply s.barrier = some (r, barrier)) :
    View.Turn d (view w s (some (core, t)) i)
      (view w (s.accessed a barrier) (some (core, next t (.barrier a) r p)) i) := by
  cases a with
  | claim =>
      have htenure : t.stage.tenure = .outside := hallows
      simp [Stage.holds, htenure] at hholds
  | unclaim => exact absurd rfl hunclaim
  | readCurrent =>
      cases happly
      refine turn_of_same d i p ?_ rfl rfl rfl rfl rfl
      simp only [Stage.after]
      split <;> rfl
  | writeCurrent index =>
      cases happly
      exact turn_of_same d i p rfl rfl rfl rfl rfl rfl
  | clearArrived =>
      cases happly
      have hturn : View.Turn d (view w s (some (core, t)) i) _ := .clear hallows.2.1
      convert hturn using 1
      simp [view, Holder.parking, Holder.targets, next, Stage.after, accessed, Tally.afterAccess]
  | hold =>
      cases happly
      exact .hold hallows.2
  | awaitArrival cores =>
      obtain ⟨harrived, rfl⟩ := BarrierAccess.of_apply_awaitArrival happly
      obtain ⟨-, rfl, hparking⟩ := hallows
      rw [CoreMask.containsAll_iff] at harrived
      refine .await ?_ (harrived i)
      rcases hparking with hparking | ⟨hparking, hempty⟩
      · exact Or.inl hparking
      · exact Or.inr ⟨hparking, (CoreMask.isEmpty_iff _).1 hempty i⟩
  | advanceEpoch =>
      cases happly
      exact .advance hallows.2
  | unhold =>
      cases happly
      exact .drop hallows.2

/-- **The actions of the holder are turns of every view.** -/
theorem turn_of_perform (d : Bool) (i : Fin n)
    (hallows : t.stage.Allows (w.brief t.call core) a) (hholds : t.stage.holds = true)
    (hunclaim : a ≠ .barrier .unclaim) (hperform : s.perform value a = some (r, s₁)) :
    View.Turn d (view w s (some (core, t)) i)
      (view w s₁ (some (core, next t a r (rest r))) i) := by
  cases effect_of_perform hperform with
  | interrupt targets =>
      obtain ⟨-, hparking, rfl, -⟩ := hallows
      have hturn : View.Turn d (view w s (some (core, t)) i) _ := .interrupt hparking
      convert hturn using 1
      simp only [view, Holder.parking, Holder.targets, next, Cluster.interrupt, Stage.after]
      split <;> simp [*]
  | event => exact .event hallows.2
  | barrier happly =>
      exact turn_of_apply d i _ hallows hholds (fun heq => hunclaim (congrArg _ heq)) happly
  | retention a =>
      exact turn_of_same d i _ (Stage.after_retention ..).2 rfl rfl rfl rfl rfl
  | _ => exact turn_of_same d i _ rfl rfl rfl rfl rfl rfl

theorem view_turn_act (d : Bool) (i : Fin n) (h : Custody w s g) (htask : s.tasks core = some t)
    (hrest : t.rest = .act a rest) (hperform : s.perform value a = some (r, s₁)) :
    View.Turn d (view w s g i) (view w s₁ (g.after core t (next t a r (rest r))) i) := by
  have hallows := h.allows htask hrest
  have hsound := (h.fits core t htask).sound
  have hhandover := h.handover htask hrest hperform
  generalize g.after core t (next t a r (rest r)) = g' at hhandover ⊢
  cases hhandover with
  | aside hbefore hafter => exact .still
  | granted htenure hg hstage =>
      subst hg
      have hparking : t.stage.parking = .unasked := (hsound.fresh (Or.inl htenure)).1
      have hturn : View.Turn d (view w s none i) _ :=
        .settle ((w.brief t.call core).others.contains i) (Or.inl rfl)
      convert hturn using 1
      simp only [view, Holder.parking, hstage, hparking]
      rfl
  | returned htenure hg =>
      subst hg
      have hturn : View.Turn d (view w s (some (core, t)) i) _ :=
        .settle false (hsound.closed (Or.inl htenure))
      convert hturn using 1
      simp [view, Holder.parking, Holder.targets]
  | own hg hclaim hunclaim =>
      rw [hg]
      have hholds := h.holds core t hg
      exact turn_of_perform d i hallows hholds hunclaim hperform

end Act

/-- A step of an answer is a turn of the view of its core, and no other view changes. -/
theorem view_turn_respond {core : Fin n} {c : Core} {barrier : Barrier} (d : Bool) (i : Fin n)
    (hn : n ≤ 32) (hanswer : (s.cores core).step core s.barrier = some (c, barrier)) :
    View.Turn d (view w s g i)
      (view w
        { s with
          barrier
          cores := Function.update s.cores core c
          tallies := Function.update s.tallies core
            ((s.tallies core).afterPhase (s.cores core).phase) } g i) := by
  have hbarrier := Core.step_barrier hanswer
  have hshared : barrier.hold = s.barrier.hold ∧ barrier.epoch = s.barrier.epoch := by
    rw [hbarrier]
    split <;> simp
  by_cases hi : i = core
  · subst hi
    have harrived : barrier.arrived.contains i =
        (s.barrier.arrived.contains i || (s.cores i).phase.arrives) := by
      rw [hbarrier]
      split
      case isTrue harrives =>
        rw [Barrier.contains_arrive (by omega), harrives]
        simp
      case isFalse harrives => simp [harrives]
    have hturn : View.Turn d (view w s g i) _ := .answer (Core.answers_of_step hanswer)
    convert hturn using 1
    simp [view, harrived, hshared]
  · have harrived : barrier.arrived.contains i = s.barrier.arrived.contains i := by
      rw [hbarrier]
      split
      · rw [Barrier.contains_arrive (by omega)]
        simp [Fin.val_inj, hi]
      · rfl
    have hturn : View.Turn d (view w s g i) _ := .still
    convert hturn using 1
    simp [view, hi, harrived, hshared]

/-- **Every move of a system is a turn of every view.** -/
theorem view_turn (hn : n ≤ 32) (h : Custody w s g) (hturn : Turn w s g m s' g') (i : Fin n) :
    View.Turn m.disturbs (view w s g i) (view w s' g' i) := by
  cases hturn with
  | begin htask hphase =>
      have hview : ∀ core call, view w (s.launch w core call) g i = view w s g i := by
        intro core call
        simp [view, launch]
      rw [hview]
      exact .still
  | act htask hrest hperform =>
      rename_i core value t a rest r s₁
      have hview : ∀ g', view w ((s₁.record t a).resume core (next t a r (rest r))) g' i =
          view w s₁ g' i := by
        intro g'
        simp [view, record]
      rw [hview]
      exact view_turn_act _ i h htask hrest hperform
  | respond htask hanswer => exact view_turn_respond _ i hn hanswer
  | disturb =>
      rename_i core
      by_cases hi : i = core
      · subst hi
        have hview : view w (s.disturb i) g i =
            { view w s g i with core := { s.cores i with pending := true } } := by
          simp [view, disturb]
        rw [hview]
        exact .disturb rfl
      · have hview : view w (s.disturb core) g i = view w s g i := by
          simp [view, disturb, hi]
        rw [hview]
        exact .still

/-- **What every turn of every view keeps, a run keeps**, under a condition that holds along the
run. -/
theorem Custody.views_of_run {C : Cluster n Call → Move n Call → Cluster n Call → Prop}
    {P : Fin n → View → Prop} {ms : List (Move n Call)} (hn : n ≤ 32)
    (hkeep : ∀ {s m s' g g'} (i : Fin n), C s m s' →
      View.Turn m.disturbs (view w s g i) (view w s' g' i) → P i (view w s g i) →
        P i (view w s' g' i))
    (h : Custody w s g) (hP : ∀ i, P i (view w s g i)) (halong : Along w C s ms)
    (hrun : s.run w ms = some s') : ∃ g', Custody w s' g' ∧ ∀ i, P i (view w s' g' i) := by
  refine invariant (P := fun s => ∃ g, Custody w s g ∧ ∀ i, P i (view w s g i)) ?_ ⟨g, h, hP⟩
    halong hrun
  rintro s m s' ⟨g, h, hP⟩ hstep hC
  obtain ⟨g', hturn, h'⟩ := h.step hstep
  exact ⟨g', h', fun i => hkeep i hC (view_turn hn h hturn i) (hP i)⟩

end Cluster

end Reclock
