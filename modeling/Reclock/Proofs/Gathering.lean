/-
**Cores that have arrived are out of the way.**

A core reports its arrival only while it runs no operation.  It may leave again, since a disturbance
may have caught it between two sessions, and begin an operation.  But the session is taken, so that
such an operation is not granted it, and it stays outside for as long as the session lasts.  A core
that a session has counted can therefore do nothing more than try, and once the wait for arrivals is
over all cores that the session asked for have been counted.

Main definitions:

* `Reclock.Parking.waited` — whether the wait for arrivals is over;
* `Reclock.Cluster.Gathered` — **the cores that have arrived are out of the way**.

Main results:

* `Reclock.Stage.parking_after`, `Reclock.Stage.waited_after` — how an action moves the parking on;
* `Reclock.Cluster.Gathered.turn` — every move, disturbances included, keeps them out of the way.
-/

import Reclock.Proofs.Custody

set_option relaxedAutoImplicit false
set_option autoImplicit false

namespace Reclock

/-- Whether the wait for arrivals is over. -/
def Parking.waited : Parking → Bool
  | parked | advanced | dropped | released => true
  | unasked | cleared | held | raised => false

/-! ### What an action leaves of a stage -/

namespace Stage

variable {b : Brief} {s : Stage} {a : Action}

/-- A step from a parking that is known, and not across the wait. -/
theorem parking_beside {r : a.Reply} {parking : Parking} (h : s.parking = parking)
    (hasked : parking ≠ .unasked) (hwaited : (s.after a r).parking.waited = parking.waited) :
    s.parking ≠ .unasked ∧ (s.after a r).parking.waited = s.parking.waited := by
  subst h
  exact ⟨hasked, hwaited⟩

/-- **How an action moves the parking on**: not at all, by forgetting the arrivals at the start, by
waiting for them, or by a step on the same side of the wait. -/
theorem parking_after (ha : s.Allows b a) (r : a.Reply) :
    (s.after a r).parking = s.parking ∨
      (a = .barrier .clearArrived ∧ s.parking = .unasked) ∨
      (s.parking ≠ .unasked ∧ ∃ cores, a = .barrier (.awaitArrival cores)) ∨
      (s.parking ≠ .unasked ∧ (s.after a r).parking.waited = s.parking.waited) := by
  cases a with
  | access a => exact Or.inl rfl
  | signal a =>
      cases a with
      | interrupt targets =>
          exact Or.inr (Or.inr (Or.inr (parking_beside ha.2.1 (by simp) rfl)))
      | event => exact Or.inr (Or.inr (Or.inr (parking_beside ha.2 (by simp) rfl)))
      | flush => exact Or.inl rfl
  | log record => exact Or.inl rfl
  | barrier a =>
      cases a with
      | claim => cases r <;> exact Or.inl rfl
      | unclaim => exact Or.inl rfl
      | readCurrent =>
          left
          simp only [after]
          split <;> rfl
      | writeCurrent index => exact Or.inl rfl
      | clearArrived => exact Or.inr (Or.inl ⟨rfl, ha.2.1⟩)
      | hold => exact Or.inr (Or.inr (Or.inr (parking_beside ha.2 (by simp) rfl)))
      | awaitArrival cores =>
          refine Or.inr (Or.inr (Or.inl ⟨?_, cores, rfl⟩))
          rcases ha.2.2 with hparking | ⟨hparking, -⟩ <;> simp [hparking]
      | advanceEpoch => exact Or.inr (Or.inr (Or.inr (parking_beside ha.2 (by simp) rfl)))
      | unhold => exact Or.inr (Or.inr (Or.inr (parking_beside ha.2 (by simp) rfl)))
  | retention a => exact Or.inl (after_retention s a r).2
  | abort a => cases r

/-- Arrivals are forgotten only by an operation that has asked nobody yet. -/
theorem ne_clearArrived (ha : s.Allows b a) (hasked : s.parking ≠ .unasked) :
    a ≠ .barrier .clearArrived := by
  rintro rfl
  exact hasked ha.2.1

/-- A wait that is over stays over. -/
theorem waited_after (ha : s.Allows b a) (hwaited : s.parking.waited = true) (r : a.Reply) :
    (s.after a r).parking.waited = true := by
  rcases parking_after ha r with heq | ⟨-, hunasked⟩ | ⟨-, cores, rfl⟩ | ⟨-, heq⟩
  · rw [heq]
    exact hwaited
  · rw [hunasked] at hwaited
    cases hwaited
  · rfl
  · rw [heq]
    exact hwaited

/-- An operation that has given the session back does not get it again. -/
theorem over_after (ha : s.Allows b a) (hover : s.tenure = .over) (r : a.Reply) :
    (s.after a r).tenure = .over := by
  have hseated : ¬ s.Seated := by
    rintro ⟨current, htenure⟩
    cases hover.symm.trans htenure
  rcases allows_aside ha hseated with ⟨record, rfl⟩ | rfl | rfl | rfl | rfl
  · exact hover
  · cases hover.symm.trans ha
  · rfl
  · simp only [after]
    split
    case isTrue hgranted => cases hover.symm.trans hgranted
    case isFalse => exact hover
  · rw [(after_retention s .readState r).1]
    exact hover

/-- An operation outside stays outside unless it is granted the session. -/
theorem outside_after (ha : s.Allows b a) (houtside : s.tenure = .outside) {r : a.Reply}
    (hholds : (s.after a r).holds = false) : (s.after a r).tenure = .outside := by
  have hseated : ¬ s.Seated := by
    rintro ⟨current, htenure⟩
    cases houtside.symm.trans htenure
  rcases allows_aside ha hseated with ⟨record, rfl⟩ | rfl | rfl | rfl | rfl
  · exact houtside
  · cases r with
    | false => exact houtside
    | true => cases hholds
  · cases houtside.symm.trans ha
  · simp only [after]
    split
    case isTrue hgranted => cases houtside.symm.trans hgranted
    case isFalse => exact houtside
  · rw [(after_retention s .readState r).1]
    exact houtside

end Stage

/-! ### Cores that have arrived -/

namespace Cluster

variable {n : Nat} {Call : Type} {w : Workload n Call} {s s' : Cluster n Call} {m : Move n Call}
  {g g' : Holder n Call}

/-- **The cores that have arrived are out of the way**, and once the wait is over they have all
arrived. -/
structure Gathered (w : Workload n Call) (s : Cluster n Call) (g : Holder n Call) : Prop where
  /-- Another core that has arrived runs at most an operation without the session. -/
  outside : ∀ i t, g = some (i, t) → t.stage.parking ≠ .unasked → ∀ j u, j ≠ i →
    s.barrier.arrived.contains j = true → s.tasks j = some u → u.stage.tenure = .outside
  /-- Once the wait is over, the cores that were asked have arrived. -/
  arrived : ∀ i t, g = some (i, t) → t.stage.parking.waited = true →
    ∀ k, (w.brief t.call i).others.contains k = true → s.barrier.arrived.contains k = true

theorem gathered_start (w : Workload n Call) (current : FrequencyIndex) (snapshot : Snapshot) :
    Gathered w (start n Call current snapshot) none where
  outside _ _ hg := nomatch hg
  arrived _ _ hg := nomatch hg

theorem Gathered.begin {core : Fin n} {call : Call} (h : Gathered w s g) :
    Gathered w (s.launch w core call) g where
  outside i t hg hasked j u hj harrived hu := by
    rw [launch, resume_barrier] at harrived
    rcases of_resume_tasks hu with ⟨-, rfl, -⟩ | ⟨-, hu⟩
    · rfl
    · exact h.outside i t hg hasked j u hj harrived hu
  arrived i t hg hwaited k hk := by
    rw [launch, resume_barrier]
    exact h.arrived i t hg hwaited k hk

theorem Gathered.respond {core : Fin n} {c : Core} {barrier : Barrier} (h : Gathered w s g)
    (htask : s.tasks core = none)
    (hanswer : (s.cores core).step core s.barrier = some (c, barrier)) :
    Gathered w
      { s with
        barrier
        cores := Function.update s.cores core c
        tallies := Function.update s.tallies core
          ((s.tallies core).afterPhase (s.cores core).phase) } g := by
  have hbarrier := Core.step_barrier hanswer
  subst hbarrier
  refine ⟨fun i t hg hasked j u hj harrived hu => ?_, fun i t hg hwaited k hk => ?_⟩
  · split at harrived
    · rcases Barrier.of_contains_arrive harrived with harrived | hself
      · exact h.outside i t hg hasked j u hj harrived hu
      · -- The core that arrives runs no operation.
        cases Fin.ext hself
        cases htask.symm.trans hu
    · exact h.outside i t hg hasked j u hj harrived hu
  · have harrived := h.arrived i t hg hwaited k hk
    split
    · exact Barrier.contains_arrive_of_contains harrived
    · exact harrived

section Act

variable {core : Fin n} {value : UInt32} {t : Task Call} {a : Action}
  {rest : a.Reply → Operation TransitionError Unit} {r : a.Reply} {s₁ : Cluster n Call}

/-- What the holder does in its session keeps the others out of the way. -/
theorem Gathered.own (h : Gathered w s (some (core, t)))
    (hallows : t.stage.Allows (w.brief t.call core) a)
    (hperform : s.perform value a = some (r, s₁)) :
    Gathered w ((s₁.record t a).resume core (next t a r (rest r)))
      (some (core, next t a r (rest r))) := by
  have hbarrier : ((s₁.record t a).resume core (next t a r (rest r))).barrier = s₁.barrier :=
    resume_barrier ..
  have htasks : ∀ j u, j ≠ core →
      ((s₁.record t a).resume core (next t a r (rest r))).tasks j = some u →
        s.tasks j = some u := by
    intro j u hj hu
    rwa [act_tasks_of_ne hperform hj] at hu
  have hparking := Stage.parking_after hallows r
  have hsame : t.stage.parking ≠ .unasked → s₁.barrier.arrived = s.barrier.arrived := fun hasked =>
    (perform_arrived hperform).resolve_right fun hcleared =>
      Stage.ne_clearArrived hallows hasked hcleared.1
  constructor
  case outside =>
    rintro i t' ⟨⟩ hasked j u hj harrived hu
    rw [hbarrier] at harrived
    have hbefore : t.stage.parking ≠ .unasked := by
      rcases hparking with heq | ⟨rfl, -⟩ | ⟨hbefore, -⟩ | ⟨hbefore, -⟩
      · exact fun hunasked => hasked (heq.trans hunasked)
      · -- Nobody has arrived right after the arrivals are forgotten.
        cases hperform
        simp [accessed] at harrived
      · exact hbefore
      · exact hbefore
    rw [hsame hbefore] at harrived
    exact h.outside core t rfl hbefore j u hj harrived (htasks j u hj hu)
  case arrived =>
    rintro i t' ⟨⟩ hwaited k hk
    rw [hbarrier]
    rcases hparking with heq | ⟨rfl, -⟩ | ⟨-, cores, rfl⟩ | ⟨hbefore, heq⟩
    · have hwaited : t.stage.parking.waited = true := by
        rw [← heq]
        exact hwaited
      rw [hsame (by rintro hunasked; rw [hunasked] at hwaited; cases hwaited)]
      exact h.arrived core t rfl hwaited k hk
    · cases hwaited
    · cases effect_of_perform hperform with
      | barrier happly =>
          obtain ⟨hall, rfl⟩ := BarrierAccess.of_apply_awaitArrival happly
          have hcores : cores = (w.brief t.call core).others := hallows.2.1
          rw [hcores, CoreMask.containsAll_iff] at hall
          exact hall k hk
    · rw [hsame hbefore]
      refine h.arrived core t rfl ?_ k hk
      rw [← heq]
      exact hwaited

theorem Gathered.act (h : Gathered w s g) (hcustody : Custody w s g)
    (htask : s.tasks core = some t) (hrest : t.rest = .act a rest)
    (hperform : s.perform value a = some (r, s₁)) :
    Gathered w ((s₁.record t a).resume core (next t a r (rest r)))
      (g.after core t (next t a r (rest r))) := by
  have hallows := hcustody.allows htask hrest
  have hbarrier : ((s₁.record t a).resume core (next t a r (rest r))).barrier = s₁.barrier :=
    resume_barrier ..
  have hhandover := hcustody.handover htask hrest hperform
  generalize g.after core t (next t a r (rest r)) = g' at hhandover ⊢
  cases hhandover with
  | aside hbefore hafter =>
      refine ⟨fun i u hg hasked j v hj harrived hv => ?_, fun i u hg hwaited k hk => ?_⟩
      · rw [hbarrier] at harrived
        rcases of_resume_tasks hv with ⟨rfl, rfl, -⟩ | ⟨-, hv⟩
        · have houtside := h.outside i u hg hasked j t hj harrived htask
          exact Stage.outside_after hallows houtside hafter
        · exact h.outside i u hg hasked j v hj harrived hv
      · rw [hbarrier]
        exact h.arrived i u hg hwaited k hk
  | granted htenure hg hstage =>
      -- A session that has just been granted has asked nobody yet.
      have hunasked : (next t (.barrier .claim) r (rest r)).stage.parking = .unasked := by
        rw [hstage]
        exact ((hcustody.fits core t htask).sound.fresh (Or.inl htenure)).1
      refine ⟨?_, ?_⟩
      · rintro i u ⟨⟩ hasked
        exact absurd hunasked hasked
      · rintro i u ⟨⟩ hwaited
        rw [hunasked] at hwaited
        cases hwaited
  | returned htenure hg => exact ⟨fun i u hg => (nomatch hg), fun i u hg => (nomatch hg)⟩
  | own hg hclaim hunclaim =>
      rw [hg] at h
      exact h.own hallows hperform

end Act

/-- **Every move keeps the cores that have arrived out of the way.** -/
theorem Gathered.turn (h : Gathered w s g) (hcustody : Custody w s g)
    (hturn : Turn w s g m s' g') : Gathered w s' g' := by
  cases hturn with
  | begin htask hphase => exact h.begin
  | act htask hrest hperform => exact h.act hcustody htask hrest hperform
  | respond htask hanswer => exact h.respond htask hanswer
  | disturb => exact ⟨h.outside, h.arrived⟩

end Cluster

end Reclock
