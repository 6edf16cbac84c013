/-
**One transition at a time.**

The session is claimed, the retention state is checked, the current point is recorded and the
session is given back in separate steps on separate memories.  What keeps two transitions apart is
that only the holder of the session makes any of these steps, and that what it has seen of the two
memories stays so until it changes them itself.

Main definitions:

* `Reclock.Cluster.Flight` — **the invariant**;
* `Reclock.Cluster.Exclusive`, `Reclock.Cluster.Orderly` — what holds of every system that can be
  reached, and of every move from there.

Main results:

* `Reclock.Cluster.Flight.turn` — every move keeps the invariant;
* `Reclock.Cluster.single_flight` — **the transitions of a controller keep apart**.
-/

import Reclock.Proofs.Knowledge
import Reclock.Proofs.Record

set_option relaxedAutoImplicit false
set_option autoImplicit false

namespace Reclock

/-! ### The invariant -/

/-- How far the holder is. -/
def Holder.stage {n : Nat} {Call : Type} (g : Holder n Call) : Stage :=
  match g with
  | some (_, t) => t.stage
  | none => {}

namespace Cluster

variable {n : Nat} {Call : Type} {w : Workload n Call} {s s' : Cluster n Call} {m : Move n Call}
  {g g' : Holder n Call}

/-- **The transitions of a system keep apart.** -/
structure Flight (w : Workload n Call) (s : Cluster n Call) (g : Holder n Call) : Prop where
  /-- The operations are numbered. -/
  numbered : s.Numbered
  /-- What the holder has seen and done is what the memories say. -/
  knows : g.stage.Knows s.retention s.barrier.current
  /-- Once the holder has accessed registers, nobody else does. -/
  own : ∀ i t b, g = some (i, t) → [b, t.id].Sublist s.accesses → b = t.id
  /-- The register accesses of two operations do not interleave. -/
  apart : ∀ a b, [a, b, a].Sublist s.accesses → a = b
  /-- A subsystem that is off has been powered down, apart from the end of that operation. -/
  off : s.retention.state = .retained → g.stage.power ≠ .entered →
    ∀ id, Suspended w.purpose id s.history
  /-- So has one that is on its way up. -/
  waking : ∀ i t index, g = some (i, t) → t.stage.power = .exiting index →
    Suspended w.purpose t.id s.history

theorem flight_start (w : Workload n Call) (current : FrequencyIndex) (snapshot : Snapshot) :
    Flight w (start n Call current snapshot) none where
  numbered := numbered_start n Call current snapshot
  knows := by
    refine ⟨nofun, nofun, ?_, ?_⟩
    · rintro (h | h) <;> cases h
    · rintro index (h | h) <;> cases h
  own _ _ _ hg := nomatch hg
  apart _ _ h := nomatch h
  off h := nomatch h
  waking _ _ _ hg := nomatch hg

section Act

variable {core : Fin n} {value : UInt32} {t : Task Call} {a : Action}
  {rest : a.Reply → Operation TransitionError Unit} {r : a.Reply} {s₁ : Cluster n Call}

/-- **The register accesses of two operations do not interleave**, whatever is done next. -/
theorem Flight.apart_act (h : Flight w s g) (hcustody : Custody w s g)
    (htask : s.tasks core = some t) (hrest : t.rest = .act a rest)
    (hperform : s.perform value a = some (r, s₁))
    (hhandover : Handover s g core t (next t a r (rest r)) a s₁ g') :
    (∀ i u b, g' = some (i, u) →
      [b, u.id].Sublist ((s₁.record t a).resume core (next t a r (rest r))).accesses → b = u.id) ∧
    ∀ b c, [b, c, b].Sublist ((s₁.record t a).resume core (next t a r (rest r))).accesses →
      b = c := by
  have hallows := hcustody.allows htask hrest
  rcases accesses_of_act core t (next t a r (rest r)) hperform with ⟨-, heq⟩ | ⟨⟨x, rfl⟩, heq⟩
  · rw [heq]
    refine ⟨fun i u b hg' hsub => ?_, h.apart⟩
    cases hhandover with
    | aside hbefore hafter => exact h.own i u b hg' hsub
    | granted htenure hg hstage =>
        cases hg'
        have hmem : t.id ∈ s.accesses := hsub.subset (by simp [next])
        exact absurd hmem (h.numbered.untouched core t htask htenure)
    | returned htenure hg => cases hg'
    | own hg hclaim hunclaim =>
        cases hg'
        exact h.own core t b hg hsub
  · have hg := hcustody.unique core t htask hallows.1.holds
    have hown : ∀ b, [b, t.id].Sublist (t.id :: s.accesses) → b = t.id := by
      intro b hsub
      rcases List.sublist_cons_iff.1 hsub with hsub | ⟨tail, htail, -⟩
      · exact h.own core t b hg hsub
      · exact (List.cons.inj htail).1
    rw [heq]
    refine ⟨fun i u b hg' hsub => ?_, fun b c hsub => ?_⟩
    · cases hhandover with
      | aside hbefore hafter => cases hbefore.symm.trans hallows.1.holds
      | own hg hclaim hunclaim =>
          cases hg'
          exact hown b hsub
    · rcases List.sublist_cons_iff.1 hsub with hsub | ⟨tail, htail, hsub⟩
      · exact h.apart b c hsub
      · obtain ⟨rfl, rfl⟩ := List.cons.inj htail
        exact (h.own core t c hg hsub).symm

/-- What the next holder has seen and done is what the memories say. -/
theorem Flight.knows_act (h : Flight w s g) (hcustody : Custody w s g)
    (htask : s.tasks core = some t) (hrest : t.rest = .act a rest)
    (hperform : s.perform value a = some (r, s₁))
    (hhandover : Handover s g core t (next t a r (rest r)) a s₁ g') :
    g'.stage.Knows s₁.retention s₁.barrier.current := by
  have hknows := h.knows
  cases hhandover with
  | aside hbefore hafter => exact hknows
  | granted htenure hg hstage =>
      have hfresh := (hcustody.fits core t htask).sound.fresh (Or.inl htenure)
      refine hknows.aside (fun index => ?_) ?_
      · simp [Holder.stage, hstage]
      · simp [Holder.stage, hstage, hfresh.2]
  | returned htenure hg => exact hknows.aside nofun rfl
  | own hg hclaim hunclaim =>
      rw [hg] at hknows
      exact hknows.performed (hcustody.allows htask hrest) hperform

/-- An action that is no register access and no power-up ends no suspension. -/
theorem suspended_of_perform {purpose : Call → Purpose} {id : Nat} (t' : Task Call)
    (hperform : s.perform value a = some (r, s₁)) (h : Suspended purpose id s.history)
    (haccess : (∀ x, a ≠ .access x) ∨ t.id = id) (hactive : a ≠ .retention (.writeState .active)) :
    Suspended purpose id ((s₁.record t a).resume core t').history := by
  rw [← (perform_frame hperform).2.2] at h
  exact suspended_resume _ _ (suspended_record h haccess hactive)

/-- An operation without the session neither accesses registers nor powers the subsystem up. -/
theorem spares_of_aside {b : Brief} {stage : Stage} (hallows : stage.Allows b a)
    (hholds : stage.holds = false) :
    (∀ x, a ≠ .access x) ∧ a ≠ .retention (.writeState .active) := by
  have hseated : ¬ stage.Seated := by
    intro hseated
    cases hholds.symm.trans hseated.holds
  rcases Stage.allows_aside hallows hseated with ⟨record, rfl⟩ | rfl | rfl | rfl | rfl <;>
    exact ⟨nofun, nofun⟩

/-- What the holder does in its session leaves a subsystem suspended that is off, or that it brings
up. -/
theorem Flight.suspended_own (h : Flight w s (some (core, t))) (t' : Task Call)
    (hallows : t.stage.Allows (w.brief t.call core) a)
    (hperform : s.perform value a = some (r, s₁)) :
    (s₁.retention.state = .retained → (t.stage.after a r).power ≠ .entered → ∀ id,
      Suspended w.purpose id ((s₁.record t a).resume core t').history) ∧
    ∀ index, (t.stage.after a r).power = .exiting index →
      Suspended w.purpose t.id ((s₁.record t a).resume core t').history := by
  refine ⟨fun hretained hentered id => ?_, fun index hexiting => ?_⟩
  · obtain ⟨hbefore, hpower, haccess, hactive⟩ :=
      h.knows.retained_before hallows hperform hretained hentered
    exact suspended_of_perform _ hperform (h.off hbefore hpower id) (Or.inl haccess) hactive
  · rcases Stage.exiting_before hallows hperform hexiting with
      ⟨hbefore, hactive⟩ | ⟨hretained, hunseen, rfl⟩
    · exact suspended_of_perform _ hperform (h.waking core t index rfl hbefore) (Or.inr rfl) hactive
    · have hpower : t.stage.power ≠ .entered := by simp [hunseen]
      exact suspended_of_perform _ hperform (h.off hretained hpower t.id) (Or.inl nofun) nofun

/-- **A subsystem that is off has been powered down**, whatever is done next, and so has one on its
way up. -/
theorem Flight.suspended_act (h : Flight w s g) (hcustody : Custody w s g)
    (htask : s.tasks core = some t) (hrest : t.rest = .act a rest)
    (hperform : s.perform value a = some (r, s₁))
    (hhandover : Handover s g core t (next t a r (rest r)) a s₁ g') :
    (s₁.retention.state = .retained → g'.stage.power ≠ .entered → ∀ id,
      Suspended w.purpose id ((s₁.record t a).resume core (next t a r (rest r))).history) ∧
    ∀ i u index, g' = some (i, u) → u.stage.power = .exiting index →
      Suspended w.purpose u.id ((s₁.record t a).resume core (next t a r (rest r))).history := by
  have hallows := hcustody.allows htask hrest
  have hsound := (hcustody.fits core t htask).sound
  cases hhandover with
  | aside hbefore hafter =>
      obtain ⟨haccess, hactive⟩ := spares_of_aside hallows hbefore
      refine ⟨fun hretained hentered id => ?_, fun i u index hg hexiting => ?_⟩
      · exact suspended_of_perform _ hperform (h.off hretained hentered id) (Or.inl haccess) hactive
      · exact suspended_of_perform _ hperform (h.waking i u index hg hexiting) (Or.inl haccess) hactive
  | granted htenure hg hstage =>
      subst hg
      refine ⟨fun hretained _ id => ?_, fun i u index hg hexiting => ?_⟩
      · exact suspended_of_perform _ hperform (h.off hretained nofun id) (Or.inl nofun) nofun
      · cases hg
        rw [hstage, (hsound.fresh (Or.inl htenure)).2] at hexiting
        cases hexiting
  | returned htenure hg =>
      subst hg
      refine ⟨fun hretained _ id => ?_, fun i u index hg => nomatch hg⟩
      by_cases hentered : t.stage.power = .entered
      · -- The way down ends with this action, and has succeeded.
        have hdone : rest r = .done () :=
          (hcustody.keeps_rest htask hrest r).returned rfl hentered
        rw [hdone]
        exact .entered (hsound.down (Or.inr (Or.inr hentered))) rfl
      · exact suspended_of_perform _ hperform (h.off hretained hentered id) (Or.inl nofun) nofun
  | own hg hclaim hunclaim =>
      subst hg
      obtain ⟨hoff, hwaking⟩ := h.suspended_own (next t a r (rest r)) hallows hperform
      refine ⟨hoff, fun i u index hg hexiting => ?_⟩
      cases hg
      exact hwaking index hexiting

theorem Flight.act (h : Flight w s g) (hcustody : Custody w s g) (htask : s.tasks core = some t)
    (hrest : t.rest = .act a rest) (hperform : s.perform value a = some (r, s₁)) :
    Flight w ((s₁.record t a).resume core (next t a r (rest r)))
      (g.after core t (next t a r (rest r))) := by
  have hhandover := hcustody.handover htask hrest hperform
  have hknows := h.knows_act hcustody htask hrest hperform hhandover
  obtain ⟨hown, hapart⟩ := h.apart_act hcustody htask hrest hperform hhandover
  obtain ⟨hoff, hwaking⟩ := h.suspended_act hcustody htask hrest hperform hhandover
  refine ⟨h.numbered.act hcustody htask hrest hperform, ?_, hown, hapart, ?_, hwaking⟩
  · rw [resume_retention, resume_barrier]
    exact hknows
  · rw [resume_retention]
    exact hoff

end Act

/-- **Every move keeps the transitions apart.** -/
theorem Flight.turn (h : Flight w s g) (hcustody : Custody w s g) (hturn : Turn w s g m s' g') :
    Flight w s' g' := by
  have hnumbered := h.numbered.turn hcustody hturn
  cases hturn with
  | begin htask hphase =>
      refine ⟨hnumbered, ?_, ?_, ?_, ?_, ?_⟩
      · rw [launch, resume_retention, resume_barrier]
        exact h.knows
      · rw [launch, accesses_resume]
        exact h.own
      · rw [launch, accesses_resume]
        exact h.apart
      · rw [launch, resume_retention]
        exact fun hretained hentered id => suspended_resume _ _ (h.off hretained hentered id)
      · exact fun i t index hg hexiting => suspended_resume _ _ (h.waking i t index hg hexiting)
  | act htask hrest hperform => exact h.act hcustody htask hrest hperform
  | respond htask hanswer =>
      refine ⟨hnumbered, ?_, h.own, h.apart, h.off, h.waking⟩
      have hbarrier := Core.step_barrier hanswer
      subst hbarrier
      split
      · simpa using h.knows
      · exact h.knows
  | disturb => exact ⟨hnumbered, h.knows, h.own, h.apart, h.off, h.waking⟩

/-! ### What the transitions of a system never do -/

/-- **What holds of every system that can be reached.** -/
structure Exclusive (s : Cluster n Call) : Prop where
  /-- At most one operation holds the session. -/
  alone : ∀ i j t u, s.tasks i = some t → s.tasks j = some u → t.stage.holds = true →
    u.stage.holds = true → i = j
  /-- While one does, the session is in flight. -/
  claimed : ∀ i t, s.tasks i = some t → t.stage.holds = true → s.barrier.inProgress = true
  /-- The register accesses of two operations never interleave. -/
  apart : ∀ a b, [a, b, a].Sublist s.accesses → a = b
  /-- The point that a session began with is the current one. -/
  seated : ∀ i t index, s.tasks i = some t → t.stage.tenure = .seated index →
    s.barrier.current = index

/-- **What holds of every move of a system that can be reached.** -/
structure Orderly (w : Workload n Call) (s : Cluster n Call) (m : Move n Call)
    (s' : Cluster n Call) : Prop where
  /-- Only the operation that holds the session gives it back. -/
  ended : s.barrier.inProgress = true → s'.barrier.inProgress = false →
    ∃ core value t, m = .act core value ∧ s.tasks core = some t ∧ t.stage.holds = true
  /-- A new current point is recorded in a session that began with the present one, by an operation
  that has advanced the epoch and dropped the hold. -/
  recorded : s'.barrier.current ≠ s.barrier.current →
    ∃ core value t online, m = .act core value ∧ s.tasks core = some t ∧
      w.purpose t.call = .parks online ∧ t.stage.tenure = .seated s.barrier.current ∧
      (⟨t.id, t.call, .acted (.barrier .advanceEpoch)⟩ : Deed Call) ∈ s.history ∧
      (⟨t.id, t.call, .acted (.barrier .unhold)⟩ : Deed Call) ∈ s.history
  /-- A switch accesses registers only while the subsystem is active. -/
  switched : ∀ core value t x rest online, m = .act core value → s.tasks core = some t →
    t.rest = .act (.access x) rest → w.purpose t.call = .parks online → s.retention.state = .active
  /-- The way up accesses registers only after the subsystem has been powered down, and before it
  is powered up again. -/
  woken : ∀ core value t x rest, m = .act core value → s.tasks core = some t →
    t.rest = .act (.access x) rest → w.purpose t.call = .powersUp →
    Suspended w.purpose t.id s.history

theorem Flight.exclusive (h : Flight w s g) (hcustody : Custody w s g) : s.Exclusive where
  alone i j t u ht hu hholds hholds' := by
    have hg := hcustody.unique i t ht hholds
    rw [hcustody.unique j u hu hholds'] at hg
    cases hg
    rfl
  claimed i t ht hholds := by
    rw [hcustody.busy, hcustody.unique i t ht hholds]
    rfl
  apart := h.apart
  seated i t index ht htenure := by
    have hg := hcustody.unique i t ht (Stage.Seated.holds ⟨index, htenure⟩)
    have hknows := h.knows
    rw [hg] at hknows
    exact (hknows.seated index htenure).symm

/-- Only an action of an operation changes the current point, or whether a session is in flight. -/
theorem Turn.acts_or_stays (hturn : Turn w s g m s' g') :
    (∃ core value t a rest r s₁, m = .act core value ∧ s.tasks core = some t ∧
      t.rest = .act a rest ∧ s.perform value a = some (r, s₁) ∧ s'.barrier = s₁.barrier) ∨
    (s'.barrier.inProgress = s.barrier.inProgress ∧
      s'.barrier.current = s.barrier.current) := by
  cases hturn with
  | begin htask hphase =>
      right
      rw [launch, resume_barrier]
      exact ⟨rfl, rfl⟩
  | act htask hrest hperform =>
      exact Or.inl ⟨_, _, _, _, _, _, _, rfl, htask, hrest, hperform, resume_barrier ..⟩
  | respond htask hanswer =>
      right
      have hbarrier := Core.step_barrier hanswer
      subst hbarrier
      split <;> simp
  | disturb => exact Or.inr ⟨rfl, rfl⟩

section Orderly

variable {core : Fin n} {t : Task Call}

/-- An operation that holds the session and knows the current point knows the two memories. -/
theorem Flight.knows_of_seated (h : Flight w s g) (hcustody : Custody w s g)
    (htask : s.tasks core = some t) (hseated : t.stage.Seated) :
    t.stage.Knows s.retention s.barrier.current := by
  have hknows := h.knows
  rwa [hcustody.unique core t htask hseated.holds] at hknows

/-- Only the operation that holds the session gives it back. -/
theorem Custody.ended_by_holder (h : Custody w s g) (hturn : Turn w s g m s' g')
    (hbefore : s.barrier.inProgress = true) (hafter : s'.barrier.inProgress = false) :
    ∃ core value t, m = .act core value ∧ s.tasks core = some t ∧ t.stage.holds = true := by
  rcases hturn.acts_or_stays with ⟨core, value, t, a, rest, r, s₁, rfl, htask, hrest, hperform,
    hbarrier⟩ | ⟨hsame, -⟩
  · refine ⟨core, value, t, rfl, htask, ?_⟩
    rw [hbarrier] at hafter
    by_cases hclaim : a = .barrier .claim
    · subst hclaim
      cases hperform
      cases hafter
    · by_cases hunclaim : a = .barrier .unclaim
      · subst hunclaim
        have htenure : t.stage.tenure = .recorded := h.allows htask hrest
        simp [Stage.holds, htenure]
      · rw [perform_inProgress hperform hclaim hunclaim, hbefore] at hafter
        cases hafter
  · rw [hsame, hbefore] at hafter
    cases hafter

/-- A new current point is recorded by an operation that has let the parked cores go. -/
theorem Flight.recorded_after_release (h : Flight w s g) (hcustody : Custody w s g)
    (hturn : Turn w s g m s' g') (hchanged : s'.barrier.current ≠ s.barrier.current) :
    ∃ core value t online, m = .act core value ∧ s.tasks core = some t ∧
      w.purpose t.call = .parks online ∧ t.stage.tenure = .seated s.barrier.current ∧
      (⟨t.id, t.call, .acted (.barrier .advanceEpoch)⟩ : Deed Call) ∈ s.history ∧
      (⟨t.id, t.call, .acted (.barrier .unhold)⟩ : Deed Call) ∈ s.history := by
  rcases hturn.acts_or_stays with ⟨core, value, t, a, rest, r, s₁, rfl, htask, hrest, hperform,
    hbarrier⟩ | ⟨-, hsame⟩
  · rw [hbarrier] at hchanged
    rcases perform_current hperform with ⟨index, rfl, hindex⟩ | hsame
    · have hrecord : t.stage.MayRecord index := hcustody.allows htask hrest
      obtain ⟨before, htenure, -⟩ := id hrecord
      have hknows := h.knows_of_seated hcustody htask ⟨before, htenure⟩
      rcases hknows.recorded hrecord with heq | ⟨hreleased, -⟩
      · exact absurd (hindex.trans heq) hchanged
      · have hsound := (hcustody.fits core t htask).sound
        obtain ⟨online, hpurpose⟩ := (hsound.asked (by simp [hreleased])).1
        have hletting := h.numbered.let_go core t htask
        rw [hreleased] at hletting
        rw [hknows.seated before htenure] at htenure
        exact ⟨core, value, t, online, rfl, htask, hpurpose, htenure,
          hletting _ (by simp [Parking.letting]), hletting _ (by simp [Parking.letting])⟩
    · exact absurd hsame hchanged
  · exact absurd hsame hchanged

variable {x : Access} {rest : x.Reply → Operation TransitionError Unit}

/-- A switch accesses registers only while the subsystem is active. -/
theorem Flight.active_of_access (h : Flight w s g) (hcustody : Custody w s g) {online : CoreMask}
    (htask : s.tasks core = some t) (hrest : t.rest = .act (.access x) rest)
    (hpurpose : w.purpose t.call = .parks online) : s.retention.state = .active := by
  obtain ⟨hseated, hdrives⟩ := hcustody.allows htask hrest
  have hsound := (hcustody.fits core t htask).sound
  rcases hdrives with ⟨-, hactive⟩ | hpower | hpower | ⟨index, hpower⟩
  · exact (h.knows_of_seated hcustody htask hseated).state _ (by rw [hactive]; rfl)
  · cases hpurpose.symm.trans (hsound.down (Or.inl hpower))
  · cases hpurpose.symm.trans (hsound.down (Or.inr (Or.inl hpower)))
  · cases hpurpose.symm.trans (hsound.up index (Or.inl hpower))

/-- The way up accesses registers only while the subsystem has not been powered up again. -/
theorem Flight.suspended_of_access (h : Flight w s g) (hcustody : Custody w s g)
    (htask : s.tasks core = some t) (hrest : t.rest = .act (.access x) rest)
    (hpurpose : w.purpose t.call = .powersUp) : Suspended w.purpose t.id s.history := by
  obtain ⟨hseated, hdrives⟩ := hcustody.allows htask hrest
  have hsound := (hcustody.fits core t htask).sound
  rcases hdrives with ⟨hparked, -⟩ | hpower | hpower | ⟨index, hpower⟩
  · obtain ⟨online, hparks⟩ := (hsound.asked (by simp [hparked])).1
    cases hpurpose.symm.trans hparks
  · cases hpurpose.symm.trans (hsound.down (Or.inl hpower))
  · cases hpurpose.symm.trans (hsound.down (Or.inr (Or.inl hpower)))
  · exact h.waking core t index (hcustody.unique core t htask hseated.holds) hpower

end Orderly

theorem Flight.orderly (h : Flight w s g) (hcustody : Custody w s g)
    (hturn : Turn w s g m s' g') : Orderly w s m s' where
  ended := hcustody.ended_by_holder hturn
  recorded := h.recorded_after_release hcustody hturn
  switched _ _ _ _ _ _ _ htask hrest hpurpose := h.active_of_access hcustody htask hrest hpurpose
  woken _ _ _ _ _ _ htask hrest hpurpose := h.suspended_of_access hcustody htask hrest hpurpose

/-- **The transitions of a controller keep apart**: from any start and in whatever order its cores
move, at most one transition is in a session, register accesses of two never interleave, no
transition decides on a point that is no longer the current one, a new point is recorded only after
the parked cores have been let go, and registers are accessed only while the subsystem is there for
it. -/
theorem single_flight (c : Controller) (current : FrequencyIndex) (snapshot : Snapshot)
    (ms : List (Move c.coreCount Request)) {s : Cluster c.coreCount Request}
    (hrun : (start c.coreCount Request current snapshot).run c.workload ms = some s) :
    s.Exclusive ∧ ∀ m s', s.step c.workload m = some s' → Orderly c.workload s m s' := by
  have halong : Along c.workload (fun _ _ _ => True)
      (start c.coreCount Request current snapshot) ms := along_of_forall fun _ _ => trivial
  obtain ⟨g, hcustody, hflight⟩ : ∃ g, Custody c.workload s g ∧ Flight c.workload s g := by
    refine invariant (P := fun s => ∃ g, Custody c.workload s g ∧ Flight c.workload s g) ?_
      ⟨none, custody_start c.workload current snapshot, flight_start c.workload current snapshot⟩
      halong hrun
    rintro s m s' ⟨g, hcustody, hflight⟩ hstep -
    obtain ⟨g', hturn, hcustody'⟩ := hcustody.step hstep
    exact ⟨g', hcustody', hflight.turn hcustody hturn⟩
  refine ⟨hflight.exclusive hcustody, fun m s' hstep => ?_⟩
  obtain ⟨g', hturn, -⟩ := hcustody.step hstep
  exact hflight.orderly hcustody hturn

/-- Two cores and two points, with one register in every program. -/
def twoPoints : Controller where
  table :=
    { points := [1600, 3200].map fun dataRate =>
        ⟨dataRate, false, [⟨0, 1⟩], [⟨0, 1⟩], [⟨0, 1⟩], [⟨0, 1⟩], [⟨0, 1⟩]⟩
      fast := none
      points_ne_nil := nofun
      length_points_le := by decide
      fast_lt := nofun }
  config := ⟨2, 800, 24, 1, 1⟩
  coreCount := 2

/-- Core 0 switches to the other point, parks core 1, and comes to its first register access. -/
def switching : List (Move 2 Request) :=
  [.begin 0 (.switch ⟨1⟩ (.all 2)), .act 0 0, .act 0 0, .act 0 0, .act 0 0, .act 0 0, .act 0 0,
    .act 0 0, .respond 1, .respond 1, .respond 1, .respond 1, .respond 1, .act 0 0, .act 0 0]

theorem single_flight_switching :
    ∃ s, (start 2 Request ⟨0⟩ {}).run twoPoints.workload switching = some s ∧
      s.retention.state = .active := by
  obtain ⟨s, t, x, rest, s', hrun, htask, hrest, hcall, hstep⟩ : ∃ s t x rest s',
      (start 2 Request ⟨0⟩ {}).run twoPoints.workload switching = some s ∧ s.tasks (0 : Fin 2) = some t ∧
      t.rest = .act (.access x) rest ∧ twoPoints.workload.purpose t.call = .parks (.all 2) ∧
      s.step twoPoints.workload (.act (0 : Fin 2) 0) = some s' :=
    ⟨_, _, _, _, _, rfl, rfl, rfl, rfl, rfl⟩
  refine ⟨s, hrun, ?_⟩
  obtain ⟨-, horderly⟩ := single_flight twoPoints ⟨0⟩ {} switching hrun
  exact (horderly _ _ hstep).switched (0 : Fin 2) 0 t x rest (.all 2) rfl htask hrest hcall

end Cluster

end Reclock
