/-
**What an operation knows of the two memories.**

An operation reads the current point when its session begins and looks at the state of the
subsystem before it does anything to it.  Between two such steps it relies on what it has read.
While it holds the session nobody else writes either memory, so that what it has seen, and what it
has written itself, stays so.

Main definitions:

* `Reclock.Power.leaves` — the state in which an operation has left the subsystem;
* `Reclock.Stage.Knows` — **what an operation has seen and done is what the memories say**;
* `Reclock.Stage.Shift` — the ways of a step on the memory of retention.

Main results:

* `Reclock.Stage.Knows.recorded` — a new current point is recorded only after the parked cores have
  been let go;
* `Reclock.Stage.Knows.performed` — every action of the holder keeps what it knows;
* `Reclock.Stage.Knows.retained_before`, `Reclock.Stage.exiting_before` — how a subsystem goes off,
  and how it begins to come up;
* `Reclock.Procedure.Keeps.returned` — how an operation ends that has powered the subsystem down.
-/

import Reclock.Proofs.Custody

set_option relaxedAutoImplicit false
set_option autoImplicit false

namespace Reclock

/-! ### What an operation knows -/

/-- The state in which an operation has left the subsystem, if it has seen or moved it. -/
def Power.leaves : Power → Option RetentionState
  | .unseen => none
  | .active | .exited _ => some .active
  | .entering | .saved => some .entering
  | .entered => some .retained
  | .exiting _ => some .exiting

namespace Stage

/-- **What an operation has seen and done is what the memories say**: the state of the subsystem,
and the current point. -/
structure Knows (stage : Stage) (m : Retention) (current : FrequencyIndex) : Prop where
  /-- The session began at the current point. -/
  seated : ∀ index, stage.tenure = .seated index → index = current
  /-- The subsystem is where the operation has left it. -/
  state : ∀ state, stage.power.leaves = some state → m.state = state
  /-- The snapshot of a subsystem that is off is one of the current point. -/
  saved : stage.power = .saved ∨ m.state = .retained → m.snapshot.frequency = current
  /-- The subsystem is powered up at the current point. -/
  index : ∀ index, stage.power = .exiting index ∨ stage.power = .exited index → index = current

variable {stage : Stage} {m : Retention} {current : FrequencyIndex} {b : Brief} {a : Action}

/-- An operation that does not hold the session knows as much as anybody. -/
theorem Knows.aside {stage' : Stage} (h : stage.Knows m current)
    (hseated : ∀ index, stage'.tenure ≠ .seated index) (hpower : stage'.power = .unseen) :
    stage'.Knows m current where
  seated index hindex := absurd hindex (hseated index)
  state := by simp [hpower, Power.leaves]
  saved := by
    rintro (hsaved | hretained)
    · rw [hpower] at hsaved
      cases hsaved
    · exact h.saved (Or.inr hretained)
  index := by simp [hpower]

/-- A step on the memory of the barrier does nothing about retention. -/
theorem power_after_barrier (stage : Stage) (a : BarrierAccess) (r : a.Reply) :
    (stage.after (.barrier a) r).power = stage.power := by
  cases a with
  | claim => cases r <;> rfl
  | readCurrent =>
      simp only [Stage.after]
      split <;> rfl
  | _ => rfl

/-- A step on the memory of retention leads to a stage with another state of the subsystem alone. -/
theorem after_retention_eq (stage : Stage) (a : RetentionAccess) (r : a.Reply) :
    stage.after (.retention a) r =
      { stage with power := (stage.after (.retention a) r).power } := by
  obtain ⟨htenure, hparking⟩ := after_retention stage a r
  rw [Stage.mk.injEq]
  exact ⟨htenure, hparking, rfl⟩

/-- An operation that may access registers has not found the subsystem off. -/
theorem Knows.not_retained (h : stage.Knows m current) (hdrives : stage.Drives) :
    m.state ≠ .retained := by
  intro hretained
  rcases hdrives with ⟨-, hpower⟩ | hpower | hpower | ⟨index, hpower⟩
  all_goals
    have hstate := h.state _ (by rw [hpower]; rfl)
    rw [hretained] at hstate
    cases hstate

/-- What an operation records as the current point is the current point, unless it has seen the
subsystem active and has let the parked cores go. -/
theorem Knows.recorded {index : FrequencyIndex} (h : stage.Knows m current)
    (hrecord : stage.MayRecord index) :
    index = current ∨ (stage.parking = .released ∧ stage.power = .active) := by
  obtain ⟨before, htenure, -, ⟨rfl, -⟩ | hreleased | hexited⟩ := hrecord
  · exact Or.inl (h.seated _ htenure)
  · exact Or.inr hreleased
  · exact Or.inl (h.index _ (Or.inr hexited))

/-! ### The steps of retention -/

/-- **The ways of a step on the memory of retention** by an operation that may make it: how the
operation stands afterwards, and what is then in the memory. -/
inductive Shift (stage : Stage) (m : Retention) : RetentionAccess → Power → Retention → Prop
  /-- It looks, or cannot begin what it is there for. -/
  | idle {a : RetentionAccess} (hkept : a ≠ .writeState .active) : Shift stage m a stage.power m
  /-- It sees the subsystem active. -/
  | seen (hstate : m.state = .active) : Shift stage m .readState .active m
  /-- It begins the way down. -/
  | entering (hunseen : stage.power = .unseen) (hactive : m.state = .active) :
      Shift stage m .beginEntry .entering { m with state := .entering }
  /-- It records the snapshot. -/
  | saved {snapshot : Snapshot} (htenure : stage.tenure = .seated snapshot.frequency)
      (hentering : stage.power = .entering) :
      Shift stage m (.writeSnapshot snapshot) .saved { m with snapshot }
  /-- It has powered the subsystem down. -/
  | entered (hsaved : stage.power = .saved) :
      Shift stage m (.writeState .retained) .entered { m with state := .retained }
  /-- It begins the way up. -/
  | exiting (hunseen : stage.power = .unseen) (hretained : m.state = .retained) :
      Shift stage m .beginExit (.exiting m.snapshot.frequency) { m with state := .exiting }
  /-- It has powered the subsystem up. -/
  | exited {index : FrequencyIndex} (hexiting : stage.power = .exiting index) :
      Shift stage m (.writeState .active) (.exited index) { m with state := .active }

/-- Every step that an operation may make goes in one of these ways. -/
theorem shift_of_allows {a : RetentionAccess} (m : Retention)
    (hallows : stage.Allows b (.retention a)) :
    stage.Shift m a (stage.after (.retention a) (a.apply m).1).power (a.apply m).2 := by
  cases a with
  | readState =>
      simp only [Stage.after]
      split
      case h_1 =>
        split
        case isTrue hactive => exact .seen hactive
        case isFalse => exact .idle (by simp)
      case h_2 => exact .idle (by simp)
  | writeState state =>
      cases state with
      | active =>
          obtain ⟨-, index, hexiting⟩ := hallows
          simp only [Stage.after, hexiting]
          exact .exited hexiting
      | retained => exact .entered hallows.2
      | entering => cases hallows
      | exiting => cases hallows
  | beginEntry =>
      by_cases hactive : m.state = .active
      · simp only [RetentionAccess.apply, hactive, if_true]
        exact .entering hallows.2.2.1 hactive
      · simp only [RetentionAccess.apply, hactive, if_false]
        exact .idle (by simp)
  | beginExit =>
      by_cases hretained : m.state = .retained
      · simp only [RetentionAccess.apply, hretained, if_true]
        exact .exiting hallows.2.2.1 hretained
      · simp only [RetentionAccess.apply, hretained, if_false]
        exact .idle (by simp)
  | readSnapshot => exact .idle (by simp)
  | writeSnapshot snapshot => exact .saved hallows.1 hallows.2

/-- A step on the memory of retention keeps what an operation knows. -/
theorem Knows.shifted {a : RetentionAccess} {power : Power} {m' : Retention}
    (h : stage.Knows m current) (hshift : stage.Shift m a power m') :
    Knows { stage with power } m' current := by
  cases hshift with
  | idle hkept => exact h
  | seen hstate =>
      refine ⟨h.seated, ?_, ?_, nofun⟩
      · rintro _ ⟨⟩
        exact hstate
      · exact fun hsaved => h.saved (hsaved.imp_left nofun)
  | entering hunseen hactive =>
      refine ⟨h.seated, ?_, nofun, nofun⟩
      rintro _ ⟨⟩
      rfl
  | saved htenure hentering =>
      refine ⟨h.seated, ?_, fun _ => h.seated _ htenure, nofun⟩
      rintro _ ⟨⟩
      exact h.state _ (by rw [hentering]; rfl)
  | entered hsaved =>
      refine ⟨h.seated, ?_, fun _ => h.saved (Or.inl hsaved), nofun⟩
      rintro _ ⟨⟩
      rfl
  | exiting hunseen hretained =>
      refine ⟨h.seated, ?_, nofun, ?_⟩
      · rintro _ ⟨⟩
        rfl
      · rintro index (⟨⟨⟩⟩ | ⟨⟨⟩⟩)
        exact h.saved (Or.inr hretained)
  | exited hexiting =>
      refine ⟨h.seated, ?_, nofun, ?_⟩
      · rintro _ ⟨⟩
        rfl
      · rintro index (⟨⟨⟩⟩ | ⟨⟨⟩⟩)
        exact h.index _ (Or.inl hexiting)

/-! ### Every action -/

/-- A step on the memory of the barrier keeps what the holder knows. -/
theorem Knows.accessed {a : BarrierAccess} {r : a.Reply} {barrier barrier' : Barrier}
    (h : stage.Knows m barrier.current) (hallows : stage.Allows b (.barrier a))
    (happly : a.apply barrier = some (r, barrier')) :
    (stage.after (.barrier a) r).Knows m barrier'.current := by
  cases a with
  | claim =>
      cases happly
      cases barrier.inProgress
      · exact ⟨(by rintro _ ⟨⟩), h.state, h.saved, h.index⟩
      · exact h
  | unclaim =>
      cases happly
      exact ⟨(by rintro _ ⟨⟩), h.state, h.saved, h.index⟩
  | readCurrent =>
      cases happly
      simp only [Stage.after]
      split
      · refine ⟨?_, h.state, h.saved, h.index⟩
        rintro _ ⟨⟩
        rfl
      · exact h
  | writeCurrent index =>
      cases happly
      rcases h.recorded hallows with rfl | ⟨-, hactive⟩
      · exact ⟨(by rintro _ ⟨⟩), h.state, h.saved, h.index⟩
      · -- Another point is recorded only while there is no snapshot that has to agree with it.
        have hstate : m.state = .active := h.state _ (by rw [hactive]; rfl)
        refine ⟨(by rintro _ ⟨⟩), h.state, ?_, ?_⟩
        · rintro (hsaved | hretained)
          · cases hactive.symm.trans hsaved
          · cases hstate.symm.trans hretained
        · rintro point (hexiting | hexited)
          · cases hactive.symm.trans hexiting
          · cases hactive.symm.trans hexited
  | awaitArrival cores =>
      obtain ⟨-, rfl⟩ := BarrierAccess.of_apply_awaitArrival happly
      exact ⟨h.seated, h.state, h.saved, h.index⟩
  | _ =>
      cases happly
      exact ⟨h.seated, h.state, h.saved, h.index⟩

section Performed

variable {n : Nat} {Call : Type} {s s₁ : Cluster n Call} {value : UInt32} {r : a.Reply}

/-- **Every action of the holder keeps what it knows.** -/
theorem Knows.performed (h : stage.Knows s.retention s.barrier.current)
    (hallows : stage.Allows b a) (hperform : s.perform value a = some (r, s₁)) :
    (stage.after a r).Knows s₁.retention s₁.barrier.current := by
  cases Cluster.effect_of_perform hperform with
  | interrupt targets => exact ⟨h.seated, h.state, h.saved, h.index⟩
  | event => exact ⟨h.seated, h.state, h.saved, h.index⟩
  | barrier happly => exact h.accessed hallows happly
  | retention a =>
      rw [after_retention_eq]
      exact h.shifted (shift_of_allows _ hallows)
  | _ => exact h

/-- The subsystem goes off only by the operation that powers it down, and while it is off nobody
accesses registers or powers it up. -/
theorem Knows.retained_before (h : stage.Knows s.retention s.barrier.current)
    (hallows : stage.Allows b a) (hperform : s.perform value a = some (r, s₁))
    (hretained : s₁.retention.state = .retained) (hentered : (stage.after a r).power ≠ .entered) :
    s.retention.state = .retained ∧ stage.power ≠ .entered ∧ (∀ x, a ≠ .access x) ∧
      a ≠ .retention (.writeState .active) := by
  cases Cluster.effect_of_perform hperform with
  | access a r => exact absurd hretained (h.not_retained hallows.2)
  | barrier happly =>
      rw [power_after_barrier] at hentered
      exact ⟨hretained, hentered, nofun, nofun⟩
  | retention a =>
      have hshift := shift_of_allows s.retention hallows
      generalize (stage.after (.retention a) (a.apply s.retention).1).power = power,
        (a.apply s.retention).2 = m at hshift hretained hentered
      cases hshift with
      | idle hkept => exact ⟨hretained, hentered, nofun, by simpa using hkept⟩
      | seen hstate => cases hstate.symm.trans hretained
      | saved htenure hentering => exact ⟨hretained, by simp [hentering], nofun, nofun⟩
      | entered hsaved => exact absurd rfl hentered
      | _ => cases hretained
  | _ => exact ⟨hretained, hentered, nofun, nofun⟩

/-- An operation is on the way up because it was before, or has found the subsystem off. -/
theorem exiting_before {index : FrequencyIndex} (hallows : stage.Allows b a)
    (hperform : s.perform value a = some (r, s₁))
    (hexiting : (stage.after a r).power = .exiting index) :
    (stage.power = .exiting index ∧ a ≠ .retention (.writeState .active)) ∨
      (s.retention.state = .retained ∧ stage.power = .unseen ∧ a = .retention .beginExit) := by
  cases Cluster.effect_of_perform hperform with
  | barrier happly =>
      rw [power_after_barrier] at hexiting
      exact Or.inl ⟨hexiting, nofun⟩
  | retention a =>
      have hshift := shift_of_allows s.retention hallows
      generalize (stage.after (.retention a) (a.apply s.retention).1).power = power,
        (a.apply s.retention).2 = m at hshift hexiting
      cases hshift with
      | idle hkept => exact Or.inl ⟨hexiting, by simpa using hkept⟩
      | exiting hunseen hretained => exact Or.inr ⟨hretained, hunseen, rfl⟩
      | _ => cases hexiting
  | _ => exact Or.inl ⟨hexiting, nofun⟩

end Performed

end Stage

/-- An operation that has powered the subsystem down and given the session back is at its end. -/
theorem Procedure.Keeps.returned {b : Brief} {p : Operation TransitionError Unit} {s : Stage}
    (h : p.Keeps (protocol b) s (Stage.Ends b)) (hover : s.tenure = .over)
    (hentered : s.power = .entered) : p = .done () := by
  have hseated : ¬ s.Seated := by
    rintro ⟨current, htenure⟩
    cases hover.symm.trans htenure
  cases p with
  | done result => rfl
  | fail e =>
      rcases h with houtside | ⟨-, hpower⟩ | ⟨hholds, -⟩
      · cases hover.symm.trans houtside
      · exact absurd hentered hpower
      · exact absurd hholds hseated
  | act a next =>
      have hallows : s.Allows b a := h.1
      rcases Stage.allows_aside hallows hseated with ⟨record, rfl⟩ | rfl | rfl | rfl | rfl
      · exact absurd hentered (hallows hover)
      · cases hover.symm.trans hallows
      · cases hover.symm.trans hallows
      · rcases hallows with htenure | htenure
        · cases hover.symm.trans htenure
        · cases hover.symm.trans htenure
      · exact absurd hover hallows

end Reclock
