/-
**Transitions that succeed.**

A transition that is asked for in the right circumstances succeeds if its register sequences do.
Whatever register file the system has, only the sequences decide: none of the checks fails, the
other cores come when they are called, and the session is given back.

Main results:

* `Reclock.Controller.completes_switchFrequency` — **a switch succeeds** if its sequence does;
* `Reclock.Controller.completes_enterRetention`, `completes_exitRetention` — so do the ways down
  and up.
-/

import Reclock.Proofs.Outcome

set_option relaxedAutoImplicit false
set_option autoImplicit false

namespace Reclock

namespace Controller

open Operation

variable {H : Type} [RegisterFile H] {c : Controller} {s : System H}

/-- A register sequence that completes is attempted successfully. -/
theorem completes_attempt {p : Sequences.Timed Unit} {P : H → Prop}
    (hp : p.Completes RegisterFile.answer s.hardware fun _ => P) :
    (Procedure.attempt (registers p) : Operation TransitionError (Except PollTimeout Unit)).Completes
      System.answer s fun outcome s' => outcome = .ok () ∧
        ∃ hardware events, s' = { s with hardware, events } ∧ P hardware :=
  ((System.completes_registers hp).mono fun _ _ h => ⟨rfl, h⟩).attempt

/-! ### Switches -/

theorem completes_switchFrom {core : Nat} {target : FrequencyIndex} {online : CoreMask}
    {timings : PointTimings} {P : H → Prop} (hcalm : s.Calm) (hcore : core < 32)
    (honline : ∀ k, online.contains k = true → k < s.cores.length)
    (hp : (Sequences.switchPoint c.config
      (((c.table.timings? s.barrier.current).map (·.bypass)).getD false)
      (timings.point target) timings).Completes RegisterFile.answer s.hardware fun _ => P) :
    (c.switchFrom core ⟨s.barrier.current⟩ target timings online).Completes System.answer s.claimed
      fun _ s' => P s'.hardware ∧ s'.barrier.current = target ∧ s'.barrier.inProgress = false ∧
        s'.Calm ∧ s'.retention = s.retention := by
  refine System.completes_log fun events => ?_
  have hcalm' : ({ s.claimed with events } : System H).Calm := hcalm
  refine (System.completes_quiesce hcalm' hcore honline).andThen fun _ s₁ hparked => ?_
  obtain ⟨⟨cores, arrived, events₁, raised, rfl, -⟩, hheld⟩ := hparked
  obtain ⟨events₂, flushes, hflush⟩ := System.run_flush (ε := TransitionError) ({ s with
    cores, raised, events := events₁
    barrier := { s.barrier with inProgress := true, hold := true, arrived } } : System H)
  refine Procedure.completes_bind_of_run hflush ?_
  refine Procedure.Completes.andThen (completes_attempt hp) fun outcome s₂ hend => ?_
  obtain ⟨rfl, hardware, events₃, rfl, hP⟩ := hend
  have hheld' : ({ s with
      hardware, cores, raised, flushes, events := events₃
      barrier := { s.barrier with inProgress := true, hold := true, arrived } } : System H).Held :=
    hheld
  dsimp only
  rw [← Procedure.bind_assoc]
  refine (completes_letGo hheld' target).andThen fun _ s₃ hlands => ?_
  obtain ⟨events₄, hlog⟩ := System.run_log (ε := TransitionError) .info
    ("DRAM running at " ++ rateText timings.dataRate ++ " MT/s") s₃
  refine Procedure.completes_of_run hlog ⟨?_, hlands.current, hlands.free, hlands.calm,
    hlands.retention⟩
  rw [hlands.hardware]
  exact hP

/-- **A switch succeeds** if it is asked for in a free and active subsystem, for another point that
can be switched to and for cores that the system has, and if its register sequence completes. -/
theorem completes_switchFrequency {core : Nat} {target : FrequencyIndex} {online : CoreMask}
    {timings : PointTimings} {P : H → Prop} (hcalm : s.Calm)
    (hfree : s.barrier.inProgress = false) (hactive : s.retention.state = .active)
    (htimings : c.table.timings? target = some timings) (hswitchable : timings.switchable = true)
    (hadmitted : c.admits online = true) (hother : s.barrier.current ≠ target) (hcore : core < 32)
    (honline : ∀ k, online.contains k = true → k < s.cores.length)
    (hp : (Sequences.switchPoint c.config
      (((c.table.timings? s.barrier.current).map (·.bypass)).getD false)
      (timings.point target) timings).Completes RegisterFile.answer s.hardware fun _ => P) :
    (c.switchFrequency core target online).Completes System.answer s
      fun _ s' => P s'.hardware ∧ s'.barrier.current = target ∧ s'.barrier.inProgress = false ∧
        s'.Calm ∧ s'.retention = s.retention := by
  have hbegin := System.run_beginActive s
  rw [if_pos ⟨hfree, hactive⟩] at hbegin
  unfold switchFrequency
  simp only [htimings, hswitchable, hadmitted, Procedure.demand, Procedure.require, if_true,
    Procedure.done_bind]
  refine Procedure.completes_bind_of_run hbegin ?_
  dsimp only
  rw [if_neg hother]
  exact completes_switchFrom hcalm hcore honline hp

/-! ### Retention -/

/-- **The way down succeeds** from a free and active subsystem at a point that can be retained, if
its register sequences complete. -/
theorem completes_enterRetention {timings : PointTimings} {P : H → Snapshot → Prop}
    (hfree : s.barrier.inProgress = false) (hactive : s.retention.state = .active)
    (htimings : c.table.timings? s.barrier.current = some timings)
    (hretainable : timings.retainable = true)
    (hp : ∀ s₁ : System H, s₁.hardware = s.hardware →
      s₁.retention.snapshot = s.retention.snapshot →
        (c.powerDown s.barrier.current timings).Completes System.answer s₁ fun _ s₂ =>
          Steady s₁ s₂ ∧ P s₂.hardware s₂.retention.snapshot) :
    c.enterRetention.Completes System.answer s fun _ s' =>
      P s'.hardware s'.retention.snapshot ∧ s'.retention.state = .retained ∧
        s'.barrier = s.barrier ∧ s'.cores = s.cores := by
  have hbegin := System.run_begin s
  rw [hfree] at hbegin
  have hfound : (c.table.timings? s.barrier.current).filter PointTimings.retainable =
      some timings := by
    rw [htimings, Option.filter_some, if_pos hretainable]
  have hentry : RetentionAccess.beginEntry.apply s.claimed.retention =
      (true, { s.retention with state := .entering }) := by
    simp [RetentionAccess.apply, System.claimed, hactive]
  refine Procedure.completes_bind_of_run hbegin ?_
  dsimp only
  simp only [hfound]
  refine Procedure.completes_bind_of_run (System.run_retention .beginEntry s.claimed) ?_
  rw [hentry]
  refine System.completes_log fun events => ?_
  have hdown : (Procedure.attempt (c.powerDown s.barrier.current timings) :
      Operation TransitionError (Except PollTimeout Unit)).Completes System.answer
        { s.claimed with retention := { s.retention with state := .entering }, events }
        fun outcome s₂ => outcome = .ok () ∧
          Steady { s.claimed with retention := { s.retention with state := .entering }, events }
            s₂ ∧ P s₂.hardware s₂.retention.snapshot :=
    ((hp ({ s.claimed with
      retention := { s.retention with state := .entering }, events } : System H) rfl rfl).mono
        fun _ _ h => ⟨rfl, h⟩).attempt
  refine Procedure.Completes.andThen hdown fun outcome s₂ hend => ?_
  obtain ⟨rfl, hsteady, hP⟩ := hend
  refine Procedure.completes_bind_of_run (System.run_retention _ s₂) ?_
  refine Procedure.completes_of_run (System.run_finish _ _) ⟨hP, rfl, ?_, hsteady.cores⟩
  simp only [hsteady.barrier, System.claimed]
  rw [← hfree]

/-- **The way up succeeds** from a free subsystem that is off, if its register sequence
completes. -/
theorem completes_exitRetention {timings : PointTimings} {P : H → Prop}
    (hfree : s.barrier.inProgress = false) (hretained : s.retention.state = .retained)
    (htimings : c.table.timings? s.retention.snapshot.frequency = some timings)
    (hp : (Sequences.powerUp c.config (timings.point s.retention.snapshot.frequency) timings
      (s.retention.snapshot.trainedAt s.retention.snapshot.frequency)).Completes
        RegisterFile.answer s.hardware fun _ => P) :
    c.exitRetention.Completes System.answer s fun _ s' =>
      P s'.hardware ∧ s'.retention = { s.retention with state := .active } ∧
        s'.barrier = { s.barrier with current := s.retention.snapshot.frequency } ∧
          s'.cores = s.cores := by
  have hbegin := System.run_begin s
  rw [hfree] at hbegin
  have hexit : RetentionAccess.beginExit.apply s.claimed.retention =
      (some s.retention.snapshot, { s.retention with state := .exiting }) := by
    simp [RetentionAccess.apply, System.claimed, hretained]
  refine Procedure.completes_bind_of_run (System.run_retention .readState s) ?_
  have hallowed : (Procedure.require ((RetentionAccess.readState.apply s.retention).1 = .retained)
      TransitionError.notRetained : Operation TransitionError Unit) = .done () := by
    simp [RetentionAccess.apply, Procedure.require, hretained]
  simp only [hallowed, Procedure.done_bind]
  refine Procedure.completes_bind_of_run hbegin ?_
  refine Procedure.completes_bind_of_run (System.run_retention .beginExit s.claimed) ?_
  rw [hexit]
  dsimp only
  unfold exitTo
  simp only [htimings]
  refine Procedure.Completes.andThen (completes_attempt (s := { s.claimed with
    retention := { s.retention with state := .exiting } }) hp) fun outcome s₁ hend => ?_
  obtain ⟨rfl, hardware, events, rfl, hP⟩ := hend
  refine Procedure.completes_bind_of_run (System.run_retention _ _) ?_
  refine Procedure.completes_bind_of_run (System.run_finish _ _) ?_
  obtain ⟨events', hlog⟩ := System.run_log (ε := TransitionError) .info
    ("DRAM left retention at " ++ rateText timings.dataRate ++ " MT/s") ({ s with
      hardware, events
      retention := { s.retention with state := .active }
      barrier := { s.barrier with
        current := s.retention.snapshot.frequency, inProgress := false } } : System H)
  refine Procedure.completes_of_run hlog ⟨hP, rfl, ?_, rfl⟩
  simp only
  rw [← hfree]

end Controller

end Reclock
