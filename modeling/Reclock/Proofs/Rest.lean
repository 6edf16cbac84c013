/-
**The other cores between two actions of an operation.**

In a system that is run in sequence the other cores answer a signal at once and come to rest.  What
matters of them then is where they rest: between two operations they run their own programs, and
while a core has parked them they wait with the epoch that is current, so that nothing but a
release lets them go.

Main definitions:

* `Reclock.Barrier.Gains` — what the answers of cores may do to the memory of the barrier;
* `Reclock.System.Calm`, `Reclock.System.Held` — the cores run their own programs, or wait.

Main results:

* `Reclock.Core.settleAll_rests` — an invariant of the steps holds of every core at rest;
* `Reclock.System.ensures_quiesce` — **parking takes a calm system to a held one**;
* `Reclock.System.completes_quiesce` — and it always succeeds for cores that the system has;
* `Reclock.System.completes_release` — **a release takes a held system back to a calm one**.
-/

import Reclock.Proofs.Answer
import Reclock.Proofs.Runs

set_option relaxedAutoImplicit false
set_option autoImplicit false

namespace Reclock

/-! ### The memory of the barrier while cores answer -/

/-- **What the answers of cores may do to the memory of the barrier**: arrivals are added. -/
def Barrier.Gains (b b' : Barrier) : Prop :=
  ∃ arrived, b' = { b with arrived } ∧ ∀ k, b.arrived.contains k = true → arrived.contains k = true

namespace Barrier.Gains

variable {b b' b'' : Barrier}

theorem refl (b : Barrier) : b.Gains b := ⟨b.arrived, rfl, fun _ h => h⟩

theorem trans (h : b.Gains b') (h' : b'.Gains b'') : b.Gains b'' := by
  obtain ⟨arrived, rfl, hgains⟩ := h
  obtain ⟨arrived', rfl, hgains'⟩ := h'
  exact ⟨arrived', rfl, fun k hk => hgains' k (hgains k hk)⟩

theorem hold_eq (h : b.Gains b') : b'.hold = b.hold := by
  obtain ⟨arrived, rfl, -⟩ := h
  rfl

theorem epoch_eq (h : b.Gains b') : b'.epoch = b.epoch := by
  obtain ⟨arrived, rfl, -⟩ := h
  rfl

end Barrier.Gains

theorem Barrier.gains_arrive (b : Barrier) (k : Nat) : b.Gains (b.arrive k) := by
  unfold arrive
  split
  · refine ⟨_, rfl, fun j hj => ?_⟩
    rw [CoreMask.contains_insert, hj]
    rfl
  · exact .refl b

/-! ### Cores coming to rest -/

namespace Core

theorem gains_of_step {n : Nat} {c c' : Core} {b b' : Barrier} (h : c.step n b = some (c', b')) :
    b.Gains b' := by
  rw [step_barrier h]
  split
  · exact b.gains_arrive n
  · exact .refl b

/-- What every step preserves holds of a core when it has come to rest. -/
theorem settle_preserves {n : Nat} {J : Core → Barrier → Prop}
    (hstep : ∀ c b c' b', J c b → c.step n b = some (c', b') → J c' b') {c : Core} {b : Barrier}
    (h : J c b) : J (c.settle n b).1 (c.settle n b).2 := by
  have hsteps : ∀ fuel (c : Core) (b : Barrier), J c b →
      J (stepsUpTo n fuel c b).1 (stepsUpTo n fuel c b).2 := by
    intro fuel
    induction fuel with
    | zero => exact fun c b h => h
    | succ fuel ih =>
        intro c b h
        unfold stepsUpTo
        cases hnext : c.step n b with
        | none => exact h
        | some next => exact ih _ _ (hstep _ _ _ _ h hnext)
  exact hsteps c.weight c b h

theorem gains_settle (n : Nat) (c : Core) (b : Barrier) : b.Gains (c.settle n b).2 :=
  settle_preserves (J := fun _ b' => b.Gains b')
    (fun _ _ _ _ h hstep => h.trans (gains_of_step hstep)) (Barrier.Gains.refl b)

/-- Cores that answer one after another add at most their arrivals. -/
theorem gains_settleAll (n : Nat) (cs : List Core) (b : Barrier) :
    b.Gains (settleAll n cs b).2 := by
  induction cs generalizing n b with
  | nil => exact .refl b
  | cons c cs ih => exact (gains_settle n c b).trans (ih _ _)

theorem length_settleAll (n : Nat) (cs : List Core) (b : Barrier) :
    (settleAll n cs b).1.length = cs.length := by
  induction cs generalizing n b with
  | nil => rfl
  | cons c cs ih => exact congrArg (· + 1) (ih _ _)

/-- A core that can make no step. -/
def Rests (c : Core) : Prop :=
  (c.phase = .idle ∧ c.pending = false) ∨ (∃ e, c.phase = .parked e) ∧ c.event = false

theorem rests_settle (n : Nat) (c : Core) (b : Barrier) : (c.settle n b).1.Rests :=
  step_eq_none.1 (step_settle n c b)

/-- What the answers preserve, for a hold and an epoch, holds of a core when it has come to
rest. -/
theorem settle_rests {hold : Bool} {epoch : UInt32} {J : Core → Prop}
    (hstep : ∀ c c', J c → c.Answers hold epoch c' → J c') (n : Nat) {c : Core} {b : Barrier}
    (hhold : b.hold = hold) (hepoch : b.epoch = epoch) (h : J c) : J (c.settle n b).1 := by
  have hall : ((c.settle n b).2.hold = hold ∧ (c.settle n b).2.epoch = epoch) ∧
      J (c.settle n b).1 := by
    refine settle_preserves (J := fun c b => (b.hold = hold ∧ b.epoch = epoch) ∧ J c)
      (fun c b c' b' h hnext => ?_) ⟨⟨hhold, hepoch⟩, h⟩
    obtain ⟨⟨hhold, hepoch⟩, hJ⟩ := h
    have hgains := gains_of_step hnext
    have hanswers := answers_of_step hnext
    rw [hhold, hepoch] at hanswers
    exact ⟨⟨hgains.hold_eq.trans hhold, hgains.epoch_eq.trans hepoch⟩, hstep c c' hJ hanswers⟩
  exact hall.2

/-- **What the answers preserve holds of every core at rest.** -/
theorem settleAll_rests {hold : Bool} {epoch : UInt32} {J : Core → Prop}
    (hstep : ∀ c c', J c → c.Answers hold epoch c' → J c') (n : Nat) {cs : List Core} {b : Barrier}
    (hhold : b.hold = hold) (hepoch : b.epoch = epoch) (h : ∀ c ∈ cs, J c) :
    ∀ c ∈ (settleAll n cs b).1, c.Rests ∧ J c := by
  induction cs generalizing n b with
  | nil => exact nofun
  | cons c cs ih =>
      have hgains := gains_settle n c b
      intro c' hc'
      rcases List.mem_cons.1 hc' with rfl | hc'
      · exact ⟨rests_settle n c b,
          settle_rests hstep n hhold hepoch (h c (List.mem_cons_self ..))⟩
      · exact ih (n + 1) (hgains.hold_eq.trans hhold) (hgains.epoch_eq.trans hepoch)
          (fun c hc => h c (List.mem_cons_of_mem _ hc)) c' hc'

/-! ### Where cores rest -/

/-- A core that takes part in nothing, or is on its way into the wait for an epoch. -/
def Obeys (epoch : UInt32) (c : Core) : Prop :=
  (∀ e, c.phase.captured = some e → e = epoch) ∧
    (c.phase ≠ .idle → c.phase ≠ .taken → c.pending = false)

/-- Under a hold cores come to wait for the current epoch. -/
theorem obeys_answers {epoch : UInt32} (c c' : Core) (h : c.Obeys epoch)
    (hnext : c.Answers true epoch c') : c'.Obeys epoch := by
  cases hnext <;> simp_all [Obeys, Phase.captured]

/-- A core that has been let go, or never was held. -/
def Leaves (c : Core) : Prop :=
  c.pending = false ∧ (c.phase = .idle ∨ (∃ e, c.phase = .checkingHold e) ∨
    (∃ e, c.phase = .parked e) ∧ c.event = true)

/-- Without a hold cores go back to what they were doing. -/
theorem leaves_answers {epoch : UInt32} (c c' : Core) (h : c.Leaves)
    (hnext : c.Answers false epoch c') : c'.Leaves := by
  cases hnext <;> simp_all [Leaves]

/-- A core that has been interrupted under a hold, and has arrived once it waits. -/
def Comes (n : Nat) (c : Core) (b : Barrier) : Prop :=
  b.hold = true ∧ ((c.phase = .idle ∧ c.pending = true) ∨ c.phase = .taken ∨ c.phase = .ended ∨
    c.phase = .sampled b.epoch ∨ c.phase = .admitted b.epoch ∨
      (c.phase.waitsWith = some b.epoch ∧ b.arrived.contains n = true))

/-- An interrupted core stays on its way. -/
theorem comes_step {n : Nat} (hn : n < 32) (c : Core) (b : Barrier) (c' : Core) (b' : Barrier)
    (h : c.Comes n b) (hstep : c.step n b = some (c', b')) : c'.Comes n b' := by
  have hbarrier := step_barrier hstep
  have hanswers := answers_of_step hstep
  obtain ⟨hhold, hphase⟩ := h
  subst hbarrier
  cases hanswers <;>
    simp_all [Comes, Phase.arrives, Phase.waitsWith, Barrier.contains_arrive hn]

/-- **An interrupted core arrives.** -/
theorem arrives_settle {n : Nat} (hn : n < 32) {c : Core} {b : Barrier} (hhold : b.hold = true)
    (hphase : c.phase = .idle) (hpending : c.pending = true) :
    (c.settle n b).2.arrived.contains n = true := by
  obtain ⟨-, hcomes⟩ := settle_preserves (comes_step hn) ⟨hhold, Or.inl ⟨hphase, hpending⟩⟩
  have hrests := rests_settle n c b
  rcases hrests with ⟨hidle, hquiet⟩ | ⟨⟨e, hparked⟩, -⟩
  · simp_all [Phase.waitsWith]
  · simp_all [Phase.waitsWith]

/-- Of several cores, every interrupted one arrives. -/
theorem arrives_settleAll {n i : Nat} (hi : n + i < 32) {cs : List Core} {b : Barrier} {c : Core}
    (hc : cs[i]? = some c) (hhold : b.hold = true) (hphase : c.phase = .idle)
    (hpending : c.pending = true) : (settleAll n cs b).2.arrived.contains (n + i) = true := by
  induction cs generalizing n i b with
  | nil => cases hc
  | cons first cs ih =>
      have hgains := gains_settle n first b
      cases i with
      | zero =>
          cases hc
          obtain ⟨arrived, hbarrier, hmore⟩ := gains_settleAll (n + 1) cs (c.settle n b).2
          have harrived := arrives_settle hi hhold hphase hpending
          simp only [settleAll, hbarrier]
          exact hmore n harrived
      | succ i =>
          have hnext := ih (n := n + 1) (by omega) hc (hgains.hold_eq.trans hhold)
          rw [show n + (i + 1) = n + 1 + i by omega]
          exact hnext

end Core

/-! ### Systems whose cores are at rest -/

namespace System

open Operation

variable {H : Type} {ε : Type} {s : System H}

/-- **The cores run their own programs**, and nothing holds them. -/
def Calm (s : System H) : Prop :=
  s.barrier.hold = false ∧ ∀ core ∈ s.cores, core.phase = .idle ∧ core.pending = false

/-- **The cores run their own programs or wait**, with the epoch that is current. -/
def Held (s : System H) : Prop :=
  s.barrier.hold = true ∧ ∀ core ∈ s.cores, core.pending = false ∧
    (core.phase = .idle ∨ core.phase = .parked s.barrier.epoch)

/-- What parking the other cores changes. -/
def Parks (s s' : System H) : Prop :=
  ∃ cores arrived events raised, s' = { s with
    cores, barrier := { s.barrier with arrived, hold := true }, events, raised } ∧
    cores.length = s.cores.length

/-- What letting them go changes. -/
def Releases (s s' : System H) : Prop :=
  ∃ cores arrived events, s' = { s with
    cores, events
    barrier := { s.barrier with arrived, hold := false, epoch := s.barrier.epoch + 1 } } ∧
    cores.length = s.cores.length

/-- A system starts calm. -/
theorem calm_start (hardware : H) (count : Nat) (current : FrequencyIndex) :
    (start hardware count current).Calm := by
  refine ⟨rfl, fun core hcore => ?_⟩
  rw [List.eq_of_mem_replicate hcore]
  exact ⟨rfl, rfl⟩

/-- Cores that obey come to rest held. -/
theorem held_settle (hhold : s.barrier.hold = true) (h : ∀ core ∈ s.cores, core.Obeys s.barrier.epoch) :
    s.settle.Held := by
  have hgains := Core.gains_settleAll 0 s.cores s.barrier
  refine ⟨hgains.hold_eq.trans hhold, fun core hcore => ?_⟩
  obtain ⟨hrests, hobeys, hpending⟩ :=
    Core.settleAll_rests Core.obeys_answers 0 hhold rfl h core hcore
  have hepoch : s.settle.barrier.epoch = s.barrier.epoch := hgains.epoch_eq
  rcases hrests with ⟨hidle, hquiet⟩ | ⟨⟨e, hparked⟩, -⟩
  · exact ⟨hquiet, Or.inl hidle⟩
  · refine ⟨hpending (by simp [hparked]) (by simp [hparked]), Or.inr ?_⟩
    rw [hepoch, hparked, hobeys e (by simp [hparked, Phase.captured])]

/-- Cores that have been let go come to rest calm. -/
theorem calm_settle (hhold : s.barrier.hold = false) (h : ∀ core ∈ s.cores, core.Leaves) :
    s.settle.Calm := by
  refine ⟨(Core.gains_settleAll 0 s.cores s.barrier).hold_eq.trans hhold, fun core hcore => ?_⟩
  obtain ⟨hrests, hleaves⟩ :=
    Core.settleAll_rests Core.leaves_answers 0 hhold rfl h core hcore
  rcases hrests with hidle | ⟨⟨e, hparked⟩, hevent⟩
  · exact hidle
  · simp [Core.Leaves, hparked, hevent] at hleaves

/-- The system with the interrupt pending on the cores of a set. -/
def interrupted (s : System H) (targets : CoreMask) : System H :=
  { s with
    cores := s.cores.mapIdx fun n core =>
      if targets.contains n then { core with pending := true } else core
    raised := s.raised + targets.size }

theorem raise_eq_ok {s' : System H} {targets : CoreMask} (h : s.raise targets = .ok s') :
    s' = s.interrupted targets := by
  unfold raise at h
  split at h
  · cases h
  · cases h
    rfl

/-- The interrupt can be sent to cores that the system has. -/
theorem raise_of_lt {targets : CoreMask}
    (h : ∀ k, targets.contains k = true → k < s.cores.length) :
    s.raise targets = .ok (s.interrupted targets) := by
  have hnone : s.missing? targets = none := by
    simp only [missing?, CoreMask.cores, List.find?_eq_none, List.mem_filter, decide_eq_true_eq,
      Nat.not_le]
    exact fun k hk => h k hk.2
  simp only [raise, hnone]
  rfl

/-- Cores that take the interrupt under a hold come to rest held. -/
theorem held_interrupted (targets : CoreMask) (hhold : s.barrier.hold = true)
    (h : ∀ core ∈ s.cores, core.phase = .idle ∧ core.pending = false) :
    (s.interrupted targets).settle.Held := by
  refine held_settle (s := s.interrupted targets) hhold fun core hcore => ?_
  obtain ⟨n, hn, rfl⟩ := List.mem_mapIdx.1 hcore
  have hidle := (h _ (List.getElem_mem hn)).1
  split <;> simp [Core.Obeys, Phase.captured, hidle]

/-- All of them arrive. -/
theorem arrived_interrupted {targets : CoreMask} (hhold : s.barrier.hold = true)
    (h : ∀ core ∈ s.cores, core.phase = .idle ∧ core.pending = false)
    (htargets : ∀ k, targets.contains k = true → k < s.cores.length) :
    (s.interrupted targets).settle.barrier.arrived.containsAll targets = true := by
  rw [CoreMask.containsAll_iff]
  intro k hk
  have hlt := htargets k hk
  have hcore : (s.interrupted targets).cores[k]? = some { s.cores[k] with pending := true } := by
    simp [interrupted, hlt, hk]
  have hsmall : 0 + k < 32 := by
    rw [Nat.zero_add]
    exact CoreMask.lt_of_contains hk
  have harrives := Core.arrives_settleAll hsmall hcore (b := (s.interrupted targets).barrier) hhold
    (h _ (List.getElem_mem hlt)).1 rfl
  rwa [Nat.zero_add] at harrives

/-- What coming to rest changes. -/
theorem settle_eq (s : System H) :
    ∃ cores arrived, s.settle = { s with cores, barrier := { s.barrier with arrived } } ∧
      cores.length = s.cores.length := by
  obtain ⟨arrived, hbarrier, -⟩ := Core.gains_settleAll 0 s.cores s.barrier
  refine ⟨(Core.settleAll 0 s.cores s.barrier).1, arrived, ?_, Core.length_settleAll ..⟩
  rw [← hbarrier]
  rfl

/-- The system in which cores are asked to wait. -/
def asking (s : System H) : System H :=
  { s with barrier := { s.barrier with arrived := .empty, hold := true } }

theorem parks_asking (hcalm : s.Calm) : s.Parks s.asking ∧ s.asking.Held :=
  ⟨⟨s.cores, .empty, s.events, s.raised, rfl, rfl⟩, rfl, fun core hcore =>
    ⟨(hcalm.2 core hcore).2, Or.inl (hcalm.2 core hcore).1⟩⟩

/-- Interrupting cores of a calm system that is asked to wait parks them. -/
theorem parks_interrupted (hcalm : s.Calm) (targets : CoreMask) (e : Event) :
    s.Parks ((s.asking.interrupted targets).settle.record e) ∧
      ((s.asking.interrupted targets).settle.record e).Held := by
  obtain ⟨cores, arrived, hsettle, hlength⟩ := settle_eq (s.asking.interrupted targets)
  refine ⟨?_, held_interrupted targets rfl hcalm.2⟩
  rw [hsettle]
  refine ⟨cores, arrived, _, _, rfl, ?_⟩
  simpa [interrupted, asking] using hlength

/-! ### Parking -/

variable [RegisterFile H]

/-- The first steps of parking ask the cores to wait. -/
theorem run_quiesce {core : Nat} {own : CoreId} (hcore : CoreId.ofNat core = .ok own)
    (online : CoreMask) (s : System H) :
    run (quiesce core online : Operation ε Unit) s =
      run (do interrupt (online.erase own)
              Operation.barrier (.awaitArrival (online.erase own)) : Operation ε Unit) s.asking := by
  simp only [quiesce, checkCore, hcore]
  rfl

theorem run_interrupt_of_nonempty {targets : CoreMask} (h : targets.isEmpty = false)
    (s : System H) :
    run (interrupt targets : Operation ε Unit) s =
      match s.raise targets with
      | .ok s' => .ok (.ok ()) (s'.settle.record (.signal (.interrupt targets)))
      | .error f => .error (.fault f) s := by
  have hinterrupt : (interrupt targets : Operation ε Unit) =
      Operation.signal (.interrupt targets) := by
    simp [interrupt, h]
  rw [hinterrupt]
  cases hraise : s.raise targets with
  | error f =>
      have hsignal : s.signal (.interrupt targets) = .error f := by simp [signal, hraise, Except.map]
      simp [run, Procedure.run, Operation.signal, answer, hsignal]
  | ok s' =>
      have hsignal : s.signal (.interrupt targets) = .ok s'.settle := by
        simp [signal, hraise, Except.map]
      simp [run, Procedure.run, Operation.signal, answer, hsignal]

theorem ensures_interrupt (hcalm : s.Calm) (targets : CoreMask) :
    (interrupt targets : Operation ε Unit).Ensures answer s.asking fun r s' =>
      r = .ok () ∧ s.Parks s' ∧ s'.Held := by
  cases hempty : targets.isEmpty with
  | true =>
      simp only [interrupt, hempty, if_true]
      exact Procedure.ensures_of_run rfl ⟨rfl, parks_asking hcalm⟩
  | false =>
      intro r s' hrun
      have hinterrupt := run_interrupt_of_nonempty (ε := ε) hempty s.asking
      rw [run, hrun] at hinterrupt
      split at hinterrupt
      case h_1 s₁ hraise =>
        cases hinterrupt
        rw [raise_eq_ok hraise]
        exact ⟨rfl, parks_interrupted hcalm targets _⟩
      case h_2 => cases hinterrupt

theorem ensures_awaitArrival (targets : CoreMask) (s : System H) :
    (Operation.barrier (.awaitArrival targets) : Operation ε Unit).Ensures answer s fun r s' =>
      r = .ok () ∧ s' = s := by
  intro r s' hrun
  simp only [Operation.barrier, Procedure.run, answer, BarrierAccess.apply] at hrun
  cases harrived : s.barrier.arrived.containsAll targets with
  | false => simp [harrived] at hrun
  | true =>
      simp only [harrived, if_true] at hrun
      cases hrun
      exact ⟨rfl, rfl⟩

/-- **Parking takes a calm system to a held one**, if it comes to an end. -/
theorem ensures_quiesce (hcalm : s.Calm) (core : Nat) (online : CoreMask) :
    (quiesce core online : Operation ε Unit).Ensures answer s fun r s' =>
      r = .ok () ∧ s.Parks s' ∧ s'.Held := by
  intro r s' hrun
  cases hcore : CoreId.ofNat core with
  | error f => simp [quiesce, checkCore, hcore, abort, Procedure.run, answer] at hrun
  | ok own =>
      have heq := run_quiesce (ε := ε) hcore online s
      rw [run, hrun] at heq
      have hparks : (do
          interrupt (online.erase own)
          Operation.barrier (.awaitArrival (online.erase own)) : Operation ε Unit).Ensures answer
            s.asking fun r s' => r = .ok () ∧ s.Parks s' ∧ s'.Held := by
        refine (ensures_interrupt hcalm _).andThen (fun _ s₁ h => ?_) fun e s₁ h => by cases h.1
        exact (ensures_awaitArrival _ s₁).mono fun r s₂ h' => ⟨h'.1, h'.2 ▸ h.2⟩
      exact hparks r s' heq.symm

/-- Cores that the system has take the interrupt and arrive. -/
theorem completes_interrupt (hcalm : s.Calm) {targets : CoreMask}
    (htargets : ∀ k, targets.contains k = true → k < s.cores.length) :
    (interrupt targets : Operation ε Unit).Completes answer s.asking fun _ s' =>
      (s.Parks s' ∧ s'.Held) ∧ s'.barrier.arrived.containsAll targets = true := by
  cases hempty : targets.isEmpty with
  | true =>
      simp only [interrupt, hempty, if_true]
      refine Procedure.completes_of_run rfl ⟨parks_asking hcalm, ?_⟩
      rw [CoreMask.containsAll_iff]
      intro k hk
      rw [(CoreMask.isEmpty_iff targets).1 hempty k] at hk
      cases hk
  | false =>
      have hinterrupt := run_interrupt_of_nonempty (ε := ε) hempty s.asking
      rw [raise_of_lt (s := s.asking) htargets] at hinterrupt
      exact Procedure.completes_of_run hinterrupt ⟨parks_interrupted hcalm targets _,
        arrived_interrupted (s := s.asking) rfl hcalm.2 htargets⟩

/-- **Parking succeeds** in a calm system, for cores that the system has. -/
theorem completes_quiesce (hcalm : s.Calm) {core : Nat} (hcore : core < 32) {online : CoreMask}
    (honline : ∀ k, online.contains k = true → k < s.cores.length) :
    (quiesce core online : Operation ε Unit).Completes answer s fun _ s' =>
      s.Parks s' ∧ s'.Held := by
  have hown : CoreId.ofNat core = .ok ⟨core, hcore⟩ := by simp [CoreId.ofNat, hcore]
  have hothers : ∀ k, (online.erase ⟨core, hcore⟩).contains k = true → k < s.cores.length := by
    intro k hk
    rw [CoreMask.contains_erase, Bool.and_eq_true] at hk
    exact honline k hk.1
  have heq := run_quiesce (ε := ε) hown online s
  simp only [run] at heq
  rw [Procedure.Completes, heq]
  refine (completes_interrupt hcalm hothers).andThen fun _ s₁ h => ?_
  have hawait : (BarrierAccess.awaitArrival (online.erase ⟨core, hcore⟩)).apply s₁.barrier =
      some ((), s₁.barrier) := by
    simp [BarrierAccess.apply, h.2]
  exact Procedure.completes_of_run (run_barrier hawait) h.1

/-! ### Letting go -/

/-- **A release takes a held system back to a calm one.** -/
theorem completes_release (hheld : s.Held) :
    (release : Operation ε Unit).Completes answer s fun _ s' => s.Releases s' ∧ s'.Calm := by
  have hrun : ∀ {s₁ : System H}, s₁ = { s with
      barrier := { s.barrier with hold := false, epoch := s.barrier.epoch + 1 } } →
      run (release : Operation ε Unit) s =
        .ok (.ok ()) (s₁.sendEvent.settle.record (.signal .event)) := by
    rintro s₁ rfl
    rfl
  refine Procedure.completes_of_run (hrun rfl) ⟨?_, ?_⟩
  · obtain ⟨cores, arrived, hsettle, hlength⟩ := settle_eq (sendEvent { s with
      barrier := { s.barrier with hold := false, epoch := s.barrier.epoch + 1 } })
    rw [hsettle]
    refine ⟨cores, arrived, _, rfl, ?_⟩
    simpa [sendEvent] using hlength
  · refine calm_settle (s := sendEvent _) rfl fun core hcore => ?_
    obtain ⟨before, hbefore, rfl⟩ := List.mem_map.1 hcore
    obtain ⟨hpending, hphase⟩ := hheld.2 before hbefore
    rcases hphase with hphase | hphase <;> simp [Core.Leaves, hpending, hphase]

end System

end Reclock
