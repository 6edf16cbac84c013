/-
**A transition that times out is final.**

A poll that runs out of attempts may leave the DRAM out of reach, and then nothing may touch it any
more.  A transition that times out therefore stops where it is: its record ends in the failed poll,
the session stays claimed, the parked cores stay parked, and retention shows how far it got.  From
then on every transition is refused on every core, and no core gets out of the wait loop, whatever
interrupts and events it is sent.

Main definitions:

* `Reclock.Controller.Reached` — the systems that transitions lead to;
* `Reclock.Controller.Follows` — the systems that transitions lead to from a given one;
* `Reclock.Controller.Ensues` — what may go on in a system: further transitions, and the cores'
  answers to interrupts and events.

Main results:

* `Reclock.Controller.calm_of_reached` — between transitions a free session means calm cores;
* `Reclock.Controller.Wedged.ensues` — what goes on in a wedged system changes nothing that matters;
* `Reclock.Controller.timeout_contained` — **a timeout is contained**.
-/

import Reclock.Proofs.Outcome
import Reclock.Proofs.Reserved
import Reclock.Proofs.Timeouts

set_option relaxedAutoImplicit false
set_option autoImplicit false

namespace Reclock

namespace Controller

variable {H : Type} [RegisterFile H] {c : Controller} {s s' : System H}

/-! ### The systems that transitions lead to -/

/-- **The systems that transitions lead to**, from any hardware, current point and snapshot. -/
inductive Reached (c : Controller) : System H → Prop
  | start (hardware : H) (current : FrequencyIndex) (snapshot : Snapshot) :
      Reached c { System.start hardware c.coreCount current with retention := { snapshot } }
  | call {s s' : System H} {r : Except TransitionError Unit} (core : Nat) (request : Request)
      (hs : Reached c s) (hrun : System.run (c.operation core request) s = .ok r s') :
      Reached c s'

/-- A transition keeps the cores calm, unless it keeps the session. -/
theorem Outcome.calm {request : Request} {r : Except TransitionError Unit}
    (h : c.Outcome s request r s') (hcalm : s.Calm) (hfree : s'.barrier.inProgress = false) :
    s'.Calm := by
  cases h with
  | refused => exact hcalm
  | unneeded => exact hcalm
  | moved _ _ _ _ _ hcalm' => exact hcalm'
  | lowered _ _ _ _ _ hbarrier hcores =>
      exact ⟨by rw [hbarrier]; exact hcalm.1, by rw [hcores]; exact hcalm.2⟩
  | raised _ _ _ _ hbarrier hcores =>
      exact ⟨by rw [hbarrier]; exact hcalm.1, by rw [hcores]; exact hcalm.2⟩
  | corrupted => exact hcalm
  | wedged htaken => cases htaken.symm.trans hfree

/-- **Between transitions the cores are calm**, if the session is free. -/
theorem calm_of_reached (h : c.Reached s) (hfree : s.barrier.inProgress = false) : s.Calm := by
  induction h with
  | start hardware current snapshot => exact System.calm_start hardware _ current
  | @call s s' r core request hs hrun ih =>
      cases hbefore : s.barrier.inProgress with
      | false =>
          exact (outcome_of_run (ih hbefore) hbefore core request r s' hrun).calm (ih hbefore) hfree
      | true =>
          obtain ⟨e, -, hrefused⟩ := refuses_operation (c := c) hbefore core request
          rw [hrun] at hrefused
          cases hrefused
          cases hbefore.symm.trans hfree

/-! ### Calls, one after another -/

/-- **The systems that transitions lead to** from a given one: on any core, with any arguments, one
after another, each of them coming to an end. -/
inductive Follows (c : Controller) (s : System H) : System H → Prop
  | refl : Follows c s s
  | call {s₁ s₂ : System H} {r : Except TransitionError Unit} (core : Nat) (request : Request)
      (h : Follows c s s₁) (hrun : System.run (c.operation core request) s₁ = .ok r s₂) :
      Follows c s s₂

/-- What every call preserves holds of all systems that calls lead to. -/
theorem Follows.preserves {J : System H → Prop}
    (hcall : ∀ s core request r s', J s → System.run (c.operation core request) s = .ok r s' → J s')
    (h : c.Follows s s') (hs : J s) : J s' := by
  induction h with
  | refl => exact hs
  | call core request _ hrun ih => exact hcall _ core request _ _ ih hrun

/-- A new controller leads only to systems that transitions reach. -/
theorem reached_of_follows {hardware : H} {current : FrequencyIndex}
    (h : c.Follows (System.start hardware c.coreCount current) s) : c.Reached s :=
  h.preserves (J := c.Reached) (fun _ core request _ _ hs hrun => hs.call core request hrun)
    (.start hardware current {})

/-- **A call is refused for a session in flight, or comes to one of the outcomes.** -/
theorem outcome_of_call (hreached : c.Reached s) {core : Nat} {request : Request}
    {r : Except TransitionError Unit}
    (hrun : System.run (c.operation core request) s = .ok r s') :
    (s.barrier.inProgress = true ∧ s' = s ∧ ∃ e, (∀ t, e ≠ .pollTimeout t) ∧ r = .error e) ∨
      s.barrier.inProgress = false ∧ c.Outcome s request r s' := by
  cases hfree : s.barrier.inProgress with
  | false =>
      exact .inr ⟨rfl, outcome_of_run (calm_of_reached hreached hfree) hfree core request r s' hrun⟩
  | true =>
      obtain ⟨e, herror, hrefused⟩ := refuses_operation (c := c) hfree core request
      rw [hrun] at hrefused
      cases hrefused
      exact .inl ⟨rfl, rfl, e, herror, rfl⟩

/-! ### What may go on in a system -/

/-- **What may go on in a system**: transitions on any core, the answers of the cores step by step,
and interrupts and events from anywhere. -/
inductive Ensues (c : Controller) (s : System H) : System H → Prop
  | refl : Ensues c s s
  | call {s₁ s₂ : System H} {r : Except TransitionError Unit} (core : Nat) (request : Request)
      (h : Ensues c s s₁) (hrun : System.run (c.operation core request) s₁ = .ok r s₂) :
      Ensues c s s₂
  | answer {s₁ : System H} {k : Nat} {core core' : Core} {barrier : Barrier} (h : Ensues c s s₁)
      (hcore : s₁.cores[k]? = some core) (hstep : core.step k s₁.barrier = some (core', barrier)) :
      Ensues c s { s₁ with cores := s₁.cores.set k core', barrier }
  | interrupt {s₁ : System H} {k : Nat} {core : Core} (h : Ensues c s s₁)
      (hcore : s₁.cores[k]? = some core) :
      Ensues c s { s₁ with cores := s₁.cores.set k { core with pending := true } }
  | event {s₁ : System H} {k : Nat} {core : Core} (h : Ensues c s s₁)
      (hcore : s₁.cores[k]? = some core) :
      Ensues c s { s₁ with cores := s₁.cores.set k { core with event := true } }

/-- A core that nothing but a release can get out of the wait loop. -/
def Captive (b : Barrier) (core : Core) : Prop :=
  (∀ e, core.phase.captured = some e → e = b.epoch) ∧
    (core.phase.arrives = true ∨ core.phase.waitsWith ≠ none → b.hold = true)

/-- **A wedged system**: its session stays claimed, and its cores are captive. -/
structure Wedged {H : Type} (s : System H) : Prop where
  taken : s.barrier.inProgress = true
  captive : ∀ core ∈ s.cores, Captive s.barrier core

/-- A captive core stays captive, and in the wait loop once it is there. -/
theorem Captive.answers {b : Barrier} {core core' : Core} (h : Captive b core)
    (hanswers : core.Answers b.hold b.epoch core') :
    Captive b core' ∧ ∀ e, core.phase.waitsWith = some e → core'.phase.waitsWith = some e := by
  obtain ⟨hepoch, hhold⟩ := h
  cases hanswers <;> simp_all [Captive, Phase.captured, Phase.waitsWith, Phase.arrives]

/-- **Nothing that matters has changed**: neither hardware nor record nor memories, and every core
in the wait loop is still there. -/
structure Unmoved {H : Type} (s s' : System H) : Prop where
  hardware : s'.hardware = s.hardware
  events : s'.events = s.events
  raised : s'.raised = s.raised
  flushes : s'.flushes = s.flushes
  retention : s'.retention = s.retention
  current : s'.barrier.current = s.barrier.current
  epoch : s'.barrier.epoch = s.barrier.epoch
  hold : s'.barrier.hold = s.barrier.hold
  waits : ∀ (k : Nat) (core : Core) e, s.cores[k]? = some core → core.phase.waitsWith = some e →
    ∃ core', s'.cores[k]? = some core' ∧ core'.phase.waitsWith = some e

theorem Unmoved.refl {H : Type} (s : System H) : Unmoved s s :=
  ⟨rfl, rfl, rfl, rfl, rfl, rfl, rfl, rfl, fun _ core _ hcore he => ⟨core, hcore, he⟩⟩

theorem Unmoved.trans {H : Type} {s s' s'' : System H} (h : Unmoved s s') (h' : Unmoved s' s'') :
    Unmoved s s'' where
  hardware := h'.hardware.trans h.hardware
  events := h'.events.trans h.events
  raised := h'.raised.trans h.raised
  flushes := h'.flushes.trans h.flushes
  retention := h'.retention.trans h.retention
  current := h'.current.trans h.current
  epoch := h'.epoch.trans h.epoch
  hold := h'.hold.trans h.hold
  waits := fun k core e hcore he =>
    let ⟨core', hcore', he'⟩ := h.waits k core e hcore he
    h'.waits k core' e hcore' he'

/-- A change of one core that keeps it captive, and in the wait loop if it is there. -/
theorem Wedged.set {H : Type} {s : System H} {k : Nat} {core core' : Core} {b : Barrier}
    (h : Wedged s) (hgains : s.barrier.Gains b) (hcore : s.cores[k]? = some core)
    (hcaptive : Captive s.barrier core')
    (hwaits : ∀ e, core.phase.waitsWith = some e → core'.phase.waitsWith = some e) :
    Wedged { s with cores := s.cores.set k core', barrier := b } ∧
      Unmoved s { s with cores := s.cores.set k core', barrier := b } := by
  obtain ⟨arrived, rfl, -⟩ := hgains
  refine ⟨⟨h.taken, fun other hother => ?_⟩, rfl, rfl, rfl, rfl, rfl, rfl, rfl, rfl,
    fun n before e hn he => ?_⟩
  · rcases List.mem_or_eq_of_mem_set hother with hother | rfl
    · exact h.captive other hother
    · exact hcaptive
  · have hlt : k < s.cores.length := (List.getElem?_eq_some_iff.1 hcore).1
    by_cases hk : k = n
    · subst hk
      rw [hcore] at hn
      cases hn
      exact ⟨core', by simp [hlt], hwaits e he⟩
    · exact ⟨before, by simp [hk, hn], he⟩

/-- **What goes on in a wedged system changes nothing that matters.** -/
theorem Wedged.ensues (h : Wedged s) (hensues : c.Ensues s s') : Wedged s' ∧ Unmoved s s' := by
  induction hensues with
  | refl => exact ⟨h, .refl s⟩
  | @call s₁ s₂ r core request hbefore hrun ih =>
      obtain ⟨hwedged, hunmoved⟩ := ih
      obtain ⟨e, -, hrefused⟩ := refuses_operation (c := c) hwedged.taken core request
      rw [hrun] at hrefused
      cases hrefused
      exact ⟨hwedged, hunmoved⟩
  | @answer s₁ k core core' barrier hbefore hcore hstep ih =>
      obtain ⟨hwedged, hunmoved⟩ := ih
      obtain ⟨hcaptive, hwaits⟩ := (hwedged.captive core (List.mem_of_getElem? hcore)).answers
        (Core.answers_of_step hstep)
      obtain ⟨hnext, hstill⟩ := hwedged.set (Core.gains_of_step hstep) hcore hcaptive hwaits
      exact ⟨hnext, hunmoved.trans hstill⟩
  | @interrupt s₁ k core hbefore hcore ih =>
      obtain ⟨hwedged, hunmoved⟩ := ih
      have hcaptive : Captive s₁.barrier { core with pending := true } :=
        hwedged.captive core (List.mem_of_getElem? hcore)
      obtain ⟨hnext, hstill⟩ := hwedged.set (.refl s₁.barrier) hcore hcaptive fun e he => he
      exact ⟨hnext, hunmoved.trans hstill⟩
  | @event s₁ k core hbefore hcore ih =>
      obtain ⟨hwedged, hunmoved⟩ := ih
      have hcaptive : Captive s₁.barrier { core with event := true } :=
        hwedged.captive core (List.mem_of_getElem? hcore)
      obtain ⟨hnext, hstill⟩ := hwedged.set (.refl s₁.barrier) hcore hcaptive fun e he => he
      exact ⟨hnext, hunmoved.trans hstill⟩

/-- Cores that are calm, or held, are captive. -/
theorem Outcome.wedged_of_taken {request : Request} {t : PollTimeout}
    (h : c.Outcome s request (.error (.pollTimeout t)) s') : Wedged s' := by
  cases h with
  | refused herror => exact absurd rfl (herror t)
  | corrupted _ _ herror => exact absurd rfl (herror t)
  | wedged htaken _ _ _ hcores =>
      refine ⟨htaken, fun core hcore => ?_⟩
      split at hcores
      · obtain ⟨-, hphase⟩ := hcores.2 core hcore
        rcases hphase with hphase | hphase
        · simp [Captive, hphase, Phase.captured, Phase.arrives, Phase.waitsWith]
        · simp [Captive, hphase, Phase.captured, hcores.1]
      · have hphase := (hcores.2 core hcore).1
        simp [Captive, hphase, Phase.captured, Phase.arrives, Phase.waitsWith]

/-! ### Containment -/

/-- **A timeout is contained.**  The record of a transition that times out ends in the poll that
failed, but for log records; the current point and the epoch are as before, the session and, for a
switch, the hold stay set, and retention is left as it was, or on its way.  Whatever goes on after
that, at every moment every transition is refused on every core, and from every moment on nothing
is accessed, signalled or changed, and no core leaves the wait loop. -/
theorem timeout_contained (hreached : c.Reached s) {core : Nat} {request : Request}
    {t : PollTimeout}
    (hrun : System.run (c.operation core request) s = .ok (.error (.pollTimeout t)) s') :
    (∃ polled logs, System.trace (c.operation core request) s = polled ++ logs ∧
        Trace.TimedOut c.config t polled ∧ ∀ e ∈ logs, ∃ record, e = .log record) ∧
      (s'.barrier.current = s.barrier.current ∧ s'.barrier.epoch = s.barrier.epoch ∧
        s'.barrier.inProgress = true ∧ (request.parks = true → s'.barrier.hold = true) ∧
        s'.retention.state = request.wreck s.retention.state) ∧
      ∀ s₁, c.Ensues s' s₁ →
        (∀ core request, Refuses (c.operation core request) s₁) ∧
          ∀ s₂, c.Ensues s₁ s₂ → Unmoved s₁ s₂ := by
  have hfree : s.barrier.inProgress = false := by
    rw [Bool.eq_false_iff]
    intro htaken
    obtain ⟨e, herror, hrefused⟩ := refuses_operation (c := c) htaken core request
    rw [hrun] at hrefused
    cases hrefused
    exact herror t rfl
  have houtcome := outcome_of_run (calm_of_reached hreached hfree) hfree core request _ _ hrun
  refine ⟨?_, ?_, fun s₁ hs₁ => ?_⟩
  · exact (System.trace_recorded (recorder_operation c core request) s).2.2 _ _ hrun t rfl
  · cases houtcome with
    | refused herror => exact absurd rfl (herror t)
    | corrupted _ _ herror => exact absurd rfl (herror t)
    | wedged htaken hcurrent hepoch hstate hcores =>
        refine ⟨hcurrent, hepoch, htaken, fun hparks => ?_, hstate⟩
        rw [if_pos hparks] at hcores
        exact hcores.1
  · have hwedged := (houtcome.wedged_of_taken.ensues hs₁).1
    exact ⟨fun core request => refuses_operation hwedged.taken core request,
      fun s₂ hs₂ => (hwedged.ensues hs₂).2⟩

/-- The timeout that a run ended with. -/
def timeout? {H : Type} :
    EStateM.Result Halt (System H) (Except TransitionError Unit) → Option PollTimeout
  | .ok (.error (.pollTimeout t)) _ => some t
  | _ => none

theorem exists_of_timeout? {H : Type}
    {result : EStateM.Result Halt (System H) (Except TransitionError Unit)} {t : PollTimeout}
    (h : timeout? result = some t) : ∃ s', result = .ok (.error (.pollTimeout t)) s' := by
  unfold timeout? at h
  split at h
  · cases h
    exact ⟨_, rfl⟩
  · cases h

/-- The sample board with a transaction that never ends at a port. -/
def busyPort : System Hardware :=
  System.start ((Hardware.bootedAt (Board.samplePoint 3200 false)).pin Ddrc.pstat 1)
    Board.coreCount ⟨0⟩

/-- A switch of the sample board times out at the port, which keeps the other cores parked. -/
theorem timeout_contained_busyPort :
    Board.controller.Reached busyPort ∧ ∃ s',
      System.run (Board.controller.operation 0 (.switch ⟨1⟩ (.all 4))) busyPort =
          .ok (.error (.pollTimeout ⟨Ddrc.pstat, 100⟩)) s' ∧
        s'.barrier.hold = true ∧
          ∀ s₁, Board.controller.Ensues s' s₁ →
            (∀ core request, Refuses (Board.controller.operation core request) s₁) ∧
              ∀ s₂, Board.controller.Ensues s₁ s₂ → Unmoved s₁ s₂ := by
  have hreached : Board.controller.Reached busyPort := .start _ _ {}
  have htimeout : timeout? (System.run (Board.controller.operation 0 (.switch ⟨1⟩ (.all 4)))
      busyPort) = some ⟨Ddrc.pstat, 100⟩ := by
    decide +kernel
  obtain ⟨s', hrun⟩ := exists_of_timeout? htimeout
  obtain ⟨-, ⟨-, -, -, hhold, -⟩, hafter⟩ := timeout_contained hreached hrun
  exact ⟨hreached, s', hrun, hhold rfl, hafter⟩

end Controller

end Reclock
