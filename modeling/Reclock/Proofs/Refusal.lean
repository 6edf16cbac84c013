/-
**Requests that are turned down leave no trace.**

A transition can be turned down for what it asks for, or for what the subsystem is doing, and a
switch to the current point has nothing to do.  Most of this is found out after the session has been
claimed, and on the way down and up some of it after the state of retention has been looked at.
Whoever is turned down may correct the request and try again; so a request that is turned down must
not have changed anything, and must be told the first reason that applies.

The reasons, in their order, are written down here on their own, and the operations are compared
with them.  What is not turned down can only fail by a timeout.

Main definitions:

* `Reclock.Procedure.FailsOnly` — the errors with which a procedure may give up;
* `Reclock.Controller.Foreign` — sets that name a core which the system does not have;
* `Reclock.Controller.refusal` — **why a request is turned down**;
* `Reclock.Controller.Unneeded` — requests for what is there already;
* `Reclock.Controller.Recoverable` — outcomes after which one may go on.

Main results:

* `Reclock.Controller.judged_operation` — what a call does, by the reason against it;
* `Reclock.Controller.recoverable_leaves_no_trace` — **a recoverable outcome leaves no trace**.
-/

import Reclock.Proofs.Lifecycle
import Reclock.Proofs.Trace

set_option relaxedAutoImplicit false
set_option autoImplicit false

namespace Reclock

/-! ### The errors of a procedure -/

namespace Procedure

variable {A : Type} {Reply : A → Type} {σ ε δ α β : Type} {P : ε → Prop}
variable {world : (a : A) → σ → EStateM.Result Halt σ (Reply a)}

/-- **The procedure gives up with certain errors only**, whatever the replies. -/
def FailsOnly (P : ε → Prop) : Procedure Reply ε α → Prop
  | done _ => True
  | fail e => P e
  | act _ next => ∀ r, (next r).FailsOnly P

theorem failsOnly_bind {p : Procedure Reply ε α} {f : α → Procedure Reply ε β}
    (hp : p.FailsOnly P) (hf : ∀ a, (f a).FailsOnly P) : (p >>= f).FailsOnly P := by
  induction p with
  | done a => exact hf a
  | fail e => exact hp
  | act a next ih => exact fun r => ih r (hp r)

/-- An attempt never gives up. -/
theorem failsOnly_attempt (p : Procedure Reply δ α) :
    (p.attempt : Procedure Reply ε (Except δ α)).FailsOnly P := by
  induction p with
  | done a => exact trivial
  | fail e => exact trivial
  | act a next ih => exact ih

theorem FailsOnly.ensures {p : Procedure Reply ε α} (h : p.FailsOnly P) (s : σ) :
    p.Ensures world s fun r _ => ∀ e, r = .error e → P e := by
  intro r s' hrun
  induction p generalizing s with
  | done a =>
      cases hrun
      nofun
  | fail e =>
      cases hrun
      rintro _ ⟨⟩
      exact h
  | act a next ih =>
      unfold run at hrun
      split at hrun
      case h_1 => exact ih _ (h _) _ hrun
      case h_2 => cases hrun

end Procedure

/-! ### Reasons to turn a request down -/

namespace Controller

open Operation

variable {H : Type} {c : Controller} {s s' : System H}

/-- Whether the subsystem is taken or not active, so that no switch can begin. -/
def Engaged (s : System H) : Prop :=
  s.barrier.inProgress = true ∨ s.retention.state ≠ .active

instance : Decidable (Engaged s) := inferInstanceAs (Decidable (_ ∨ _))

/-- A set names a core that the system does not have. -/
def Foreign (c : Controller) (online : CoreMask) : Prop :=
  ∃ k < 32, online.contains k = true ∧ c.coreCount ≤ k

instance (c : Controller) (online : CoreMask) : Decidable (c.Foreign online) :=
  inferInstanceAs (Decidable (∃ k < 32, _))

/-- **Why a request is turned down**: the first reason that applies.  A switch is asked for a point
that is not there or has an empty program where it needs one, for cores that the system does not
have, or of a subsystem that is engaged.  A switch of the speed is asked for without a fast pair,
for cores that the system does not have, of a subsystem that is engaged, or at a point outside the
pair.  The way down is asked for in a session, at a point that is not there, has an empty program
where it needs one or too many trained values, or of a subsystem that is not active; the way up of
one that is not off, or in a session. -/
def refusal (c : Controller) (s : System H) : Request → Option TransitionError
  | .switch target online =>
      match c.table.timings? target with
      | none => some (.invalidIndex target)
      | some timings =>
          if [] ∈ [timings.controller, timings.phyInit, timings.phyTrained,
              timings.modeRegisters] then some (.invalidIndex target)
          else if c.Foreign online then some (.invalidCoreMask online)
          else if Engaged s then some .busy
          else none
  | .fast speed online =>
      match c.table.fast with
      | none => some (.invalidTransition s.barrier.current s.barrier.current)
      | some pair =>
          if c.Foreign online then some (.invalidCoreMask online)
          else if Engaged s then some .busy
          else if s.barrier.current ≠ pair.full ∧ s.barrier.current ≠ pair.half then
            some (.invalidTransition s.barrier.current (pair.point speed))
          else none
  | .enter =>
      if s.barrier.inProgress = true then some .busy
      else
        match c.table.timings? s.barrier.current with
        | none => some (.invalidIndex s.barrier.current)
        | some timings =>
            if [] ∈ [timings.controller, timings.phyInit, timings.phyTrained,
                timings.phyEngine] ∨ 64 < timings.phyTrained.length then
              some (.invalidIndex s.barrier.current)
            else if s.retention.state ≠ .active then some .busy
            else none
  | .exit =>
      if s.retention.state ≠ .retained then some .notRetained
      else if s.barrier.inProgress = true then some .busy
      else none

/-- **Requests for what is there already**: switches to the current point. -/
def Unneeded (c : Controller) (s : System H) : Request → Prop
  | .switch target _ => s.barrier.current = target
  | .fast speed _ => ∃ pair, c.table.fast = some pair ∧ s.barrier.current = pair.point speed
  | .enter => False
  | .exit => False

/-- **Outcomes after which one may go on**: every error but a timeout, and success where there was
nothing to do. -/
def Recoverable (c : Controller) (s : System H) (request : Request) :
    Except TransitionError Unit → Prop
  | .error e => ∀ t, e ≠ .pollTimeout t
  | .ok () => c.Unneeded s request

theorem admits_iff_not_foreign {online : CoreMask} :
    c.admits online = true ↔ ¬ c.Foreign online := by
  rw [admits_iff, Foreign]
  constructor
  · rintro hall ⟨k, -, hk, hlarge⟩
    exact absurd (hall k hk) (Nat.not_lt.2 hlarge)
  · intro hnone k hk
    by_contra hlarge
    exact hnone ⟨k, CoreMask.lt_of_contains hk, hk, Nat.le_of_not_lt hlarge⟩

/-! ### Operations with a reason against them -/

variable [RegisterFile H] {s₀ : System H} {reason : Option TransitionError} {unneeded : Prop}

/-- **What an operation does**, by the reason against it: with a reason it gives up for that, and
leaves the system as it was before the call; without, it leaves the system so as well if it is
unneeded, and it can only fail by a timeout. -/
structure Judged (p : Operation TransitionError Unit) (s before : System H)
    (reason : Option TransitionError) (unneeded : Prop) : Prop where
  refused : ∀ e, reason = some e → System.run p s = .ok (.error e) before
  unneeded : reason = none → unneeded → System.run p s = .ok (.ok ()) before
  granted : reason = none → ∀ e s', System.run p s = .ok (.error e) s' → ∃ t, e = .pollTimeout t

theorem judged_of_error {p : Operation TransitionError Unit} {e : TransitionError}
    (h : System.run p s = .ok (.error e) s₀) : Judged p s s₀ (some e) unneeded := by
  refine ⟨?_, nofun, nofun⟩
  rintro _ ⟨⟩
  exact h

theorem judged_of_failsOnly {p : Operation TransitionError Unit}
    (h : p.FailsOnly fun e => ∃ t, e = .pollTimeout t) (hneeded : ¬ unneeded) :
    Judged p s s₀ none unneeded :=
  ⟨nofun, fun _ hunneeded => absurd hunneeded hneeded,
    fun _ _ _ hrun => h.ensures _ _ _ hrun _ rfl⟩

/-- After a first part with a result the rest is judged. -/
theorem Judged.after {α : Type} {p : Operation TransitionError α} {a : α} {s₁ : System H}
    {f : α → Operation TransitionError Unit} (hp : System.run p s = .ok (.ok a) s₁)
    (h : Judged (f a) s₁ s₀ reason unneeded) : Judged (p >>= f) s s₀ reason unneeded := by
  have hrun : System.run (p >>= f) s = System.run (f a) s₁ := Procedure.run_bind_of_ok hp
  exact ⟨fun e he => hrun.trans (h.refused e he),
    fun hnone hunneeded => hrun.trans (h.unneeded hnone hunneeded),
    fun hnone e s' hend => h.granted hnone e s' (hrun.symm.trans hend)⟩

/-- What a requirement of the code amounts to is said apart from it. -/
theorem judged_require {condition : Bool} {unmet : Prop} [Decidable unmet] {e : TransitionError}
    {f : Unit → Operation TransitionError Unit} (hcondition : condition = true ↔ ¬ unmet)
    (h : Judged (f ()) s s reason unneeded) :
    Judged (Procedure.require condition e >>= f) s s (if unmet then some e else reason)
      unneeded := by
  by_cases hunmet : unmet
  · rw [if_pos hunmet, Bool.eq_false_of_not_eq_true fun hmet => hcondition.1 hmet hunmet]
    exact judged_of_error rfl
  · rw [if_neg hunmet, hcondition.2 hunmet]
    exact h

theorem judged_refuse (hfree : s.barrier.inProgress = false) (e : TransitionError) :
    Judged ((⟨s.barrier.current⟩ : Session).refuse e) s.claimed s (some e) unneeded :=
  judged_of_error (System.run_refuse hfree e)

theorem judged_cancel (hfree : s.barrier.inProgress = false) :
    Judged ((⟨s.barrier.current⟩ : Session).cancel) s.claimed s none unneeded := by
  refine ⟨nofun, fun _ _ => System.run_cancel hfree, fun _ e s' hrun => ?_⟩
  cases (System.run_cancel hfree).symm.trans hrun

theorem judged_begin {f : Session → Operation TransitionError Unit}
    (h : s.barrier.inProgress = false →
      Judged (f ⟨s.barrier.current⟩) s.claimed s reason unneeded) :
    Judged (Session.begin >>= f) s s
      (if s.barrier.inProgress = true then some .busy else reason) unneeded := by
  have hbegin := System.run_begin s
  cases hfree : s.barrier.inProgress with
  | true =>
      rw [hfree, System.claimed_of_taken hfree] at hbegin
      exact judged_of_error (Procedure.run_bind_of_error hbegin)
  | false =>
      rw [hfree] at hbegin
      exact (h hfree).after hbegin

theorem judged_beginActive {f : Session → Operation TransitionError Unit}
    (h : s.barrier.inProgress = false →
      Judged (f ⟨s.barrier.current⟩) s.claimed s reason unneeded) :
    Judged (beginActive >>= f) s s (if Engaged s then some .busy else reason) unneeded := by
  have hbegin := System.run_beginActive s
  have hiff : (s.barrier.inProgress = false ∧ s.retention.state = .active) ↔ ¬ Engaged s := by
    simp only [Engaged, not_or, Bool.not_eq_true, not_not]
  by_cases hengaged : Engaged s
  · rw [if_neg fun hboth => hiff.1 hboth hengaged] at hbegin
    rw [if_pos hengaged]
    exact judged_of_error (Procedure.run_bind_of_error hbegin)
  · rw [if_pos (hiff.2 hengaged)] at hbegin
    rw [if_neg hengaged]
    exact (h (hiff.2 hengaged).1).after hbegin

/-! ### Operations that have begun can only time out -/

omit [RegisterFile H] in
theorem failsOnly_quiesce {P : TransitionError → Prop} (core : Nat) (online : CoreMask) :
    (quiesce core online : Operation TransitionError Unit).FailsOnly P := by
  have hcheck : (checkCore core : Operation TransitionError CoreId).FailsOnly P := by
    unfold checkCore
    split
    · exact trivial
    · exact nofun
  have hinterrupt : ∀ targets, (interrupt targets : Operation TransitionError Unit).FailsOnly P := by
    intro targets
    unfold interrupt
    split
    · exact trivial
    · exact fun _ => trivial
  refine Procedure.failsOnly_bind hcheck fun own => ?_
  refine Procedure.failsOnly_bind (fun _ => trivial) fun _ => ?_
  refine Procedure.failsOnly_bind (fun _ => trivial) fun _ => ?_
  exact Procedure.failsOnly_bind (hinterrupt _) fun _ _ => trivial

/-- An attempt of which the failure is reported as a timeout. -/
theorem failsOnly_reported {p : Operation PollTimeout Unit} {failure : PollTimeout → String}
    {rest : Operation TransitionError Unit} (hrest : rest.FailsOnly fun e => ∃ t, e = .pollTimeout t) :
    (do let outcome ← Procedure.attempt p
        match outcome with
        | .error t => do
            log .error (failure t)
            .fail (.pollTimeout t)
        | .ok () => rest : Operation TransitionError Unit).FailsOnly fun e =>
      ∃ t, e = .pollTimeout t := by
  refine Procedure.failsOnly_bind (Procedure.failsOnly_attempt _) fun outcome => ?_
  cases outcome with
  | error t => exact fun _ => ⟨t, rfl⟩
  | ok _ => exact hrest

theorem failsOnly_switchFrom (core : Nat) (session : Session) (target : FrequencyIndex)
    (timings : PointTimings) (online : CoreMask) :
    (c.switchFrom core session target timings online).FailsOnly fun e =>
      ∃ t, e = .pollTimeout t := by
  refine Procedure.failsOnly_bind (fun _ => trivial) fun _ => ?_
  refine Procedure.failsOnly_bind (failsOnly_quiesce core online) fun _ => ?_
  refine Procedure.failsOnly_bind (fun _ => trivial) fun _ => ?_
  exact failsOnly_reported fun _ _ _ _ _ _ => trivial

theorem failsOnly_fastSwitchTo (core : Nat) (target : FrequencyIndex) (speed : Speed)
    (online : CoreMask) :
    (c.fastSwitchTo core target speed online).FailsOnly fun e => ∃ t, e = .pollTimeout t := by
  refine Procedure.failsOnly_bind (fun _ => trivial) fun _ => ?_
  refine Procedure.failsOnly_bind (failsOnly_quiesce core online) fun _ => ?_
  exact failsOnly_reported fun _ _ _ _ _ => trivial

theorem failsOnly_enterFrom (session : Session) (timings : PointTimings) :
    (c.enterFrom session timings).FailsOnly fun e => ∃ t, e = .pollTimeout t :=
  Procedure.failsOnly_bind (fun _ => trivial) fun _ => failsOnly_reported fun _ _ _ => trivial

/-- So can the way up, if the snapshot names a point of the table. -/
theorem failsOnly_exitTo {session : Session} {snapshot : Snapshot} {timings : PointTimings}
    (htimings : c.table.timings? snapshot.frequency = some timings) :
    (c.exitTo session snapshot).FailsOnly fun e => ∃ t, e = .pollTimeout t := by
  unfold exitTo
  simp only [htimings]
  exact failsOnly_reported fun _ _ _ _ => trivial

/-! ### All operations -/

theorem judged_switchFrequency (core : Nat) (target : FrequencyIndex) (online : CoreMask) :
    Judged (c.switchFrequency core target online) s s (c.refusal s (.switch target online))
      (s.barrier.current = target) := by
  unfold switchFrequency
  rw [refusal]
  cases htimings : c.table.timings? target with
  | none => exact judged_of_error rfl
  | some timings =>
      refine judged_require PointTimings.switchable_iff ?_
      refine judged_require admits_iff_not_foreign (judged_beginActive fun hfree => ?_)
      dsimp only
      by_cases hcurrent : s.barrier.current = target
      · rw [if_pos hcurrent]
        exact judged_cancel hfree
      · rw [if_neg hcurrent]
        exact judged_of_failsOnly (failsOnly_switchFrom _ _ _ _ _) hcurrent

theorem judged_fastSwitch (core : Nat) (speed : Speed) (online : CoreMask) :
    Judged (c.fastSwitch core speed online) s s (c.refusal s (.fast speed online))
      (∃ pair, c.table.fast = some pair ∧ s.barrier.current = pair.point speed) := by
  unfold fastSwitch
  rw [refusal]
  refine Judged.after (a := s.barrier.current) rfl ?_
  cases hpair : c.table.fast with
  | none => exact judged_of_error rfl
  | some pair =>
      refine judged_require admits_iff_not_foreign (judged_beginActive fun hfree => ?_)
      dsimp only
      by_cases houtside : s.barrier.current ≠ pair.full ∧ s.barrier.current ≠ pair.half
      · rw [if_pos houtside, if_pos houtside]
        exact judged_refuse hfree _
      rw [if_neg houtside, if_neg houtside]
      by_cases hcurrent : s.barrier.current = pair.point speed
      · rw [if_pos hcurrent]
        exact judged_cancel hfree
      · rw [if_neg hcurrent]
        refine judged_of_failsOnly (failsOnly_fastSwitchTo _ _ _ _) ?_
        rintro ⟨pair', hpair', hcurrent'⟩
        cases hpair'
        exact hcurrent hcurrent'

theorem judged_enterRetention :
    Judged c.enterRetention s s (c.refusal s .enter) False := by
  unfold enterRetention
  rw [refusal]
  refine judged_begin fun hfree => ?_
  dsimp only
  cases htimings : c.table.timings? s.barrier.current with
  | none => exact judged_refuse hfree _
  | some timings =>
      have hretainable : timings.retainable = true ↔ ¬ ([] ∈ [timings.controller, timings.phyInit,
          timings.phyTrained, timings.phyEngine] ∨ 64 < timings.phyTrained.length) := by
        rw [PointTimings.retainable_iff, not_or, Nat.not_lt]
      rw [Option.filter_some]
      dsimp only
      by_cases hall : timings.retainable = true
      case neg =>
        rw [if_neg hall, if_pos (not_not.1 (mt hretainable.2 hall))]
        exact judged_refuse hfree _
      rw [if_pos hall, if_neg (hretainable.1 hall)]
      refine Judged.after (System.run_retention .beginEntry s.claimed) ?_
      by_cases hactive : s.retention.state = .active
      · have hentry : (RetentionAccess.beginEntry.apply s.claimed.retention).1 = true := by
          simp [RetentionAccess.apply, System.claimed, hactive]
        simp only [hentry, hactive, if_true, ne_eq, not_true_eq_false, if_false]
        exact judged_of_failsOnly (failsOnly_enterFrom _ _) id
      · have hentry : RetentionAccess.beginEntry.apply s.claimed.retention =
            (false, s.retention) := by
          simp [RetentionAccess.apply, System.claimed, hactive]
        rw [hentry, if_pos hactive]
        exact judged_refuse hfree _

theorem judged_exitRetention (h : c.Orderly s) :
    Judged c.exitRetention s s (c.refusal s .exit) False := by
  unfold exitRetention
  rw [refusal]
  refine Judged.after (System.run_retention .readState s) ?_
  by_cases hretained : s.retention.state = .retained
  · obtain ⟨hfrequency, ⟨timings, htimings⟩, -⟩ := h.sealed hretained
    have hfound : c.table.timings? s.retention.snapshot.frequency = some timings :=
      hfrequency ▸ htimings
    have hmet : (Procedure.require ((RetentionAccess.readState.apply s.retention).1 = .retained)
        .notRetained : Operation TransitionError Unit) = .done () := by
      simp [RetentionAccess.apply, Procedure.require, hretained]
    simp only [hmet, hretained, ne_eq, not_true_eq_false, if_false, Procedure.done_bind]
    refine judged_begin fun hfree => ?_
    have hexit : (RetentionAccess.beginExit.apply s.claimed.retention).1 =
        some s.retention.snapshot := by
      simp [RetentionAccess.apply, System.claimed, hretained]
    refine Judged.after (System.run_retention .beginExit s.claimed) ?_
    rw [hexit]
    exact judged_of_failsOnly (failsOnly_exitTo hfound) id
  · rw [if_pos hretained]
    refine judged_of_error ?_
    simp [RetentionAccess.apply, Procedure.require, hretained, System.run, Procedure.run]

/-- **Every call is judged by the reason against it**, in an orderly subsystem. -/
theorem judged_operation (h : c.Orderly s) (core : Nat) (request : Request) :
    Judged (c.operation core request) s s (c.refusal s request) (c.Unneeded s request) := by
  cases request with
  | switch target online => exact judged_switchFrequency core target online
  | fast speed online => exact judged_fastSwitch core speed online
  | enter => exact judged_enterRetention
  | exit => exact judged_exitRetention h

/-! ### No trace -/

/-- **A recoverable outcome leaves no trace.**  After any calls of a new controller, on any
hardware: a request is turned down for the first reason that applies, and for nothing else; and
whenever a call ends in an error other than a timeout, or successfully since there was nothing to
do, nothing is on record of it and the system is exactly as it was, so that every further request is
answered as if this one had never been made. -/
theorem recoverable_leaves_no_trace {hardware : H} {current : FrequencyIndex}
    (h : c.Follows (System.start hardware c.coreCount current) s) (core : Nat) (request : Request) :
    (∀ e, c.refusal s request = some e →
        System.run (c.operation core request) s = .ok (.error e) s) ∧
      (c.refusal s request = none → c.Unneeded s request →
        System.run (c.operation core request) s = .ok (.ok ()) s) ∧
      ∀ r s', System.run (c.operation core request) s = .ok r s' → c.Recoverable s request r →
        s' = s ∧ System.trace (c.operation core request) s = [] ∧
          (∀ e, r = .error e → c.refusal s request = some e) ∧
            ∀ core' request', System.run (c.operation core' request') s' =
              System.run (c.operation core' request') s := by
  have hjudged := judged_operation (orderly_of_follows h (orderly_start hardware current)) core
    request
  refine ⟨hjudged.refused, hjudged.unneeded, fun r s' hrun hrecoverable => ?_⟩
  have hsame : s' = s ∧ ∀ e, r = .error e → c.refusal s request = some e := by
    cases hreason : c.refusal s request with
    | some e =>
        cases (hjudged.refused e hreason).symm.trans hrun
        refine ⟨rfl, ?_⟩
        rintro _ ⟨⟩
        rfl
    | none =>
        cases r with
        | error e =>
            obtain ⟨t, rfl⟩ := hjudged.granted hreason e s' hrun
            exact absurd rfl (hrecoverable t)
        | ok _ =>
            cases (hjudged.unneeded hreason hrecoverable).symm.trans hrun
            exact ⟨rfl, nofun⟩
  obtain ⟨rfl, hreason⟩ := hsame
  refine ⟨rfl, ?_, hreason, fun _ _ => rfl⟩
  rw [System.trace, System.after, hrun, ← Array.length_toList, List.drop_length]

/-- A set that names a core which the sample board does not have is turned down, and the corrected
request is answered as if it had come first. -/
theorem recoverable_leaves_no_trace_corrected :
    ∃ s', System.run (Board.controller.operation 0 (.switch ⟨1⟩ ⟨0x30⟩)) (System.start
        Hardware.booted Board.coreCount ⟨0⟩) = .ok (.error (.invalidCoreMask ⟨0x30⟩)) s' ∧
      System.run (Board.controller.operation 0 (.switch ⟨1⟩ ⟨0xf⟩)) s' =
        System.run (Board.controller.operation 0 (.switch ⟨1⟩ ⟨0xf⟩)) (System.start
          Hardware.booted Board.coreCount ⟨0⟩) := by
  have hstart : Board.controller.Follows
      (System.start Hardware.booted Board.controller.coreCount ⟨0⟩)
      (System.start Hardware.booted Board.controller.coreCount ⟨0⟩) := .refl
  obtain ⟨hrefused, -, hrecoverable⟩ :=
    recoverable_leaves_no_trace hstart 0 (.switch ⟨1⟩ ⟨0x30⟩)
  have hrun := hrefused (.invalidCoreMask ⟨0x30⟩) (by decide +kernel)
  exact ⟨_, hrun, (hrecoverable _ _ hrun nofun).2.2.2 0 (.switch ⟨1⟩ ⟨0xf⟩)⟩

end Controller

end Reclock
