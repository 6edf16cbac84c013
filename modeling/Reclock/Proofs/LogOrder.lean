/-
**When an operation emits a log record.**

A sink of log records may itself lie in the DRAM, so that a record in the wrong place hangs the
system.  An operation announces what it is about to do before it engages with anything, and reports
how it went once it is through.  In between it is silent, and the report is the last thing that it
does: after a success the session has been given back by then, and after a timeout the poll that
failed has made all of its reads.

This is once more a monitor.  Its states are the stage of the operation together with all actions
that it has made, and every operation is taken apart under it once.

Main definitions:

* `Reclock.Action.engages`, `Reclock.Engaged` — an action that engages with cores, caches or
  registers, and a past with one;
* `Reclock.Spoken` — **a past with a log record after such an action**;
* `Reclock.Permits`, `Reclock.reticence` — what an operation may do next, and the monitor of it;
* `Reclock.Concludes` — how an operation that has ended came to its end.

Main results:

* `Reclock.reticent_timed` — a register sequence emits nothing, and its timeouts are accounted for;
* `Reclock.Controller.operation_reticent` — **every transition keeps to the monitor**.
-/

import Reclock.Proofs.Timeouts

set_option relaxedAutoImplicit false
set_option autoImplicit false

namespace Reclock

/-! ### What an operation has done so far -/

/-- Whether an action engages with anything but the two memories and the log: whether it interrupts
cores or waits for them, sends an event, flushes the caches, or accesses a register. -/
def Action.engages : Action → Bool
  | .access _ | .signal _ | .barrier (.awaitArrival _) => true
  | _ => false

/-- Whether an action emits a log record. -/
def Action.isLog : Action → Bool
  | .log _ => true
  | _ => false

/-- An operation has engaged. -/
def Engaged (past : List Action) : Prop := ∃ a ∈ past, a.engages = true

/-- **An operation has engaged and has emitted a log record since.** -/
def Spoken (past : List Action) : Prop :=
  ∃ before record after, past = before ++ .log record :: after ∧ Engaged before

/-- **Nothing follows a report**: an operation that emits a log record after it has engaged does
nothing more. -/
def Discreet (past : List Action) : Prop :=
  ∀ before record after, past = before ++ .log record :: after → Engaged before → after = []

/-- The actions end in as many reads of the register that a timeout names as a poll makes. -/
def Exhausted (config : Config) (t : PollTimeout) (past : List Action) : Prop :=
  ∃ before, past = before ++ .replicate config.pollLimit.toNat (.access (.read t.register))

theorem not_engaged_nil : ¬ Engaged [] := by
  rintro ⟨a, ha, -⟩
  cases ha

theorem Engaged.append {past : List Action} (h : Engaged past) (more : List Action) :
    Engaged (past ++ more) := by
  obtain ⟨a, ha, hengages⟩ := h
  exact ⟨a, List.mem_append_left _ ha, hengages⟩

theorem not_engaged_snoc {past : List Action} {a : Action} (h : ¬ Engaged past)
    (ha : a.engages = false) : ¬ Engaged (past ++ [a]) := by
  rintro ⟨x, hx, hengages⟩
  rcases List.mem_append.1 hx with hx | hx
  · exact h ⟨x, hx, hengages⟩
  · rw [List.mem_singleton.1 hx, ha] at hengages
    cases hengages

/-- Who has not engaged has not reported. -/
theorem not_spoken_of_not_engaged {past : List Action} (h : ¬ Engaged past) :
    ¬ Spoken past := by
  rintro ⟨before, record, after, rfl, hengaged⟩
  exact h (hengaged.append _)

/-- Silence is no report. -/
theorem not_spoken_snoc {past : List Action} {a : Action} (h : ¬ Spoken past)
    (ha : a.isLog = false) : ¬ Spoken (past ++ [a]) := by
  rintro ⟨before, record, after, heq, hengaged⟩
  rcases List.eq_nil_or_concat after with rfl | ⟨after, last, rfl⟩
  · obtain ⟨-, hlast⟩ := List.append_inj' heq rfl
    cases hlast
    cases ha
  · rw [List.concat_eq_append, ← List.cons_append, ← List.append_assoc] at heq
    obtain ⟨rfl, -⟩ := List.append_inj' heq rfl
    exact h ⟨before, record, after, rfl, hengaged⟩

theorem discreet_nil : Discreet [] := by
  intro before record after heq
  simp at heq

/-- Whoever has not reported yet may do anything once. -/
theorem discreet_snoc {past : List Action} {a : Action} (h : ¬ Spoken past) :
    Discreet (past ++ [a]) := by
  intro before record after heq hengaged
  rcases List.eq_nil_or_concat after with rfl | ⟨after, last, rfl⟩
  · rfl
  · rw [List.concat_eq_append, ← List.cons_append, ← List.append_assoc] at heq
    obtain ⟨rfl, -⟩ := List.append_inj' heq rfl
    exact absurd ⟨before, record, after, rfl, hengaged⟩ h

/-! ### What an operation may do next -/

/-- **What an operation of a core may do next**, at a stage and with everything that it has done so
far. -/
structure Permits (core : Nat) (s : Stage) (past : List Action) (a : Action) : Prop where
  /-- An operation that has reported does nothing more. -/
  reticent : ¬ Spoken past
  /-- Only an operation that has seen the subsystem in its session emits a record. -/
  seen : a.isLog = true → s.power ≠ .unseen
  /-- An operation on the way up neither emits a record nor ends the way before it has accessed a
  register. -/
  woken : ∀ index, s.power = .exiting index →
    a.isLog = true ∨ a = .retention (.writeState .active) → ∃ x, .access x ∈ past
  /-- Only a core whose number a set can hold waits for others. -/
  counted : ∀ cores, a = .barrier (.awaitArrival cores) → core < 32

/-- Whether more is asked of an action than that the operation has not reported. -/
def Action.guarded : Action → Bool
  | .log _ | .retention (.writeState .active) | .barrier (.awaitArrival _) => true
  | _ => false

/-- How far an operation of a core is, and what it has done so far, as the states of a monitor. -/
def reticence (core : Nat) : Monitor Action.Reply (Stage × List Action) where
  allows x a := Permits core x.1 x.2 a
  after x a r := (x.1.after a r, x.2 ++ [a])

/-- **How an operation came to its end**: after a success it reported only once it had given the
session back and had let the parked cores go, and not at all on the way down; after a timeout it
reported right after the last read of the poll; and when it was refused it had not engaged. -/
def Concludes (config : Config) (purpose : Purpose) (result : Except TransitionError Unit)
    (past : List Action) : Prop :=
  match result with
  | .ok _ => ∀ before record, past = before ++ [.log record] → Engaged before →
      purpose ≠ .powersDown ∧ .barrier .unclaim ∈ before ∧
        ∀ online, purpose = .parks online → .signal .event ∈ before
  | .error (.pollTimeout t) =>
      ∃ before record, past = before ++ [.log record] ∧ Exhausted config t before
  | .error _ => ¬ Engaged past

/-! ### The parts of an operation -/

section Parts

variable {ε α : Type} {core : Nat} {s : Stage} {past : List Action}

/-- An action of which nothing more is asked is permitted to whoever has not reported. -/
theorem reticent_act {a : Action} {next : a.Reply → Operation ε α}
    {Q : Except ε α → Stage × List Action → Prop} (hpast : ¬ Spoken past)
    (ha : a.guarded = false)
    (hnext : ∀ r, (next r).Keeps (reticence core) (s.after a r, past ++ [a]) Q) :
    (Procedure.act a next).Keeps (reticence core) (s, past) Q := by
  refine ⟨⟨hpast, fun h => ?_, fun index _ h => ?_, fun cores h => ?_⟩, hnext⟩
  · cases a with
    | log record => cases ha
    | _ => cases h
  · rcases h with h | rfl
    · cases a with
      | log record => cases ha
      | _ => cases h
    · cases ha
  · rw [h] at ha
    cases ha

theorem reticent_retention {a : RetentionAccess} {Q : Except ε a.Reply → Stage × List Action → Prop}
    (hpast : ¬ Spoken past) (ha : (Action.retention a).guarded = false)
    (hQ : ∀ r, Q (.ok r) (s.after (.retention a) r, past ++ [.retention a])) :
    (Operation.retention a).Keeps (reticence core) (s, past) Q :=
  reticent_act hpast ha hQ

theorem reticent_begin {Q : Except TransitionError Session → Stage × List Action → Prop}
    (hpast : ¬ Engaged past)
    (refused : ∀ past', ¬ Engaged past' → Q (.error .busy) (s, past'))
    (granted : ∀ current past', ¬ Engaged past' →
      Q (.ok ⟨current⟩) ({ s with tenure := .seated current }, past')) :
    Session.begin.Keeps (reticence core) (s, past) Q := by
  have hclaimed : ¬ Engaged (past ++ [.barrier .claim]) := not_engaged_snoc hpast rfl
  refine reticent_act (not_spoken_of_not_engaged hpast) rfl fun free => ?_
  cases free with
  | false => exact refused _ hclaimed
  | true =>
      refine reticent_act (not_spoken_of_not_engaged hclaimed) rfl fun current => ?_
      exact granted current _ (not_engaged_snoc hclaimed rfl)

theorem reticent_finish {Q : Except ε Unit → Stage × List Action → Prop} {index : FrequencyIndex}
    (hpast : ¬ Spoken past)
    (hQ : Q (.ok ()) ({ s with tenure := .over },
      past ++ [.barrier (.writeCurrent index)] ++ [.barrier .unclaim])) :
    (Session.finish index).Keeps (reticence core) (s, past) Q := by
  refine reticent_act hpast rfl fun _ => ?_
  exact reticent_act (not_spoken_snoc hpast rfl) rfl fun _ => hQ

/-- Giving an unused session straight back is no engagement. -/
theorem reticent_cancel {Q : Except ε Unit → Stage × List Action → Prop} {session : Session}
    (hpast : ¬ Engaged past)
    (hQ : ∀ past', ¬ Engaged past' → Q (.ok ()) ({ s with tenure := .over }, past')) :
    (session.cancel : Operation ε Unit).Keeps (reticence core) (s, past) Q :=
  reticent_finish (not_spoken_of_not_engaged hpast)
    (hQ _ (not_engaged_snoc (not_engaged_snoc hpast rfl) rfl))

theorem reticent_refuse {Q : Except ε α → Stage × List Action → Prop} {session : Session} {e : ε}
    (hpast : ¬ Engaged past)
    (hQ : ∀ past', ¬ Engaged past' → Q (.error e) ({ s with tenure := .over }, past')) :
    (session.refuse e : Operation ε α).Keeps (reticence core) (s, past) Q := by
  unfold Session.refuse
  rw [Procedure.keeps_bind]
  exact reticent_cancel hpast hQ

/-- An operation that has not engaged announces what it is about to do. -/
theorem reticent_announce {Q : Except ε Unit → Stage × List Action → Prop} {level : LogLevel}
    {message : String} (hpast : ¬ Engaged past)
    (hs : s.power = .active ∨ s.power = .entering)
    (hQ : ∀ past', ¬ Engaged past' → Q (.ok ()) (s, past')) :
    (Operation.log level message).Keeps (reticence core) (s, past) Q := by
  refine ⟨⟨not_spoken_of_not_engaged hpast, fun _ => ?_, fun index h => ?_, nofun⟩,
    fun _ => hQ _ (not_engaged_snoc hpast rfl)⟩
  · rcases hs with hs | hs <;> simp [hs]
  · rcases hs with hs | hs <;> cases hs.symm.trans h

/-- An operation reports. -/
theorem reticent_report {Q : Except ε Unit → Stage × List Action → Prop} {level : LogLevel}
    {message : String} (hpast : ¬ Spoken past) (hs : s.power ≠ .unseen)
    (hwoken : ∀ index, s.power = .exiting index → ∃ x, .access x ∈ past)
    (hQ : Q (.ok ()) (s, past ++ [.log ⟨level, message⟩])) :
    (Operation.log level message).Keeps (reticence core) (s, past) Q :=
  ⟨⟨hpast, fun _ => hs, fun index h _ => hwoken index h, nofun⟩, fun _ => hQ⟩

/-- A core waits for others, if its number is one that a set can hold. -/
theorem reticent_await {Q : Except ε Unit → Stage × List Action → Prop} {cores : CoreMask}
    (hcore : core < 32) (hpast : ¬ Spoken past)
    (hQ : ∀ past', ¬ Spoken past' → Q (.ok ()) ({ s with parking := .parked }, past')) :
    (Operation.barrier (.awaitArrival cores)).Keeps (reticence core) (s, past) Q := by
  refine ⟨⟨hpast, nofun, ?_, fun _ _ => hcore⟩, fun _ => hQ _ (not_spoken_snoc hpast rfl)⟩
  rintro index - (h | h) <;> cases h

theorem reticent_quiesce {Q : Except ε Unit → Stage × List Action → Prop} {online : CoreMask}
    (hpast : ¬ Engaged past)
    (hQ : ∀ past', ¬ Spoken past' → Q (.ok ()) ({ s with parking := .parked }, past')) :
    (Operation.quiesce core online).Keeps (reticence core) (s, past) Q := by
  have hpast := not_spoken_of_not_engaged hpast
  unfold Operation.quiesce Operation.checkCore
  cases hown : CoreId.ofNat core with
  | error f => exact reticent_act hpast rfl fun r => nomatch r
  | ok own =>
      have hcore : core < 32 := by
        by_contra h
        simp [CoreId.ofNat, h] at hown
      have hcleared := not_spoken_snoc (a := .barrier .clearArrived) hpast rfl
      have hheld := not_spoken_snoc (a := .barrier .hold) hcleared rfl
      refine reticent_act hpast rfl fun _ => reticent_act hcleared rfl fun _ => ?_
      unfold Operation.interrupt
      cases (online.erase own).isEmpty with
      | true => exact reticent_await hcore hheld hQ
      | false =>
          refine reticent_act hheld rfl fun _ => reticent_await hcore ?_ hQ
          exact not_spoken_snoc hheld rfl

theorem reticent_release {Q : Except ε Unit → Stage × List Action → Prop}
    (hpast : ¬ Spoken past)
    (hQ : ∀ past', ¬ Spoken past' → .signal .event ∈ past' →
      Q (.ok ()) ({ s with parking := .released }, past')) :
    Operation.release.Keeps (reticence core) (s, past) Q := by
  have hadvanced := not_spoken_snoc (a := .barrier .advanceEpoch) hpast rfl
  have hdropped := not_spoken_snoc (a := .barrier .unhold) hadvanced rfl
  refine reticent_act hpast rfl fun _ => reticent_act hadvanced rfl fun _ => ?_
  refine reticent_act hdropped rfl fun _ => hQ _ (not_spoken_snoc hdropped rfl) ?_
  exact List.mem_append_right _ (List.mem_singleton_self _)

end Parts

/-! ### Register sequences -/

/-- The access that an event records. -/
def Event.access? : Event → Option Access
  | .read r _ => some (.read r)
  | .write r v => some (.write r v)
  | _ => none

/-- The actions that stand for the accesses among events. -/
def accessesOf (events : List Event) : List Action := (events.filterMap Event.access?).map .access

theorem accessesOf_snoc (events : List Event) (a : Access) (r : a.Reply) :
    accessesOf (events ++ [.ofAccess a r]) = accessesOf events ++ [.access a] := by
  cases a <;> simp [accessesOf, Event.ofAccess, Event.access?]

/-- A failed poll is made of as many reads as it makes attempts. -/
theorem exhausted_of_timedOut {config : Config} {t : PollTimeout} {events : List Event}
    (h : Trace.TimedOut config t events) (past : List Action) :
    Exhausted config t (past ++ accessesOf events) := by
  obtain ⟨-, before, values, condition, rfl, hlength, -, -⟩ := h
  have hreads : (Sequence.refused t.register values).filterMap Event.access? =
      List.replicate config.pollLimit.toNat (.read t.register) := by
    rw [← hlength]
    clear hlength
    induction values with
    | nil => rfl
    | cons v values ih =>
        rw [List.length_cons, List.replicate_succ, ← ih]
        rfl
  refine ⟨past ++ accessesOf before, ?_⟩
  simp [accessesOf, hreads]

section Registers

variable {ε α : Type} {core : Nat} {s : Stage} {past : List Action}

/-- A register sequence leaves the accesses among its events, and emits nothing. -/
theorem reticent_registers {p : Sequence ε α} {events : List Event}
    {P : Except ε α → List Event → Prop} {Q : Except ε α → Stage × List Action → Prop}
    (hp : p.Keeps (Sequence.recorder Trace.anyway) events P)
    (hpast : ¬ Spoken (past ++ accessesOf events))
    (hQ : ∀ r events', (∃ more, accessesOf events' = accessesOf events ++ more) → P r events' →
      ¬ Spoken (past ++ accessesOf events') → Q r (s, past ++ accessesOf events')) :
    (Operation.registers p).Keeps (reticence core) (s, past ++ accessesOf events) Q := by
  induction p generalizing events with
  | done a => exact hQ _ events ⟨[], by simp⟩ hp hpast
  | fail e => exact hQ _ events ⟨[], by simp⟩ hp hpast
  | act a next ih =>
      refine reticent_act hpast rfl fun r => ?_
      have hsnoc : accessesOf (events ++ [.ofAccess a r]) = accessesOf events ++ [.access a] :=
        accessesOf_snoc events a r
      have hafter : past ++ accessesOf events ++ [.access a] =
          past ++ accessesOf (events ++ [.ofAccess a r]) := by
        rw [hsnoc, List.append_assoc]
      have hspoken := not_spoken_snoc (a := .access a) hpast rfl
      rw [hafter] at hspoken ⊢
      refine ih r (hp.2 r) hspoken fun r' events' hmore => hQ r' events' ?_
      obtain ⟨more, heq⟩ := hmore
      exact ⟨.access a :: more, by rw [heq, hsnoc, List.append_assoc, List.singleton_append]⟩

/-- **A register sequence emits nothing, and its timeouts are accounted for.** -/
theorem reticent_timed {config : Config} {p : Sequence PollTimeout α} {events : List Event}
    {Q : Except PollTimeout α → Stage × List Action → Prop}
    (hp : p.Keeps (Sequence.recorder Trace.anyway) events (Sequences.Accounted config))
    (hpast : ¬ Spoken (past ++ accessesOf events))
    (ok : ∀ a more, ¬ Spoken (past ++ accessesOf events ++ more) →
      Q (.ok a) (s, past ++ accessesOf events ++ more))
    (timeout : ∀ t more, ¬ Spoken (past ++ accessesOf events ++ more) →
      Exhausted config t (past ++ accessesOf events ++ more) →
      Q (.error t) (s, past ++ accessesOf events ++ more)) :
    (Operation.registers p).Keeps (reticence core) (s, past ++ accessesOf events) Q := by
  refine reticent_registers hp hpast fun r events' hmore haccounted hspoken => ?_
  obtain ⟨more, heq⟩ := hmore
  have hassoc : past ++ accessesOf events' = past ++ accessesOf events ++ more := by
    rw [heq, List.append_assoc]
  have hexhausted := fun t ht => exhausted_of_timedOut (haccounted t ht) past
  rw [hassoc] at hspoken hexhausted ⊢
  cases r with
  | ok a => exact ok a more hspoken
  | error t => exact timeout t more hspoken (hexhausted t rfl)

/-- The same of a sequence whose record begins with it. -/
theorem reticent_sequence {config : Config} {p : Sequence PollTimeout α}
    {Q : Except PollTimeout α → Stage × List Action → Prop}
    (hp : p.Keeps (Sequence.recorder Trace.anyway) [] (Sequences.Accounted config))
    (hpast : ¬ Spoken past) (ok : ∀ a past', ¬ Spoken past' → Q (.ok a) (s, past'))
    (timeout : ∀ t past', ¬ Spoken past' → Exhausted config t past' → Q (.error t) (s, past')) :
    (Operation.registers p).Keeps (reticence core) (s, past) Q := by
  have hnil : past ++ accessesOf [] = past := List.append_nil past
  have hkeeps : (Operation.registers p).Keeps (reticence core) (s, past ++ accessesOf []) Q := by
    refine reticent_timed hp ?_ (fun a more => ok a _) fun t more => timeout t _
    rwa [hnil]
  rwa [hnil] at hkeeps

end Registers

/-! ### The transitions -/

namespace Controller

open Sequences

variable {core : Nat} {past : List Action}

/-- Where a transition may end. -/
def Departs (c : Controller) (purpose : Purpose) (result : Except TransitionError Unit)
    (x : Stage × List Action) : Prop :=
  Concludes c.config purpose result x.2

/-- A transition that is refused before it engages may end. -/
theorem departs_refused {c : Controller} {purpose : Purpose} {s : Stage} {e : TransitionError}
    (he : ∀ t, e ≠ .pollTimeout t) (hpast : ¬ Engaged past) :
    c.Departs purpose (.error e) (s, past) := by
  cases e with
  | pollTimeout t => exact absurd rfl (he t)
  | _ => exact hpast

/-- So may one that has nothing to do. -/
theorem departs_idle {c : Controller} {purpose : Purpose} {s : Stage} (hpast : ¬ Engaged past) :
    c.Departs purpose (.ok ()) (s, past) := by
  rintro before record rfl hengaged
  exact absurd (hengaged.append _) hpast

/-- And one that ends by giving the session back. -/
theorem departs_unclaimed {c : Controller} {purpose : Purpose} {s : Stage} :
    c.Departs purpose (.ok ()) (s, past ++ [.barrier .unclaim]) := by
  rintro before record heq -
  obtain ⟨-, hlast⟩ := List.append_inj' heq rfl
  cases hlast

/-- One that succeeds reports after that. -/
theorem departs_reported {c : Controller} {purpose : Purpose} {s : Stage} {record : LogRecord}
    (hpurpose : purpose ≠ .powersDown)
    (hevent : ∀ online, purpose = .parks online → .signal .event ∈ past) :
    c.Departs purpose (.ok ()) (s, past ++ [.barrier .unclaim] ++ [.log record]) := by
  rintro before other heq -
  obtain ⟨rfl, -⟩ := List.append_inj' heq rfl
  refine ⟨hpurpose, List.mem_append_right _ (List.mem_singleton_self _), fun online h => ?_⟩
  exact List.mem_append_left _ (hevent online h)

/-- A transition that has timed out reports it and gives up. -/
theorem reticent_giveUp (c : Controller) {purpose : Purpose} {s : Stage} {t : PollTimeout}
    (message : String) (hpast : ¬ Spoken past) (hexhausted : Exhausted c.config t past)
    (hs : s.power ≠ .unseen) (hwoken : ∀ index, s.power = .exiting index → ∃ x, .access x ∈ past) :
    (do Operation.log .error message
        .fail (.pollTimeout t) : Operation TransitionError Unit).Keeps (reticence core) (s, past)
      (c.Departs purpose) := by
  rw [Procedure.keeps_bind]
  exact reticent_report hpast hs hwoken ⟨past, _, rfl, hexhausted⟩

/-! #### Switches -/

theorem reticent_beginActive {Q : Except TransitionError Session → Stage × List Action → Prop}
    (hpast : ¬ Engaged past)
    (refused : ∀ s past', ¬ Engaged past' → Q (.error .busy) (s, past'))
    (granted : ∀ current past', ¬ Engaged past' →
      Q (.ok ⟨current⟩) ({ tenure := .seated current, power := .active }, past')) :
    beginActive.Keeps (reticence core) ({}, past) Q := by
  unfold beginActive
  simp only [Procedure.keeps_bind]
  refine reticent_begin hpast (fun past' => refused _ past') fun current past' hpast' => ?_
  have hread : ¬ Engaged (past' ++ [.retention .readState]) := not_engaged_snoc hpast' rfl
  refine reticent_retention (not_spoken_of_not_engaged hpast') rfl fun state => ?_
  by_cases hstate : state = .active
  · subst hstate
    exact granted current _ hread
  · simp only [hstate, if_false]
    exact reticent_refuse hread fun past'' => refused _ past''

theorem reticent_switchFrom (c : Controller) (current target : FrequencyIndex)
    (timings : PointTimings) (online : CoreMask) (hpast : ¬ Engaged past) :
    (c.switchFrom core ⟨current⟩ target timings online).Keeps (reticence core)
      ({ tenure := .seated current, power := .active }, past) (c.Departs (.parks online)) := by
  unfold switchFrom
  simp only [Procedure.keeps_bind, Procedure.keeps_attempt]
  refine reticent_announce hpast (Or.inl rfl) fun past hpast => ?_
  refine reticent_quiesce hpast fun past hpast => ?_
  refine reticent_act hpast rfl fun _ => ?_
  refine reticent_sequence (accounts_switchPoint _ _ _ _) (not_spoken_snoc hpast rfl)
    (fun done past hpast => ?ok) fun timeout past hpast hexhausted => ?timeout
  case timeout => exact reticent_giveUp c _ hpast hexhausted nofun nofun
  case ok =>
    simp only [Procedure.keeps_bind]
    refine reticent_release hpast fun past hpast hevent => reticent_finish hpast ?_
    have hunclaimed := not_spoken_snoc (a := .barrier .unclaim)
      (not_spoken_snoc (a := .barrier (.writeCurrent target)) hpast rfl) rfl
    refine reticent_report hunclaimed nofun nofun ?_
    exact departs_reported nofun fun _ _ => List.mem_append_left _ hevent

theorem reticent_switchFrequency (c : Controller) (target : FrequencyIndex)
    (online : CoreMask) :
    (c.switchFrequency core target online).Keeps (reticence core) ({}, [])
      (c.Departs (.parks online)) := by
  have hrefused : ∀ e : TransitionError, (∀ t, e ≠ .pollTimeout t) →
      c.Departs (.parks online) (.error e) ({}, []) := fun e he =>
    departs_refused he not_engaged_nil
  unfold switchFrequency
  simp only [Procedure.keeps_bind]
  refine Procedure.keeps_demand (fun _ => hrefused _ nofun) fun timings _ => ?_
  refine Procedure.keeps_require (fun _ => hrefused _ nofun) fun _ => ?_
  refine Procedure.keeps_require (fun _ => hrefused _ nofun) fun _ => ?_
  refine reticent_beginActive not_engaged_nil (fun s past => departs_refused nofun)
    fun current past hpast => ?_
  dsimp only
  split
  · exact reticent_cancel hpast fun past => departs_idle
  · exact reticent_switchFrom c current target timings online hpast

theorem reticent_fastSwitchTo (c : Controller) (current target : FrequencyIndex)
    (speed : Speed) (online : CoreMask) (hpast : ¬ Engaged past) :
    (c.fastSwitchTo core target speed online).Keeps (reticence core)
      ({ tenure := .seated current, power := .active }, past) (c.Departs (.parks online)) := by
  unfold fastSwitchTo
  simp only [Procedure.keeps_bind, Procedure.keeps_attempt]
  refine reticent_announce hpast (Or.inl rfl) fun past hpast => ?_
  refine reticent_quiesce hpast fun past hpast => ?_
  have hunasked : ¬ Trace.LastWrote [] FastSwitch.ctrl
      fun v => v &&& FastSwitch.stopRequest ≠ 0 := by
    rintro ⟨v, hv, -⟩
    cases hv
  refine reticent_sequence (keeps_switchSpeed hunasked) hpast
    (fun done past hpast => ?ok) fun timeout past hpast hexhausted => ?timeout
  case timeout => exact reticent_giveUp c _ hpast hexhausted nofun nofun
  case ok =>
    simp only [Procedure.keeps_bind]
    refine reticent_release hpast fun past hpast hevent => reticent_finish hpast ?_
    exact departs_unclaimed

theorem reticent_fastSwitch (c : Controller) (speed : Speed) (online : CoreMask) :
    (c.fastSwitch core speed online).Keeps (reticence core) ({}, [])
      (c.Departs (.parks online)) := by
  unfold fastSwitch
  simp only [Procedure.keeps_bind]
  have hread : ¬ Engaged ([] ++ [.barrier .readCurrent]) := not_engaged_snoc not_engaged_nil rfl
  refine reticent_act (not_spoken_of_not_engaged not_engaged_nil) rfl fun before => ?_
  refine Procedure.keeps_demand (fun _ => departs_refused nofun hread) fun pair _ => ?_
  refine Procedure.keeps_require (fun _ => departs_refused nofun hread) fun _ => ?_
  refine reticent_beginActive hread (fun s past => departs_refused nofun)
    fun current past hpast => ?_
  dsimp only
  split
  · exact reticent_refuse hpast fun past => departs_refused nofun
  · split
    · exact reticent_cancel hpast fun past => departs_idle
    · exact reticent_fastSwitchTo c current _ speed online hpast

/-! #### Retention -/

theorem reticent_saveSnapshot (c : Controller) {s : Stage} (current : FrequencyIndex)
    (timings : PointTimings) {Q : Except PollTimeout Unit → Stage × List Action → Prop}
    (hpast : ¬ Spoken past)
    (saved : ∀ past', ¬ Spoken past' → Q (.ok ()) ({ s with power := .saved }, past'))
    (timeout : ∀ t past', ¬ Spoken past' → Exhausted c.config t past' → Q (.error t) (s, past')) :
    (saveSnapshot current timings).Keeps (reticence core) (s, past) Q := by
  have hread : ¬ Spoken (past ++ [.retention .readSnapshot]) := not_spoken_snoc hpast rfl
  unfold saveSnapshot
  rw [Procedure.keeps_bind]
  refine reticent_retention hpast rfl fun snapshot => ?_
  dsimp only
  cases snapshot.trained with
  | some trained =>
      exact reticent_retention hread rfl fun _ => saved _ (not_spoken_snoc hread rfl)
  | none =>
      dsimp only
      rw [Procedure.keeps_bind]
      refine reticent_sequence (accounts_readTrained timings []) hread
        (fun values past hpast => ?_) timeout
      exact reticent_retention hpast rfl fun _ => saved _ (not_spoken_snoc hpast rfl)

theorem reticent_powerDown (c : Controller) {s : Stage} (current : FrequencyIndex)
    (timings : PointTimings) {Q : Except PollTimeout Unit → Stage × List Action → Prop}
    (hpast : ¬ Spoken past)
    (down : ∀ past', ¬ Spoken past' → Q (.ok ()) ({ s with power := .saved }, past'))
    (timeout : ∀ t s' past', s'.power = s.power ∨ s'.power = .saved → ¬ Spoken past' →
      Exhausted c.config t past' → Q (.error t) (s', past')) :
    (c.powerDown current timings).Keeps (reticence core) (s, past) Q := by
  have hbefore := fun t => timeout t s
  have hafter := fun t => timeout t { s with power := .saved }
  unfold powerDown
  simp only [Procedure.keeps_bind]
  refine reticent_sequence (accounts_quietDown []) hpast (fun done past hpast => ?_)
    fun t past => hbefore t past (Or.inl rfl)
  refine reticent_saveSnapshot c current timings hpast (fun past hpast => ?_)
    fun t past => hbefore t past (Or.inl rfl)
  refine reticent_act hpast rfl fun _ => ?_
  exact reticent_sequence (accounts_powerOff []) (not_spoken_snoc hpast rfl)
    (fun done past => down past) fun t past => hafter t past (Or.inr rfl)

theorem reticent_enterFrom (c : Controller) (current : FrequencyIndex) (timings : PointTimings)
    (hpast : ¬ Engaged past) :
    (c.enterFrom ⟨current⟩ timings).Keeps (reticence core)
      (⟨.seated current, .unasked, .entering⟩, past) (c.Departs .powersDown) := by
  unfold enterFrom
  simp only [Procedure.keeps_bind, Procedure.keeps_attempt]
  refine reticent_announce hpast (Or.inr rfl) fun past hpast => ?_
  refine reticent_powerDown c current timings (not_spoken_of_not_engaged hpast)
    (fun past hpast => ?down) fun t s past hs hpast hexhausted => ?timeout
  case timeout =>
    refine reticent_giveUp c _ hpast hexhausted ?_ fun index hindex => ?_
    · rcases hs with hs | hs <;> simp [hs]
    · rcases hs with hs | hs <;> cases hs.symm.trans hindex
  case down =>
    simp only [Procedure.keeps_bind]
    refine reticent_retention hpast rfl fun _ => ?_
    exact reticent_finish (not_spoken_snoc hpast rfl) departs_unclaimed

theorem reticent_enterRetention (c : Controller) :
    c.enterRetention.Keeps (reticence core) ({}, []) (c.Departs .powersDown) := by
  unfold enterRetention
  rw [Procedure.keeps_bind]
  refine reticent_begin not_engaged_nil (fun past => departs_refused nofun)
    fun current past hpast => ?_
  dsimp only
  split
  · exact reticent_refuse hpast fun past => departs_refused nofun
  · rw [Procedure.keeps_bind]
    refine reticent_retention (not_spoken_of_not_engaged hpast) rfl fun granted => ?_
    have hbegun : ¬ Engaged (past ++ [.retention .beginEntry]) := not_engaged_snoc hpast rfl
    cases granted with
    | false => exact reticent_refuse hbegun fun past => departs_refused nofun
    | true => exact reticent_enterFrom c current _ hbegun

/-- The way up begins with a register access, however soon it times out after that. -/
theorem reticent_powerUp (c : Controller) {s : Stage} (point : FrequencyPoint)
    (timings : PointTimings) (trained : Option (List UInt32))
    {Q : Except PollTimeout Unit → Stage × List Action → Prop} (hpast : ¬ Spoken past)
    (up : ∀ past', ¬ Spoken past' → (∃ x, .access x ∈ past') → Q (.ok ()) (s, past'))
    (timeout : ∀ t past', ¬ Spoken past' → (∃ x, .access x ∈ past') → Exhausted c.config t past' →
      Q (.error t) (s, past')) :
    (Operation.registers (powerUp c.config point timings trained)).Keeps (reticence core)
      (s, past) Q := by
  have hwoken : ∀ v more,
      ∃ x, .access x ∈ past ++ accessesOf [.read Power.upRequest v] ++ more := fun v more => by
    refine ⟨.read Power.upRequest, List.mem_append_left _ (List.mem_append_right _ ?_)⟩
    exact List.mem_singleton_self _
  have haccounts : Accounts c.config (powerUp c.config point timings trained) :=
    accounts_powerUp point timings trained
  refine reticent_act hpast rfl fun v => ?_
  have hread : ¬ Spoken (past ++ accessesOf [.read Power.upRequest v]) := not_spoken_snoc hpast rfl
  refine reticent_timed ((haccounts []).2 v) hread
    (fun done more hpast => up _ hpast (hwoken v more)) fun t more hpast => ?_
  exact timeout t _ hpast (hwoken v more)

theorem reticent_exitTo (c : Controller) (current : FrequencyIndex) (snapshot : Snapshot)
    (hpast : ¬ Engaged past) :
    (c.exitTo ⟨current⟩ snapshot).Keeps (reticence core)
      (⟨.seated current, .unasked, .exiting snapshot.frequency⟩, past)
      (c.Departs .powersUp) := by
  unfold exitTo
  dsimp only
  split
  · exact reticent_refuse hpast fun past => departs_refused nofun
  · simp only [Procedure.keeps_bind, Procedure.keeps_attempt]
    refine reticent_powerUp c _ _ _ (not_spoken_of_not_engaged hpast)
      (fun past hpast hwoken => ?up) fun t past hpast hwoken hexhausted => ?timeout
    case timeout => exact reticent_giveUp c _ hpast hexhausted nofun fun _ _ => hwoken
    case up =>
      simp only [Procedure.keeps_bind]
      refine ⟨⟨hpast, nofun, fun _ _ _ => hwoken, nofun⟩, fun _ => ?_⟩
      have hactive : ¬ Spoken (past ++ [.retention (.writeState .active)]) :=
        not_spoken_snoc hpast rfl
      refine reticent_finish hactive ?_
      have hunclaimed := not_spoken_snoc (a := .barrier .unclaim)
        (not_spoken_snoc (a := .barrier (.writeCurrent snapshot.frequency)) hactive rfl) rfl
      exact reticent_report hunclaimed nofun nofun (departs_reported nofun nofun)

theorem reticent_exitRetention (c : Controller) :
    c.exitRetention.Keeps (reticence core) ({}, []) (c.Departs .powersUp) := by
  unfold exitRetention
  simp only [Procedure.keeps_bind]
  have hlooked : ¬ Engaged ([] ++ [.retention .readState]) := not_engaged_snoc not_engaged_nil rfl
  refine reticent_retention (not_spoken_of_not_engaged not_engaged_nil) rfl fun state => ?_
  refine Procedure.keeps_require (fun _ => departs_refused nofun hlooked) fun _ => ?_
  refine reticent_begin hlooked (fun past => departs_refused nofun) fun current past hpast => ?_
  dsimp only
  refine reticent_retention (not_spoken_of_not_engaged hpast) rfl fun snapshot => ?_
  have hbegun : ¬ Engaged (past ++ [.retention .beginExit]) := not_engaged_snoc hpast rfl
  cases snapshot with
  | none => exact reticent_refuse hbegun fun past => departs_refused nofun
  | some snapshot => exact reticent_exitTo c current snapshot hbegun

/-- **Every transition keeps to the monitor**, on every core and with any arguments. -/
theorem operation_reticent (c : Controller) (core : Nat) (request : Request) :
    (c.operation core request).Keeps (reticence core) ({}, []) (c.Departs request.purpose) := by
  cases request with
  | switch target online => exact c.reticent_switchFrequency target online
  | fast speed online => exact c.reticent_fastSwitch speed online
  | enter => exact c.reticent_enterRetention
  | exit => exact c.reticent_exitRetention

end Controller

end Reclock
