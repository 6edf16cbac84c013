/-
**What a run leaves on record.**

A system records what an operation does to registers, cores and the log, in order.  Statements
about that order are of one kind: an event may happen only after certain others.  Here they are
made into conditions on the events so far, a *gate* for each event, and a record is in order if
every event in it passes its gate.

The events so far are also the states of a monitor.  An operation that keeps to it whatever it is
answered has its record in order in every run, on every hardware, however the run ends.

Main definitions:

* `Reclock.Trace.Gated` — **every event passes its gate**;
* `Reclock.Trace.LastWrote`, `Reclock.Trace.Saw` — what the events so far show: the last value
  written to a register, and a value read from one at a certain moment;
* `Reclock.Monitor.recording` — the events so far as a monitor, with `Operation.recorder` and
  `Sequence.recorder`;
* `Reclock.System.trace` — the record of one operation.

Main results:

* `Reclock.System.recorded` — **what keeps to the monitor has its record in order**;
* `Reclock.Sequence.keeps_wait` — a bounded poll leaves the values that it refused, and then the
  one that it accepted, on record.
-/

import Reclock.Proofs.Monitor
import Reclock.System
import Reclock.Transition.Switch

set_option relaxedAutoImplicit false
set_option autoImplicit false

namespace Reclock

/-! ### Records in order -/

namespace Trace

/-- **Every event passes its gate**, which sees the events before it. -/
def Gated (gate : List Event → Event → Prop) (trace : List Event) : Prop :=
  ∀ past e future, trace = past ++ e :: future → gate past e

theorem gated_nil (gate : List Event → Event → Prop) : Gated gate [] := by
  intro past e future h
  simp at h

/-- A record stays in order if the next event passes its gate. -/
theorem Gated.snoc {gate : List Event → Event → Prop} {trace : List Event} {e : Event}
    (h : Gated gate trace) (he : gate trace e) : Gated gate (trace ++ [e]) := by
  intro past x future heq
  rcases List.append_eq_append_iff.1 heq with ⟨more, hpast, hlast⟩ | ⟨more, htrace, hlast⟩
  · cases more with
    | nil =>
        simp only [List.nil_append, List.cons.injEq] at hlast
        rw [hpast, List.append_nil, ← hlast.1]
        exact he
    | cons y more => simp at hlast
  · cases more with
    | nil =>
        simp only [List.nil_append, List.cons.injEq] at hlast
        rw [hlast.1, ← List.append_nil past, ← htrace]
        exact he
    | cons y more =>
        simp only [List.cons_append, List.cons.injEq] at hlast
        obtain ⟨rfl, -⟩ := hlast
        exact h past x more htrace

/-! ### What the events so far show -/

/-- The value that an event writes to a register. -/
def written? (r : Register) : Event → Option UInt32
  | .write s v => if s = r then some v else none
  | _ => none

/-- The register has been written, and the last value satisfies the condition. -/
def LastWrote (past : List Event) (r : Register) (condition : UInt32 → Prop) : Prop :=
  ∃ v ∈ (past.filterMap (written? r)).getLast?, condition v

/-- The register has been read with a value that satisfies the condition, at a moment at which
the events before satisfied another. -/
def Saw (past : List Event) (r : Register) (condition : UInt32 → Prop)
    (moment : List Event → Prop) : Prop :=
  ∃ before v after, past = before ++ .read r v :: after ∧ condition v ∧ moment before

theorem Saw.append {past : List Event} {r : Register} {condition : UInt32 → Prop}
    {moment : List Event → Prop} (h : Saw past r condition moment) (more : List Event) :
    Saw (past ++ more) r condition moment := by
  obtain ⟨before, v, after, rfl, hv, hbefore⟩ := h
  exact ⟨before, v, after ++ more, by simp, hv, hbefore⟩

theorem LastWrote.append {past : List Event} {r : Register} {condition : UInt32 → Prop}
    (h : LastWrote past r condition) {more : List Event}
    (hmore : ∀ e ∈ more, written? r e = none) : LastWrote (past ++ more) r condition := by
  have hnone : more.filterMap (written? r) = [] := List.filterMap_eq_nil_iff.2 hmore
  rwa [LastWrote, List.filterMap_append, hnone, List.append_nil]

theorem lastWrote_write (past : List Event) (r : Register) {v : UInt32}
    {condition : UInt32 → Prop} (hv : condition v) :
    LastWrote (past ++ [.write r v]) r condition :=
  ⟨v, by simp [written?], hv⟩

/-- There is only one last value. -/
theorem LastWrote.not {past : List Event} {r : Register} {condition : UInt32 → Prop}
    (h : LastWrote past r condition) : ¬ LastWrote past r fun v => ¬ condition v := by
  rintro ⟨w, hw, hnot⟩
  obtain ⟨v, hv, hcondition⟩ := h
  rw [Option.mem_unique hv hw] at hcondition
  exact hnot hcondition

/-- A write of another register takes nothing away, and one of the same leaves its own value. -/
theorem LastWrote.write {past : List Event} {r s : Register} {v : UInt32}
    {condition : UInt32 → Prop} (h : LastWrote past r condition) (hv : s = r → condition v) :
    LastWrote (past ++ [.write s v]) r condition := by
  by_cases hs : s = r
  · rw [hs]
    exact lastWrote_write past r (hv hs)
  · refine h.append fun e he => ?_
    rw [List.mem_singleton.1 he, written?, if_neg hs]

theorem saw_read {past : List Event} {r : Register} {v : UInt32} {condition : UInt32 → Prop}
    {moment : List Event → Prop} (hv : condition v) (hpast : moment past) :
    Saw (past ++ [.read r v]) r condition moment :=
  ⟨past, v, [], rfl, hv, hpast⟩

end Trace

/-! ### The events so far as a monitor -/

/-- **The events so far**, as the states of a monitor that lets every event pass which its gate
does, whatever the reply. -/
def Monitor.recording {A : Type} {Reply : A → Type} (note : (a : A) → Reply a → Option Event)
    (gate : List Event → Event → Prop) : Monitor Reply (List Event) where
  allows past a := ∀ r, ∀ e ∈ note a r, gate past e
  after past a r := past ++ (note a r).toList

/-- What an action leaves on record.  A log record below the level of this build leaves
nothing. -/
def Action.event? : (a : Action) → a.Reply → Option Event
  | .access a, r => some (.ofAccess a r)
  | .signal s, _ => some (.signal s)
  | .log r, _ => if r.passes then some (.log r) else none
  | _, _ => none

/-- The events so far of an operation. -/
abbrev Operation.recorder (gate : List Event → Event → Prop) :
    Monitor Action.Reply (List Event) :=
  .recording Action.event? gate

/-- The events so far of a register sequence. -/
abbrev Sequence.recorder (gate : List Event → Event → Prop) :
    Monitor Access.Reply (List Event) :=
  .recording (fun a r => some (.ofAccess a r)) gate

/-- The gate that every event passes. -/
def Trace.anyway : List Event → Event → Prop := fun _ _ => True

namespace Sequence

variable {ε α : Type} {gate : List Event → Event → Prop} {past : List Event}

theorem keeps_read {r : Register} {Q : Except ε UInt32 → List Event → Prop}
    (hgate : ∀ v, gate past (.read r v)) (hQ : ∀ v, Q (.ok v) (past ++ [.read r v])) :
    (read r : Sequence ε UInt32).Keeps (recorder gate) past Q := by
  refine ⟨fun v e he => ?_, hQ⟩
  cases he
  exact hgate v

theorem keeps_write {r : Register} {v : UInt32} {Q : Except ε Unit → List Event → Prop}
    (hgate : gate past (.write r v)) (hQ : Q (.ok ()) (past ++ [.write r v])) :
    (write r v : Sequence ε Unit).Keeps (recorder gate) past Q := by
  refine ⟨fun _ e he => ?_, fun _ => hQ⟩
  cases he
  exact hgate

/-- A read-modify-write leaves the value read and the value made from it on record. -/
theorem keeps_modify {r : Register} {f : UInt32 → UInt32} {Q : Except ε Unit → List Event → Prop}
    (hread : ∀ v, gate past (.read r v))
    (hwrite : ∀ v, gate (past ++ [.read r v]) (.write r (f v)))
    (hQ : ∀ v, Q (.ok ()) (past ++ [.read r v] ++ [.write r (f v)])) :
    (modify r f : Sequence ε Unit).Keeps (recorder gate) past Q := by
  unfold modify
  rw [Procedure.keeps_bind]
  exact keeps_read hread fun v => keeps_write (hwrite v) (hQ v)

/-- Registers that are modified one by one have all been left as wanted in the end. -/
theorem keeps_forEach_modify {β : Type} {bs done : List β} {register : β → Register}
    {f : UInt32 → UInt32} {shown : UInt32 → Prop} {before : List Event → Prop}
    (hpast : before past) (hdone : ∀ b ∈ done, Trace.LastWrote past (register b) shown)
    (hread : ∀ past, ∀ b ∈ bs, ∀ v, before past → gate past (.read (register b) v))
    (hwrite : ∀ past, ∀ b ∈ bs, ∀ v, before past →
      gate (past ++ [.read (register b) v]) (.write (register b) (f v)))
    (hbefore : ∀ past, ∀ b ∈ bs, ∀ v, before past →
      before (past ++ [.read (register b) v] ++ [.write (register b) (f v)]))
    (hshown : ∀ v, shown (f v)) :
    (.forEach bs fun b => modify (register b) f : Sequence ε Unit).Keeps (recorder gate) past
      fun r past' => r = .ok () →
        before past' ∧ ∀ b ∈ done ++ bs, Trace.LastWrote past' (register b) shown := by
  induction bs generalizing past done with
  | nil => simpa [Procedure.forEach] using ⟨hpast, hdone⟩
  | cons b bs ih =>
      unfold Procedure.forEach
      rw [Procedure.keeps_bind, List.append_cons]
      have hmem : b ∈ b :: bs := List.mem_cons_self ..
      refine keeps_modify (fun v => hread past b hmem v hpast)
        (fun v => hwrite past b hmem v hpast) fun v => ?_
      refine ih (hbefore past b hmem v hpast) (fun other hother => ?_)
        (fun past b hb => hread past b (List.mem_cons_of_mem _ hb))
        (fun past b hb => hwrite past b (List.mem_cons_of_mem _ hb))
        fun past b hb => hbefore past b (List.mem_cons_of_mem _ hb)
      rcases List.mem_append.1 hother with hother | hother
      · exact ((hdone other hother).append (by simp [Trace.written?])).write fun _ => hshown v
      · rw [List.mem_singleton.1 hother]
        exact Trace.lastWrote_write _ _ (hshown v)

/-- The record of a poll whose attempts all failed. -/
def refused (r : Register) (values : List UInt32) : List Event := values.map (.read r)

@[simp] theorem written?_of_mem_refused {r s : Register} {values : List UInt32} {e : Event}
    (he : e ∈ refused r values) : Trace.written? s e = none := by
  obtain ⟨v, -, rfl⟩ := List.mem_map.1 he
  rfl

theorem keeps_pollUntil {r : Register} {limit : UInt32} {condition : UInt32 → Bool} (attempts : Nat)
    {Q : Except PollTimeout UInt32 → List Event → Prop}
    (hgate : ∀ values v, gate (past ++ refused r values) (.read r v))
    (found : ∀ values v, (∀ w ∈ values, condition w = false) → condition v = true →
      Q (.ok v) (past ++ refused r values ++ [.read r v]))
    (missed : ∀ values, values.length = attempts → (∀ w ∈ values, condition w = false) →
      Q (.error ⟨r, limit⟩) (past ++ refused r values)) :
    (Procedure.pollUntil ⟨r, limit⟩ (do
      let value ← read r
      return if condition value then some value else none) attempts).Keeps
        (recorder gate) past Q := by
  induction attempts generalizing past with
  | zero => simpa [refused, Procedure.pollUntil] using missed [] rfl nofun
  | succ attempts ih =>
      unfold Procedure.pollUntil
      rw [Procedure.keeps_bind, Procedure.keeps_bind]
      refine keeps_read (by simpa [refused] using hgate []) fun v => ?_
      cases hv : condition v with
      | true => simpa [refused, hv] using found [] v nofun hv
      | false =>
          simp only [hv, Bool.false_eq_true, if_false, Procedure.pure_eq_done,
            Procedure.keeps_done]
          refine ih (fun values w => ?_) (fun values w hvalues hw => ?_) fun values hlength hvalues => ?_
          · simpa [refused] using hgate (v :: values) w
          · simpa [refused] using found (v :: values) w (List.forall_mem_cons.2 ⟨hv, hvalues⟩) hw
          · simpa [refused] using missed (v :: values) (by simp [hlength])
              (List.forall_mem_cons.2 ⟨hv, hvalues⟩)

/-- **A bounded poll** leaves the values that it refused on record, and then either the one that it
accepted, or, if there are as many as it may make attempts, nothing. -/
theorem keeps_wait {config : Config} {r : Register} {condition : UInt32 → Bool}
    {Q : Except PollTimeout Unit → List Event → Prop}
    (hgate : ∀ values v, gate (past ++ refused r values) (.read r v))
    (found : ∀ values v, (∀ w ∈ values, condition w = false) → condition v = true →
      Q (.ok ()) (past ++ refused r values ++ [.read r v]))
    (missed : ∀ values, values.length = config.pollLimit.toNat →
      (∀ w ∈ values, condition w = false) →
      Q (.error ⟨r, config.pollLimit⟩) (past ++ refused r values)) :
    (Sequences.wait config r condition).Keeps (recorder gate) past Q := by
  unfold Sequences.wait waitUntil
  rw [Procedure.keeps_bind]
  exact keeps_pollUntil _ hgate found missed

end Sequence

/-! ### The parts of an operation -/

namespace Operation

variable {ε α : Type} {gate : List Event → Event → Prop} {past : List Event}

theorem recorder_log {level : LogLevel} {message : String} {Q : Except ε Unit → List Event → Prop}
    (hgate : ∀ r, gate past (.log r))
    (hQ : ∀ more, (∀ e ∈ more, ∃ r, e = .log r) → Q (.ok ()) (past ++ more)) :
    (log level message : Operation ε Unit).Keeps (recorder gate) past Q := by
  have hlog : ∀ e ∈ Action.event? (.log ⟨level, message⟩) (), ∃ r, e = .log r := by
    intro e he
    simp only [Action.event?, Option.mem_def, Option.ite_none_right_eq_some] at he
    exact ⟨_, (Option.some.inj he.2).symm⟩
  refine ⟨fun _ e he => ?_, fun _ => hQ _ fun e he => hlog e (Option.mem_toList.1 he)⟩
  obtain ⟨r, rfl⟩ := hlog e he
  exact hgate r

theorem recorder_signal {a : Signal} {Q : Except ε Unit → List Event → Prop}
    (hgate : gate past (.signal a)) (hQ : Q (.ok ()) (past ++ [.signal a])) :
    (signal a : Operation ε Unit).Keeps (recorder gate) past Q := by
  refine ⟨fun _ e he => ?_, fun _ => hQ⟩
  cases he
  exact hgate

theorem recorder_barrier {a : BarrierAccess} {Q : Except ε a.Reply → List Event → Prop}
    (hQ : ∀ r, Q (.ok r) past) : (barrier a : Operation ε a.Reply).Keeps (recorder gate) past Q := by
  refine ⟨fun r e => nofun, fun r => ?_⟩
  simpa [Monitor.recording, Action.event?] using hQ r

theorem recorder_retention {a : RetentionAccess} {Q : Except ε a.Reply → List Event → Prop}
    (hQ : ∀ r, Q (.ok r) past) :
    (retention a : Operation ε a.Reply).Keeps (recorder gate) past Q := by
  refine ⟨fun r e => nofun, fun r => ?_⟩
  simpa [Monitor.recording, Action.event?] using hQ r

theorem recorder_anyway (p : Operation ε α) (past : List Event) :
    p.Keeps (recorder Trace.anyway) past fun _ _ => True := by
  induction p generalizing past with
  | done a => exact trivial
  | fail e => exact trivial
  | act a next ih => exact ⟨fun _ _ _ => trivial, fun r => ih r _⟩

/-- Parking the other cores puts at most the interrupt on record. -/
theorem recorder_quiesce {core : Nat} {online : CoreMask} {Q : Except ε Unit → List Event → Prop}
    (hgate : ∀ targets, gate past (.signal (.interrupt targets)))
    (hQ : ∀ more, (∀ e ∈ more, ∃ targets, e = .signal (.interrupt targets)) →
      Q (.ok ()) (past ++ more)) :
    (quiesce core online : Operation ε Unit).Keeps (recorder gate) past Q := by
  unfold quiesce checkCore
  simp only [Procedure.keeps_bind]
  cases CoreId.ofNat core with
  | error f => exact ⟨fun r => (nomatch r), fun r => (nomatch r)⟩
  | ok own =>
      refine recorder_barrier fun _ => recorder_barrier fun _ => ?_
      unfold interrupt
      cases (online.erase own).isEmpty with
      | true =>
          refine recorder_barrier fun _ => ?_
          simpa using hQ [] nofun
      | false =>
          refine recorder_signal (hgate _) (recorder_barrier fun _ => hQ _ fun e he => ?_)
          exact ⟨_, List.mem_singleton.1 he⟩

/-- Letting the parked cores go puts the event on record. -/
theorem recorder_release {Q : Except ε Unit → List Event → Prop}
    (hgate : gate past (.signal .event)) (hQ : Q (.ok ()) (past ++ [.signal .event])) :
    (release : Operation ε Unit).Keeps (recorder gate) past Q := by
  unfold release
  simp only [Procedure.keeps_bind]
  exact recorder_barrier fun _ => recorder_barrier fun _ => recorder_signal hgate hQ

/-- A register sequence as an operation keeps to what it keeps to by itself, also if the gates ask
for more of the events before, as long as register accesses leave that alone. -/
theorem recorder_registers {inner : List Event → Event → Prop} {still : List Event → Prop}
    {p : Sequence ε α} {Q : Except ε α → List Event → Prop} (hstill : still past)
    (haccess : ∀ events (a : Access) r, still events → still (events ++ [.ofAccess a r]))
    (hgate : ∀ events (a : Access) r, still events → inner events (.ofAccess a r) →
      gate events (.ofAccess a r))
    (h : p.Keeps (Sequence.recorder inner) past Q) :
    (registers p).Keeps (recorder gate) past fun r events => still events ∧ Q r events := by
  induction p generalizing past with
  | done a => exact ⟨hstill, h⟩
  | fail e => exact ⟨hstill, h⟩
  | act a next ih =>
      refine ⟨fun r e he => ?_, fun r => ih r (haccess past a r hstill) (h.2 r)⟩
      cases he
      exact hgate past a r hstill (h.1 r _ rfl)

/-! ### Sessions leave nothing on record -/

theorem recorder_finish {index : FrequencyIndex} {Q : Except ε Unit → List Event → Prop}
    (hQ : Q (.ok ()) past) :
    (Session.finish index : Operation ε Unit).Keeps (recorder gate) past Q := by
  unfold Session.finish
  rw [Procedure.keeps_bind]
  exact recorder_barrier fun _ => recorder_barrier fun _ => hQ

theorem recorder_refuse {session : Session} {e : ε} {Q : Except ε α → List Event → Prop}
    (hQ : Q (.error e) past) :
    (session.refuse e : Operation ε α).Keeps (recorder gate) past Q := by
  unfold Session.refuse
  rw [Procedure.keeps_bind]
  exact recorder_finish hQ

theorem recorder_begin {Q : Except TransitionError Session → List Event → Prop}
    (refused : Q (.error .busy) past) (granted : ∀ session, Q (.ok session) past) :
    Session.begin.Keeps (recorder gate) past Q := by
  unfold Session.begin
  rw [Procedure.keeps_bind]
  refine recorder_barrier fun free => ?_
  cases free with
  | false => exact refused
  | true =>
      simp only [if_true]
      rw [Procedure.keeps_bind]
      exact recorder_barrier fun current => granted ⟨current⟩

theorem recorder_beginActive {Q : Except TransitionError Session → List Event → Prop}
    (refused : Q (.error .busy) past) (granted : ∀ session, Q (.ok session) past) :
    Controller.beginActive.Keeps (recorder gate) past Q := by
  unfold Controller.beginActive
  rw [Procedure.keeps_bind]
  refine recorder_begin refused fun session => ?_
  dsimp only
  rw [Procedure.keeps_bind]
  refine recorder_retention fun state => ?_
  dsimp only
  split
  · exact granted session
  · exact recorder_refuse refused

end Operation

/-! ### From the monitor to the record of a run -/

namespace System

variable {H : Type} [RegisterFile H] {ε α : Type}

/-- The system that a run leaves behind, however it ends. -/
def after (p : Operation ε α) (s : System H) : System H :=
  match run p s with
  | .ok _ s' => s'
  | .error _ s' => s'

/-- **The record of one operation.** -/
def trace (p : Operation ε α) (s : System H) : List Event :=
  (after p s).events.toList.drop s.events.size

/-- Whatever the cores do in answer to a signal, it is not on record. -/
theorem events_of_signal {H : Type} {a : Signal} {s s' : System H} (h : s.signal a = .ok s') :
    s'.events = s.events := by
  cases a with
  | interrupt targets =>
      simp only [signal] at h
      unfold raise at h
      split at h
      · cases h
      · cases h
        rfl
  | event =>
      cases h
      rfl
  | flush =>
      cases h
      rfl

/-- An action that is answered leaves its event on record. -/
theorem events_of_answer {a : Action} {s s' : System H} {r : a.Reply}
    (h : answer a s = .ok r s') :
    s'.events.toList = s.events.toList ++ (a.event? r).toList := by
  cases a with
  | access a =>
      simp only [answer] at h
      split at h
      · cases h
        simp [record, Action.event?]
      · cases h
  | signal a =>
      simp only [answer] at h
      split at h
      case h_1 s₁ hsignal =>
        cases h
        simp [record, Action.event?, events_of_signal hsignal]
      case h_2 => cases h
  | log a =>
      simp only [answer] at h
      cases h
      cases hpasses : a.passes <;> simp [record, Action.event?, hpasses]
  | barrier a =>
      simp only [answer] at h
      split at h
      · cases h
        simp [Action.event?]
      · cases h
  | retention a =>
      simp only [answer] at h
      cases h
      simp [Action.event?]
  | abort f => nomatch r

/-- An action that is not answered leaves none. -/
theorem events_of_halted {a : Action} {s s' : System H} {halt : Halt}
    (h : answer a s = .error halt s') : s'.events = s.events := by
  cases a with
  | access a =>
      simp only [answer] at h
      split at h <;> cases h
      rfl
  | signal a =>
      simp only [answer] at h
      split at h <;> cases h
      rfl
  | log a => cases h
  | barrier a =>
      simp only [answer] at h
      split at h <;> cases h
      rfl
  | retention a => cases h
  | abort f =>
      cases h
      rfl

/-- **What keeps to the monitor has its record in order**, in every run and however it ends; if
the run comes to its end, the condition on the end holds as well. -/
theorem recorded {p : Operation ε α} {gate : List Event → Event → Prop} {past : List Event}
    {Q : Except ε α → List Event → Prop} (h : p.Keeps (Operation.recorder gate) past Q)
    (hpast : Trace.Gated gate past) (s : System H) :
    ∃ more, (after p s).events.toList = s.events.toList ++ more ∧
      Trace.Gated gate (past ++ more) ∧ ∀ r s', run p s = .ok r s' → Q r (past ++ more) := by
  induction p generalizing past s with
  | done a =>
      refine ⟨[], by simp [after, run, Procedure.run], by simpa using hpast, fun r s' hrun => ?_⟩
      cases hrun
      simpa using h
  | fail e =>
      refine ⟨[], by simp [after, run, Procedure.run], by simpa using hpast, fun r s' hrun => ?_⟩
      cases hrun
      simpa using h
  | act a next ih =>
      cases hanswer : answer a s with
      | error halt s₁ =>
          refine ⟨[], ?_, by simpa using hpast, fun r s' hrun => ?_⟩
          · simp [after, run, Procedure.run, hanswer, events_of_halted hanswer]
          · simp [run, Procedure.run, hanswer] at hrun
      | ok r s₁ =>
          have hpast' : Trace.Gated gate (past ++ (a.event? r).toList) := by
            cases hevent : a.event? r with
            | none => simpa using hpast
            | some e => exact hpast.snoc (h.1 r e hevent)
          obtain ⟨more, hevents, hgated, hQ⟩ := ih r (h.2 r) hpast' s₁
          have hrun : run (.act a next) s = run (next r) s₁ := by
            simp [run, Procedure.run, hanswer]
          have hafter : after (.act a next) s = after (next r) s₁ := by
            simp only [after, hrun]
          refine ⟨(a.event? r).toList ++ more, ?_, ?_, fun r' s' hrun' => ?_⟩
          · rw [hafter, hevents, events_of_answer hanswer, List.append_assoc]
          · rw [← List.append_assoc]
            exact hgated
          · rw [← List.append_assoc]
            exact hQ r' s' (hrun ▸ hrun')

/-- **The record of an operation that keeps to the monitor is in order**; and what it comes to in
the end holds of the record. -/
theorem trace_recorded {p : Operation ε α} {gate : List Event → Event → Prop}
    {Q : Except ε α → List Event → Prop} (h : p.Keeps (Operation.recorder gate) [] Q)
    (s : System H) :
    (after p s).events.toList = s.events.toList ++ trace p s ∧ Trace.Gated gate (trace p s) ∧
      ∀ r s', run p s = .ok r s' → Q r (trace p s) := by
  obtain ⟨more, hevents, hgated, hQ⟩ := recorded h (Trace.gated_nil gate) s
  have htrace : trace p s = more := by
    rw [trace, hevents, ← Array.length_toList, List.drop_left]
  rw [htrace]
  exact ⟨hevents, hgated, hQ⟩

/-- An operation that ends leaves nothing on record exactly if the record of the system is as
before. -/
theorem trace_eq_nil_iff {p : Operation ε α} {s s' : System H} {r : Except ε α}
    (hrun : run p s = .ok r s') : trace p s = [] ↔ s'.events = s.events := by
  obtain ⟨hevents, -⟩ := trace_recorded (Operation.recorder_anyway p []) s
  have hafter : after p s = s' := by rw [after, hrun]
  rw [← Array.toList_inj, ← hafter, hevents, List.append_right_eq_self]

end System

end Reclock
