/-
**What a run comes to.**

A run of an operation in a system either halts, or ends with a result or an error.  What is said
of it is of three kinds: that the end satisfies a condition if the run comes to an end, that it
comes to an end with a result, and that it comes to an end at all.  All are composed along the
operation.  The parts that operations
have in common — sessions, register sequences, the memories — are settled here once, for every
register file.

Main definitions:

* `Reclock.Procedure.Ensures` — the end satisfies a condition, if there is one;
* `Reclock.Procedure.Completes` — **the run ends with a result** that satisfies a condition;
* `Reclock.Procedure.Returns` — **the run comes to an end** that satisfies a condition;
* `Reclock.System.claimed` — a system with a session in flight.

Main results:

* `Reclock.Procedure.Ensures.andThen`, `Completes.andThen`, `Returns.andThen` — sequences of
  procedures;
* `Reclock.System.run_begin`, `run_beginActive`, `run_refuse`, `run_cancel` — sessions;
* `Reclock.System.ensures_registers`, `completes_registers` — register sequences.
-/

import Mathlib.Logic.Basic
import Reclock.System
import Reclock.Transition.Switch

set_option relaxedAutoImplicit false
set_option autoImplicit false

namespace Reclock

/-! ### Runs of procedures -/

namespace Procedure

variable {A : Type} {Reply : A → Type} {σ ε δ α β : Type}
variable {world : (a : A) → σ → EStateM.Result Halt σ (Reply a)}

/-- **The end of the run satisfies a condition**, if the run comes to an end. -/
def Ensures (world : (a : A) → σ → EStateM.Result Halt σ (Reply a)) (p : Procedure Reply ε α)
    (s : σ) (Q : Except ε α → σ → Prop) : Prop :=
  ∀ r s', p.run world s = .ok r s' → Q r s'

/-- **The run ends with a result** that satisfies a condition. -/
def Completes (world : (a : A) → σ → EStateM.Result Halt σ (Reply a)) (p : Procedure Reply ε α)
    (s : σ) (Q : α → σ → Prop) : Prop :=
  ∃ a s', p.run world s = .ok (.ok a) s' ∧ Q a s'

variable {p : Procedure Reply ε α} {f : α → Procedure Reply ε β} {s s' : σ}

/-- A run of a sequence is a run of its first part and then, after a result, one of the next. -/
theorem run_bind (p : Procedure Reply ε α) (f : α → Procedure Reply ε β) (s : σ) :
    (p >>= f).run world s =
      match p.run world s with
      | .ok (.ok a) s' => (f a).run world s'
      | .ok (.error e) s' => .ok (.error e) s'
      | .error h s' => .error h s' := by
  induction p generalizing s with
  | done a => rfl
  | fail e => rfl
  | act a next ih =>
      simp only [act_bind, run]
      cases world a s with
      | ok r s' => exact ih r s'
      | error h s' => rfl

theorem run_attempt (p : Procedure Reply ε α) (s : σ) :
    (p.attempt : Procedure Reply δ (Except ε α)).run world s =
      match p.run world s with
      | .ok r s' => .ok (.ok r) s'
      | .error h s' => .error h s' := by
  induction p generalizing s with
  | done a => rfl
  | fail e => rfl
  | act a next ih =>
      simp only [attempt, run]
      cases world a s with
      | ok r s' => exact ih r s'
      | error h s' => rfl

/-- A known run of the first part. -/
theorem run_bind_of_ok {a : α} (h : p.run world s = .ok (.ok a) s') :
    (p >>= f).run world s = (f a).run world s' := by
  rw [run_bind, h]

theorem run_bind_of_error {e : ε} (h : p.run world s = .ok (.error e) s') :
    (p >>= f).run world s = .ok (.error e) s' := by
  rw [run_bind, h]

/-! ### Conditions on the end -/

theorem ensures_of_run {Q : Except ε α → σ → Prop} {r : Except ε α}
    (h : p.run world s = .ok r s') (hQ : Q r s') : p.Ensures world s Q := by
  intro r' s'' h'
  rw [h] at h'
  cases h'
  exact hQ

/-- What follows a known run. -/
theorem ensures_bind_of_run {Q : Except ε β → σ → Prop} {a : α}
    (h : p.run world s = .ok (.ok a) s') (hf : (f a).Ensures world s' Q) :
    (p >>= f).Ensures world s Q := by
  intro r s'' hrun
  rw [run_bind_of_ok h] at hrun
  exact hf r s'' hrun

theorem Ensures.mono {P Q : Except ε α → σ → Prop} (h : p.Ensures world s P)
    (hQ : ∀ r s', P r s' → Q r s') : p.Ensures world s Q :=
  fun r s' hrun => hQ r s' (h r s' hrun)

theorem Ensures.andThen {P : Except ε α → σ → Prop} {Q : Except ε β → σ → Prop}
    (hp : p.Ensures world s P) (ok : ∀ a s', P (.ok a) s' → (f a).Ensures world s' Q)
    (error : ∀ e s', P (.error e) s' → Q (.error e) s') : (p >>= f).Ensures world s Q := by
  intro r s' hrun
  rw [run_bind] at hrun
  split at hrun
  case h_1 a s₁ hfirst => exact ok a s₁ (hp _ _ hfirst) r s' hrun
  case h_2 e s₁ hfirst =>
    cases hrun
    exact error e _ (hp _ _ hfirst)
  case h_3 => cases hrun

/-- Of a sequence that ends with a result, what its last part ensures of the result holds. -/
theorem ensures_last {Q : β → σ → Prop}
    (hf : ∀ a s₁, (f a).Ensures world s₁ fun r s' => ∀ b, r = .ok b → Q b s') :
    (p >>= f).Ensures world s fun r s' => ∀ b, r = .ok b → Q b s' := by
  refine Ensures.andThen (P := fun _ _ => True) (fun _ _ _ => trivial) (fun a s₁ _ => hf a s₁) ?_
  exact fun _ _ _ => nofun

/-- What the first part ensures, if it ends with a result, holds if all of the sequence does. -/
theorem ensures_first {P : Prop} (hp : p.Ensures world s fun r _ => ∀ a, r = .ok a → P) :
    (p >>= f).Ensures world s fun r _ => ∀ b, r = .ok b → P :=
  hp.andThen (fun a _ h _ _ _ _ _ => h a rfl) fun _ _ _ => nofun

theorem Ensures.attempt {Q : Except δ (Except ε α) → σ → Prop}
    (h : p.Ensures world s fun r s' => Q (.ok r) s') :
    (p.attempt : Procedure Reply δ (Except ε α)).Ensures world s Q := by
  intro r s' hrun
  rw [run_attempt] at hrun
  split at hrun
  case h_1 hfirst =>
    cases hrun
    exact h _ _ hfirst
  case h_2 => cases hrun

/-- There are as many results as there are members of the list. -/
theorem ensures_collect_length (bs : List β) (f : β → Procedure Reply ε α) (s : σ) :
    (collect bs f).Ensures world s fun r _ => ∀ as, r = .ok as → as.length = bs.length := by
  induction bs generalizing s with
  | nil =>
      refine ensures_of_run rfl fun as has => ?_
      cases has
      rfl
  | cons b bs ih =>
      refine Ensures.andThen (P := fun _ _ => True) (fun _ _ _ => trivial) (fun a s₁ _ => ?_)
        fun _ _ _ => nofun
      refine (ih s₁).andThen (fun as s₂ hlength => ?_) fun _ _ _ => nofun
      refine ensures_of_run rfl fun all hall => ?_
      cases hall
      exact congrArg (· + 1) (hlength as rfl)

/-! ### Runs that end with a result -/

theorem completes_of_run {Q : α → σ → Prop} {a : α} (h : p.run world s = .ok (.ok a) s')
    (hQ : Q a s') : p.Completes world s Q :=
  ⟨a, s', h, hQ⟩

theorem completes_bind_of_run {Q : β → σ → Prop} {a : α} (h : p.run world s = .ok (.ok a) s')
    (hf : (f a).Completes world s' Q) : (p >>= f).Completes world s Q := by
  obtain ⟨b, s'', hrun, hb⟩ := hf
  exact ⟨b, s'', (run_bind_of_ok h).trans hrun, hb⟩

theorem Completes.mono {P Q : α → σ → Prop} (h : p.Completes world s P)
    (hQ : ∀ a s', P a s' → Q a s') : p.Completes world s Q :=
  let ⟨a, s', hrun, ha⟩ := h
  ⟨a, s', hrun, hQ a s' ha⟩

theorem Completes.andThen {P : α → σ → Prop} {Q : β → σ → Prop} (hp : p.Completes world s P)
    (hf : ∀ a s', P a s' → (f a).Completes world s' Q) : (p >>= f).Completes world s Q := by
  obtain ⟨a, s₁, hrun, ha⟩ := hp
  obtain ⟨b, s', hrun', hb⟩ := hf a s₁ ha
  exact ⟨b, s', (run_bind_of_ok hrun).trans hrun', hb⟩

theorem Completes.attempt {Q : Except ε α → σ → Prop}
    (h : p.Completes world s fun a s' => Q (.ok a) s') :
    (p.attempt : Procedure Reply δ (Except ε α)).Completes world s Q := by
  obtain ⟨a, s', hrun, ha⟩ := h
  exact ⟨.ok a, s', by rw [run_attempt, hrun], ha⟩

/-- A loop completes if every turn does, and adds to what holds. -/
theorem completes_forEach {bs : List β} {g : β → Procedure Reply ε Unit} {J : List β → σ → Prop}
    (hg : ∀ before b, b ∈ bs → ∀ s, J before s →
      (g b).Completes world s fun _ s' => J (before ++ [b]) s')
    (before : List β) (hJ : J before s) :
    (forEach bs g).Completes world s fun _ s' => J (before ++ bs) s' := by
  induction bs generalizing s before with
  | nil => exact completes_of_run rfl (by simpa using hJ)
  | cons b bs ih =>
      refine (hg before b (List.mem_cons_self ..) s hJ).andThen fun _ s₁ hJ₁ => ?_
      have hrest := ih (fun before b hb => hg before b (List.mem_cons_of_mem _ hb))
        (before ++ [b]) hJ₁
      simpa using hrest

/-- What completes ensures its condition, since a run has only one end. -/
theorem Completes.ensures {Q : α → σ → Prop} (h : p.Completes world s Q) :
    p.Ensures world s fun r s' => ∃ a, r = .ok a ∧ Q a s' := by
  obtain ⟨a, s', hrun, ha⟩ := h
  exact ensures_of_run hrun ⟨a, rfl, ha⟩

/-! ### Runs that come to an end -/

/-- **The run comes to an end**, with a result or an error, and the end satisfies a condition. -/
def Returns (world : (a : A) → σ → EStateM.Result Halt σ (Reply a)) (p : Procedure Reply ε α)
    (s : σ) (Q : Except ε α → σ → Prop) : Prop :=
  ∃ r s', p.run world s = .ok r s' ∧ Q r s'

theorem returns_of_run {Q : Except ε α → σ → Prop} {r : Except ε α}
    (h : p.run world s = .ok r s') (hQ : Q r s') : p.Returns world s Q :=
  ⟨r, s', h, hQ⟩

theorem returns_bind_of_run {Q : Except ε β → σ → Prop} {a : α}
    (h : p.run world s = .ok (.ok a) s') (hf : (f a).Returns world s' Q) :
    (p >>= f).Returns world s Q := by
  obtain ⟨r, s'', hrun, hr⟩ := hf
  exact ⟨r, s'', (run_bind_of_ok h).trans hrun, hr⟩

theorem Returns.mono {P Q : Except ε α → σ → Prop} (h : p.Returns world s P)
    (hQ : ∀ r s', P r s' → Q r s') : p.Returns world s Q :=
  let ⟨r, s', hrun, hr⟩ := h
  ⟨r, s', hrun, hQ r s' hr⟩

theorem Returns.andThen {P : Except ε α → σ → Prop} {Q : Except ε β → σ → Prop}
    (hp : p.Returns world s P) (ok : ∀ a s', P (.ok a) s' → (f a).Returns world s' Q)
    (error : ∀ e s', P (.error e) s' → Q (.error e) s') : (p >>= f).Returns world s Q := by
  obtain ⟨r, s₁, hrun, hr⟩ := hp
  cases r with
  | ok a => exact returns_bind_of_run hrun (ok a s₁ hr)
  | error e => exact returns_of_run (run_bind_of_error hrun) (error e s₁ hr)

theorem Returns.attempt {Q : Except δ (Except ε α) → σ → Prop}
    (h : p.Returns world s fun r s' => Q (.ok r) s') :
    (p.attempt : Procedure Reply δ (Except ε α)).Returns world s Q := by
  obtain ⟨r, s', hrun, hr⟩ := h
  exact ⟨.ok r, s', by rw [run_attempt, hrun], hr⟩

/-- A run that comes to an end has only one. -/
theorem Returns.ensures {Q : Except ε α → σ → Prop} (h : p.Returns world s Q) :
    p.Ensures world s Q :=
  let ⟨_, _, hrun, hr⟩ := h
  ensures_of_run hrun hr

theorem Completes.returns {Q : α → σ → Prop} (h : p.Completes world s Q) :
    p.Returns world s fun r s' => ∃ a, r = .ok a ∧ Q a s' :=
  let ⟨a, s', hrun, ha⟩ := h
  ⟨.ok a, s', hrun, a, rfl, ha⟩

/-- After a first part that cannot fail. -/
theorem Completes.andReturns {P : α → σ → Prop} {Q : Except ε β → σ → Prop}
    (hp : p.Completes world s P) (hf : ∀ a s', P a s' → (f a).Returns world s' Q) :
    (p >>= f).Returns world s Q := by
  obtain ⟨a, s₁, hrun, ha⟩ := hp
  exact returns_bind_of_run hrun (hf a s₁ ha)

/-! ### Runs on fixed inputs -/

/-- The state in which a run has ended with a result. -/
def finished? : EStateM.Result Halt σ (Except ε α) → Option σ
  | .ok (.ok _) s => some s
  | _ => none

/-- A run on a fixed input can be looked at. -/
theorem completes_of_finished? {Q : σ → Bool} (h : (finished? (p.run world s)).any Q = true) :
    p.Completes world s fun _ s' => Q s' = true := by
  unfold finished? at h
  split at h
  case h_1 a s' hrun => exact ⟨a, s', hrun, h⟩
  case h_2 => cases h

end Procedure

/-! ### Runs in a system -/

namespace System

open Operation

variable {H : Type} [RegisterFile H] {ε α : Type} {s : System H}

theorem run_barrier {a : BarrierAccess} {r : a.Reply} {b : Barrier}
    (h : a.apply s.barrier = some (r, b)) :
    run (Operation.barrier a : Operation ε a.Reply) s = .ok (.ok r) { s with barrier := b } := by
  simp [run, Procedure.run, Operation.barrier, answer, h]

theorem run_retention (a : RetentionAccess) (s : System H) :
    run (Operation.retention a : Operation ε a.Reply) s =
      .ok (.ok (a.apply s.retention).1) { s with retention := (a.apply s.retention).2 } :=
  rfl

/-- A log record changes nothing but the record. -/
theorem run_log (level : LogLevel) (message : String) (s : System H) :
    ∃ events, run (log level message : Operation ε Unit) s = .ok (.ok ()) { s with events } := by
  cases hpasses : (⟨level, message⟩ : LogRecord).passes with
  | false => exact ⟨s.events, by simp [run, Procedure.run, log, answer, hpasses]⟩
  | true =>
      refine ⟨s.events.push (.log ⟨level, message⟩), ?_⟩
      simp [run, Procedure.run, log, answer, hpasses, record]

theorem ensures_log {level : LogLevel} {message : String} {f : Unit → Operation ε α}
    {Q : Except ε α → System H → Prop} (h : ∀ events, (f ()).Ensures answer { s with events } Q) :
    (log level message >>= f).Ensures answer s Q := by
  obtain ⟨events, hlog⟩ := run_log (ε := ε) level message s
  exact Procedure.ensures_bind_of_run hlog (h events)

theorem completes_log {level : LogLevel} {message : String} {f : Unit → Operation ε α}
    {Q : α → System H → Prop} (h : ∀ events, (f ()).Completes answer { s with events } Q) :
    (log level message >>= f).Completes answer s Q := by
  obtain ⟨events, hlog⟩ := run_log (ε := ε) level message s
  exact Procedure.completes_bind_of_run hlog (h events)

theorem returns_log {level : LogLevel} {message : String} {f : Unit → Operation ε α}
    {Q : Except ε α → System H → Prop} (h : ∀ events, (f ()).Returns answer { s with events } Q) :
    (log level message >>= f).Returns answer s Q := by
  obtain ⟨events, hlog⟩ := run_log (ε := ε) level message s
  exact Procedure.returns_bind_of_run hlog (h events)

/-- A flush changes nothing but the record and the count of flushes. -/
theorem run_flush (s : System H) :
    ∃ events flushes, run (Operation.signal .flush : Operation ε Unit) s =
      .ok (.ok ()) { s with events, flushes } :=
  ⟨_, _, rfl⟩

/-! ### Register sequences -/

/-- A register sequence changes nothing but the hardware and the record. -/
theorem run_registers (p : Sequence ε α) (s : System H) :
    match RegisterFile.run p s.hardware with
    | .ok r hardware => ∃ events, run (registers p) s = .ok r { s with hardware, events }
    | .error halt _ => ∃ s', run (registers p) s = .error halt s' := by
  induction p generalizing s with
  | done a => exact ⟨s.events, rfl⟩
  | fail e => exact ⟨s.events, rfl⟩
  | act a next ih =>
      cases hanswer : RegisterFile.answer a s.hardware with
      | ok reply hardware =>
          have hworld : answer (.access a) s =
              .ok reply ({ s with hardware }.record (.ofAccess a reply)) := by
            simp only [answer, hanswer]
          have hnext := ih reply ({ s with hardware }.record (.ofAccess a reply))
          simpa only [RegisterFile.run, registers, Procedure.embed, run, Procedure.run, hanswer,
            hworld, record] using hnext
      | error halt hardware =>
          have hworld : answer (.access a) s = .error halt { s with hardware } := by
            simp only [answer, hanswer]
          simp only [RegisterFile.run, Procedure.run, hanswer]
          exact ⟨_, by simp only [registers, Procedure.embed, run, Procedure.run, hworld]; rfl⟩

theorem ensures_registers {p : Sequence ε α} {P : Except ε α → H → Prop}
    (h : p.Ensures RegisterFile.answer s.hardware P) :
    (registers p).Ensures answer s fun r s' =>
      ∃ hardware events, s' = { s with hardware, events } ∧ P r hardware := by
  have hrun := run_registers p s
  split at hrun
  case h_1 r hardware hp =>
    obtain ⟨events, hrun⟩ := hrun
    exact Procedure.ensures_of_run hrun ⟨hardware, events, rfl, h _ _ hp⟩
  case h_2 =>
    obtain ⟨s', hrun⟩ := hrun
    intro r s'' hrun'
    rw [run] at hrun
    rw [hrun] at hrun'
    cases hrun'

theorem completes_registers {p : Sequence ε α} {P : α → H → Prop}
    (h : p.Completes RegisterFile.answer s.hardware P) :
    (registers p).Completes answer s fun a s' =>
      ∃ hardware events, s' = { s with hardware, events } ∧ P a hardware := by
  obtain ⟨a, hardware, hp, ha⟩ := h
  have hrun := run_registers p s
  rw [RegisterFile.run, hp] at hrun
  obtain ⟨events, hrun⟩ := hrun
  exact Procedure.completes_of_run hrun ⟨hardware, events, rfl, ha⟩

theorem returns_registers {p : Sequence ε α} {P : Except ε α → H → Prop}
    (h : p.Returns RegisterFile.answer s.hardware P) :
    (registers p).Returns answer s fun r s' =>
      ∃ hardware events, s' = { s with hardware, events } ∧ P r hardware := by
  obtain ⟨r, hardware, hp, hr⟩ := h
  have hrun := run_registers p s
  rw [RegisterFile.run, hp] at hrun
  obtain ⟨events, hrun⟩ := hrun
  exact Procedure.returns_of_run hrun ⟨hardware, events, rfl, hr⟩

/-! ### Sessions -/

/-- The system with a session in flight. -/
def claimed {H : Type} (s : System H) : System H :=
  { s with barrier := { s.barrier with inProgress := true } }

theorem claimed_of_taken {H : Type} {s : System H} (h : s.barrier.inProgress = true) :
    s.claimed = s := by
  obtain ⟨hardware, cores, ⟨arrived, hold, epoch, inProgress, current⟩⟩ := s
  simp only at h
  rw [claimed, h]

/-- A session is granted if none is in flight, and otherwise refused without any effect. -/
theorem run_begin (s : System H) :
    run Session.begin s =
      .ok (if s.barrier.inProgress then .error .busy else .ok ⟨s.barrier.current⟩) s.claimed := by
  have hclaim : run (Operation.barrier .claim : Operation TransitionError Bool) s =
      .ok (.ok !s.barrier.inProgress) s.claimed := rfl
  rw [run] at hclaim
  rw [run, Session.begin, Procedure.run_bind_of_ok hclaim]
  cases s.barrier.inProgress <;> rfl

theorem run_finish (index : FrequencyIndex) (s : System H) :
    run (Session.finish index : Operation ε Unit) s =
      .ok (.ok ()) { s with
        barrier := { s.barrier with current := index, inProgress := false } } :=
  rfl

/-- A session that is given back without having done anything leaves no trace. -/
theorem run_cancel (h : s.barrier.inProgress = false) :
    run ((⟨s.barrier.current⟩ : Session).cancel : Operation ε Unit) s.claimed =
      .ok (.ok ()) s := by
  obtain ⟨hardware, cores, ⟨arrived, hold, epoch, inProgress, current⟩⟩ := s
  simp only at h
  subst h
  rfl

theorem run_refuse (h : s.barrier.inProgress = false) (e : ε) :
    run ((⟨s.barrier.current⟩ : Session).refuse e : Operation ε α) s.claimed = .ok (.error e) s := by
  have hcancel := run_cancel (ε := ε) h
  rw [run] at hcancel
  rw [run, Session.refuse, Procedure.run_bind_of_ok hcancel]
  rfl

/-- A session for a switch is granted if none is in flight and the subsystem is active, and
otherwise refused without any effect. -/
theorem run_beginActive (s : System H) :
    run Controller.beginActive s =
      if s.barrier.inProgress = false ∧ s.retention.state = .active then
        .ok (.ok ⟨s.barrier.current⟩) s.claimed
      else .ok (.error .busy) s := by
  have hbegin := run_begin s
  rw [run] at hbegin
  cases h : s.barrier.inProgress with
  | true =>
      rw [h, claimed_of_taken h] at hbegin
      rw [run, Controller.beginActive, Procedure.run_bind_of_error hbegin]
      simp
  | false =>
      rw [h] at hbegin
      have hstate : run (Operation.retention .readState : Operation TransitionError RetentionState)
          s.claimed = .ok (.ok s.retention.state) s.claimed := rfl
      rw [run] at hstate
      rw [run, Controller.beginActive, Procedure.run_bind_of_ok hbegin,
        Procedure.run_bind_of_ok hstate]
      by_cases hactive : s.retention.state = .active
      · simp only [hactive, and_self, if_true]
        rfl
      · simp only [hactive, if_false, and_false]
        exact run_refuse h _

end System

end Reclock
