/-
**What a release leads to that leaves a core behind.**

Main definitions:

* `Reclock.Stage.Closing` — the stages from dropping the hold on;
* `Reclock.Cluster.Spared` — what closing a session leaves alone;
* `Reclock.Cluster.CanClose` — a session can be closed.

Main results:

* `Reclock.Cluster.Custody.closes` — **a session that is being closed can be closed** by its
  own core alone;
* `Reclock.Cluster.intact_exactly_if_clean` — the sessions of a system are intact exactly as long as
  the hold is dropped where this leaves nobody behind.
-/

import Reclock.Proofs.Interference

set_option relaxedAutoImplicit false
set_option autoImplicit false

namespace Reclock

/-! ### Closing a session -/

/-- The stages of an operation from dropping the hold on. -/
def Stage.Closing (s : Stage) : Prop := s.parking = .dropped ∨ s.parking = .released

section Closing

variable {b : Brief} {s : Stage}

/-- An operation that closes its session has done nothing about retention but look. -/
theorem Stage.Sound.power_of_closing (hsound : s.Sound b) (hclosing : s.Closing) :
    s.power = .unseen ∨ s.power = .active :=
  (hsound.asked (by rcases hclosing with h | h <;> simp [h])).2

/-- It knows the current point. -/
theorem Stage.Sound.known_of_closing (hsound : s.Sound b) (hclosing : s.Closing) :
    s.tenure ≠ .outside ∧ s.tenure ≠ .granted := by
  have hasked : s.parking ≠ .unasked := by rcases hclosing with h | h <;> simp [h]
  exact ⟨fun h => hasked (hsound.fresh (Or.inl h)).1, fun h => hasked (hsound.fresh (Or.inr h)).1⟩

/-- It drives the hardware no longer. -/
theorem Stage.Sound.not_drives_of_closing (hsound : s.Sound b) (hclosing : s.Closing) :
    ¬ s.Drives := by
  have hpower := hsound.power_of_closing hclosing
  rintro (⟨h, -⟩ | h | h | ⟨index, h⟩)
  · rcases hclosing with h' | h' <;> simp [h] at h'
  · simp [h] at hpower
  · simp [h] at hpower
  · simp [h] at hpower

/-- It does not end before it has given the session back. -/
theorem Stage.Sound.over_of_ends {ε α : Type} {result : Except ε α} (hsound : s.Sound b)
    (hclosing : s.Closing) (hends : s.Ends b result) : s.tenure = .over := by
  cases result with
  | ok a => exact hends.1
  | error e =>
      rcases hends with h | ⟨h, -⟩ | ⟨-, hdrives⟩
      · exact absurd h (hsound.known_of_closing hclosing).1
      · exact h
      · exact absurd hdrives (hsound.not_drives_of_closing hclosing)

/-- It may still send the event, flush its caches, emit log records, look at the state, record the
current point and give the session back. -/
theorem Stage.Sound.allows_closing {a : Action} (hsound : s.Sound b) (hclosing : s.Closing)
    (hcore : b.core < 32) (hallows : s.Allows b a) :
    a = .signal .event ∨ a = .signal .flush ∨ (∃ record, a = .log record) ∨
      a = .barrier .unclaim ∨ (∃ index, a = .barrier (.writeCurrent index)) ∨
      a = .retention .readState := by
  have hpower := hsound.power_of_closing hclosing
  have hknown := hsound.known_of_closing hclosing
  cases a with
  | access a => exact absurd hallows.2 (hsound.not_drives_of_closing hclosing)
  | signal a =>
      cases a with
      | interrupt targets => rcases hclosing with h | h <;> simp [h, Stage.Allows] at hallows
      | event => simp
      | flush => simp
  | log record => simp
  | barrier a =>
      cases a with
      | claim => exact absurd hallows hknown.1
      | readCurrent =>
          rcases hallows with h | h
          · exact absurd h hknown.1
          · exact absurd h hknown.2
      | unclaim => simp
      | writeCurrent index => simp
      | _ => rcases hclosing with h | h <;> simp [h, Stage.Allows] at hallows
  | retention a =>
      cases a with
      | readState => simp
      | writeState state =>
          cases state <;> rcases hpower with h | h <;> simp [h, Stage.Allows] at hallows
      | beginEntry => rcases hclosing with h | h <;> simp [h, Stage.Allows] at hallows
      | beginExit => rcases hclosing with h | h <;> simp [h, Stage.Allows] at hallows
      | readSnapshot => rcases hpower with h | h <;> simp [h, Stage.Allows] at hallows
      | writeSnapshot snapshot => rcases hpower with h | h <;> simp [h, Stage.Allows] at hallows
  | abort a => exact absurd hcore (Nat.not_lt.2 hallows.2)

end Closing

namespace Cluster

variable {n : Nat} {Call : Type} {w : Workload n Call} {s s' u : Cluster n Call}
  {g : Holder n Call}

/-- What closing a session leaves alone. -/
structure Spared (s u : Cluster n Call) : Prop where
  /-- The hold. -/
  hold : u.barrier.hold = s.barrier.hold
  /-- The epoch. -/
  epoch : u.barrier.epoch = s.barrier.epoch
  /-- Where the cores are in their answers. -/
  phase : ∀ c, (u.cores c).phase = (s.cores c).phase
  /-- No core forgets a release that it has outlived. -/
  outlasted : ∀ c, (s.tallies c).outlasted ≤ (u.tallies c).outlasted

theorem Spared.refl (s : Cluster n Call) : s.Spared s :=
  ⟨rfl, rfl, fun _ => rfl, fun _ => Nat.le_refl _⟩

theorem Spared.trans (h : s.Spared s') (h' : s'.Spared u) : s.Spared u where
  hold := h'.hold.trans h.hold
  epoch := h'.epoch.trans h.epoch
  phase c := (h'.phase c).trans (h.phase c)
  outlasted c := Nat.le_trans (h.outlasted c) (h'.outlasted c)

theorem Spared.resume {i : Fin n} {t t' : Task Call} {a : Action} (h : s.Spared s') :
    s.Spared ((s'.record t a).resume i t') where
  hold := by simpa [record] using h.hold
  epoch := by simpa [record] using h.epoch
  phase := by simpa [record] using h.phase
  outlasted := by simpa [record] using h.outlasted

/-- The event of the release is still to be sent, or every core has outlived a release. -/
def Outlived (p : Parking) (s : Cluster n Call) : Prop :=
  p = .dropped ∨ ∀ c, 0 < (s.tallies c).outlasted

/-- **An operation that closes its session is stopped by nothing**, and disturbs nobody. -/
theorem perform_closing {b : Brief} {stage : Stage} {a : Action} (hsound : stage.Sound b)
    (hclosing : stage.Closing) (hcore : b.core < 32) (hallows : stage.Allows b a)
    (houtlived : Outlived stage.parking s) :
    ∃ r s₁, s.perform 0 a = some (r, s₁) ∧ s.Spared s₁ ∧ (stage.after a r).Closing ∧
      Outlived (stage.after a r).parking s₁ := by
  rcases hsound.allows_closing hclosing hcore hallows with
    rfl | rfl | ⟨record, rfl⟩ | rfl | ⟨index, rfl⟩ | rfl
  · exact ⟨(), s.sendEvent, rfl, ⟨rfl, rfl, fun _ => rfl, fun _ => Nat.le_succ _⟩,
      Or.inr rfl, Or.inr fun c => Nat.succ_pos _⟩
  · exact ⟨(), s, rfl, Spared.refl s, hclosing, houtlived⟩
  · exact ⟨(), s, rfl, Spared.refl s, hclosing, houtlived⟩
  · exact ⟨(), _, rfl, ⟨rfl, rfl, fun _ => rfl, fun _ => Nat.le_refl _⟩, hclosing, houtlived⟩
  · exact ⟨(), _, rfl, ⟨rfl, rfl, fun _ => rfl, fun _ => Nat.le_refl _⟩, hclosing, houtlived⟩
  · refine ⟨s.retention.state, s, rfl, Spared.refl s, ?_, ?_⟩
    · rw [Stage.Closing, (Stage.after_retention ..).2]
      exact hclosing
    · rw [(Stage.after_retention ..).2]
      exact houtlived

/-- A run leads to a system in which the session of a core is closed, every core having outlived a
release. -/
def CanClose (w : Workload n Call) (s : Cluster n Call) (i : Fin n) : Prop :=
  ∃ ms u, s.run w ms = some u ∧ Custody w u none ∧ u.tasks i = none ∧ s.Spared u ∧
    ∀ c, 0 < (u.tallies c).outlasted

/-- A move that spares the answers does not keep a session from being closed. -/
theorem CanClose.of_step {m : Move n Call} {i : Fin n} (hstep : s.step w m = some s')
    (hspared : s.Spared s') (h : CanClose w s' i) : CanClose w s i := by
  obtain ⟨ms, u, hrun, hcustody, htask, hspared', houtlasted⟩ := h
  exact ⟨m :: ms, u, run_cons_eq_some.2 ⟨s', hstep, hrun⟩, hcustody, htask,
    hspared.trans hspared', houtlasted⟩

section Act

variable {i : Fin n} {t : Task Call} {a : Action}
  {rest : a.Reply → Operation TransitionError Unit} {r : a.Reply} {s₁ : Cluster n Call}

/-- An operation without the session is not the next holder. -/
theorem after_eq_none (hg : t.stage.holds = true ∨ g = none) {t' : Task Call}
    (hafter : t'.stage.holds = false) : g.after i t t' = none := by
  rcases hg with hholds | rfl
  · simp [Holder.after, hafter, hholds]
  · simp [Holder.after, hafter]

/-- Where an operation ends that closes its session, the session is closed. -/
theorem Custody.canClose_of_end (h : Custody w s g) (htask : s.tasks i = some t)
    (hrest : t.rest = .act a rest) (hperform : s.perform 0 a = some (r, s₁))
    (hg : t.stage.holds = true ∨ g = none) (houtlived : Outlived (t.stage.after a r).parking s₁)
    (hleaf : ∀ a' rest', rest r ≠ .act a' rest') (hover : (t.stage.after a r).tenure = .over) :
    CanClose w ((s₁.record t a).resume i (next t a r (rest r))) i := by
  have hcustody := h.act htask hrest hperform
  have hholds : (next t a r (rest r)).stage.holds = false := by simp [next, Stage.holds, hover]
  rw [after_eq_none hg hholds] at hcustody
  refine ⟨[], _, rfl, hcustody, ?_, Spared.refl _, ?_⟩
  · by_contra hgoing
    obtain ⟨v, hgoing⟩ := Option.ne_none_iff_exists'.1 hgoing
    obtain ⟨rfl, a', rest', hact⟩ := resume_tasks_self.1 hgoing
    exact hleaf a' rest' hact
  · rcases houtlived with hdropped | houtlasted
    · rcases (h.sound_after htask hrest r).closed (Or.inr hover) with h' | h' <;>
        simp [h'] at hdropped
    · simpa [record] using houtlasted

end Act

/-- **A session that is being closed can be closed by its own core alone.** -/
theorem Custody.closes {i : Fin n} (hn : n ≤ 32) (p : Operation TransitionError Unit) :
    ∀ {s : Cluster n Call} {g : Holder n Call} {t : Task Call}, Custody w s g →
      s.tasks i = some t → t.rest = p → t.stage.Closing →
      (t.stage.holds = true ∨ g = none) → Outlived t.stage.parking s → CanClose w s i := by
  -- Every operation under way makes another action, after which less is left of it.
  induction p with
  | done result =>
      intro s g t h htask hrest
      obtain ⟨a, rest, hact⟩ := (h.fits i t htask).going
      cases hrest.symm.trans hact
  | fail e =>
      intro s g t h htask hrest
      obtain ⟨a, rest, hact⟩ := (h.fits i t htask).going
      cases hrest.symm.trans hact
  | act a rest ih =>
      intro s g t h htask hrest hclosing hg houtlived
      have hcore : (w.brief t.call i).core < 32 := Nat.lt_of_lt_of_le i.isLt hn
      obtain ⟨r, s₁, hperform, hspared, hclosing', houtlived'⟩ :=
        perform_closing (h.fits i t htask).sound hclosing hcore (h.allows htask hrest) houtlived
      have hkeeps := h.keeps_rest htask hrest r
      have hsound := h.sound_after htask hrest r
      refine CanClose.of_step (step_act w htask hrest hperform) hspared.resume ?_
      cases hcase : rest r with
      | done result =>
          rw [hcase] at hkeeps
          exact hcase ▸ h.canClose_of_end htask hrest hperform hg houtlived' (by simp [hcase])
            (hsound.over_of_ends hclosing' hkeeps)
      | fail e =>
          rw [hcase] at hkeeps
          exact hcase ▸ h.canClose_of_end htask hrest hperform hg houtlived' (by simp [hcase])
            (hsound.over_of_ends hclosing' hkeeps)
      | act a' rest' =>
          rw [← hcase]
          have hgoing : ((s₁.record t a).resume i (next t a r (rest r))).tasks i =
              some (next t a r (rest r)) := resume_tasks_self.2 ⟨rfl, a', rest', hcase⟩
          refine ih r (h.act htask hrest hperform) hgoing rfl hclosing' ?_
            (by simpa [Outlived, record, next] using houtlived')
          cases hholds : (t.stage.after a r).holds with
          | true => exact Or.inl hholds
          | false => exact Or.inr (after_eq_none hg hholds)

/-! ### The next session -/

/-- Some run leads from one system to another. -/
def Leads (w : Workload n Call) (s u : Cluster n Call) : Prop := ∃ ms, s.run w ms = some u

theorem Leads.trans (h : Leads w s s') (h' : Leads w s' u) : Leads w s u := by
  obtain ⟨ms, hms⟩ := h
  obtain ⟨ms', hms'⟩ := h'
  exact ⟨ms ++ ms', by rw [run_append, hms]; exact hms'⟩

theorem leads_of_step {m : Move n Call} (h : s.step w m = some s') : Leads w s s' :=
  ⟨[m], run_cons_eq_some.2 ⟨s', h, rfl⟩⟩

/-- A core is in the middle of an operation, and another core runs none. -/
structure Midway (s : Cluster n Call) (i c : Fin n) (call : Call) (p : Parking)
    (rest : Operation TransitionError Unit) : Prop where
  /-- What is left of the operation. -/
  task : ∃ t, s.tasks i = some t ∧ t.call = call ∧ t.stage.parking = p ∧ t.rest = rest
  /-- The other core runs no operation. -/
  other : s.tasks c = none

variable {i c : Fin n} {call : Call} {p : Parking}

theorem leads_begin {a : Action} {rest : a.Reply → Operation TransitionError Unit}
    (htask : s.tasks i = none) (hphase : (s.cores i).phase = .idle) (hother : s.tasks c = none)
    (hne : c ≠ i) (hprogram : w.program call i = .act a rest) :
    ∃ u, Leads w s u ∧ u.Midway i c call .unasked (.act a rest) ∧ u.barrier = s.barrier ∧
      u.cores = s.cores ∧ u.tallies = s.tallies := by
  refine ⟨s.launch w i call, leads_of_step (m := .begin i call) ?_, ⟨?_, ?_⟩, ?_, ?_, ?_⟩
  · simp [Cluster.step, free, htask, hphase]
  · exact ⟨_, resume_tasks_self.2 ⟨rfl, a, rest, hprogram⟩, rfl, rfl, hprogram⟩
  · rw [launch, resume_tasks_of_ne hne]
    exact hother
  · simp [launch]
  · simp [launch]
  · simp [launch]

theorem Midway.leads_act {a a' : Action} {rest : a.Reply → Operation TransitionError Unit}
    {rest' : a'.Reply → Operation TransitionError Unit} {r : a.Reply} {s₁ : Cluster n Call}
    (h : s.Midway i c call p (.act a rest)) (w : Workload n Call) (p' : Parking) (hne : c ≠ i)
    (hperform : s.perform 0 a = some (r, s₁)) (hrest : rest r = .act a' rest')
    (hparking : ∀ stage : Stage, stage.parking = p → (stage.after a r).parking = p') :
    ∃ u, Leads w s u ∧ u.Midway i c call p' (.act a' rest') ∧ u.barrier = s₁.barrier ∧
      u.cores = s₁.cores ∧ u.tallies = s₁.tallies := by
  obtain ⟨⟨t, htask, hcall, hp, ht⟩, hother⟩ := h
  refine ⟨(s₁.record t a).resume i (next t a r (rest r)), leads_of_step (m := .act i 0) ?_,
    ⟨?_, ?_⟩, ?_, ?_, ?_⟩
  · exact step_act w htask ht hperform
  · exact ⟨_, resume_tasks_self.2 ⟨rfl, a', rest', hrest⟩, hcall, hparking _ hp, hrest⟩
  · rwa [act_tasks_of_ne hperform hne]
  · simp [record]
  · simp [record]
  · simp [record]

theorem Midway.leads_respond {rest : Operation TransitionError Unit} {core : Core}
    {barrier : Barrier} (h : s.Midway i c call p rest) (w : Workload n Call)
    (hanswer : (s.cores c).step c s.barrier = some (core, barrier)) :
    ∃ u, Leads w s u ∧ u.Midway i c call p rest ∧ u.barrier = barrier ∧ u.cores c = core ∧
      u.tallies c = (s.tallies c).afterPhase (s.cores c).phase := by
  obtain ⟨htask, hother⟩ := h
  refine ⟨{ s with
      barrier
      cores := Function.update s.cores c core
      tallies := Function.update s.tallies c ((s.tallies c).afterPhase (s.cores c).phase) },
    leads_of_step (m := .respond c) ?_, ⟨htask, hother⟩, rfl, ?_, ?_⟩
  · simp [Cluster.step, respond, hother, hanswer]
  · simp
  · simp

/-- The claim on a session that is free. -/
theorem perform_claim {value : UInt32} (hfree : s.barrier.inProgress = false) :
    s.perform value (.barrier .claim) =
      some (true, s.accessed .claim { s.barrier with inProgress := true }) := by
  simp [perform, BarrierAccess.apply, hfree]

/-! ### Bare sessions -/

section Visits

variable {n : Nat} {s s' : Cluster n (Roster n)} {g : Holder n (Roster n)} {i c : Fin n}
  {call : Roster n}

/-- The call that parks one other core. -/
theorem exists_call (hn : n ≤ 32) (hne : c ≠ i) :
    ∃ call : Roster n, call.val.contains c = true ∧
        ∀ k, (call.val.erase (Fin.castLE hn i)).contains k = decide (k = c) := by
  refine ⟨⟨.insert .empty (Fin.castLE hn c), ?_⟩, ?_, ?_⟩
  · rw [CoreMask.containsAll_iff]
    intro k hk
    simp only [CoreMask.contains_insert, CoreMask.contains_empty, Bool.false_or,
      decide_eq_true_eq] at hk
    subst hk
    rw [CoreMask.contains_all]
    have hlt := c.isLt
    simp
    omega
  · simp
  · intro k
    simp only [CoreMask.contains_erase, CoreMask.contains_insert, CoreMask.contains_empty,
      Bool.false_or]
    by_cases hk : k = c
    · subst hk
      simpa [Fin.val_inj] using hne
    · simp [hk]

/-- Nobody holds the session, core `i` is free to begin one, and core `c` is in its answer. -/
structure Vacant (s : Cluster n Call) (i c : Fin n) : Prop where
  /-- Nobody holds the session. -/
  free : s.barrier.inProgress = false
  /-- Core `i` runs no operation. -/
  task : s.tasks i = none
  /-- Core `i` is not in an answer. -/
  phase : (s.cores i).phase = .idle
  /-- Core `c` runs no operation. -/
  other : s.tasks c = none
  /-- It is another core. -/
  ne : c ≠ i

/-- A bare session that parks only core `c`, up to where the hold is set. -/
theorem Vacant.leads_held (hn : n ≤ 32) (h : s.Vacant i c)
    (hothers : ∀ k, (call.val.erase (Fin.castLE hn i)).contains k = decide (k = c)) :
    ∃ u current, Leads (.visits n) s u ∧
      u.Midway i c call .held
        (.act (.signal (.interrupt (call.val.erase (Fin.castLE hn i)))) fun _ =>
          .act (.barrier (.awaitArrival (call.val.erase (Fin.castLE hn i)))) fun _ =>
            Session.leaving current) ∧
      u.barrier.hold = true ∧ u.barrier.epoch = s.barrier.epoch ∧ u.cores = s.cores ∧
      ∀ c, (u.tallies c).outlasted = (s.tallies c).outlasted := by
  obtain ⟨hfree, htask, hphase, hother, hne⟩ := h
  have hempty : (call.val.erase (Fin.castLE hn i)).isEmpty = false := by
    by_contra hempty
    have hnone := (CoreMask.isEmpty_iff _).1 (Bool.eq_true_of_not_eq_false hempty) c
    rw [hothers] at hnone
    simp at hnone
  have hprogram : (Workload.visits n).program call i = _ :=
    Session.visit_eq (CoreId.ofNat_castLE hn i) hempty
  obtain ⟨s₁, hs₁, hmid₁, hbarrier₁, hcores₁, htallies₁⟩ :=
    leads_begin htask hphase hother hne hprogram
  obtain ⟨s₂, hs₂, hmid₂, hbarrier₂, hcores₂, htallies₂⟩ :=
    hmid₁.leads_act (.visits n) .unasked hne (perform_claim (hbarrier₁ ▸ hfree)) rfl
      fun _ hp => hp
  obtain ⟨s₃, hs₃, hmid₃, hbarrier₃, hcores₃, htallies₃⟩ :=
    hmid₂.leads_act (.visits n) .unasked hne rfl rfl fun stage hp => by
      simp only [Stage.after]
      split <;> exact hp
  obtain ⟨s₄, hs₄, hmid₄, hbarrier₄, hcores₄, htallies₄⟩ :=
    hmid₃.leads_act (.visits n) .cleared hne rfl rfl fun _ _ => rfl
  obtain ⟨s₅, hs₅, hmid₅, hbarrier₅, hcores₅, htallies₅⟩ :=
    hmid₄.leads_act (.visits n) .held hne rfl rfl fun _ _ => rfl
  refine ⟨s₅, _, (((hs₁.trans hs₂).trans hs₃).trans hs₄).trans hs₅, hmid₅, ?_, ?_, ?_, ?_⟩
  · rw [hbarrier₅]
    rfl
  · simp [hbarrier₅, hbarrier₄, hbarrier₃, hbarrier₂, hbarrier₁, accessed]
  · simp [hcores₅, hcores₄, hcores₃, hcores₂, hcores₁, accessed]
  · simp [htallies₅, htallies₄, htallies₃, htallies₂, htallies₁, accessed, Tally.afterAccess]

/-- A core that arrives with an old epoch is counted all the same. -/
theorem Midway.not_intact_of_admitted {e : UInt32} {current : FrequencyIndex} (hn : n ≤ 32)
    (h : s.Midway i c call .raised (.act (.barrier (.awaitArrival (call.val.erase (Fin.castLE hn i))))
      fun _ => Session.leaving current)) (hne : c ≠ i) (hcontains : call.val.contains c = true)
    (hothers : ∀ k, (call.val.erase (Fin.castLE hn i)).contains k = decide (k = c))
    (hphase : (s.cores c).phase = .admitted e) (hepoch : e ≠ s.barrier.epoch) :
    ∃ u, Leads (.visits n) s u ∧ ¬ u.Intact (.visits n) := by
  have hanswer : (s.cores c).step c s.barrier =
      some ({ s.cores c with phase := .checkingHold e }, s.barrier.arrive c) := by
    simp [Core.step, hphase]
  obtain ⟨s₁, hs₁, hmid₁, hbarrier₁, hcores₁, -⟩ := h.leads_respond (.visits n) hanswer
  have harrived : s₁.barrier.arrived.containsAll (call.val.erase (Fin.castLE hn i)) = true := by
    rw [CoreMask.containsAll_iff, hbarrier₁]
    intro k hk
    rw [hothers, decide_eq_true_eq] at hk
    rw [Barrier.contains_arrive (by omega)]
    simp [hk]
  have hperform : s₁.perform 0 (.barrier (.awaitArrival (call.val.erase (Fin.castLE hn i)))) =
      some ((), s₁.accessed (.awaitArrival (call.val.erase (Fin.castLE hn i))) s₁.barrier) := by
    simp [perform, BarrierAccess.apply, harrived]
  obtain ⟨s₂, hs₂, ⟨⟨t, htask, hcall, hparked, -⟩, -⟩, hbarrier₂, hcores₂, -⟩ :=
    hmid₁.leads_act (.visits n) .parked hne hperform rfl fun _ _ => rfl
  refine ⟨s₂, hs₁.trans hs₂, fun hintact => ?_⟩
  have hwaits := hintact.counted i t call.val htask hparked (by rw [← hcall]; rfl) c hne hcontains
  simp only [hcores₂, hbarrier₂, accessed, hcores₁, hbarrier₁, Barrier.epoch_arrive,
    Phase.waitsWith, Option.some.injEq] at hwaits
  exact hepoch hwaits

/-- A core that is about to look at the hold or to arrive, with an old epoch, breaks the next
session. -/
theorem Vacant.not_intact_of_old {e : UInt32} (hn : n ≤ 32) (h : s.Vacant i c)
    (hphase : (s.cores c).phase = .sampled e ∨ (s.cores c).phase = .admitted e)
    (hepoch : e ≠ s.barrier.epoch) :
    ∃ u, Leads (.visits n) s u ∧ ¬ u.Intact (.visits n) := by
  obtain ⟨call, hcontains, hothers⟩ := exists_call hn h.ne
  obtain ⟨s₁, current, hs₁, hmid₁, hhold₁, hepoch₁, hcores₁, -⟩ := h.leads_held hn hothers
  obtain ⟨s₂, hs₂, hmid₂, hbarrier₂, hcores₂, -⟩ :=
    hmid₁.leads_act (.visits n) .raised h.ne rfl rfl fun _ _ => rfl
  have hphase₂ : (s₂.cores c).phase = (s.cores c).phase := by
    rw [hcores₂, ← hcores₁]
    simp only [interrupt]
    split <;> rfl
  have hhold₂ : s₂.barrier.hold = true := by
    rw [hbarrier₂]
    exact hhold₁
  have hepoch₂ : s₂.barrier.epoch = s.barrier.epoch := by
    rw [hbarrier₂]
    exact hepoch₁
  rcases hphase with hphase | hphase
  · have hanswer : (s₂.cores c).step c s₂.barrier =
        some ({ s₂.cores c with phase := .admitted e }, s₂.barrier) := by
      simp [Core.step, hphase₂, hphase, hhold₂]
    obtain ⟨s₃, hs₃, hmid₃, hbarrier₃, hcores₃, -⟩ := hmid₂.leads_respond (.visits n) hanswer
    obtain ⟨u, hu, hbroken⟩ := hmid₃.not_intact_of_admitted hn h.ne hcontains hothers
      (e := e) (by rw [hcores₃]) (by rw [hbarrier₃, hepoch₂]; exact hepoch)
    exact ⟨u, ((hs₁.trans hs₂).trans hs₃).trans hu, hbroken⟩
  · obtain ⟨u, hu, hbroken⟩ := hmid₂.not_intact_of_admitted hn h.ne hcontains hothers
      (hphase₂.trans hphase) (by rw [hepoch₂]; exact hepoch)
    exact ⟨u, (hs₁.trans hs₂).trans hu, hbroken⟩

/-- A core that waits with the current epoch and has outlived a release is caught by the next
session. -/
theorem Vacant.not_intact_of_current (hn : n ≤ 32) (h : s.Vacant i c)
    (hwaits : (s.cores c).phase.waitsWith = some s.barrier.epoch)
    (houtlasted : 0 < (s.tallies c).outlasted) :
    ∃ u, Leads (.visits n) s u ∧ ¬ u.Intact (.visits n) := by
  obtain ⟨call, -, hothers⟩ := exists_call hn h.ne
  obtain ⟨s₁, current, hs₁, -, hhold₁, hepoch₁, hcores₁, houtlasted₁⟩ := h.leads_held hn hothers
  refine ⟨s₁, hs₁, fun hintact => hintact.uncaught c s.barrier.epoch ?_ ?_ hhold₁ hepoch₁.symm⟩
  · rw [hcores₁]
    exact hwaits
  · rw [houtlasted₁]
    exact houtlasted

/-- Once a session is closed, a core that was in its answer is still there. -/
theorem Custody.vacant {u : Cluster n (Roster n)} {t : Task (Roster n)} (h : Custody (.visits n) s g)
    (htask : s.tasks i = some t) (hu : Custody (.visits n) u none) (hdone : u.tasks i = none)
    (hspared : s.Spared u) (hphase : (s.cores c).phase ≠ .idle) : u.Vacant i c where
  free := hu.busy
  task := hdone
  phase := (hspared.phase i).trans (h.away i t htask)
  other := by
    by_contra hother
    obtain ⟨v, hother⟩ := Option.ne_none_iff_exists'.1 hother
    exact hphase ((hspared.phase c).symm.trans (hu.away c v hother))
  ne := by
    rintro rfl
    exact hphase (h.away c t htask)

/-- **A core that is left behind breaks a later session**, whatever the order in which the others
move from then on. -/
theorem Custody.exists_not_intact {t : Task (Roster n)} (hn : n ≤ 32) (h : Custody (.visits n) s g)
    (htask : s.tasks i = some t) (hdropped : t.stage.parking = .dropped)
    (hbehind : (∃ e, (s.cores c).phase = .sampled e ∧ e ≠ s.barrier.epoch) ∨
      (∃ e, (s.cores c).phase = .admitted e) ∨
        (s.cores c).phase.waitsWith = some s.barrier.epoch) :
    ∃ u, Leads (.visits n) s u ∧ ¬ u.Intact (.visits n) := by
  have hholds : t.stage.holds = true :=
    ((h.fits i t htask).sound.seated (by simp [hdropped]) (by simp [hdropped])).holds
  have hcurrent : ∀ {s g}, Custody (.visits n) s g → s.tasks i = some t →
      (s.cores c).phase.waitsWith = some s.barrier.epoch →
        ∃ u, Leads (.visits n) s u ∧ ¬ u.Intact (.visits n) := by
    intro s g h htask hwaits
    obtain ⟨ms, u, hrun, hu, hdone, hspared, houtlasted⟩ :=
      h.closes hn t.rest htask rfl (Or.inl hdropped) (Or.inl hholds) (Or.inl hdropped)
    have hvacant := h.vacant htask hu hdone hspared (c := c)
      (by intro hidle; simp [hidle, Phase.waitsWith] at hwaits)
    obtain ⟨v, hv, hbroken⟩ := hvacant.not_intact_of_current hn
      (by rw [hspared.phase, hspared.epoch]; exact hwaits) (houtlasted c)
    exact ⟨v, Leads.trans ⟨ms, hrun⟩ hv, hbroken⟩
  have hold : ∀ e, (s.cores c).phase = .sampled e ∨ (s.cores c).phase = .admitted e →
      e ≠ s.barrier.epoch → ∃ u, Leads (.visits n) s u ∧ ¬ u.Intact (.visits n) := by
    intro e hphase hepoch
    obtain ⟨ms, u, hrun, hu, hdone, hspared, -⟩ :=
      h.closes hn t.rest htask rfl (Or.inl hdropped) (Or.inl hholds) (Or.inl hdropped)
    have hvacant := h.vacant htask hu hdone hspared (c := c)
      (by rcases hphase with hphase | hphase <;> simp [hphase])
    obtain ⟨v, hv, hbroken⟩ := hvacant.not_intact_of_old hn
      (by rw [hspared.phase]; exact hphase) (by rw [hspared.epoch]; exact hepoch)
    exact ⟨v, Leads.trans ⟨ms, hrun⟩ hv, hbroken⟩
  rcases hbehind with ⟨e, hphase, hepoch⟩ | ⟨e, hphase⟩ | hwaits
  · exact hold e (Or.inl hphase) hepoch
  · by_cases hepoch : e = s.barrier.epoch
    · -- It arrives while the release is under way, and then waits with the current epoch.
      have hother : s.tasks c = none := by
        by_contra hother
        obtain ⟨v, hother⟩ := Option.ne_none_iff_exists'.1 hother
        have hidle := h.away c v hother
        rw [hphase] at hidle
        cases hidle
      have hanswer : (s.cores c).step c s.barrier =
          some ({ s.cores c with phase := .checkingHold e }, s.barrier.arrive c) := by
        simp [Core.step, hphase]
      have hcustody := h.respond hother hanswer
      obtain ⟨u, hu, hbroken⟩ := hcurrent hcustody htask (by simp [Phase.waitsWith, hepoch])
      refine ⟨u, Leads.trans (leads_of_step (m := .respond c) ?_) hu, hbroken⟩
      simp [Cluster.step, Cluster.respond, hother, hanswer]
    · exact hold e (Or.inr hphase) hepoch
  · exact hcurrent h htask hwaits

/-- A move that drops the hold with a core left behind is followed by broken sessions. -/
theorem Custody.exists_not_intact_of_unclean {m : Move n (Roster n)} (hn : n ≤ 32)
    (h : Custody (.visits n) s g) (hstep : s.step (.visits n) m = some s')
    (hunclean : ¬ DropsClean s m s') : ∃ u, Leads (.visits n) s' u ∧ ¬ u.Intact (.visits n) := by
  simp only [DropsClean, Classical.not_imp] at hunclean
  obtain ⟨hhold, hdropped, hunclean⟩ := hunclean
  obtain ⟨c, hbehind⟩ := exists_behind hunclean
  obtain ⟨g', hturn, h'⟩ := h.step hstep
  obtain ⟨hparking, hcore, hepoch⟩ := (view_turn hn h hturn c).dropped hhold hdropped
  replace hcore : s'.cores c = s.cores c := hcore
  replace hepoch : s'.barrier.epoch = s.barrier.epoch := hepoch
  cases g' with
  | none => cases hparking
  | some holder =>
      have htask := h'.task_of_release (Or.inr hparking)
      exact h'.exists_not_intact hn htask hparking (c := c) (by rw [hcore, hepoch]; exact hbehind)

end Visits

/-! ### The exact condition -/

/-- **The sessions of a system are intact exactly as long as the hold is dropped where this leaves
nobody behind.**  If every move of a run drops the hold only so, disturbances included, and no
answer outlives the values of the epoch, sessions are intact where the run ends.  Conversely, after
a move that leaves somebody behind, bare sessions alone lead to one that is not. -/
theorem intact_exactly_if_clean (hn : n ≤ 32) (current : FrequencyIndex) (snapshot : Snapshot) :
    (∀ (Call : Type) (w : Workload n Call) (ms : List (Move n Call)) (s : Cluster n Call),
        (start n Call current snapshot).run w ms = some s →
        Along w (fun _ _ s' => s'.Fresh) (start n Call current snapshot) ms →
        Along w DropsClean (start n Call current snapshot) ms → s.Intact w) ∧
      ∀ (ms : List (Move n (Roster n))) (m : Move n (Roster n)) (s s' : Cluster n (Roster n)),
        (start n (Roster n) current snapshot).run (.visits n) ms = some s →
        s.step (.visits n) m = some s' → ¬ DropsClean s m s' →
        ∃ ms' u, s'.run (.visits n) ms' = some u ∧ ¬ u.Intact (.visits n) := by
  constructor
  · intro Call w ms s hrun hfresh hclean
    exact intact_of_run hn w current snapshot hfresh hclean hrun
  · intro ms m s s' hrun hstep hunclean
    obtain ⟨g, hg⟩ := custody_of_run (.visits n) current snapshot hrun
    obtain ⟨u, ⟨ms', hrun'⟩, hbroken⟩ := hg.exists_not_intact_of_unclean hn hstep hunclean
    exact ⟨ms', u, hrun', hbroken⟩

/-- Core 0 begins a session that parks nobody; core 1 is interrupted from nowhere, samples the epoch
and finds the hold set.  Core 0 goes on until it has advanced the epoch. -/
def disturbedVisit : List (Move 2 (Roster 2)) :=
  [.begin lead .alone, .act lead 0, .act lead 0, .act lead 0, .act lead 0, .disturb peer,
    .respond peer, .respond peer, .respond peer, .respond peer, .act lead 0, .act lead 0]

/-- Core 1 is interrupted from nowhere just so, but is quicker: it waits with the epoch of that
session before core 0 releases it, and leaves.  Then core 0 begins another session, which parks core
1, and has waited for its arrival. -/
def outlivedVisit : List (Move 2 (Roster 2)) :=
  [.begin lead .alone, .act lead 0, .act lead 0, .act lead 0, .act lead 0, .disturb peer,
    .respond peer, .respond peer, .respond peer, .respond peer, .respond peer, .respond peer,
    .respond peer, .act lead 0, .act lead 0, .act lead 0, .act lead 0, .act lead 0, .act lead 0,
    .respond peer, .respond peer, .begin lead .both, .act lead 0, .act lead 0, .act lead 0,
    .act lead 0, .act lead 0, .respond peer, .respond peer, .respond peer, .respond peer,
    .respond peer, .act lead 0]

/-- Every drop of the hold in the second run leaves nobody behind, and core 1 waits for the release
of the session that has counted it.  Dropping the hold at the end of the first run leaves core 1
behind, and a later session is broken. -/
theorem intact_exactly_if_clean_disturbed :
    (∃ s, (start 2 _ ⟨0⟩ {}).run (.visits 2) outlivedVisit = some s ∧
      Along (.visits 2) DropsClean (start 2 _ ⟨0⟩ {}) outlivedVisit ∧ s.Intact (.visits 2) ∧
      (s.cores 1).phase.waitsWith = some s.barrier.epoch) ∧
    ∃ s s', (start 2 _ ⟨0⟩ {}).run (.visits 2) disturbedVisit = some s ∧
      s.step (.visits 2) (.act 0 0) = some s' ∧
      ∃ ms' u, s'.run (.visits 2) ms' = some u ∧ ¬ u.Intact (.visits 2) := by
  obtain ⟨hintact, hbroken⟩ := intact_exactly_if_clean (by decide : 2 ≤ 32) ⟨0⟩ {}
  constructor
  · obtain ⟨s, t, hrun, htask, hcall, hparked⟩ : ∃ s t,
        (start 2 _ ⟨0⟩ {}).run (.visits 2) outlivedVisit = some s ∧ s.tasks 0 = some t ∧
        t.call.val = .all 2 ∧ t.stage.parking = .parked :=
      ⟨_, _, rfl, rfl, rfl, rfl⟩
    have hfresh : Along (.visits 2) (fun _ _ s' => s'.Fresh) (start 2 _ ⟨0⟩ {}) outlivedVisit :=
      along_fresh fun _ => by simp [start, outlivedVisit]
    have hclean : Along (.visits 2) DropsClean (start 2 _ ⟨0⟩ {}) outlivedVisit := by
      decide +kernel
    have hs := hintact _ (.visits 2) outlivedVisit s hrun hfresh hclean
    have hcontains : t.call.val.contains 1 = true := by
      rw [hcall]
      rfl
    exact ⟨s, hrun, hclean, hs, hs.counted 0 t t.call.val htask hparked rfl 1 (by decide) hcontains⟩
  · obtain ⟨s, s', hrun, hstep, hhold, hdropped, harrives⟩ : ∃ s s',
        (start 2 _ ⟨0⟩ {}).run (.visits 2) disturbedVisit = some s ∧
        s.step (.visits 2) (.act 0 0) = some s' ∧ s.barrier.hold = true ∧
        s'.barrier.hold = false ∧ (s.cores 1).phase.arrives = true :=
      ⟨_, _, rfl, rfl, rfl, rfl, rfl⟩
    refine ⟨s, s', hrun, hstep, ?_⟩
    refine hbroken disturbedVisit (.act 0 0) s s' hrun hstep fun hclean => ?_
    have hnone := (hclean hhold hdropped).admitted 1
    rw [harrives] at hnone
    cases hnone

/-- Core 0 ends that session and begins another one, which parks core 1: it counts the arrival of
core 1, which then goes on and leaves. -/
def lateArrival : List (Move 2 (Roster 2)) :=
  [.begin lead .alone, .act lead 0, .act lead 0, .act lead 0, .act lead 0, .disturb peer,
    .respond peer, .respond peer, .respond peer, .respond peer, .act lead 0, .act lead 0,
    .act lead 0, .act lead 0, .act lead 0, .act lead 0, .begin lead .both, .act lead 0,
    .act lead 0, .act lead 0, .act lead 0, .act lead 0, .respond peer, .act lead 0, .respond peer,
    .respond peer]

/-- Core 1 is interrupted from nowhere between the two steps of a release and arrives under the new
epoch; the next session of core 0 waits for it, and it waits in that session's hold. -/
def earlyArrival : List (Move 2 (Roster 2)) :=
  [.begin lead .alone, .act lead 0, .act lead 0, .act lead 0, .act lead 0, .act lead 0,
    .act lead 0, .disturb peer, .respond peer, .respond peer, .respond peer, .respond peer,
    .respond peer, .act lead 0, .act lead 0, .act lead 0, .act lead 0, .begin lead .both,
    .act lead 0, .act lead 0, .act lead 0, .act lead 0, .act lead 0, .respond peer, .respond peer,
    .respond peer, .respond peer, .respond peer]

/-- **One disturbance is enough.**  In the first run a session has counted a core that has left
before the release; in the second a session waits for a core that blocks in its hold with a clear
latch, and that will never arrive. -/
theorem not_intact_of_disturbance :
    (∃ s t, (start 2 _ ⟨0⟩ {}).run (.visits 2) lateArrival = some s ∧ s.tasks 0 = some t ∧
      t.call.val = .all 2 ∧ t.stage.parking = .parked ∧ s.barrier.arrived.contains 1 = true ∧
      (s.cores 1).phase = .idle ∧ ¬ s.Intact (.visits 2)) ∧
    ∃ s t rest, (start 2 _ ⟨0⟩ {}).run (.visits 2) earlyArrival = some s ∧ s.tasks 0 = some t ∧
      t.rest = .act (.barrier (.awaitArrival (.single 1))) rest ∧
      s.barrier.arrived.contains 1 = false ∧ (s.cores 1).phase = .parked s.barrier.epoch ∧
      (s.cores 1).event = false ∧ ¬ s.Intact (.visits 2) := by
  constructor
  · obtain ⟨s, t, hrun, htask, hcall, hparked, harrived, hphase⟩ : ∃ s t,
        (start 2 _ ⟨0⟩ {}).run (.visits 2) lateArrival = some s ∧ s.tasks 0 = some t ∧
        t.call.val = .all 2 ∧ t.stage.parking = .parked ∧
        s.barrier.arrived.contains 1 = true ∧ (s.cores 1).phase = .idle :=
      ⟨_, _, rfl, rfl, rfl, rfl, rfl, rfl⟩
    refine ⟨s, t, hrun, htask, hcall, hparked, harrived, hphase, fun hintact => ?_⟩
    have hcontains : t.call.val.contains 1 = true := by
      rw [hcall]
      rfl
    have hwaits := hintact.counted 0 t t.call.val htask hparked rfl 1 (by decide) hcontains
    rw [hphase] at hwaits
    cases hwaits
  · obtain ⟨s, t, rest, hrun, htask, hrest, harrived, hphase, hevent, houtlasted, hhold⟩ :
        ∃ s t rest, (start 2 _ ⟨0⟩ {}).run (.visits 2) earlyArrival = some s ∧
        s.tasks 0 = some t ∧ t.rest = .act (.barrier (.awaitArrival (.single 1))) rest ∧
        s.barrier.arrived.contains 1 = false ∧ (s.cores 1).phase = .parked s.barrier.epoch ∧
        (s.cores 1).event = false ∧ (s.tallies 1).outlasted = 1 ∧ s.barrier.hold = true :=
      ⟨_, _, _, rfl, rfl, rfl, rfl, rfl, rfl, rfl, rfl⟩
    refine ⟨s, t, rest, hrun, htask, hrest, harrived, hphase, hevent, fun hintact => ?_⟩
    refine hintact.uncaught 1 s.barrier.epoch ?_ ?_ hhold rfl
    · rw [hphase]
      rfl
    · rw [houtlasted]
      decide

end Cluster

end Reclock
