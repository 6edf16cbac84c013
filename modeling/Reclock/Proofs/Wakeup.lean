/-
**No wake-up is lost.**

A release is three steps: the epoch advances, the hold is dropped, the event is sent.  A core that
waits looks at the hold, then at the epoch, and then blocks, and the next session may set the hold
again before it has looked.  Still no core blocks for good and no session waits in vain: the epoch
that a waiting core has sampled is behind by the releases that it has outlived, so the core either
belongs to the session that is on, or finds the epoch changed when it looks, or is about to be sent
an event.

The epoch has 32 bits.  All of this holds as long as no single answer outlives all their values.

Main definitions:

* `Reclock.View.Wakeful` — **the invariant**;
* `Reclock.Cluster.OnItsWay` — a core that a session waits for will arrive;
* `Reclock.Cluster.Releasing` — a release is under way that has yet to send its event.

Main results:

* `Reclock.View.Wakeful.turn` — every turn but a disturbance keeps the invariant;
* `Reclock.Cluster.no_lost_wakeup` — **no wake-up is lost, and no system is stuck**.
-/

import Reclock.Proofs.Epoch
import Reclock.Proofs.Progress
import Reclock.Proofs.Quiescence

set_option relaxedAutoImplicit false
set_option autoImplicit false

namespace Reclock

/-! ### The invariant -/

namespace View

/-- **What a core in an answer can rely on.** -/
structure Wakeful (v : View) : Prop where
  /-- The epoch is ahead of the one sampled by the releases outlived. -/
  ahead : v.Ahead
  /-- A core that waits and has outlived no release has arrived in the session that is on. -/
  current : v.core.phase.waitsWith.isSome = true → v.tally.spanned = 0 →
    v.arrived = true ∧ (v.parking = .raised ∨ v.parking = .parked)
  /-- A core that has outlived a release has its event latched, or it is still to be sent. -/
  woken : ∀ e, v.core.phase = .parked e → v.core.event = false →
    v.tally.spanned = 0 ∨ v.parking = .advanced ∨ v.parking = .dropped

variable {v v' : View} {c : Core}

/-- Only the cores that are waited for report their arrival. -/
theorem Calm.raised_of_admitted (h : v.Calm) {e : UInt32} (hphase : v.core.phase = .admitted e) :
    v.parking = .raised := by
  unfold Calm at h
  cases hparking : v.parking <;>
    simp_all [Resting, There, Phase.waitsWith]

theorem Wakeful.answered (h : v.Wakeful) (hcalm : v.Calm) (hfresh : v.Fresh)
    (hanswer : v.core.Answers v.hold v.epoch c) : (v.answered c).Wakeful := by
  refine ⟨h.ahead.answered hanswer, ?_, ?_⟩
  case refine_1 =>
    have current := h.current
    cases hanswer with
    | arrive hphase =>
        have hparking := hcalm.raised_of_admitted hphase
        simp [hphase, hparking, Phase.arrives]
    | _ => simp_all [Phase.waitsWith, Phase.arrives, Tally.afterPhase]
  case refine_2 =>
    have woken := h.woken
    cases hanswer with
    | park hphase hepoch =>
        have hspanned := h.ahead.spanned_eq_zero hfresh (by rw [hphase, hepoch]; rfl)
        simp [hphase, hspanned, Tally.afterPhase]
    | _ => simp_all

/-- **Every turn but a disturbance keeps the invariant.** -/
theorem Wakeful.turn (h : v.Wakeful) (hcalm : v.Calm) (hfresh : v.Fresh) (hturn : v.Turn false v') :
    v'.Wakeful := by
  have hahead := h.ahead.turn hturn
  obtain ⟨-, current, woken⟩ := id h
  cases hturn with
  | still => exact h
  | settle target hparking => exact ⟨hahead, by grind, by grind⟩
  | clear hparking => exact ⟨hahead, by grind, by grind⟩
  | hold hparking => exact ⟨hahead, by grind, by grind⟩
  | interrupt hparking => exact ⟨hahead, by grind, by grind⟩
  | await hparking harrived => exact ⟨hahead, by grind, by grind⟩
  | advance hparking => exact ⟨hahead, by grind, by grind⟩
  | drop hparking => exact ⟨hahead, by grind, by grind⟩
  | event hparking => exact ⟨hahead, by grind, by grind⟩
  | answer hanswer => exact h.answered hcalm hfresh hanswer
  | disturb hdisturbs => cases hdisturbs

end View

/-! ### Runs -/

namespace Cluster

variable {n : Nat} {Call : Type} {w : Workload n Call} {s s' : Cluster n Call}
  {g : Holder n Call}

/-- **A core that a session waits for is on its way.** -/
inductive OnItsWay (s : Cluster n Call) (c : Fin n) : Prop
  /-- Its interrupt is pending. -/
  | called (hpending : (s.cores c).pending = true)
      (hphase : (s.cores c).phase = .idle ∨ (s.cores c).phase = .taken)
  /-- It answers, and will find the hold set. -/
  | coming (hhold : s.barrier.hold = true)
      (hphase : (s.cores c).phase = .ended ∨ (s.cores c).phase = .sampled s.barrier.epoch ∨
        (s.cores c).phase = .admitted s.barrier.epoch)
  /-- Its interrupt is pending, and it is on its way out of an earlier session: it finds the epoch
  changed when it looks, and it will look. -/
  | leaving (e : UInt32) (hpending : (s.cores c).pending = true)
      (hphase : (s.cores c).phase.waitsWith = some e) (hepoch : e ≠ s.barrier.epoch)
      (hevent : (s.cores c).phase = .parked e → (s.cores c).event = true)

/-- A release is under way that has yet to send its event. -/
def Releasing (s : Cluster n Call) : Prop :=
  ∃ i t, s.tasks i = some t ∧ (t.stage.parking = .advanced ∨ t.stage.parking = .dropped)

/-- What holds of every view of a system without disturbances. -/
structure Waking (v : View) : Prop where
  /-- Only sessions have sent the interrupt. -/
  calm : v.Calm
  /-- No answer has outlived the values of the epoch. -/
  fresh : v.Fresh
  /-- What a core in an answer can rely on. -/
  wakeful : v.Wakeful

theorem waking_of_run {ms : List (Move n Call)} (hn : n ≤ 32) (w : Workload n Call)
    (current : FrequencyIndex) (snapshot : Snapshot) (hcalm : ∀ m ∈ ms, m.disturbs = false)
    (hfresh : Along w (fun _ _ s' => s'.Fresh) (start n Call current snapshot) ms)
    (hrun : (start n Call current snapshot).run w ms = some s) :
    ∃ g, Custody w s g ∧ ∀ i, Waking (view w s g i) := by
  refine (custody_start w current snapshot).views_of_run hn (P := fun _ => Waking) ?_ ?_
    ((along_of_forall hcalm).and hfresh) hrun
  · intro s m s' g g' i hC hturn h
    rw [hC.1] at hturn
    exact ⟨h.calm.turn hturn, hC.2 i, h.wakeful.turn h.calm h.fresh hturn⟩
  · intro i
    refine ⟨calm_start w current snapshot i, nofun, ?_⟩
    constructor <;> nofun

/-- A core that waits and has outlived a release finds the epoch changed. -/
theorem Waking.ne_epoch {v : View} (h : Waking v) {e : UInt32}
    (hwaits : v.core.phase.waitsWith = some e) (hspanned : 0 < v.tally.spanned) :
    e ≠ v.epoch := by
  rintro rfl
  have hzero := h.wakeful.ahead.spanned_eq_zero h.fresh (Phase.captured_of_waitsWith hwaits)
  omega

/-- Only the holder waits for others, once it has interrupted them. -/
theorem Custody.awaits {i : Fin n} {others : CoreMask} (h : Custody w s g)
    (hawaits : s.Awaits i others) {k : Nat} (hk : others.contains k = true) :
    ∃ t, g = some (i, t) ∧ s.tasks i = some t ∧ t.stage.parking = .raised ∧
      others = g.targets w := by
  obtain ⟨t, rest, htask, hrest⟩ := hawaits
  obtain ⟨hseated, hothers, hparking⟩ := h.allows htask hrest
  have hg := h.unique i t htask hseated.holds
  subst hg
  rcases hparking with hparking | ⟨-, hempty⟩
  · exact ⟨t, rfl, htask, hparking, hothers⟩
  · rw [(CoreMask.isEmpty_iff _).1 hempty] at hk
    cases hk

/-- The cores that are waited for are other cores of the system. -/
theorem Custody.awaited {i : Fin n} {others : CoreMask} (hn : n ≤ 32) (h : Custody w s g)
    (hawaits : s.Awaits i others) {k : Nat} (hk : others.contains k = true) :
    k < n ∧ k ≠ i := by
  obtain ⟨t, hg, htask, hparking, hothers⟩ := h.awaits hawaits hk
  obtain ⟨-, online, -, htargets⟩ :=
    h.holder_of_parking hn htask (by simp [hparking]) (by simp [hparking])
  constructor
  · subst hg
    rw [hothers] at hk
    exact (h.sound i t rfl).within (by simp [hparking]) (by simp [hparking]) (by simp [hparking]) k hk
  · rintro rfl
    rw [hothers, htargets, CoreMask.contains_erase] at hk
    simp at hk

theorem Waking.onItsWay {i c : Fin n} {others : CoreMask} (h : Custody w s g)
    (hwaking : Waking (view w s g c)) (hawaits : s.Awaits i others)
    (hc : others.contains c = true) (hmissing : s.barrier.arrived.contains c = false) :
    s.OnItsWay c := by
  obtain ⟨t, hg, -, hraised, hothers⟩ := h.awaits hawaits hc
  have hparking : (view w s g c).parking = .raised := by
    rw [hg]
    exact hraised
  have htarget : (view w s g c).target = true := by
    rw [hothers] at hc
    exact hc
  have hcalm := hwaking.calm
  simp only [View.Calm, hparking, htarget, if_true] at hcalm
  obtain ⟨hhold, ⟨hpending, harrived, -, hphase⟩ | ⟨-, -, -, hphase⟩ | ⟨-, harrived, -⟩⟩ := hcalm
  · rcases hphase with hphase | hphase | hphase
    · exact .called hpending (Or.inl hphase)
    · exact .called hpending (Or.inr hphase)
    · obtain ⟨e, he⟩ := Option.isSome_iff_exists.1 hphase
      have hspanned : (view w s g c).tally.spanned ≠ 0 := by
        intro hzero
        rw [(hwaking.wakeful.current hphase hzero).1] at harrived
        cases harrived
      refine .leaving e hpending he (hwaking.ne_epoch he (Nat.pos_of_ne_zero hspanned)) ?_
      intro hparked
      by_contra hevent
      rcases hwaking.wakeful.woken e hparked (Bool.eq_false_of_not_eq_true hevent) with hzero | h | h
      · exact hspanned hzero
      · rw [hparking] at h
        cases h
      · rw [hparking] at h
        cases h
  · exact .coming hhold hphase
  · have harrived : s.barrier.arrived.contains c = true := harrived
    rw [hmissing] at harrived
    cases harrived

/-- In the middle of a release the operation that makes it is under way. -/
theorem Custody.releasing (h : Custody w s g)
    (hparking : g.parking = .advanced ∨ g.parking = .dropped) : s.Releasing := by
  cases g with
  | none => rcases hparking with h | h <;> cases h
  | some holder => exact ⟨holder.1, holder.2, h.task_of_release hparking, hparking⟩

/-- A core that blocks with a clear latch belongs to the session that is on, or is yet to be sent
the event of the release that is under way. -/
theorem Waking.parked {c : Fin n} {e : UInt32} (h : Custody w s g) (hwaking : Waking (view w s g c))
    (hphase : (s.cores c).phase = .parked e) (hevent : (s.cores c).event = false) :
    (s.barrier.hold = true ∧ e = s.barrier.epoch) ∨ s.Releasing := by
  have hcaptured : (view w s g c).core.phase.captured = some e := by
    simp [view, hphase, Phase.captured]
  rcases hwaking.wakeful.woken e hphase hevent with hzero | hparking
  · left
    have hwaits : (view w s g c).core.phase.waitsWith.isSome = true := by
      simp [view, hphase, Phase.waitsWith]
    have hcalm := hwaking.calm
    refine ⟨?_, hwaking.wakeful.ahead.epoch_eq hcaptured hzero⟩
    rcases (hwaking.wakeful.current hwaits hzero).2 with hparking | hparking
    · simp only [View.Calm, hparking] at hcalm
      exact hcalm.1
    · simp only [View.Calm, hparking] at hcalm
      exact hcalm.1
  · exact Or.inr (h.releasing hparking)

/-- A core on its way can make a step. -/
theorem OnItsWay.step_ne_none {c : Fin n} (h : s.OnItsWay c) :
    (s.cores c).step c s.barrier ≠ none := by
  intro hstep
  rcases Core.step_eq_none.1 hstep with ⟨hidle, hpending⟩ | ⟨⟨e, hparked⟩, hevent⟩
  · cases h with
    | called hpending' => simp_all
    | coming hhold hphase => simp_all
    | leaving e hpending' => simp_all
  · cases h with
    | called hpending hphase => simp_all
    | coming hhold hphase => simp_all
    | leaving e' hpending hphase hepoch hlatched =>
        rw [hparked] at hphase
        cases hphase
        rw [hlatched hparked] at hevent
        cases hevent

/-- At rest a core without an operation can make no step. -/
theorem AtRest.step_eq_none {c : Fin n} (h : s.AtRest w) (htask : s.tasks c = none) :
    (s.cores c).step c s.barrier = none := by
  by_contra hstep
  obtain ⟨⟨c', barrier⟩, hstep⟩ := Option.ne_none_iff_exists'.1 hstep
  have hrespond : (s.step w (.respond c)).isSome = true := by
    simp [Cluster.step, respond, htask, hstep]
  obtain ⟨s', hs'⟩ := Option.isSome_iff_exists.1 hrespond
  exact h s' ⟨c, Or.inr hs'⟩

/-- **At rest no operation is under way.** -/
theorem AtRest.tasks_eq_none (hn : n ≤ 32) (h : Custody w s g)
    (hwaking : ∀ c, Waking (view w s g c)) (hrest : s.AtRest w) (i : Fin n) : s.tasks i = none := by
  by_contra htask
  obtain ⟨t, htask⟩ := Option.ne_none_iff_exists'.1 htask
  rcases h.act_or_awaits hn htask 0 with ⟨s', hs'⟩ | ⟨others, hawaits, hmissing⟩
  · exact hrest s' ⟨i, Or.inl ⟨0, hs'⟩⟩
  · -- Some core is missing; it is another one, and it can go on.
    obtain ⟨k, hk, hmissing⟩ := CoreMask.exists_missing hmissing
    obtain ⟨hlt, hne⟩ := h.awaited hn hawaits hk
    have hway := (hwaking ⟨k, hlt⟩).onItsWay h hawaits hk hmissing
    cases htask' : s.tasks ⟨k, hlt⟩ with
    | none => exact hway.step_ne_none (hrest.step_eq_none htask')
    | some u =>
        rcases h.act_or_awaits hn htask' 0 with ⟨s', hs'⟩ | ⟨others', hawaits', hmissing'⟩
        · exact hrest s' ⟨⟨k, hlt⟩, Or.inl ⟨0, hs'⟩⟩
        · obtain ⟨k', hk', -⟩ := CoreMask.exists_missing hmissing'
          obtain ⟨v, hg, -⟩ := h.awaits hawaits hk
          obtain ⟨v', hg', -⟩ := h.awaits hawaits' hk'
          rw [hg] at hg'
          cases hg'
          exact hne rfl

/-- **At rest every core is idle**, or it is parked in a session that was never given back. -/
theorem AtRest.cores (hn : n ≤ 32) (h : Custody w s g) (hwaking : ∀ c, Waking (view w s g c))
    (hrest : s.AtRest w) (c : Fin n) :
    ((s.cores c).phase = .idle ∧ (s.cores c).pending = false) ∨
      ((s.cores c).phase = .parked s.barrier.epoch ∧ s.barrier.hold = true ∧ s.GivenUp) := by
  have htasks := hrest.tasks_eq_none hn h hwaking
  rcases Core.step_eq_none.1 (hrest.step_eq_none (htasks c)) with hidle | ⟨⟨e, hparked⟩, hevent⟩
  · exact Or.inl hidle
  · right
    rcases (hwaking c).parked h hparked hevent with ⟨hhold, rfl⟩ | ⟨i, t, htask, -⟩
    · refine ⟨hparked, hhold, ?_, ?_⟩
      · rw [h.busy]
        cases g with
        | some holder => rfl
        | none =>
            have hcalm := (hwaking c).calm
            have hhold : (view w s none c).hold = true := hhold
            simp [View.Calm, view, Holder.parking] at hcalm hhold
            simp_all
      · intro i t htask
        rw [htasks i] at htask
        cases htask
    · rw [htasks i] at htask
      cases htask

/-! ### Every run without disturbances -/

/-- **No wake-up is lost, and no system is stuck.**  If the interrupt only ever becomes pending
through sessions, and no answer outlives the values of the epoch, then in every system that can be
reached:

* every core that a session waits for is on its way;
* a core that blocks with a clear latch belongs to the session that is on, or is yet to be sent the
  event of the release that is under way;
* a core that has outlived a release finds the epoch changed, whatever the hold is;
* the system cannot go on forever without new operations, and where it cannot go on no operation is
  under way, and every core is idle or parked in a session that was never given back;
* operations that always give the session back never leave such a session behind. -/
theorem no_lost_wakeup (hn : n ≤ 32) (w : Workload n Call) (current : FrequencyIndex)
    (snapshot : Snapshot) (ms : List (Move n Call)) {s : Cluster n Call}
    (hcalm : ∀ m ∈ ms, m.disturbs = false)
    (hfresh : Along w (fun _ _ s' => s'.Fresh) (start n Call current snapshot) ms)
    (hrun : (start n Call current snapshot).run w ms = some s) :
    (∀ i others, s.Awaits i others → ∀ c : Fin n, others.contains c = true →
        s.barrier.arrived.contains c = false → s.OnItsWay c) ∧
      (∀ c e, (s.cores c).phase = .parked e → (s.cores c).event = false →
        (s.barrier.hold = true ∧ e = s.barrier.epoch) ∨ s.Releasing) ∧
      (∀ c e, (s.cores c).phase.waitsWith = some e → 0 < (s.tallies c).spanned →
        e ≠ s.barrier.epoch) ∧
      Acc (fun s' s => s.Goes w s') s ∧
      (s.AtRest w → (∀ i, s.tasks i = none) ∧
        ∀ c, ((s.cores c).phase = .idle ∧ (s.cores c).pending = false) ∨
          ((s.cores c).phase = .parked s.barrier.epoch ∧ s.barrier.hold = true ∧ s.GivenUp)) ∧
      (w.Returns → ¬ s.GivenUp) := by
  obtain ⟨g, hg, hwaking⟩ := waking_of_run hn w current snapshot hcalm hfresh hrun
  refine ⟨?_, ?_, ?_, ?_, ?_, ?_⟩
  · exact fun i others hawaits c hc hmissing => (hwaking c).onItsWay hg hawaits hc hmissing
  · exact fun c e hparked hevent => (hwaking c).parked hg hparked hevent
  · exact fun c e hwaits hspanned => (hwaking c).ne_epoch hwaits hspanned
  · exact (goes_wellFounded w).apply s
  · exact fun hrest => ⟨hrest.tasks_eq_none hn hg hwaking, hrest.cores hn hg hwaking⟩
  · exact fun hw => not_givenUp hw current snapshot hrun

/-- Core 0 of two parks core 1, lets it go, and begins a second session while core 1 is still parked
in the first, with its event latched. -/
def overlappingPair : List (Move 2 (Roster 2)) :=
  [.begin lead .both, .act lead 0, .act lead 0, .act lead 0, .act lead 0, .act lead 0,
    .respond peer, .respond peer, .respond peer, .respond peer, .respond peer, .respond peer,
    .respond peer, .act lead 0, .act lead 0, .act lead 0, .act lead 0, .act lead 0, .act lead 0,
    .begin lead .both, .act lead 0, .act lead 0, .act lead 0, .act lead 0, .act lead 0]

theorem no_lost_wakeup_overlapping :
    ∃ s, (start 2 _ ⟨0⟩ {}).run (.visits 2) overlappingPair = some s ∧
      (s.cores 1).phase = .parked 0 ∧ s.OnItsWay 1 := by
  obtain ⟨s, t, rest, hrun, htask, hrest, hmissing, hphase⟩ : ∃ s t rest,
      (start 2 _ ⟨0⟩ {}).run (.visits 2) overlappingPair = some s ∧
      s.tasks 0 = some t ∧ t.rest = .act (.barrier (.awaitArrival (.single 1))) rest ∧
      s.barrier.arrived.contains 1 = false ∧ (s.cores 1).phase = .parked 0 :=
    ⟨_, _, _, rfl, rfl, rfl, rfl, rfl⟩
  refine ⟨s, hrun, hphase, ?_⟩
  have hfresh : Along (.visits 2) (fun _ _ s' => s'.Fresh) (start 2 _ ⟨0⟩ {}) overlappingPair :=
    along_fresh fun _ => by simp [start, overlappingPair]
  obtain ⟨hway, -⟩ := no_lost_wakeup (by decide) (.visits 2) ⟨0⟩ {} overlappingPair (by decide)
    hfresh hrun
  exact hway 0 (.single 1) ⟨t, rest, htask, hrest⟩ 1 (by decide) hmissing

end Cluster

end Reclock
