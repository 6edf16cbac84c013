/-
**Interrupts that no session has sent.**

The interrupt may also become pending on a core from nowhere, at any moment.  A core that answers
such an interrupt samples the epoch, looks at the hold and reports its arrival in three steps, and
nothing keeps a release, or a release and the next session, from fitting in between.  Whether that
does harm is decided by the one step that drops the hold.  If no core is then in the middle of its
answer with an old epoch or about to arrive, and no core waits with the new epoch already, later
sessions are not disturbed.  If some core is, the sessions that follow may be: they count an arrival
from before, or hold a core that should have left.

Main definitions:

* `Reclock.Cluster.Intact` — a session counts nobody who may leave before its release, and holds
  nobody from an earlier session;
* `Reclock.Cluster.Clean` — dropping the hold leaves nobody behind;
* `Reclock.View.Sturdy` — the invariant of runs that drop the hold only where this is so.

Main results:

* `Reclock.View.Sturdy.turn` — every turn keeps the invariant, disturbances included;
* `Reclock.Cluster.intact_of_run` — **sessions are intact as long as the hold is dropped where it
  leaves nobody behind**.
-/

import Reclock.Proofs.Epoch

set_option relaxedAutoImplicit false
set_option autoImplicit false

namespace Reclock

/-- Whether cores that arrive have to wait, by how far the holder is with parking. -/
def Parking.holding : Parking → Bool
  | held | raised | parked | advanced => true
  | unasked | cleared | dropped | released => false

/-! ### The invariant -/

namespace View

/-- Dropping the hold leaves the core alone: it has not sampled an old epoch, is not about to
arrive, and does not wait with the current epoch. -/
structure Clean (v : View) : Prop where
  /-- It has not sampled an old epoch. -/
  sampled : ∀ e, v.core.phase = .sampled e → e = v.epoch
  /-- It is not about to arrive. -/
  admitted : v.core.phase.arrives = false
  /-- It does not wait with the current epoch. -/
  waits : v.core.phase.waitsWith ≠ some v.epoch

/-- **What holds with disturbances**, if the hold is only ever dropped with the core left alone. -/
structure Sturdy (v : View) : Prop where
  /-- The hold is set while the holder keeps cores waiting. -/
  hold : v.hold = v.parking.holding
  /-- The epoch is ahead of the one sampled by the releases outlived. -/
  ahead : v.Ahead
  /-- A core that looks at the hold or is about to arrive has sampled the current epoch, unless it
  has just advanced. -/
  current : v.core.phase.captured.isSome = true → v.core.phase.waitsWith = none →
    v.parking ≠ .advanced → v.tally.spanned = 0
  /-- A core is about to arrive only under the hold. -/
  admitted : v.core.phase.arrives = true → v.parking.holding = true
  /-- A core that waits with the current epoch has arrived in the session that is on. -/
  waits : v.core.phase.waitsWith.isSome = true → v.tally.spanned = 0 →
    v.tally.outlasted = 0 ∧ v.parking.holding = true
  /-- A core whose arrival counts waits with the current epoch. -/
  counted : v.arrived = true → v.parking ≠ .unasked → v.parking ≠ .advanced →
    v.parking ≠ .dropped → v.parking ≠ .released →
    v.core.phase.waitsWith.isSome = true ∧ v.tally.spanned = 0
  /-- Once the wait for arrivals is over the core has arrived, if it was waited for. -/
  complete : v.parking = .parked → v.target = true → v.arrived = true

variable {v v' : View} {c : Core} {d : Bool}

theorem Sturdy.answered (h : v.Sturdy) (hanswer : v.core.Answers v.hold v.epoch c) :
    (v.answered c).Sturdy := by
  have hahead := h.ahead.answered hanswer
  obtain ⟨hold, -, current, admitted, waits, counted, complete⟩ := id h
  cases hanswer with
  | leave hphase hepoch =>
      -- A core whose arrival counts does not leave: its epoch is the current one.
      have hspanned : v.tally.spanned ≠ 0 := fun hzero =>
        hepoch (h.ahead.epoch_eq (by rw [hphase]; rfl) hzero).symm
      refine ⟨hold, hahead, ?_, ?_, ?_, ?_, ?_⟩ <;>
        simp_all [Phase.captured, Phase.waitsWith, Phase.arrives, Tally.afterPhase]
  | _ =>
      refine ⟨hold, hahead, ?_, ?_, ?_, ?_, ?_⟩ <;>
        simp_all [Phase.captured, Phase.waitsWith, Phase.arrives, Tally.afterPhase]

/-- Dropping the hold keeps the invariant, if it leaves the core alone. -/
theorem Sturdy.dropped (h : v.Sturdy) (hfresh : v.Fresh)
    (hclean : v.Clean) (hahead : ({ v with parking := .dropped, hold := false } : View).Ahead) :
    ({ v with parking := .dropped, hold := false } : View).Sturdy := by
  obtain ⟨hsampled, hadmitted, hwaits⟩ := hclean
  refine ⟨rfl, hahead, ?_, ?_, ?_, by simp, nofun⟩
  case refine_1 =>
    -- Only a core that looks at the hold next is left, and it has sampled the current epoch.
    intro hcaptured hnone _
    cases hphase : v.core.phase with
    | sampled e =>
        rw [hsampled e hphase] at hphase
        exact h.ahead.spanned_eq_zero hfresh (by rw [hphase]; rfl)
    | _ => simp_all [Phase.captured, Phase.waitsWith, Phase.arrives]
  case refine_2 =>
    intro harrives
    exact absurd harrives (by simp [hadmitted])
  case refine_3 =>
    intro hsome hzero
    obtain ⟨e, he⟩ := Option.isSome_iff_exists.1 hsome
    have hepoch := h.ahead.epoch_eq (Phase.captured_of_waitsWith he) hzero
    rw [hepoch] at he
    exact absurd he hwaits

/-- **Every turn keeps the invariant**, if it drops the hold only with the core left alone. -/
theorem Sturdy.turn (h : v.Sturdy) (hfresh : v.Fresh)
    (hclean : v.hold = true → v'.hold = false → v.Clean) (hturn : v.Turn d v') : v'.Sturdy := by
  have hahead := h.ahead.turn hturn
  obtain ⟨hold, -, current, admitted, waits, counted, complete⟩ := id h
  cases hturn with
  | still => exact h
  | drop hparking =>
      rw [hparking] at hold
      exact h.dropped hfresh (hclean hold rfl) hahead
  | answer hanswer => exact h.answered hanswer
  | disturb hdisturbs => exact ⟨hold, hahead, current, admitted, waits, counted, complete⟩
  | _ => refine ⟨?_, hahead, ?_, ?_, ?_, ?_, ?_⟩ <;> grind -ring -linarith [Parking.holding]

end View

/-! ### Runs with disturbances -/

namespace Cluster

variable {n : Nat} {Call : Type} {w : Workload n Call} {s s' : Cluster n Call}
  {g : Holder n Call}

/-- **No session is disturbed.** -/
structure Intact (w : Workload n Call) (s : Cluster n Call) : Prop where
  /-- From the end of the wait for arrivals until the release every core that was waited for waits
  with the current epoch. -/
  counted : ∀ i t online, s.tasks i = some t → t.stage.parking = .parked →
    w.purpose t.call = .parks online → ∀ c : Fin n, c ≠ i → online.contains c = true →
      (s.cores c).phase.waitsWith = some s.barrier.epoch
  /-- A core that has arrived before the end of some release is not kept by the hold of a later
  session. -/
  uncaught : ∀ c e, (s.cores c).phase.waitsWith = some e → 0 < (s.tallies c).outlasted →
    s.barrier.hold = true → e ≠ s.barrier.epoch

/-- **Dropping the hold leaves nobody behind.** -/
structure Clean (s : Cluster n Call) : Prop where
  /-- No core that looks at the hold next has sampled an old epoch. -/
  sampled : ∀ c e, (s.cores c).phase = .sampled e → e = s.barrier.epoch
  /-- No core is about to arrive. -/
  admitted : ∀ c, (s.cores c).phase.arrives = false
  /-- No core waits with the current epoch. -/
  waits : ∀ c, (s.cores c).phase.waitsWith ≠ some s.barrier.epoch

/-- The same without a quantifier over epochs: a core that has sampled one and does not wait yet has
sampled the current one. -/
theorem clean_iff : s.Clean ↔ ∀ c, (s.cores c).phase.arrives = false ∧
    (s.cores c).phase.waitsWith ≠ some s.barrier.epoch ∧ ((s.cores c).phase.waitsWith = none →
      (s.cores c).phase.captured = none ∨
        (s.cores c).phase.captured = some s.barrier.epoch) := by
  constructor
  · rintro ⟨hsampled, hadmitted, hwaits⟩ c
    refine ⟨hadmitted c, hwaits c, fun hnone => ?_⟩
    have hadmitted := hadmitted c
    cases hphase : (s.cores c).phase with
    | sampled e => exact .inr (congrArg some (hsampled c e hphase))
    | admitted e => simp [hphase, Phase.arrives] at hadmitted
    | checkingHold e => simp [hphase, Phase.waitsWith] at hnone
    | checkingEpoch e => simp [hphase, Phase.waitsWith] at hnone
    | parked e => simp [hphase, Phase.waitsWith] at hnone
    | _ => exact .inl rfl
  · intro h
    refine ⟨fun c e hphase => ?_, fun c => (h c).1, fun c => (h c).2.1⟩
    have hcaptured := (h c).2.2
    rw [hphase] at hcaptured
    rcases hcaptured rfl with hnone | hsome
    · cases hnone
    · exact Option.some.inj hsome

instance (s : Cluster n Call) : Decidable s.Clean := decidable_of_iff _ clean_iff.symm

/-- If dropping the hold leaves somebody behind, it is a core of one of three kinds. -/
theorem exists_behind (h : ¬ s.Clean) :
    ∃ c, (∃ e, (s.cores c).phase = .sampled e ∧ e ≠ s.barrier.epoch) ∨
      (∃ e, (s.cores c).phase = .admitted e) ∨
        (s.cores c).phase.waitsWith = some s.barrier.epoch := by
  by_contra hnone
  simp only [not_exists, not_or] at hnone
  refine h ⟨fun c e hphase => ?_, fun c => ?_, fun c => (hnone c).2.2⟩
  · by_contra hepoch
    exact (hnone c).1 e ⟨hphase, hepoch⟩
  · cases hphase : (s.cores c).phase with
    | admitted e => exact absurd hphase ((hnone c).2.1 e)
    | _ => rfl

/-- A move that drops the hold only where this leaves nobody behind. -/
def DropsClean (s : Cluster n Call) (_ : Move n Call) (s' : Cluster n Call) : Prop :=
  s.barrier.hold = true → s'.barrier.hold = false → s.Clean

instance (s : Cluster n Call) (m : Move n Call) (s' : Cluster n Call) :
    Decidable (DropsClean s m s') := inferInstanceAs (Decidable (_ → _ → _))

theorem sturdy_start (w : Workload n Call) (current : FrequencyIndex) (snapshot : Snapshot)
    (i : Fin n) : (view w (start n Call current snapshot) none i).Sturdy where
  hold := rfl
  ahead := nofun
  current := nofun
  admitted := nofun
  waits := nofun
  counted _ h := absurd rfl h
  complete := nofun

/-- **Sessions are intact as long as the hold is dropped where it leaves nobody behind.** -/
theorem intact_of_run {ms : List (Move n Call)} (hn : n ≤ 32) (w : Workload n Call)
    (current : FrequencyIndex) (snapshot : Snapshot)
    (hfresh : Along w (fun _ _ s' => s'.Fresh) (start n Call current snapshot) ms)
    (hclean : Along w DropsClean (start n Call current snapshot) ms)
    (hrun : (start n Call current snapshot).run w ms = some s) : s.Intact w := by
  obtain ⟨g, hg, hsturdy⟩ := (custody_start w current snapshot).views_of_run hn
    (P := fun _ v => v.Sturdy ∧ v.Fresh)
    (fun i hC hturn hP =>
      ⟨hP.1.turn hP.2
        (fun hhold hdropped =>
          have hclean := hC.2 hhold hdropped
          ⟨hclean.sampled i, hclean.admitted i, hclean.waits i⟩) hturn, hC.1 i⟩)
    (fun i => ⟨sturdy_start w current snapshot i, nofun⟩) (hfresh.and hclean) hrun
  constructor
  case counted =>
    intro i t online htask hparked hpurpose c hc hcontains
    obtain ⟨rfl, online', hpurpose', htargets⟩ :=
      hg.holder_of_parking hn htask (by simp [hparked]) (by simp [hparked])
    rw [hpurpose] at hpurpose'
    cases hpurpose'
    obtain ⟨hsturdy, -⟩ := hsturdy c
    have htarget : (view w s (some (i, t)) c).target = true := by
      simp only [view, htargets, CoreMask.contains_erase, hcontains]
      simpa [Fin.val_inj] using hc
    have hparking : (view w s (some (i, t)) c).parking = .parked := hparked
    have harrived := hsturdy.complete hparking htarget
    obtain ⟨hsome, hzero⟩ := hsturdy.counted harrived (by simp [hparking]) (by simp [hparking])
      (by simp [hparking]) (by simp [hparking])
    obtain ⟨e, he⟩ := Option.isSome_iff_exists.1 hsome
    have hepoch := hsturdy.ahead.epoch_eq (Phase.captured_of_waitsWith he) hzero
    rw [hepoch] at he
    exact he
  case uncaught =>
    rintro c e hwaits houtlasted - rfl
    obtain ⟨hsturdy, hfresh⟩ := hsturdy c
    have hzero := hsturdy.ahead.spanned_eq_zero hfresh (Phase.captured_of_waitsWith hwaits)
    have hnone : (s.tallies c).outlasted = 0 :=
      (hsturdy.waits (by simp [view, hwaits]) hzero).1
    omega

end Cluster

end Reclock
