/-
**While the cores are parked.**

If the interrupt only ever becomes pending because a session sends it, the cores of a session are
accounted for: from the moment its wait for arrivals is over until the epoch advances, each of them
has answered exactly one interrupt of the session and is in the wait loop with the current epoch,
and nobody else's arrival is noted.  Cores that are still leaving an earlier session do not disturb
this, since the interrupt of the new session finds them on their way out and stays pending until
they are back.

Main definitions:

* `Reclock.View.Calm` — **the invariant**, by how far the holder is with parking.

Main results:

* `Reclock.View.Calm.turn` — every turn but a disturbance keeps it;
* `Reclock.Cluster.parked_until_release` — **the parked cores are where they should be**.
-/

import Reclock.Proofs.View

set_option relaxedAutoImplicit false
set_option autoImplicit false

namespace Reclock

/-! ### The invariant -/

namespace View

/-- The core is outside an answer or in its wait loop, and no interrupt is pending. -/
def Resting (v : View) : Prop :=
  v.core.pending = false ∧ (v.core.phase = .idle ∨ v.core.phase.waitsWith.isSome = true)

/-- The interrupt is pending, and the core may still be leaving an earlier session. -/
def Called (v : View) : Prop :=
  v.core.pending = true ∧ v.arrived = false ∧ v.tally.ended = 0 ∧
    (v.core.phase = .idle ∨ v.core.phase = .taken ∨ v.core.phase.waitsWith.isSome = true)

/-- The core has ended the interrupt and not yet arrived. -/
def Coming (v : View) : Prop :=
  v.core.pending = false ∧ v.arrived = false ∧ v.tally.ended = 1 ∧
    (v.core.phase = .ended ∨ v.core.phase = .sampled v.epoch ∨ v.core.phase = .admitted v.epoch)

/-- The core has arrived and waits with the current epoch. -/
def There (v : View) : Prop :=
  v.core.pending = false ∧ v.arrived = true ∧ v.tally.ended = 1 ∧
    v.core.phase.waitsWith = some v.epoch

/-- **Nothing but sessions has sent the interrupt.** -/
def Calm (v : View) : Prop :=
  match v.parking with
  | .unasked | .dropped | .released => v.hold = false ∧ v.Resting
  | .cleared => v.hold = false ∧ v.Resting ∧ v.arrived = false ∧ v.tally.ended = 0
  | .held => v.hold = true ∧ v.Resting ∧ v.arrived = false ∧ v.tally.ended = 0
  | .raised =>
      v.hold = true ∧
        if v.target then v.Called ∨ v.Coming ∨ v.There else v.Resting ∧ v.arrived = false
  | .parked => v.hold = true ∧ if v.target then v.There else v.Resting ∧ v.arrived = false
  | .advanced => v.hold = true ∧ v.Resting

variable {v v' : View} {c : Core}

/-! ### What an answer keeps -/

theorem Resting.answered (h : v.Resting) (hanswer : v.core.Answers v.hold v.epoch c) :
    (v.answered c).Resting ∧ (v.answered c).arrived = v.arrived ∧
      (v.answered c).tally.ended = v.tally.ended := by
  obtain ⟨hpending, hphase⟩ := h
  cases hanswer <;>
    simp_all [Resting, Phase.waitsWith, Phase.arrives, Tally.afterPhase]

theorem Resting.apart (h : v.Resting) (harrived : v.arrived = false)
    (hanswer : v.core.Answers v.hold v.epoch c) :
    (v.answered c).Resting ∧ (v.answered c).arrived = false := by
  obtain ⟨hresting', harrived', -⟩ := h.answered hanswer
  exact ⟨hresting', harrived'.trans harrived⟩

theorem Called.answered (h : v.Called) (hanswer : v.core.Answers v.hold v.epoch c) :
    (v.answered c).Called ∨ (v.answered c).Coming := by
  obtain ⟨hpending, harrived, hended, hphase⟩ := h
  cases hanswer <;>
    simp_all [Called, Coming, Phase.waitsWith, Phase.arrives, Tally.afterPhase]

theorem Coming.answered (h : v.Coming) (hhold : v.hold = true)
    (hanswer : v.core.Answers v.hold v.epoch c) :
    (v.answered c).Coming ∨ (v.answered c).There := by
  obtain ⟨hpending, harrived, hended, hphase⟩ := h
  cases hanswer <;>
    simp_all [Coming, There, Phase.waitsWith, Phase.arrives, Tally.afterPhase]

theorem There.answered (h : v.There) (hhold : v.hold = true)
    (hanswer : v.core.Answers v.hold v.epoch c) : (v.answered c).There := by
  obtain ⟨hpending, harrived, hended, hphase⟩ := h
  cases hanswer <;>
    simp_all [There, Phase.waitsWith, Phase.arrives, Tally.afterPhase]

theorem Calm.answered (h : v.Calm) (hanswer : v.core.Answers v.hold v.epoch c) :
    (v.answered c).Calm := by
  have hparking : (v.answered c).parking = v.parking := rfl
  have htarget : (v.answered c).target = v.target := rfl
  have hhold : (v.answered c).hold = v.hold := rfl
  unfold Calm at h ⊢
  rw [hparking, htarget, hhold]
  cases hcase : v.parking with
  | unasked | dropped | released | advanced =>
      simp only [hcase] at h ⊢
      exact ⟨h.1, (h.2.answered hanswer).1⟩
  | cleared | held =>
      simp only [hcase] at h ⊢
      obtain ⟨hhold, hresting, harrived, hended⟩ := h
      obtain ⟨hresting', harrived', hended'⟩ := hresting.answered hanswer
      exact ⟨hhold, hresting', harrived'.trans harrived, hended'.trans hended⟩
  | raised =>
      simp only [hcase] at h ⊢
      obtain ⟨hhold, h⟩ := h
      refine ⟨hhold, ?_⟩
      split at h
      case isTrue htarget =>
        rw [if_pos htarget]
        rcases h with hcalled | hcoming | hthere
        · rcases hcalled.answered hanswer with hcalled | hcoming
          · exact Or.inl hcalled
          · exact Or.inr (Or.inl hcoming)
        · exact Or.inr (hcoming.answered hhold hanswer)
        · exact Or.inr (Or.inr (hthere.answered hhold hanswer))
      case isFalse htarget =>
        rw [if_neg htarget]
        exact h.1.apart h.2 hanswer
  | parked =>
      simp only [hcase] at h ⊢
      obtain ⟨hhold, h⟩ := h
      refine ⟨hhold, ?_⟩
      split at h
      case isTrue htarget =>
        rw [if_pos htarget]
        exact h.answered hhold hanswer
      case isFalse htarget =>
        rw [if_neg htarget]
        exact h.1.apart h.2 hanswer

/-! ### What a turn keeps -/

/-- **Every turn but a disturbance keeps the calm.** -/
theorem Calm.turn (h : v.Calm) (hturn : v.Turn false v') : v'.Calm := by
  cases hturn with
  | still => exact h
  | settle target hparking =>
      rcases hparking with hparking | hparking <;> simp_all [Calm, Resting]
  | clear hparking => simp_all [Calm, Resting]
  | hold hparking => simp_all [Calm, Resting]
  | interrupt hparking =>
      simp only [Calm, hparking] at h ⊢
      obtain ⟨hhold, ⟨hpending, hphase⟩, harrived, hended⟩ := h
      refine ⟨hhold, ?_⟩
      split
      case isTrue htarget =>
        -- The interrupt may find the core still leaving an earlier session.
        refine Or.inl ⟨by simp [htarget], harrived, hended, ?_⟩
        rcases hphase with hphase | hphase
        · exact Or.inl hphase
        · exact Or.inr (Or.inr hphase)
      case isFalse htarget => exact ⟨⟨by simp [hpending, htarget], hphase⟩, harrived⟩
  | await hparking harrived =>
      rcases hparking with hparking | ⟨hparking, htarget⟩
      · cases htarget : v.target with
        | false => simp_all [Calm, Resting]
        | true =>
            have harrived := harrived htarget
            simp only [Calm, hparking, htarget, if_true] at h ⊢
            obtain ⟨hhold, hcalled | hcoming | hthere⟩ := h
            · rw [hcalled.2.1] at harrived
              cases harrived
            · rw [hcoming.2.1] at harrived
              cases harrived
            · exact ⟨hhold, hthere⟩
      · simp_all [Calm, Resting]
  | advance hparking =>
      cases htarget : v.target <;> simp_all [Calm, Resting, There]
  | drop hparking => simp_all [Calm, Resting]
  | event hparking => simp_all [Calm, Resting]
  | answer hanswer => exact h.answered hanswer
  | disturb hdisturbs => cases hdisturbs

/-- While the cores are parked, only the epoch's advance is the end of it. -/
theorem Turn.parked {d : Bool} (h : v.Turn d v') (hparked : v.parking = .parked)
    (hepoch : v'.epoch = v.epoch) : v'.parking = .parked ∧ v'.target = v.target := by
  cases h <;> simp_all

end View

/-! ### Runs -/

namespace Cluster

variable {n : Nat} {Call : Type} {w : Workload n Call}

/-- The views of a system in which nothing has happened are calm. -/
theorem calm_start (w : Workload n Call) (current : FrequencyIndex) (snapshot : Snapshot)
    (i : Fin n) : (view w (start n Call current snapshot) none i).Calm :=
  ⟨rfl, rfl, Or.inl rfl⟩

/-- The cores that have arrived are known once the cores of the system are accounted for. -/
theorem Custody.arrived_eq {s : Cluster n Call} {g : Holder n Call} {cores : CoreMask}
    (h : Custody w s g) (hcores : ∀ c : Fin n, s.barrier.arrived.contains c = cores.contains c)
    (hwithin : ∀ k, cores.contains k = true → k < n) : s.barrier.arrived = cores := by
  refine CoreMask.ext_contains fun k => ?_
  by_cases hk : k < n
  · exact hcores ⟨k, hk⟩
  · have harrived : s.barrier.arrived.contains k = false := by
      by_contra harrived
      exact hk (h.arrived k (by simpa using harrived))
    have hcontains : cores.contains k = false := by
      by_contra hcontains
      exact hk (hwithin k (by simpa using hcontains))
    rw [harrived, hcontains]

/-- **The parked cores are where they should be.**  From the end of the wait for arrivals until the
epoch advances, the cores that have arrived are the online ones but the initiator, and each of them
has ended the interrupt once in this session and is in the wait loop with the current epoch. -/
theorem parked_until_release (hn : n ≤ 32) (w : Workload n Call) (current : FrequencyIndex)
    (snapshot : Snapshot) (ms ms' : List (Move n Call)) {s s' : Cluster n Call} {i : Fin n}
    {t : Task Call} (hcalm : ∀ m ∈ ms ++ ms', m.disturbs = false)
    (hrun : (start n Call current snapshot).run w ms = some s)
    (htask : s.tasks i = some t) (hparked : t.stage.parking = .parked)
    (hrun' : s.run w ms' = some s')
    (hunreleased : Along w (fun s _ s' => s'.barrier.epoch = s.barrier.epoch) s ms') :
    ∃ online, w.purpose t.call = .parks online ∧
      s'.barrier.arrived = online.erase (Fin.castLE hn i) ∧
      ∀ c : Fin n, (online.erase (Fin.castLE hn i)).contains c = true →
        (s'.tallies c).ended = 1 ∧
          (s'.cores c).phase.waitsWith = some s'.barrier.epoch := by
  have hbefore : ∀ m ∈ ms, m.disturbs = false := fun m hm => hcalm m (List.mem_append_left _ hm)
  have hafter : ∀ m ∈ ms', m.disturbs = false := fun m hm => hcalm m (List.mem_append_right _ hm)
  obtain ⟨g, hg, hviews⟩ := (custody_start w current snapshot).views_of_run hn
    (P := fun _ => View.Calm) (fun i hm hturn hP => hP.turn (hm ▸ hturn))
    (calm_start w current snapshot) (along_of_forall hbefore) hrun
  obtain ⟨rfl, online, hpurpose, htargets⟩ :=
    hg.holder_of_parking hn htask (by simp [hparked]) (by simp [hparked])
  refine ⟨online, hpurpose, ?_⟩
  obtain ⟨g', hg', hviews'⟩ := hg.views_of_run hn
    (P := fun c v => v.Calm ∧ v.parking = .parked ∧
      v.target = (online.erase (Fin.castLE hn i)).contains c)
    (fun c hC hturn hP =>
      have hparked := hturn.parked hP.2.1 hC.2
      ⟨hP.1.turn (hC.1 ▸ hturn), hparked.1, hparked.2.trans hP.2.2⟩)
    (fun c => ⟨hviews c, hparked, by rw [← htargets]; rfl⟩)
    ((along_of_forall hafter).and hunreleased) hrun'
  have hthere : ∀ c : Fin n, if (online.erase (Fin.castLE hn i)).contains c then
      (view w s' g' c).There else (view w s' g' c).arrived = false := by
    intro c
    obtain ⟨hcalm, hparking, htarget⟩ := hviews' c
    simp only [View.Calm, hparking] at hcalm
    rw [← htarget]
    split
    case isTrue htarget =>
      rw [if_pos htarget] at hcalm
      exact hcalm.2
    case isFalse htarget =>
      rw [if_neg htarget] at hcalm
      exact hcalm.2.2
  refine ⟨hg'.arrived_eq (fun c => ?_) fun k hk => ?_, fun c hc => ?_⟩
  · have hthere := hthere c
    split at hthere
    case isTrue htarget => exact hthere.2.1.trans htarget.symm
    case isFalse htarget => exact hthere.trans (by simpa using htarget)
  · refine (hg.sound i t rfl).within ?_ ?_ ?_ k (by rw [← htargets] at hk; exact hk)
    · simp [hparked]
    · simp [hparked]
    · simp [hparked]
  · have hthere := hthere c
    rw [if_pos hc] at hthere
    exact ⟨hthere.2.2.1, hthere.2.2.2⟩

/-- Core 0 of two begins a session and parks core 1. -/
def parkedPair : List (Move 2 (Roster 2)) :=
  [.begin lead .both, .act lead 0, .act lead 0, .act lead 0, .act lead 0, .act lead 0,
    .respond peer, .respond peer, .respond peer, .respond peer, .respond peer, .act lead 0]

theorem parked_until_release_pair :
    ∃ s, (start 2 _ ⟨0⟩ {}).run (.visits 2) parkedPair = some s ∧ s.barrier.arrived = .single 1 := by
  obtain ⟨s, t, hrun, htask, hparked, hcall⟩ : ∃ s t,
      (start 2 _ ⟨0⟩ {}).run (.visits 2) parkedPair = some s ∧
      s.tasks 0 = some t ∧ t.stage.parking = .parked ∧ t.call.val = .all 2 :=
    ⟨_, _, rfl, rfl, rfl, rfl⟩
  refine ⟨s, hrun, ?_⟩
  obtain ⟨online, hpurpose, harrived, -⟩ := parked_until_release (by decide) (.visits 2) ⟨0⟩ {}
    parkedPair [] (by decide) hrun htask hparked rfl trivial
  have honline : online = .all 2 := by simpa [Workload.visits, hcall] using hpurpose.symm
  rw [harrived, honline]
  rfl

end Cluster

end Reclock
