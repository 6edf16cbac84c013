/-
**Who holds the session.**

At most one operation holds the session, and the memory of the barrier says whether one does.  An
operation that fails while it drives the hardware ends without giving the session back, and from
then on nobody else is granted it.  The holder is therefore carried along beside the system, also
after its operation has ended.

Main definitions:

* `Reclock.Stage.Sound` — what the protocol makes true of every stage;
* `Reclock.Cluster.Turn` — the ways in which a move can go, said once for all that follows;
* `Reclock.Holder`, `Reclock.Cluster.Custody` — the holder of the session, and **what it means that
  a system has that holder**.

Main results:

* `Reclock.Stage.Sound.after` — every allowed action leads from a sound stage to a sound one;
* `Reclock.Cluster.turn_of_step` — every move goes in one of the ways;
* `Reclock.Cluster.Custody.step` — **after every move there is again at most one holder**, and the
  move says who.
-/

import Reclock.Proofs.Answer
import Reclock.Proofs.Cluster

set_option relaxedAutoImplicit false
set_option autoImplicit false

namespace Reclock

/-! ### Sound stages -/

namespace Stage

/-- **What the protocol makes true of every stage** of an operation. -/
structure Sound (b : Brief) (s : Stage) : Prop where
  /-- Nothing is done before the current point is known. -/
  fresh : s.tenure = .outside ∨ s.tenure = .granted → s.parking = .unasked ∧ s.power = .unseen
  /-- The session is closed only over cores that have been let go. -/
  closed : s.tenure = .recorded ∨ s.tenure = .over → s.parking = .unasked ∨ s.parking = .released
  /-- Only an operation that is there for it parks cores, and it does nothing about retention. -/
  asked : s.parking ≠ .unasked →
    (∃ online, b.purpose = .parks online) ∧ (s.power = .unseen ∨ s.power = .active)
  /-- Only cores of the system are interrupted and waited for. -/
  within : s.parking ≠ .unasked → s.parking ≠ .cleared → s.parking ≠ .held →
    ∀ k, b.others.contains k = true → k < b.cores
  /-- Only an operation that is there for it powers the subsystem down. -/
  down : s.power = .entering ∨ s.power = .saved ∨ s.power = .entered → b.purpose = .powersDown
  /-- Only an operation that is there for it powers the subsystem up. -/
  up : ∀ index, s.power = .exiting index ∨ s.power = .exited index → b.purpose = .powersUp

theorem sound_start (b : Brief) : Sound b {} where
  fresh _ := ⟨rfl, rfl⟩
  closed _ := Or.inl rfl
  asked h := absurd rfl h
  within h := absurd rfl h
  down := by rintro (h | h | h) <;> cases h
  up := by rintro index (h | h) <;> cases h

variable {b : Brief} {s : Stage} {a : Action}

theorem Sound.withTenure {tenure : Tenure} (hs : s.Sound b)
    (hfresh : tenure = .outside ∨ tenure = .granted → s.parking = .unasked ∧ s.power = .unseen)
    (hclosed : tenure = .recorded ∨ tenure = .over →
      s.parking = .unasked ∨ s.parking = .released) : Sound b { s with tenure } :=
  ⟨hfresh, hclosed, hs.asked, hs.within, hs.down, hs.up⟩

theorem Sound.withParking {parking : Parking} (hs : s.Sound b) (hseated : s.Seated)
    (hasked : (∃ online, b.purpose = .parks online) ∧ (s.power = .unseen ∨ s.power = .active))
    (hwithin : parking ≠ .cleared → parking ≠ .held →
      ∀ k, b.others.contains k = true → k < b.cores) : Sound b { s with parking } := by
  obtain ⟨current, htenure⟩ := hseated
  exact {
    fresh := by simp [htenure]
    closed := by simp [htenure]
    asked := fun _ => hasked
    within := fun _ => hwithin
    down := hs.down
    up := hs.up }

theorem Sound.withPower {power : Power} (hs : s.Sound b) (hseated : s.Seated)
    (hasked : s.parking = .unasked ∨ power = .active)
    (hdown : power = .entering ∨ power = .saved ∨ power = .entered → b.purpose = .powersDown)
    (hup : ∀ index, power = .exiting index ∨ power = .exited index → b.purpose = .powersUp) :
    Sound b { s with power } := by
  obtain ⟨current, htenure⟩ := hseated
  exact {
    fresh := by simp [htenure]
    closed := by simp [htenure]
    asked := fun h => ⟨(hs.asked h).1, Or.inr (hasked.resolve_left h)⟩
    within := hs.within
    down := hdown
    up := hup }

/-- An operation that does more about retention than look parks nobody. -/
theorem Sound.unasked (hs : s.Sound b) (hunseen : s.power ≠ .unseen) (hactive : s.power ≠ .active) :
    s.parking = .unasked := by
  by_contra h
  rcases (hs.asked h).2 with hpower | hpower
  · exact hunseen hpower
  · exact hactive hpower

/-- Once the cores are interrupted, parking goes on from step to step. -/
theorem Sound.goesOn {parking : Parking} (hs : s.Sound b) (hseated : s.Seated)
    (hunasked : s.parking ≠ .unasked) (hcleared : s.parking ≠ .cleared)
    (hheld : s.parking ≠ .held) : Sound b { s with parking } :=
  hs.withParking hseated (hs.asked hunasked) fun _ _ => hs.within hunasked hcleared hheld

theorem Sound.after_signal {a : Signal} (hs : s.Sound b) (ha : s.Allows b (.signal a)) (r : Unit) :
    (s.after (.signal a) r).Sound b := by
  cases a with
  | interrupt targets =>
      obtain ⟨hseated, hparking, rfl, htargets⟩ := ha
      refine hs.withParking hseated (hs.asked (by simp [hparking])) fun _ _ k hk => ?_
      rw [CoreMask.containsAll_iff] at htargets
      have hwithin := htargets k hk
      simp only [CoreMask.contains_all, Bool.and_eq_true, decide_eq_true_eq] at hwithin
      exact hwithin.1
  | event =>
      obtain ⟨hseated, hparking⟩ := ha
      exact hs.goesOn hseated (by simp [hparking]) (by simp [hparking]) (by simp [hparking])
  | flush => exact hs

theorem Sound.after_barrier {a : BarrierAccess} (hs : s.Sound b) (ha : s.Allows b (.barrier a))
    (r : a.Reply) : (s.after (.barrier a) r).Sound b := by
  cases a with
  | claim =>
      have htenure : s.tenure = .outside := ha
      cases r with
      | false => exact hs
      | true => exact hs.withTenure (fun _ => hs.fresh (Or.inl htenure)) (by simp)
  | unclaim => exact hs.withTenure (by simp) fun _ => hs.closed (Or.inl ha)
  | readCurrent =>
      simp only [Stage.after]
      split
      · exact hs.withTenure (by simp) (by simp)
      · exact hs
  | writeCurrent index =>
      obtain ⟨current, -, hparking, -⟩ := ha
      exact hs.withTenure (by simp) fun _ => hparking
  | clearArrived =>
      obtain ⟨hseated, -, hpower, honline⟩ := ha
      exact hs.withParking hseated ⟨honline, hpower⟩ fun h => absurd rfl h
  | hold =>
      obtain ⟨hseated, hparking⟩ := ha
      exact hs.withParking hseated (hs.asked (by simp [hparking])) fun _ h => absurd rfl h
  | awaitArrival cores =>
      obtain ⟨hseated, rfl, hparking | ⟨hparking, hempty⟩⟩ := ha
      · exact hs.goesOn hseated (by simp [hparking]) (by simp [hparking]) (by simp [hparking])
      · -- Nobody was interrupted, since there is nobody to wait for.
        refine hs.withParking hseated (hs.asked (by simp [hparking])) fun _ _ k hk => ?_
        rw [CoreMask.isEmpty_iff] at hempty
        simp [hempty k] at hk
  | advanceEpoch =>
      obtain ⟨hseated, hparking⟩ := ha
      exact hs.goesOn hseated (by simp [hparking]) (by simp [hparking]) (by simp [hparking])
  | unhold =>
      obtain ⟨hseated, hparking⟩ := ha
      exact hs.goesOn hseated (by simp [hparking]) (by simp [hparking]) (by simp [hparking])

theorem Sound.after_retention {a : RetentionAccess} (hs : s.Sound b)
    (ha : s.Allows b (.retention a)) (r : a.Reply) : (s.after (.retention a) r).Sound b := by
  cases a with
  | readState =>
      simp only [Stage.after]
      split
      case h_1 current htenure hpower =>
        split
        · exact hs.withPower ⟨current, htenure⟩ (Or.inr rfl) (by simp) (by simp)
        · exact hs
      case h_2 => exact hs
  | writeState state =>
      cases state with
      | active =>
          obtain ⟨hseated, index, hpower⟩ := ha
          have hparking := hs.unasked (by simp [hpower]) (by simp [hpower])
          have hup := hs.up index (Or.inl hpower)
          simp only [Stage.after, hpower]
          exact hs.withPower hseated (Or.inl hparking) (by simp) fun _ _ => hup
      | retained =>
          obtain ⟨hseated, hpower⟩ := ha
          have hparking := hs.unasked (by simp [hpower]) (by simp [hpower])
          have hdown := hs.down (Or.inr (Or.inl hpower))
          exact hs.withPower hseated (Or.inl hparking) (fun _ => hdown) (by simp)
      | entering => cases ha
      | exiting => cases ha
  | beginEntry =>
      obtain ⟨hseated, hparking, -, hpurpose⟩ := ha
      cases r with
      | false => exact hs
      | true => exact hs.withPower hseated (Or.inl hparking) (fun _ => hpurpose) (by simp)
  | beginExit =>
      obtain ⟨hseated, hparking, -, hpurpose⟩ := ha
      cases r with
      | none => exact hs
      | some snapshot => exact hs.withPower hseated (Or.inl hparking) (by simp) fun _ _ => hpurpose
  | readSnapshot => exact hs
  | writeSnapshot snapshot =>
      obtain ⟨htenure, hpower⟩ := ha
      have hparking := hs.unasked (by simp [hpower]) (by simp [hpower])
      have hdown := hs.down (Or.inl hpower)
      exact hs.withPower ⟨_, htenure⟩ (Or.inl hparking) (fun _ => hdown) (by simp)

/-- **An allowed action leads from a sound stage to a sound one.** -/
theorem Sound.after (hs : s.Sound b) (ha : s.Allows b a) (r : a.Reply) :
    (s.after a r).Sound b := by
  cases a with
  | access a => exact hs
  | signal a => exact hs.after_signal ha r
  | log a => exact hs
  | barrier a => exact hs.after_barrier ha r
  | retention a => exact hs.after_retention ha r
  | abort a => cases r

/-- In the middle of parking an operation holds the session and knows the current point. -/
theorem Sound.seated (hs : s.Sound b) (hunasked : s.parking ≠ .unasked)
    (hreleased : s.parking ≠ .released) : s.Seated := by
  cases htenure : s.tenure with
  | outside => exact absurd (hs.fresh (Or.inl htenure)).1 hunasked
  | granted => exact absurd (hs.fresh (Or.inr htenure)).1 hunasked
  | seated current => exact ⟨current, htenure⟩
  | recorded =>
      rcases hs.closed (Or.inl htenure) with h | h
      · exact absurd h hunasked
      · exact absurd h hreleased
  | «over» =>
      rcases hs.closed (Or.inr htenure) with h | h
      · exact absurd h hunasked
      · exact absurd h hreleased

theorem Seated.holds (h : s.Seated) : s.holds = true := by
  obtain ⟨current, htenure⟩ := h
  simp [Stage.holds, htenure]

/-- Only the claim and giving the session back change whether an operation holds it. -/
theorem holds_after (ha : s.Allows b a) (hclaim : a ≠ .barrier .claim)
    (hunclaim : a ≠ .barrier .unclaim) (r : a.Reply) : (s.after a r).holds = s.holds := by
  cases a with
  | access a => rfl
  | signal a => cases a <;> rfl
  | log a => rfl
  | barrier a =>
      cases a with
      | claim => exact absurd rfl hclaim
      | unclaim => exact absurd rfl hunclaim
      | readCurrent =>
          simp only [Stage.after]
          split
          case isTrue htenure => simp [holds, htenure]
          case isFalse => rfl
      | writeCurrent index =>
          obtain ⟨current, htenure, -⟩ := ha
          simp [holds, Stage.after, htenure]
      | clearArrived => rfl
      | hold => rfl
      | awaitArrival cores => rfl
      | advanceEpoch => rfl
      | unhold => rfl
  | retention a =>
      unfold holds
      rw [(after_retention s a r).1]
  | abort a => cases r

/-- An operation that ends with the session in hand was driving the hardware. -/
theorem Ends.driving {ε α : Type} {result : Except ε α} (h : s.Ends b result)
    (hs : s.holds = true) : s.Seated ∧ s.Drives := by
  unfold holds at hs
  cases result with
  | ok a =>
      rw [h.1] at hs
      cases hs
  | error e =>
      rcases h with h | ⟨h, -⟩ | h
      · rw [h] at hs
        cases hs
      · rw [h] at hs
        cases hs
      · exact h

end Stage

/-! ### The holder -/

/-- The operation that holds the session, if one does, and the core that runs it. -/
abbrev Holder (n : Nat) (Call : Type) := Option (Fin n × Task Call)

section Holder

variable {n : Nat} {Call : Type}

/-- The holder after an operation has gone on from one point to the next. -/
def Holder.after (g : Holder n Call) (core : Fin n) (t t' : Task Call) : Holder n Call :=
  if t'.stage.holds then some (core, t') else if t.stage.holds then none else g

/-- What is true of every operation under way. -/
structure Task.Fits (w : Workload n Call) (core : Fin n) (t : Task Call) : Prop where
  /-- It makes another action. -/
  going : ∃ a rest, t.rest = .act a rest
  /-- What is left of it keeps to the protocol from its stage on. -/
  keeps : t.rest.Keeps (protocol (w.brief t.call core)) t.stage (Stage.Ends (w.brief t.call core))
  /-- Its stage is sound. -/
  sound : t.stage.Sound (w.brief t.call core)

end Holder

namespace Cluster

variable {n : Nat} {Call : Type} {w : Workload n Call} {s s' : Cluster n Call} {m : Move n Call}
  {g g' : Holder n Call}

/-- **A system has a holder**, or nobody holds the session. -/
structure Custody (w : Workload n Call) (s : Cluster n Call) (g : Holder n Call) : Prop where
  /-- Every operation keeps to the protocol. -/
  fits : ∀ i t, s.tasks i = some t → t.Fits w i
  /-- A core that runs an operation does not answer the interrupt. -/
  away : ∀ i t, s.tasks i = some t → (s.cores i).phase = .idle
  /-- Nobody else holds the session. -/
  unique : ∀ i t, s.tasks i = some t → t.stage.holds = true → g = some (i, t)
  /-- The holder does. -/
  holds : ∀ i t, g = some (i, t) → t.stage.holds = true
  /-- Its stage is sound. -/
  sound : ∀ i t, g = some (i, t) → t.stage.Sound (w.brief t.call i)
  /-- It is under way, or has failed while it drove the hardware. -/
  present : ∀ i t, g = some (i, t) → s.tasks i = some t ∨ (t.stage.Seated ∧ t.stage.Drives)
  /-- The memory of the barrier says whether there is one. -/
  busy : s.barrier.inProgress = g.isSome
  /-- Only cores of the system have arrived. -/
  arrived : ∀ k, s.barrier.arrived.contains k = true → k < n

theorem custody_start (w : Workload n Call) (current : FrequencyIndex) (snapshot : Snapshot) :
    Custody w (start n Call current snapshot) none where
  fits _ _ ht := nomatch ht
  away _ _ ht := nomatch ht
  unique _ _ ht := nomatch ht
  holds _ _ hg := nomatch hg
  sound _ _ hg := nomatch hg
  present _ _ hg := nomatch hg
  busy := rfl
  arrived k h := by simp [start, Barrier.start] at h

/-! ### The ways in which a move can go -/

/-- **The ways in which a move can go**, and who holds the session afterwards. -/
inductive Turn (w : Workload n Call) (s : Cluster n Call) (g : Holder n Call) :
    Move n Call → Cluster n Call → Holder n Call → Prop
  | begin {core : Fin n} {call : Call} (htask : s.tasks core = none)
      (hphase : (s.cores core).phase = .idle) :
      Turn w s g (.begin core call) (s.launch w core call) g
  | act {core : Fin n} {value : UInt32} {t : Task Call} {a : Action}
      {rest : a.Reply → Operation TransitionError Unit} {r : a.Reply} {s₁ : Cluster n Call}
      (htask : s.tasks core = some t) (hrest : t.rest = .act a rest)
      (hperform : s.perform value a = some (r, s₁)) :
      Turn w s g (.act core value) ((s₁.record t a).resume core (next t a r (rest r)))
        (g.after core t (next t a r (rest r)))
  | respond {core : Fin n} {c : Core} {barrier : Barrier} (htask : s.tasks core = none)
      (hanswer : (s.cores core).step core s.barrier = some (c, barrier)) :
      Turn w s g (.respond core)
        { s with
          barrier
          cores := Function.update s.cores core c
          tallies := Function.update s.tallies core
            ((s.tallies core).afterPhase (s.cores core).phase) }
        g
  | disturb {core : Fin n} : Turn w s g (.disturb core) (s.disturb core) g

/-- **Every move goes in one of the ways.** -/
theorem turn_of_step (g : Holder n Call) (h : s.step w m = some s') :
    ∃ g', Turn w s g m s' g' := by
  cases m with
  | begin core call =>
      obtain ⟨hfree, heq⟩ := Option.ite_none_right_eq_some.1 h
      cases heq
      simp only [free, Bool.and_eq_true, Option.isNone_iff_eq_none, decide_eq_true_eq] at hfree
      exact ⟨_, .begin hfree.1 hfree.2⟩
  | act core value =>
      replace h : s.act core value = some s' := h
      unfold act at h
      split at h
      case h_1 => cases h
      case h_2 t htask =>
        split at h
        case h_1 a rest hrest =>
          obtain ⟨⟨r, s₁⟩, hperform, heq⟩ := Option.map_eq_some_iff.1 h
          cases heq
          exact ⟨_, .act htask hrest hperform⟩
        case h_2 => cases h
  | respond core =>
      replace h : s.respond core = some s' := h
      unfold respond at h
      split at h
      case h_1 => cases h
      case h_2 htask =>
        obtain ⟨⟨c, barrier⟩, hanswer, heq⟩ := Option.map_eq_some_iff.1 h
        cases heq
        exact ⟨_, .respond htask hanswer⟩
  | disturb core =>
      cases h
      exact ⟨_, .disturb⟩

/-! ### Every move keeps custody -/

theorem Custody.begin {core : Fin n} {call : Call} (h : Custody w s g)
    (htask : s.tasks core = none) (hphase : (s.cores core).phase = .idle) :
    Custody w (s.launch w core call) g where
  fits i t ht := by
    rcases of_resume_tasks ht with ⟨rfl, rfl, hgoing⟩ | ⟨-, ht⟩
    · exact ⟨hgoing, w.keeps call i, Stage.sound_start _⟩
    · exact h.fits i t ht
  away i t ht := by
    rw [launch, resume_cores]
    rcases of_resume_tasks ht with ⟨rfl, -, -⟩ | ⟨-, ht⟩
    · exact hphase
    · exact h.away i t ht
  unique i t ht hholds := by
    rcases of_resume_tasks ht with ⟨-, rfl, -⟩ | ⟨-, ht⟩
    · cases hholds
    · exact h.unique i t ht hholds
  holds := h.holds
  sound := h.sound
  present i t hg := by
    rcases h.present i t hg with ht | hgone
    · have hi : i ≠ core := by
        rintro rfl
        rw [htask] at ht
        cases ht
      left
      rw [launch, resume_tasks_of_ne hi]
      exact ht
    · exact Or.inr hgone
  busy := by
    rw [launch, resume_barrier]
    exact h.busy
  arrived := by
    rw [launch, resume_barrier]
    exact h.arrived

section Act

variable {core : Fin n} {value : UInt32} {t : Task Call} {a : Action}
  {rest : a.Reply → Operation TransitionError Unit} {r : a.Reply} {s₁ : Cluster n Call}

theorem Custody.allows (h : Custody w s g) (htask : s.tasks core = some t)
    (hrest : t.rest = .act a rest) : t.stage.Allows (w.brief t.call core) a := by
  have hkeeps := (h.fits core t htask).keeps
  rw [hrest] at hkeeps
  exact hkeeps.1

/-! ### What an action means for the session -/

/-- An operation that does not hold the session changes nothing, apart from claiming it. -/
theorem perform_aside {b : Brief} {stage : Stage} (hallows : stage.Allows b a)
    (hholds : stage.holds = false) (hclaim : a ≠ .barrier .claim)
    (hperform : s.perform value a = some (r, s₁)) : s₁ = s := by
  have hseated : ¬ stage.Seated := by
    intro hseated
    cases hholds.symm.trans hseated.holds
  rcases Stage.allows_aside hallows hseated with ⟨record, rfl⟩ | rfl | rfl | rfl | rfl
  · cases hperform
    rfl
  · exact absurd rfl hclaim
  · have htenure : stage.tenure = .recorded := hallows
    simp [Stage.holds, htenure] at hholds
  · cases hperform
    rfl
  · cases hperform
    rfl

/-- **What an action means for the session**: which system it leads to, and who then holds the
session. -/
inductive Handover (s : Cluster n Call) (g : Holder n Call) (core : Fin n) (t t' : Task Call) :
    Action → Cluster n Call → Holder n Call → Prop
  /-- An operation without the session changes nothing. -/
  | aside {a : Action} (hbefore : t.stage.holds = false) (hafter : t'.stage.holds = false) :
      Handover s g core t t' a s g
  /-- The session is granted, since nobody holds it. -/
  | granted (htenure : t.stage.tenure = .outside) (hg : g = none)
      (hstage : t'.stage = { t.stage with tenure := .granted }) :
      Handover s g core t t' (.barrier .claim)
        { s with barrier := { s.barrier with inProgress := true } } (some (core, t'))
  /-- The holder gives the session back. -/
  | returned (htenure : t.stage.tenure = .recorded) (hg : g = some (core, t)) :
      Handover s g core t t' (.barrier .unclaim)
        { s with barrier := { s.barrier with inProgress := false } } none
  /-- The holder makes an action in its session. -/
  | own {a : Action} {s₁ : Cluster n Call} (hg : g = some (core, t)) (hclaim : a ≠ .barrier .claim)
      (hunclaim : a ≠ .barrier .unclaim) : Handover s g core t t' a s₁ (some (core, t'))

/-- Every action means one of these for the session. -/
theorem Custody.handover (h : Custody w s g) (htask : s.tasks core = some t)
    (hrest : t.rest = .act a rest) (hperform : s.perform value a = some (r, s₁)) :
    Handover s g core t (next t a r (rest r)) a s₁ (g.after core t (next t a r (rest r))) := by
  have hallows := h.allows htask hrest
  have hstays := fun hclaim hunclaim => Stage.holds_after hallows hclaim hunclaim r
  by_cases hclaim : a = .barrier .claim
  · subst hclaim
    have htenure : t.stage.tenure = .outside := hallows
    have houtside : t.stage.holds = false := by simp [Stage.holds, htenure]
    have hbusy := h.busy
    cases hperform
    cases hfree : s.barrier.inProgress with
    | true =>
        have hsame : s.accessed .claim { s.barrier with inProgress := true } = s := by
          rw [← hfree]
          rfl
        have hafter : (next t (.barrier .claim) false (rest false)).stage.holds = false := houtside
        have hg : g.after core t (next t (.barrier .claim) false (rest false)) = g := by
          simp [Holder.after, hafter, houtside]
        rw [hsame, Bool.not_true, hg]
        exact .aside houtside hafter
    | false =>
        have hg : g = none := by
          rw [hfree] at hbusy
          simpa using hbusy.symm
        exact .granted htenure hg rfl
  · by_cases hunclaim : a = .barrier .unclaim
    · subst hunclaim
      have htenure : t.stage.tenure = .recorded := hallows
      have hholds : t.stage.holds = true := by simp [Stage.holds, htenure]
      have hgone : g.after core t (next t (.barrier .unclaim) r (rest r)) = none := by
        have hafter : (next t (.barrier .unclaim) r (rest r)).stage.holds = false := rfl
        simp [Holder.after, hafter, hholds]
      cases hperform
      rw [hgone]
      exact .returned htenure (h.unique core t htask hholds)
    · have hafter : (next t a r (rest r)).stage.holds = t.stage.holds := hstays hclaim hunclaim
      cases hholds : t.stage.holds with
      | false =>
          rw [hholds] at hafter
          have hg : g.after core t (next t a r (rest r)) = g := by
            simp [Holder.after, hafter, hholds]
          rw [perform_aside hallows hholds hclaim hperform, hg]
          exact .aside hholds hafter
      | true =>
          rw [hholds] at hafter
          have hg : g.after core t (next t a r (rest r)) = some (core, next t a r (rest r)) :=
            if_pos hafter
          rw [hg]
          exact .own (h.unique core t htask hholds) hclaim hunclaim

/-- After an action the memory of the barrier again says whether there is a holder. -/
theorem Custody.busy_act (h : Custody w s g) (htask : s.tasks core = some t)
    (hrest : t.rest = .act a rest) (hperform : s.perform value a = some (r, s₁)) :
    s₁.barrier.inProgress = (g.after core t (next t a r (rest r))).isSome := by
  have hhandover := h.handover htask hrest hperform
  generalize g.after core t (next t a r (rest r)) = g' at hhandover ⊢
  cases hhandover with
  | aside hbefore hafter => exact h.busy
  | granted htenure hg hstage => rfl
  | returned htenure hg => rfl
  | own hg hclaim hunclaim =>
      rw [perform_inProgress hperform hclaim hunclaim, h.busy, hg]
      rfl

/-- Who holds the session after an action: the operation that made it, or still the holder. -/
theorem Holder.after_eq_some {i : Fin n} {t t' u : Task Call}
    (h : Holder.after g core t t' = some (i, u)) :
    (i = core ∧ u = t' ∧ t'.stage.holds = true) ∨
      (t'.stage.holds = false ∧ t.stage.holds = false ∧ g = some (i, u)) := by
  unfold Holder.after at h
  split at h
  case isTrue hholds =>
    cases h
    exact Or.inl ⟨rfl, rfl, hholds⟩
  case isFalse hholds =>
    split at h
    case isTrue => cases h
    case isFalse hbefore => exact Or.inr ⟨by simpa using hholds, by simpa using hbefore, h⟩

/-- What is left after an action keeps to the protocol from the next stage on. -/
theorem Custody.keeps_rest (h : Custody w s g) (htask : s.tasks core = some t)
    (hrest : t.rest = .act a rest) (r : a.Reply) :
    (rest r).Keeps (protocol (w.brief t.call core)) (t.stage.after a r)
      (Stage.Ends (w.brief t.call core)) := by
  have hkeeps := (h.fits core t htask).keeps
  rw [hrest] at hkeeps
  exact hkeeps.2 r

theorem Custody.sound_after (h : Custody w s g) (htask : s.tasks core = some t)
    (hrest : t.rest = .act a rest) (r : a.Reply) :
    (t.stage.after a r).Sound (w.brief t.call core) :=
  (h.fits core t htask).sound.after (h.allows htask hrest) r

/-- Another operation that holds the session still holds it after an action. -/
theorem Custody.stays (h : Custody w s g) (htask : s.tasks core = some t)
    (hrest : t.rest = .act a rest) (hperform : s.perform value a = some (r, s₁)) {i : Fin n}
    {u : Task Call} (hg : g = some (i, u)) (hi : i ≠ core) :
    g.after core t (next t a r (rest r)) = some (i, u) := by
  have hother : g ≠ some (core, t) := by
    rw [hg]
    rintro heq
    cases heq
    exact hi rfl
  have hhandover := h.handover htask hrest hperform
  generalize g.after core t (next t a r (rest r)) = g' at hhandover ⊢
  cases hhandover with
  | aside hbefore hafter => exact hg
  | granted htenure hnone hstage => cases hnone.symm.trans hg
  | returned htenure hown => exact absurd hown hother
  | own hown hclaim hunclaim => exact absurd hown hother

/-- Where an operation without the session runs, the holder does not. -/
theorem Custody.holder_ne (h : Custody w s g) (htask : s.tasks core = some t)
    (hholds : t.stage.holds = false) {i : Fin n} {u : Task Call} (hg : g = some (i, u))
    (hu : s.tasks i = some u) : i ≠ core := by
  rintro rfl
  cases htask.symm.trans hu
  cases hholds.symm.trans (h.holds i t hg)

/-- The holder after an action is under way, or has ended while it drove the hardware. -/
theorem Custody.present_act (h : Custody w s g) (htask : s.tasks core = some t)
    (hrest : t.rest = .act a rest) (hperform : s.perform value a = some (r, s₁)) {i : Fin n}
    {u : Task Call} (hg : g.after core t (next t a r (rest r)) = some (i, u)) :
    ((s₁.record t a).resume core (next t a r (rest r))).tasks i = some u ∨
      (u.stage.Seated ∧ u.stage.Drives) := by
  rcases Holder.after_eq_some hg with ⟨rfl, rfl, hholds⟩ | ⟨-, hbefore, hstays⟩
  · have hkeeps := h.keeps_rest htask hrest r
    cases hcase : rest r with
    | done result =>
        rw [hcase] at hkeeps
        exact Or.inr (hkeeps.driving hholds)
    | fail e =>
        rw [hcase] at hkeeps
        exact Or.inr (hkeeps.driving hholds)
    | act a' rest' => exact Or.inl (resume_tasks_self.2 ⟨rfl, a', rest', rfl⟩)
  · refine (h.present i u hstays).imp_left fun hu => ?_
    rwa [act_tasks_of_ne hperform (h.holder_ne htask hbefore hstays hu)]

theorem Custody.act (h : Custody w s g) (htask : s.tasks core = some t)
    (hrest : t.rest = .act a rest) (hperform : s.perform value a = some (r, s₁)) :
    Custody w ((s₁.record t a).resume core (next t a r (rest r)))
      (g.after core t (next t a r (rest r))) where
  fits i u hu := by
    rcases of_act_tasks hperform hu with ⟨rfl, rfl, hgoing⟩ | ⟨-, hu⟩
    · exact ⟨hgoing, h.keeps_rest htask hrest r, h.sound_after htask hrest r⟩
    · exact h.fits i u hu
  away i u hu := by
    rw [resume_cores, record, perform_phase hperform]
    rcases of_act_tasks hperform hu with ⟨rfl, -, -⟩ | ⟨-, hu⟩
    · exact h.away i t htask
    · exact h.away i u hu
  unique i u hu hholds := by
    rcases of_act_tasks hperform hu with ⟨rfl, rfl, -⟩ | ⟨hi, hu⟩
    · exact if_pos hholds
    · exact h.stays htask hrest hperform (h.unique i u hu hholds) hi
  holds i u hg := by
    rcases Holder.after_eq_some hg with ⟨rfl, rfl, hholds⟩ | ⟨-, -, hg⟩
    · exact hholds
    · exact h.holds i u hg
  sound i u hg := by
    rcases Holder.after_eq_some hg with ⟨rfl, rfl, -⟩ | ⟨-, -, hg⟩
    · exact h.sound_after htask hrest r
    · exact h.sound i u hg
  present i u hg := h.present_act htask hrest hperform hg
  busy := by
    have hbusy := h.busy_act htask hrest hperform
    rw [resume_barrier]
    exact hbusy
  arrived k hk := by
    rw [resume_barrier, record] at hk
    rcases perform_arrived hperform with heq | ⟨-, heq⟩
    · rw [heq] at hk
      exact h.arrived k hk
    · rw [heq, CoreMask.contains_empty] at hk
      cases hk

end Act

theorem Custody.respond {core : Fin n} {c : Core} {barrier : Barrier} (h : Custody w s g)
    (htask : s.tasks core = none)
    (hanswer : (s.cores core).step core s.barrier = some (c, barrier)) :
    Custody w
      { s with
        barrier
        cores := Function.update s.cores core c
        tallies := Function.update s.tallies core
          ((s.tallies core).afterPhase (s.cores core).phase) } g where
  fits := h.fits
  away i t ht := by
    have hi : i ≠ core := by
      rintro rfl
      rw [htask] at ht
      cases ht
    simpa [hi] using h.away i t ht
  unique := h.unique
  holds := h.holds
  sound := h.sound
  present := h.present
  busy := by
    have hbarrier := Core.step_barrier hanswer
    rw [← h.busy, hbarrier]
    split
    · exact Barrier.inProgress_arrive ..
    · rfl
  arrived k hk := by
    have hbarrier := Core.step_barrier hanswer
    subst hbarrier
    split at hk
    · rcases Barrier.of_contains_arrive hk with hk | rfl
      · exact h.arrived k hk
      · exact core.isLt
    · exact h.arrived k hk

theorem Custody.disturb (h : Custody w s g) (core : Fin n) : Custody w (s.disturb core) g where
  fits := h.fits
  away i t ht := by
    have haway := h.away i t ht
    by_cases hi : i = core
    · subst hi
      simpa [Cluster.disturb] using haway
    · simpa [Cluster.disturb, hi] using haway
  unique := h.unique
  holds := h.holds
  sound := h.sound
  present := h.present
  busy := h.busy
  arrived := h.arrived

/-- A holder in the middle of a release is under way. -/
theorem Custody.task_of_release {i : Fin n} {t : Task Call} (h : Custody w s (some (i, t)))
    (hparking : t.stage.parking = .advanced ∨ t.stage.parking = .dropped) : s.tasks i = some t := by
  rcases h.present i t rfl with htask | ⟨-, hdrives⟩
  · exact htask
  · have hpower : t.stage.power = .unseen ∨ t.stage.power = .active :=
      ((h.sound i t rfl).asked (by rcases hparking with h | h <;> simp [h])).2
    exfalso
    rcases hdrives with ⟨h, -⟩ | h | h | ⟨index, h⟩ <;> simp_all

/-- **After every move there is again at most one holder**, and the way in which the move went says
who. -/
theorem Custody.step (h : Custody w s g) (hstep : s.step w m = some s') :
    ∃ g', Turn w s g m s' g' ∧ Custody w s' g' := by
  obtain ⟨g', hturn⟩ := turn_of_step g hstep
  refine ⟨g', hturn, ?_⟩
  cases hturn with
  | begin htask hphase => exact h.begin htask hphase
  | act htask hrest hperform => exact h.act htask hrest hperform
  | respond htask hanswer => exact h.respond htask hanswer
  | disturb => exact h.disturb _

/-- Every system that can be reached has a holder, or nobody holds the session. -/
theorem custody_of_run {ms : List (Move n Call)} (w : Workload n Call) (current : FrequencyIndex)
    (snapshot : Snapshot) (hrun : (start n Call current snapshot).run w ms = some s) :
    ∃ g, Custody w s g := by
  have halong : Along w (fun _ _ _ => True) (start n Call current snapshot) ms :=
    along_of_forall fun _ _ => trivial
  refine invariant (P := fun s => ∃ g, Custody w s g) ?_ ⟨none, custody_start w current snapshot⟩
    halong hrun
  rintro s m s' ⟨g, h⟩ hstep -
  obtain ⟨g', -, h'⟩ := h.step hstep
  exact ⟨g', h'⟩

end Cluster

end Reclock
