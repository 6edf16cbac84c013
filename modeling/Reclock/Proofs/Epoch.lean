/-
**How far an answer is behind the epoch.**

A core samples the epoch once in each answer, and every release advances it by one.  As long as an
answer is under way, the epoch is therefore the sampled one and the number of releases begun since.
The epoch has 32 bits, so this number can be read off from it only while it is small enough.

Main definitions:

* `Reclock.View.Ahead` — the epoch is ahead of the sampled one by the releases begun since;
* `Reclock.View.Fresh`, `Reclock.Cluster.Fresh` — no answer has outlived the values of the epoch.

Main results:

* `Reclock.View.Ahead.turn` — **every turn keeps the count**, disturbances included;
* `Reclock.View.Ahead.spanned_eq_zero` — a fresh answer with the current epoch has outlived no
  release;
* `Reclock.Cluster.along_fresh` — runs of fewer than `2 ^ 32` moves are fresh.
-/

import Reclock.Proofs.View

set_option relaxedAutoImplicit false
set_option autoImplicit false

namespace Reclock

/-! ### The count -/

namespace View

/-- The epoch is ahead of the one that the core has sampled by the releases begun since. -/
def Ahead (v : View) : Prop :=
  ∀ e, v.core.phase.captured = some e → v.epoch = e + UInt32.ofNat v.tally.spanned

/-- The answer under way has not outlived all values of the epoch. -/
def Fresh (v : View) : Prop :=
  v.core.phase.captured.isSome = true → v.tally.spanned < 2 ^ 32

variable {v v' : View} {c : Core} {d : Bool}

theorem Ahead.answered (h : v.Ahead) (hanswer : v.core.Answers v.hold v.epoch c) :
    (v.answered c).Ahead := by
  intro e he
  have hahead := h e
  cases hanswer <;> simp_all [Phase.captured, Tally.afterPhase]

/-- **Every turn keeps the count.** -/
theorem Ahead.turn (h : v.Ahead) (hturn : v.Turn d v') : v'.Ahead := by
  cases hturn with
  | answer hanswer => exact h.answered hanswer
  | advance hparking =>
      intro e he
      have hepoch := h e he
      simp only [hepoch, UInt32.ofNat_add, UInt32.add_assoc]
      rfl
  | _ => exact h

/-- **A fresh answer with the current epoch has outlived no release.** -/
theorem Ahead.spanned_eq_zero (h : v.Ahead) (hfresh : v.Fresh)
    (hcaptured : v.core.phase.captured = some v.epoch) : v.tally.spanned = 0 := by
  have hspanned : v.tally.spanned < 2 ^ 32 := hfresh (by rw [hcaptured]; rfl)
  have hepoch := congrArg UInt32.toNat (h _ hcaptured)
  rw [UInt32.toNat_add, UInt32.toNat_ofNat_of_lt' hspanned] at hepoch
  have hlt := v.epoch.toNat_lt
  omega

/-- An answer that has outlived no release has sampled the current epoch. -/
theorem Ahead.epoch_eq (h : v.Ahead) {e : UInt32} (hcaptured : v.core.phase.captured = some e)
    (hspanned : v.tally.spanned = 0) : e = v.epoch := by
  have hepoch := h e hcaptured
  rw [hspanned] at hepoch
  simpa using hepoch.symm

end View

namespace Cluster

variable {n : Nat} {Call : Type} {w : Workload n Call} {s s' : Cluster n Call}

/-- No answer has outlived the values of the epoch. -/
def Fresh (s : Cluster n Call) : Prop :=
  ∀ i, (s.cores i).phase.captured.isSome = true → (s.tallies i).spanned < 2 ^ 32

/-! ### Short runs -/

/-- A move begins at most one release. -/
theorem spanned_step {m : Move n Call} (h : s.step w m = some s') (i : Fin n) :
    (s'.tallies i).spanned ≤ (s.tallies i).spanned + 1 := by
  obtain ⟨g', hturn⟩ := turn_of_step none h
  cases hturn with
  | begin htask hphase => simp [launch]
  | act htask hrest hperform =>
      rename_i core value t a rest r s₁
      have hspanned : (s₁.tallies i).spanned ≤ (s.tallies i).spanned + 1 := by
        cases effect_of_perform hperform with
        | @barrier a r barrier happly => cases a <;> simp [accessed, Tally.afterAccess]
        | _ => exact Nat.le_succ _
      rw [resume_tallies]
      exact hspanned
  | respond htask hanswer =>
      rename_i core c barrier
      by_cases hi : i = core
      · subst hi
        simp only [Function.update_self]
        cases (s.cores i).phase <;> simp [Tally.afterPhase]
      · simp [hi]
  | disturb => exact Nat.le_succ _

/-- **A run of fewer than `2 ^ 32` moves is too short** for an answer to outlive the values of the
epoch. -/
theorem along_fresh {ms : List (Move n Call)}
    (h : ∀ i, (s.tallies i).spanned + ms.length < 2 ^ 32) :
    Along w (fun _ _ s' => s'.Fresh) s ms := by
  induction ms generalizing s with
  | nil => trivial
  | cons m ms ih =>
      unfold Along
      split
      case h_1 s' hstep =>
        have hspanned : ∀ i, (s'.tallies i).spanned + ms.length < 2 ^ 32 := by
          intro i
          have hle := spanned_step hstep i
          have hlt := h i
          rw [List.length_cons] at hlt
          omega
        refine ⟨fun i _ => ?_, ih hspanned⟩
        have hlt := hspanned i
        omega
      case h_2 => trivial

end Cluster

end Reclock
