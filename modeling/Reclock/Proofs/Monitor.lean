/-
**Procedures under a monitor.**

A monitor watches the actions of a procedure: in each of its states it allows some actions, and an
action with its reply takes it to the next state.  A procedure keeps to a monitor if it makes only
allowed actions whatever the replies are, and the condition on its end holds of its result and the
monitor's last state.  Since the condition is free, keeping to a monitor composes: what a sequence
of procedures does is read off from what its parts do.

Main definitions:

* `Reclock.Monitor` — the monitors of the actions of a procedure;
* `Reclock.Procedure.Keeps` — **keeping to a monitor**;
* `Reclock.Procedure.Within` — making only allowed actions, for what is allowed at all times.

Main results:

* `Reclock.Procedure.keeps_bind`, `keeps_attempt`, `keeps_embed` — keeping to a monitor of what is
  built from other procedures;
* `Reclock.Procedure.Keeps.mono` — a weaker condition on the end;
* `Reclock.Procedure.within_bind` — a sequence makes only allowed actions if its parts do.
-/

import Mathlib.Logic.Basic
import Reclock.Procedure

set_option relaxedAutoImplicit false
set_option autoImplicit false

namespace Reclock

/-- **A monitor** with states `σ`: which actions it allows, and where an action with its reply
takes it. -/
structure Monitor {A : Type} (Reply : A → Type) (σ : Type) where
  /-- The actions allowed in a state. -/
  allows : σ → A → Prop
  /-- The state after an action. -/
  after : σ → (a : A) → Reply a → σ

namespace Procedure

variable {A : Type} {Reply : A → Type} {σ ε δ α β : Type}

/-- **Keeping to a monitor** from a state on: whatever the replies, every action is allowed when it
is made, and the end satisfies `Q`. -/
def Keeps (m : Monitor Reply σ) : Procedure Reply ε α → σ → (Except ε α → σ → Prop) → Prop
  | done a, s, Q => Q (.ok a) s
  | fail e, s, Q => Q (.error e) s
  | act a next, s, Q => m.allows s a ∧ ∀ r, (next r).Keeps m (m.after s a r) Q

variable (m : Monitor Reply σ)

@[simp] theorem keeps_done (a : α) (s : σ) (Q : Except ε α → σ → Prop) :
    (done a : Procedure Reply ε α).Keeps m s Q ↔ Q (.ok a) s := Iff.rfl

@[simp] theorem keeps_fail (e : ε) (s : σ) (Q : Except ε α → σ → Prop) :
    (fail e : Procedure Reply ε α).Keeps m s Q ↔ Q (.error e) s := Iff.rfl

@[simp] theorem keeps_act (a : A) (next : Reply a → Procedure Reply ε α) (s : σ)
    (Q : Except ε α → σ → Prop) :
    (act a next).Keeps m s Q ↔ m.allows s a ∧ ∀ r, (next r).Keeps m (m.after s a r) Q := Iff.rfl

/-- A sequence keeps to a monitor if its first part does, up to where its second part does. -/
theorem keeps_bind (p : Procedure Reply ε α) (f : α → Procedure Reply ε β) (s : σ)
    (Q : Except ε β → σ → Prop) :
    (p >>= f).Keeps m s Q ↔ p.Keeps m s fun
      | .ok a, s' => (f a).Keeps m s' Q
      | .error e, s' => Q (.error e) s' := by
  induction p generalizing s with
  | done a => rfl
  | fail e => rfl
  | act a next ih => exact and_congr Iff.rfl (forall_congr' fun r => ih r _)

theorem keeps_attempt (p : Procedure Reply ε α) (s : σ) (Q : Except δ (Except ε α) → σ → Prop) :
    (p.attempt : Procedure Reply δ (Except ε α)).Keeps m s Q ↔
      p.Keeps m s fun r s' => Q (.ok r) s' := by
  induction p generalizing s with
  | done a => rfl
  | fail e => rfl
  | act a next ih => exact and_congr Iff.rfl (forall_congr' fun r => ih r _)

variable {m}

theorem keeps_demand {value : Option α} {e : ε} {s : σ} {Q : Except ε α → σ → Prop}
    (missing : value = none → Q (.error e) s) (found : ∀ a, value = some a → Q (.ok a) s) :
    (demand value e : Procedure Reply ε α).Keeps m s Q := by
  cases value with
  | none => exact missing rfl
  | some a => exact found a rfl

theorem keeps_require {condition : Bool} {e : ε} {s : σ} {Q : Except ε Unit → σ → Prop}
    (broken : condition = false → Q (.error e) s) (met : condition = true → Q (.ok ()) s) :
    (require condition e : Procedure Reply ε Unit).Keeps m s Q := by
  cases condition with
  | false => exact broken rfl
  | true => exact met rfl

theorem Keeps.mono {p : Procedure Reply ε α} {s : σ} {Q Q' : Except ε α → σ → Prop}
    (h : p.Keeps m s Q) (hQ : ∀ r s', Q r s' → Q' r s') : p.Keeps m s Q' := by
  induction p generalizing s with
  | done a => exact hQ _ _ h
  | fail e => exact hQ _ _ h
  | act a next ih => exact ⟨h.1, fun r => ih r (h.2 r)⟩

/-- What follows a procedure goes on from wherever it may end. -/
theorem Keeps.andThen {p : Procedure Reply ε α} {f : α → Procedure Reply ε β} {s : σ}
    {P : Except ε α → σ → Prop} {Q : Except ε β → σ → Prop} (hp : p.Keeps m s P)
    (ok : ∀ a s', P (.ok a) s' → (f a).Keeps m s' Q)
    (error : ∀ e s', P (.error e) s' → Q (.error e) s') : (p >>= f).Keeps m s Q := by
  rw [keeps_bind]
  refine hp.mono fun r s' h => ?_
  cases r with
  | ok a => exact ok a s' h
  | error e => exact error e s' h

/-- A procedure over other actions keeps to a monitor that allows them all and stays where it
is. -/
theorem keeps_embed {B : Type} {Answer : B → Type} {m : Monitor Answer σ} {f : A → B}
    {back : (a : A) → Answer (f a) → Reply a} {s : σ} {Q : Except ε α → σ → Prop}
    (p : Procedure Reply ε α) (allowed : ∀ a, m.allows s (f a))
    (stays : ∀ a r, m.after s (f a) r = s) (hQ : ∀ r, Q r s) : (p.embed f back).Keeps m s Q := by
  induction p with
  | done a => exact hQ _
  | fail e => exact hQ _
  | act a next ih =>
      refine ⟨allowed a, fun r => ?_⟩
      rw [stays]
      exact ih _

end Procedure

/-! ### Allowed actions -/

namespace Procedure

variable {A : Type} {Reply : A → Type} {ε α β : Type} {allowed : A → Prop}

/-- **All actions of a procedure are allowed**, whatever the replies. -/
def Within (allowed : A → Prop) : Procedure Reply ε α → Prop
  | done _ => True
  | fail _ => True
  | act a next => allowed a ∧ ∀ r, (next r).Within allowed

theorem Within.mono {allowed' : A → Prop} {p : Procedure Reply ε α} (h : p.Within allowed)
    (hallowed : ∀ a, allowed a → allowed' a) : p.Within allowed' := by
  induction p with
  | done a => exact trivial
  | fail e => exact trivial
  | act a next ih => exact ⟨hallowed a h.1, fun r => ih r (h.2 r)⟩

theorem within_anything (p : Procedure Reply ε α) : p.Within fun _ => True := by
  induction p with
  | done a => exact trivial
  | fail e => exact trivial
  | act a next ih => exact ⟨trivial, ih⟩

/-- A procedure that keeps to a monitor keeps to one of the same course that allows as much, as far
as the actions of the procedure go. -/
theorem Keeps.of_within {σ : Type} {m m' : Monitor Reply σ} {p : Procedure Reply ε α} {s : σ}
    {Q : Except ε α → σ → Prop} (h : p.Keeps m s Q) (hp : p.Within allowed)
    (hallows : ∀ s a, allowed a → m.allows s a → m'.allows s a) (hafter : m'.after = m.after) :
    p.Keeps m' s Q := by
  induction p generalizing s with
  | done a => exact h
  | fail e => exact h
  | act a next ih =>
      refine ⟨hallows s a hp.1 h.1, fun r => ?_⟩
      rw [hafter]
      exact ih r (h.2 r) (hp.2 r)

theorem within_bind {p : Procedure Reply ε α} {f : α → Procedure Reply ε β}
    (hp : p.Within allowed) (hf : ∀ a, (f a).Within allowed) : (p >>= f).Within allowed := by
  induction p with
  | done a => exact hf a
  | fail e => exact trivial
  | act a next ih => exact ⟨hp.1, fun r => ih r (hp.2 r)⟩

theorem within_attempt {δ : Type} {p : Procedure Reply ε α} (hp : p.Within allowed) :
    (p.attempt : Procedure Reply δ (Except ε α)).Within allowed := by
  induction p with
  | done a => exact trivial
  | fail e => exact trivial
  | act a next ih => exact ⟨hp.1, fun r => ih r (hp.2 r)⟩

theorem within_forEach {bs : List β} {f : β → Procedure Reply ε Unit}
    (hf : ∀ b ∈ bs, (f b).Within allowed) : (forEach bs f).Within allowed := by
  induction bs with
  | nil => exact trivial
  | cons b bs ih =>
      exact within_bind (hf b (List.mem_cons_self ..)) fun _ =>
        ih fun b hb => hf b (List.mem_cons_of_mem _ hb)

theorem within_collect {bs : List β} {f : β → Procedure Reply ε α}
    (hf : ∀ b ∈ bs, (f b).Within allowed) : (collect bs f).Within allowed := by
  induction bs with
  | nil => exact trivial
  | cons b bs ih =>
      refine within_bind (hf b (List.mem_cons_self ..)) fun _ => within_bind ?_ fun _ => trivial
      exact ih fun b hb => hf b (List.mem_cons_of_mem _ hb)

theorem within_pollUntil {e : ε} {p : Procedure Reply ε (Option α)} (hp : p.Within allowed)
    (attempts : Nat) : (pollUntil e p attempts).Within allowed := by
  induction attempts with
  | zero => exact trivial
  | succ attempts ih =>
      refine within_bind hp fun found => ?_
      cases found with
      | some a => exact trivial
      | none => exact ih

end Procedure

end Reclock
