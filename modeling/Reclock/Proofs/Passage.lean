/-
**What a run passes through.**

A run takes the world from state to state, one action after another.  What `Procedure.Ensures` says
is about the end of a run only, and nothing at all about one that halts; but some properties are to
hold at every moment.  Here every single action of a run makes an allowed step, the action that
halts the run included, and what a run passes through is composed along the procedure like what it
ends in.

Main definitions:

* `Reclock.Procedure.Passes` — **every action of the run makes an allowed step**, and the end
  satisfies a condition.

Main results:

* `Reclock.Procedure.passes_bind`, `passes_attempt` — what a composed procedure passes through;
* `Reclock.Procedure.Within.passes` — actions that leave alone what matters.
-/

import Reclock.Proofs.Monitor
import Reclock.Proofs.Runs

set_option relaxedAutoImplicit false
set_option autoImplicit false

namespace Reclock

/-! ### Steps of a run -/

namespace Procedure

variable {A : Type} {Reply : A → Type} {σ ε δ α β : Type}
variable {world : (a : A) → σ → EStateM.Result Halt σ (Reply a)} {R : σ → σ → Prop}

/-- The state that an action or a run leaves behind, whether or not it halts. -/
def left : EStateM.Result Halt σ α → σ
  | .ok _ s => s
  | .error _ s => s

/-- **Every action of the run makes an allowed step**, also one that halts the run, and the end
satisfies a condition if there is one. -/
def Passes (world : (a : A) → σ → EStateM.Result Halt σ (Reply a)) (R : σ → σ → Prop) :
    Procedure Reply ε α → σ → (Except ε α → σ → Prop) → Prop
  | done a, s, Q => Q (.ok a) s
  | fail e, s, Q => Q (.error e) s
  | act a next, s, Q =>
      match world a s with
      | .ok r s' => R s s' ∧ (next r).Passes world R s' Q
      | .error _ s' => R s s'

/-- The first action makes a step, and the rest passes on from there. -/
theorem passes_act {a : A} {next : Reply a → Procedure Reply ε α} {s s' : σ} {r : Reply a}
    {Q : Except ε α → σ → Prop} (h : world a s = .ok r s') (hstep : R s s')
    (hnext : (next r).Passes world R s' Q) : (act a next).Passes world R s Q := by
  unfold Passes
  rw [h]
  exact ⟨hstep, hnext⟩

/-- A sequence passes through what its first part does, and then its second. -/
theorem passes_bind (p : Procedure Reply ε α) (f : α → Procedure Reply ε β) (s : σ)
    (Q : Except ε β → σ → Prop) :
    (p >>= f).Passes world R s Q ↔ p.Passes world R s fun
      | .ok a, s' => (f a).Passes world R s' Q
      | .error e, s' => Q (.error e) s' := by
  induction p generalizing s with
  | done a => rfl
  | fail e => rfl
  | act a next ih =>
      simp only [act_bind, Passes]
      cases world a s with
      | ok r s' => exact and_congr Iff.rfl (ih r s')
      | error h s' => rfl

theorem passes_attempt (p : Procedure Reply ε α) (s : σ) (Q : Except δ (Except ε α) → σ → Prop) :
    (p.attempt : Procedure Reply δ (Except ε α)).Passes world R s Q ↔
      p.Passes world R s fun r s' => Q (.ok r) s' := by
  induction p generalizing s with
  | done a => rfl
  | fail e => rfl
  | act a next ih =>
      simp only [attempt, Passes]
      cases world a s with
      | ok r s' => exact and_congr Iff.rfl (ih r s')
      | error h s' => rfl

variable {p : Procedure Reply ε α} {s : σ} {P Q : Except ε α → σ → Prop}

theorem Passes.mono (h : p.Passes world R s P) (hQ : ∀ r s', P r s' → Q r s') :
    p.Passes world R s Q := by
  induction p generalizing s with
  | done a => exact hQ _ _ h
  | fail e => exact hQ _ _ h
  | act a next ih =>
      unfold Passes at h ⊢
      split at h
      · exact ⟨h.1, ih _ h.2⟩
      · exact h

/-- The end of what a run passes through is where it ends. -/
theorem Passes.ensures (h : p.Passes world R s Q) : p.Ensures world s Q := by
  intro r s' hrun
  induction p generalizing s with
  | done a =>
      cases hrun
      exact h
  | fail e =>
      cases hrun
      exact h
  | act a next ih =>
      unfold Passes at h
      unfold run at hrun
      split at hrun
      case h_1 hanswer =>
        rw [hanswer] at h
        exact ih _ h.2 hrun
      case h_2 => cases hrun

/-- What every allowed step preserves holds at the end. -/
theorem Passes.preserves {J : σ → Prop} (h : p.Passes world R s Q)
    (hJ : ∀ s₁ s₂, R s₁ s₂ → J s₁ → J s₂) (hs : J s) : p.Ensures world s fun _ s' => J s' := by
  intro r s' hrun
  induction p generalizing s with
  | done a =>
      cases hrun
      exact hs
  | fail e =>
      cases hrun
      exact hs
  | act a next ih =>
      unfold Passes at h
      unfold run at hrun
      split at hrun
      case h_1 hanswer =>
        rw [hanswer] at h
        exact ih _ h.2 (hJ _ _ h.1 hs) hrun
      case h_2 => cases hrun

/-- What is known of the end may be added. -/
theorem Passes.and_ensures (h : p.Passes world R s P) (hQ : p.Ensures world s Q) :
    p.Passes world R s fun r s' => P r s' ∧ Q r s' := by
  induction p generalizing s with
  | done a => exact ⟨h, hQ _ _ rfl⟩
  | fail e => exact ⟨h, hQ _ _ rfl⟩
  | act a next ih =>
      unfold Passes at h ⊢
      split at h
      case h_1 r s' hanswer =>
        refine ⟨h.1, ih r h.2 fun r' s'' hrun => hQ r' s'' ?_⟩
        simpa only [run, hanswer] using hrun
      case h_2 => exact h

theorem Passes.andThen {f : α → Procedure Reply ε β} {Q : Except ε β → σ → Prop}
    (hp : p.Passes world R s P) (ok : ∀ a s', P (.ok a) s' → (f a).Passes world R s' Q)
    (error : ∀ e s', P (.error e) s' → Q (.error e) s') : (p >>= f).Passes world R s Q := by
  rw [passes_bind]
  refine hp.mono fun r s' h => ?_
  cases r with
  | ok a => exact ok a s' h
  | error e => exact error e s' h

theorem passes_demand {value : Option α} {e : ε} {f : α → Procedure Reply ε β}
    {Q : Except ε β → σ → Prop} (missing : value = none → Q (.error e) s)
    (found : ∀ a, value = some a → (f a).Passes world R s Q) :
    (demand value e >>= f).Passes world R s Q := by
  cases value with
  | none => exact missing rfl
  | some a => exact found a rfl

theorem passes_require {condition : Bool} {e : ε} {f : Unit → Procedure Reply ε β}
    {Q : Except ε β → σ → Prop} (broken : condition = false → Q (.error e) s)
    (met : condition = true → (f ()).Passes world R s Q) :
    (require condition e >>= f).Passes world R s Q := by
  cases condition with
  | false => exact broken rfl
  | true => exact met rfl

/-- **Actions that leave alone what matters** pass through states that agree in it. -/
theorem Within.passes {allowed : A → Prop} {ν : Type} {view : σ → ν} (h : p.Within allowed)
    (hview : ∀ a s, allowed a → view (left (world a s)) = view s)
    (s : σ) (hR : ∀ s₁ s₂, view s₁ = view s → view s₂ = view s → R s₁ s₂) :
    p.Passes world R s fun _ s' => view s' = view s := by
  have hall : ∀ s₁, view s₁ = view s → p.Passes world R s₁ fun _ s' => view s' = view s := by
    induction p with
    | done a => exact fun s₁ hs₁ => hs₁
    | fail e => exact fun s₁ hs₁ => hs₁
    | act a next ih =>
        intro s₁ hs₁
        have hstep := (hview a s₁ h.1).trans hs₁
        unfold Passes
        cases hanswer : world a s₁ with
        | ok r s₂ =>
            rw [hanswer] at hstep
            exact ⟨hR _ _ hs₁ hstep, ih r (h.2 r) s₂ hstep⟩
        | error halt s₂ =>
            rw [hanswer] at hstep
            exact hR _ _ hs₁ hstep
  exact hall s rfl

end Procedure

end Reclock
