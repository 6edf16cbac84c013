/-
**Procedures: finite programs of hardware actions.**

A procedure is a tree.  A node performs one action and goes on with the reply; a leaf returns a
result or gives up with an error.  A procedure says nothing about what an action does, so one
definition is executed against modelled hardware, reasoned about for every possible reply, and
interleaved with the procedures of other cores.  Every loop in this library is bounded, so the
trees are finite and what holds of a procedure is proved by induction on it.

Main definitions:

* `Reclock.Procedure` — the trees, over actions `A` whose replies have type `Reply a`;
* `Reclock.Procedure.bind` — sequencing, an error ending the whole;
* `Reclock.Procedure.attempt` — turns an error into an ordinary result;
* `Reclock.Procedure.embed` — the same procedure over a larger set of actions;
* `Reclock.Procedure.pollUntil` — repeats an attempt up to a bound;
* `Reclock.Procedure.run` — execution against a world that answers each action.
-/

import Reclock.Fault

set_option relaxedAutoImplicit false
set_option autoImplicit false

namespace Reclock

/-- **A finite program of actions**, with result `α` or error `ε`. -/
inductive Procedure {A : Type} (Reply : A → Type) (ε α : Type) : Type
  /-- Returns a result. -/
  | done (a : α)
  /-- Gives up. -/
  | fail (e : ε)
  /-- Performs an action and continues with its reply. -/
  | act (a : A) (next : Reply a → Procedure Reply ε α)

namespace Procedure

variable {A : Type} {Reply : A → Type} {ε δ α β : Type}

/-! ### Sequencing -/

/-- Continues a procedure with its result. -/
def bind : Procedure Reply ε α → (α → Procedure Reply ε β) → Procedure Reply ε β
  | done a, f => f a
  | fail e, _ => fail e
  | act a next, f => act a fun r => (next r).bind f

instance : Monad (Procedure Reply ε) where
  pure := done
  bind := bind

@[simp] theorem pure_eq_done (a : α) : (pure a : Procedure Reply ε α) = done a := rfl

@[simp] theorem done_bind (a : α) (f : α → Procedure Reply ε β) : done a >>= f = f a := rfl

@[simp] theorem fail_bind (e : ε) (f : α → Procedure Reply ε β) : fail e >>= f = fail e := rfl

@[simp] theorem act_bind (a : A) (next : Reply a → Procedure Reply ε α)
    (f : α → Procedure Reply ε β) : act a next >>= f = act a fun r => next r >>= f := rfl

theorem bind_done (p : Procedure Reply ε α) : p >>= done = p := by
  induction p with
  | done a => rfl
  | fail e => rfl
  | act a next ih => exact congrArg (act a) (funext ih)

theorem bind_assoc {γ : Type} (p : Procedure Reply ε α) (f : α → Procedure Reply ε β)
    (g : β → Procedure Reply ε γ) : p >>= f >>= g = p >>= fun a => f a >>= g := by
  induction p with
  | done a => rfl
  | fail e => rfl
  | act a next ih => exact congrArg (act a) (funext ih)

instance : LawfulMonad (Procedure Reply ε) :=
  LawfulMonad.mk' _ bind_done (fun _ _ => rfl) bind_assoc

/-! ### Building procedures -/

/-- The procedure of one action, with its reply as the result. -/
def perform (a : A) : Procedure Reply ε (Reply a) := act a done

/-- Goes on if a condition holds and gives up with the error otherwise. -/
def require (condition : Bool) (e : ε) : Procedure Reply ε Unit :=
  if condition then done () else fail e

/-- Goes on with a value that is there and gives up with the error otherwise. -/
def demand (value : Option α) (e : ε) : Procedure Reply ε α :=
  match value with
  | some a => done a
  | none => fail e

/-- Runs a procedure for every member of a list, in order. -/
def forEach : List β → (β → Procedure Reply ε Unit) → Procedure Reply ε Unit
  | [], _ => done ()
  | b :: bs, f => f b >>= fun _ => forEach bs f

/-- Runs a procedure for every member of a list, in order, and collects the results. -/
def collect : List β → (β → Procedure Reply ε α) → Procedure Reply ε (List α)
  | [], _ => done []
  | b :: bs, f => f b >>= fun a => collect bs f >>= fun as => done (a :: as)

/-- Turns giving up into an ordinary result. -/
def attempt : Procedure Reply ε α → Procedure Reply δ (Except ε α)
  | done a => done (.ok a)
  | fail e => done (.error e)
  | act a next => act a fun r => (next r).attempt

/-- Repeats an attempt until it yields a value, at most `limit` times. -/
def pollUntil (e : ε) (attempt : Procedure Reply ε (Option α)) : Nat → Procedure Reply ε α
  | 0 => fail e
  | limit + 1 => attempt >>= fun
    | some a => done a
    | none => pollUntil e attempt limit

/-! ### Changing the actions -/

/-- The same procedure over other actions, given the action that stands for each and how its
reply is read back. -/
def embed {B : Type} {Answer : B → Type} (f : A → B) (back : (a : A) → Answer (f a) → Reply a) :
    Procedure Reply ε α → Procedure Answer ε α
  | done a => done a
  | fail e => fail e
  | act a next => act (f a) fun r => (next (back a r)).embed f back

/-! ### Execution -/

/-- **Runs a procedure against a world**, which answers each action and moves on to its next
state, or halts the run. -/
def run {σ : Type} (world : (a : A) → σ → EStateM.Result Halt σ (Reply a)) :
    Procedure Reply ε α → σ → EStateM.Result Halt σ (Except ε α)
  | done a, s => .ok (.ok a) s
  | fail e, s => .ok (.error e) s
  | act a next, s =>
      match world a s with
      | .ok r s => (next r).run world s
      | .error h s => .error h s

end Procedure

end Reclock
