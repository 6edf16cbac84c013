/-
**How often a bounded poll asks.**

A poll repeats one action until its reply satisfies a condition, and gives up once it has made as
many attempts as its bound allows.  What is asked may have a state of its own, and so may the
hardware that answers a read: every attempt can find things changed by the one before.  A poll makes
exactly as many attempts as it takes and no other action, and what it returns belongs to the very
attempt that satisfied it.

Main definitions:

* `Reclock.Procedure.recorded` — a world with a state of its own that records what it answers;
* `Reclock.Procedure.stateAfter`, `replyAt` — how an action goes that is performed again and again;
* `Reclock.Procedure.PollsExactly` — **a poll with its exact number of attempts**.

Main results:

* `Reclock.Procedure.run_pollUntil_add` — attempts that fail use up the bound, one by one;
* `Reclock.Procedure.pollsExactly_pollUntil` — a poll of a single action is exact;
* `Reclock.bounded_polling` — **so are the poll of a condition and the wait for a register**.
-/

import Mathlib.Logic.Function.Iterate
import Reclock.Bench.Registers
import Reclock.Proofs.Runs

set_option relaxedAutoImplicit false
set_option autoImplicit false

namespace Reclock

namespace Procedure

variable {A : Type} {Reply : A → Type} {σ ε α : Type}

/-! ### Attempts one after another -/

section Attempts

variable {world : (a : A) → σ → EStateM.Result Halt σ (Reply a)}
  {attempt : Procedure Reply ε (Option α)} {states : Nat → σ}

/-- **Attempts that fail use up the bound**, and the poll goes on from the state they leave. -/
theorem run_pollUntil_add (e : ε) (n rest : Nat)
    (hfails : ∀ k < n, attempt.run world (states k) = .ok (.ok none) (states (k + 1))) :
    (pollUntil e attempt (n + rest)).run world (states 0) =
      (pollUntil e attempt rest).run world (states n) := by
  induction n generalizing rest with
  | zero => rw [Nat.zero_add]
  | succ n ih =>
      have hlast := hfails n (Nat.lt_succ_self n)
      calc (pollUntil e attempt (n + 1 + rest)).run world (states 0)
          = (pollUntil e attempt (n + (rest + 1))).run world (states 0) := by
            rw [Nat.add_right_comm, Nat.add_assoc]
        _ = (pollUntil e attempt (rest + 1)).run world (states n) :=
            ih (rest + 1) fun k hk => hfails k (Nat.lt_succ_of_lt hk)
        _ = (pollUntil e attempt rest).run world (states (n + 1)) := by
            rw [pollUntil, run_bind_of_ok hlast]

/-- A poll ends with its first attempt that succeeds. -/
theorem run_pollUntil_of_found {e : ε} {n limit : Nat} {a : α} {s : σ} (hn : n < limit)
    (hfails : ∀ k < n, attempt.run world (states k) = .ok (.ok none) (states (k + 1)))
    (hfound : attempt.run world (states n) = .ok (.ok (some a)) s) :
    (pollUntil e attempt limit).run world (states 0) = .ok (.ok a) s := by
  obtain ⟨rest, rfl⟩ := Nat.exists_eq_add_of_lt hn
  rw [Nat.add_assoc, run_pollUntil_add e n (rest + 1) hfails, pollUntil, run_bind_of_ok hfound]
  rfl

/-- A poll whose attempts all fail gives up. -/
theorem run_pollUntil_of_missed {e : ε} {limit : Nat}
    (hfails : ∀ k < limit, attempt.run world (states k) = .ok (.ok none) (states (k + 1))) :
    (pollUntil e attempt limit).run world (states 0) = .ok (.error e) (states limit) :=
  run_pollUntil_add e limit 0 hfails

end Attempts

/-! ### One action again and again -/

variable {answers : (a : A) → σ → Reply a × σ} {a : A}

/-- **A world with a state of its own** that answers every action, and records what it has
answered. -/
def recorded (answers : (a : A) → σ → Reply a × σ) (a : A) :
    σ × List A → EStateM.Result Halt (σ × List A) (Reply a)
  | (s, past) => .ok (answers a s).1 ((answers a s).2, past ++ [a])

/-- The state after an action has been performed a number of times. -/
def stateAfter (answers : (a : A) → σ → Reply a × σ) (a : A) (s : σ) (n : Nat) : σ :=
  (fun s => (answers a s).2)^[n] s

/-- The reply to an action that has been performed a number of times before. -/
def replyAt (answers : (a : A) → σ → Reply a × σ) (a : A) (s : σ) (n : Nat) : Reply a :=
  (answers a (stateAfter answers a s n)).1

theorem stateAfter_succ (answers : (a : A) → σ → Reply a × σ) (a : A) (s : σ) (n : Nat) :
    stateAfter answers a s (n + 1) = (answers a (stateAfter answers a s n)).2 :=
  Function.iterate_succ_apply' _ n s

/-- The state and the record after an action has been performed a number of times. -/
def recordAfter (answers : (a : A) → σ → Reply a × σ) (a : A) (s : σ) (past : List A) (n : Nat) :
    σ × List A :=
  (stateAfter answers a s n, past ++ List.replicate n a)

/-- Each further time adds the action to the record. -/
theorem run_act_recorded (next : Reply a → Procedure Reply ε α) (s : σ) (past : List A) (n : Nat) :
    (act a next).run (recorded answers) (recordAfter answers a s past n) =
      (next (replyAt answers a s n)).run (recorded answers)
        (recordAfter answers a s past (n + 1)) := by
  simp only [run, recorded, recordAfter, replyAt, stateAfter_succ, List.append_assoc,
    List.replicate_succ']

/-- **A poll with its exact number of attempts.**  Its attempts are all the same action.  If the
reply to the attempt `n` is the first that satisfies the condition and the bound allows that
attempt, counting from zero, the poll ends with what that reply means, after `n + 1` attempts.  If
none of the replies that the bound allows does, it gives up after as many attempts as the bound,
and so without any if the bound is zero.  There is nothing else on record in either case. -/
structure PollsExactly (answers : (a : A) → σ → Reply a × σ) (a : A) (holds : Reply a → Bool)
    (meaning : Reply a → α) (e : ε) (limit : Nat) (p : Procedure Reply ε α) : Prop where
  found : ∀ s past n, n < limit → (∀ k < n, holds (replyAt answers a s k) = false) →
    holds (replyAt answers a s n) = true →
      p.run (recorded answers) (s, past) = .ok (.ok (meaning (replyAt answers a s n)))
        (stateAfter answers a s (n + 1), past ++ List.replicate (n + 1) a)
  missed : ∀ s past, (∀ k < limit, holds (replyAt answers a s k) = false) →
    p.run (recorded answers) (s, past) = .ok (.error e)
      (stateAfter answers a s limit, past ++ List.replicate limit a)

/-- **A poll of a single action is exact.** -/
theorem pollsExactly_pollUntil (answers : (a : A) → σ → Reply a × σ) (a : A)
    (holds : Reply a → Bool) (meaning : Reply a → α) (e : ε) (limit : Nat) :
    PollsExactly answers a holds meaning e limit
      (pollUntil e (act a fun reply => done (if holds reply then some (meaning reply) else none))
        limit) := by
  have hstart : ∀ s past, (s, past) = recordAfter answers a s past 0 := by
    intro s past
    rw [recordAfter, List.replicate_zero, List.append_nil]
    rfl
  refine ⟨fun s past n hn hbefore hfirst => ?_, fun s past hnever => ?_⟩
  · rw [hstart]
    refine run_pollUntil_of_found hn (fun k hk => ?_) ?_
    · rw [run_act_recorded, hbefore k hk]
      rfl
    · rw [run_act_recorded, hfirst]
      rfl
  · rw [hstart]
    refine run_pollUntil_of_missed fun k hk => ?_
    rw [run_act_recorded, hnever k hk]
    rfl

end Procedure

open Procedure

/-- **A bounded poll makes as many attempts as it takes, and no more than its bound.**  That is so
for a condition with a state of its own, whose only answer is that it has come to hold, and for a
register of any hardware, where every attempt is one read of that register, the result is what the
last of them returned, and nothing is written. -/
theorem bounded_polling {σ τ : Type} (r : Register) (limit : UInt32) (predicate : σ → Bool × σ)
    (hardware : (a : Access) → τ → a.Reply × τ) (condition : UInt32 → Bool) :
    PollsExactly (fun _ => predicate) Bench.Question.holds (fun yes => yes) (fun _ => ())
        ⟨r, limit⟩ limit.toNat (Bench.pollCondition r limit) ∧
      PollsExactly hardware (.read r) condition (fun value => value) ⟨r, limit⟩ limit.toNat
        (Sequence.waitUntil r limit condition) :=
  ⟨pollsExactly_pollUntil .., pollsExactly_pollUntil ..⟩

end Reclock
