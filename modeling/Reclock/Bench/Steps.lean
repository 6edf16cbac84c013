/-
**Scripts of steps.**

A bench drives a part of the library step by step and tells what each step answered.  A step that
halts is the last one, or, where a script goes on, leaves things as the halt left them.

Main definitions:

* `Reclock.Bench.runSteps` — a script that ends with the first step that halts;
* `Reclock.Bench.runAllSteps` — a script that goes on after a halt.
-/

import Reclock.Fault

set_option relaxedAutoImplicit false
set_option autoImplicit false

namespace Reclock

namespace Bench

variable {σ β α : Type}

/-- **Runs steps until one halts**, which is the last to be answered. -/
def runSteps (step : β → σ → EStateM.Result Halt σ α) : List β → σ → List (Except Halt α) × σ
  | [], s => ([], s)
  | b :: bs, s =>
      match step b s with
      | .ok a s' =>
          let (answers, last) := runSteps step bs s'
          (.ok a :: answers, last)
      | .error halt s' => ([.error halt], s')

/-- Runs all steps, each from the state that the one before left. -/
def runAllSteps (step : β → σ → EStateM.Result Halt σ α) : List β → σ → List (Except Halt α) × σ
  | [], s => ([], s)
  | b :: bs, s =>
      match step b s with
      | .ok a s' =>
          let (answers, last) := runAllSteps step bs s'
          (.ok a :: answers, last)
      | .error halt s' =>
          let (answers, last) := runAllSteps step bs s'
          (.error halt :: answers, last)

end Bench

end Reclock
