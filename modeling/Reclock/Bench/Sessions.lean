/-
**Scripts on the barrier.**

The steps begin and end sessions, park the other cores and let them go, and send interrupts that
belong to no session.  A script may hold several sessions and tokens of parked cores, named by the
order in which they were made; a step that names none means the last.

Main definitions:

* `Reclock.Bench.Holdings` — the sessions and tokens made so far;
* `Reclock.Bench.SessionStep`, `SessionAnswer` — the steps and their answers;
* `Reclock.Bench.SessionStep.run` — what a step does in a system.
-/

import Reclock.Bench.Steps
import Reclock.System

set_option relaxedAutoImplicit false
set_option autoImplicit false

namespace Reclock

namespace Bench

/-! ### What a script holds -/

/-- Sessions and tokens in the order they were made; one that has been used up is `none`. -/
structure Holdings where
  /-- The sessions. -/
  sessions : List (Option Session) := []
  /-- The tokens of parked cores. -/
  tokens : List (Option Unit) := []

/-- The thing held at the position asked for, with that position.  Without one the last thing made
is meant: once that is used up there is nothing, even where an earlier one is still held. -/
def heldAt {α : Type} (things : List (Option α)) (asked : Option Nat) : Option (Nat × α) :=
  let i := asked.getD (things.length - 1)
  (things[i]?.join).map fun thing => (i, thing)

/-! ### Steps -/

/-- A step on the barrier. -/
inductive SessionStep
  /-- Begins a session. -/
  | start
  /-- Parks the online cores, in a session. -/
  | quiesce (core : Nat) (online : CoreMask) (session : Option Nat)
  /-- Lets the parked cores go. -/
  | release (token : Option Nat)
  /-- Ends a session with a new current point. -/
  | finish (current : FrequencyIndex) (session : Option Nat)
  /-- Ends a session without changing the current point. -/
  | cancel (session : Option Nat)
  /-- Forgets a session, which stays claimed. -/
  | dropSession (session : Option Nat)
  /-- Forgets a token, so that the cores stay parked. -/
  | dropToken (token : Option Nat)
  /-- Sends an interrupt of no session. -/
  | raise (online : CoreMask)
  /-- Does nothing. -/
  | look
  deriving DecidableEq

/-- What a step on the barrier answers. -/
inductive SessionAnswer
  /-- It did what it should. -/
  | done
  /-- A session began, with this current point. -/
  | began (current : FrequencyIndex)
  /-- It was refused. -/
  | refused (e : TransitionError)
  /-- There was nothing to do it with. -/
  | skipped
  deriving DecidableEq

variable {H : Type} [RegisterFile H]

/-- A system and what a script holds of it. -/
abbrev Held (H : Type) := System H × Holdings

/-- Runs an operation that has no result of its own, and goes on with other holdings. -/
def SessionStep.perform (p : Operation TransitionError Unit) (holdings : Holdings) (h : Held H) :
    EStateM.Result Halt (Held H) SessionAnswer :=
  match h.1.run p with
  | .ok (.ok _) s => .ok .done (s, holdings)
  | .ok (.error e) s => .ok (.refused e) (s, holdings)
  | .error halt s => .error halt (s, h.2)

/-- **What a step does.** -/
def SessionStep.run (step : SessionStep) (h : Held H) :
    EStateM.Result Halt (Held H) SessionAnswer :=
  let (s, holdings) := h
  let withoutSession (i : Nat) : Holdings :=
    { holdings with sessions := holdings.sessions.set i none }
  let withoutToken (i : Nat) : Holdings := { holdings with tokens := holdings.tokens.set i none }
  match step with
  | .start =>
      match s.run Session.begin with
      | .ok (.ok session) s' =>
          .ok (.began session.current)
            (s', { holdings with sessions := holdings.sessions ++ [some session] })
      | .ok (.error e) s' => .ok (.refused e) (s', holdings)
      | .error halt s' => .error halt (s', holdings)
  | .quiesce core online i =>
      match heldAt holdings.sessions i with
      | some _ =>
          perform (Operation.quiesce core online)
            { holdings with tokens := holdings.tokens ++ [some ()] } h
      | none => .ok .skipped h
  | .release i =>
      match heldAt holdings.tokens i with
      | some (i, _) => perform Operation.release (withoutToken i) h
      | none => .ok .skipped h
  | .finish current i =>
      match heldAt holdings.sessions i with
      | some (i, _) => perform (Session.finish current) (withoutSession i) h
      | none => .ok .skipped h
  | .cancel i =>
      match heldAt holdings.sessions i with
      | some (i, session) => perform session.cancel (withoutSession i) h
      | none => .ok .skipped h
  | .dropSession i =>
      match heldAt holdings.sessions i with
      | some (i, _) => .ok .done (s, withoutSession i)
      | none => .ok .done h
  | .dropToken i =>
      match heldAt holdings.tokens i with
      | some (i, _) => .ok .done (s, withoutToken i)
      | none => .ok .done h
  | .raise online =>
      match s.raise online with
      | .ok s' => .ok .done (s'.settle, holdings)
      | .error f => .error (.fault f) h
  | .look => .ok .done h

end Bench

end Reclock
