/-
**What the record of a system says.**

The record lists what every operation has done.  From it one reads off which operations accessed
registers, and in which order; that an operation made the actions that its stage stands for; and
whether the subsystem has been powered up again since it was last powered down.

Main definitions:

* `Reclock.Cluster.accesses` — the operations that accessed registers, the latest first;
* `Reclock.Parking.letting` — the actions by which an operation has let the parked cores go;
* `Reclock.Suspended` — **the subsystem is off, or on its way up by one operation**;
* `Reclock.Cluster.Numbered` — what the numbers of the operations say.

Main results:

* `Reclock.Stage.letting_after` — an action is on the list once it is made;
* `Reclock.Suspended.acted` — what may be done without ending a suspension;
* `Reclock.Cluster.Numbered.turn` — every move keeps the numbers.
-/

import Reclock.Proofs.Custody

set_option relaxedAutoImplicit false
set_option autoImplicit false

namespace Reclock

/-! ### Register accesses and releases -/

/-- The number of an operation, if what it did is a register access. -/
def Deed.access? {Call : Type} (d : Deed Call) : Option Nat :=
  match d.what with
  | .acted (.access _) => some d.id
  | _ => none

/-- The operations that made the register accesses on record, the latest first. -/
def Cluster.accesses {n : Nat} {Call : Type} (s : Cluster n Call) : List Nat :=
  s.history.filterMap Deed.access?

/-- The actions by which an operation has let the parked cores go. -/
def Parking.letting : Parking → List Action
  | .advanced => [.barrier .advanceEpoch]
  | .dropped => [.barrier .unhold, .barrier .advanceEpoch]
  | .released => [.signal .event, .barrier .unhold, .barrier .advanceEpoch]
  | _ => []

/-- An action of letting go is on the list once it is made, and not before. -/
theorem Stage.letting_after {b : Brief} {s : Stage} {a : Action} (ha : s.Allows b a) (r : a.Reply) :
    ∀ x ∈ (s.after a r).parking.letting, x = a ∨ x ∈ s.parking.letting := by
  intro x hx
  cases a with
  | signal a =>
      cases a with
      | interrupt targets => cases hx
      | event =>
          rw [ha.2]
          exact List.mem_cons.1 hx
      | flush => exact Or.inr hx
  | barrier a =>
      cases a with
      | claim => cases r <;> exact Or.inr hx
      | readCurrent =>
          simp only [Stage.after] at hx
          split at hx <;> exact Or.inr hx
      | clearArrived => cases hx
      | hold => cases hx
      | awaitArrival cores => cases hx
      | advanceEpoch => exact Or.inl (List.mem_singleton.1 hx)
      | unhold =>
          rw [ha.2]
          exact List.mem_cons.1 hx
      | _ => exact Or.inr hx
  | retention a =>
      rw [(Stage.after_retention s a r).2] at hx
      exact Or.inr hx
  | abort a => cases r
  | _ => exact Or.inr hx

/-- No action takes an operation back to before its claim. -/
theorem Stage.outside_of_after {s : Stage} {a : Action} {r : a.Reply}
    (h : (s.after a r).tenure = .outside) : s.tenure = .outside := by
  cases a with
  | signal a => cases a <;> exact h
  | barrier a =>
      cases a with
      | claim =>
          cases r with
          | false => exact h
          | true => cases h
      | unclaim => cases h
      | readCurrent =>
          simp only [Stage.after] at h
          split at h
          · cases h
          · exact h
      | writeCurrent index => cases h
      | _ => exact h
  | retention a =>
      rw [(Stage.after_retention s a r).1] at h
      exact h
  | abort a => cases r
  | _ => exact h

/-! ### Suspension -/

section Suspension

variable {n : Nat} {Call : Type} {purpose : Call → Purpose} {id : Nat}

/-- **The subsystem is off, or on its way up by one operation**: an operation has powered it down,
and since then none has powered it up and only that one has accessed registers. -/
inductive Suspended (purpose : Call → Purpose) (id : Nat) : List (Deed Call) → Prop
  | entered {d : Deed Call} {history : List (Deed Call)} (hpurpose : purpose d.call = .powersDown)
      (hwhat : d.what = .returned (.ok ())) : Suspended purpose id (d :: history)
  | later {d : Deed Call} {history : List (Deed Call)} (h : Suspended purpose id history)
      (haccess : d.access? = none ∨ d.access? = some id)
      (hactive : d.what ≠ .acted (.retention (.writeState .active))) :
      Suspended purpose id (d :: history)

namespace Cluster

variable {s : Cluster n Call} {core : Fin n} {t : Task Call}

/-- The record after an operation has gone on: its end, if this is the end. -/
theorem resume_history (s : Cluster n Call) (core : Fin n) (t : Task Call) :
    (s.resume core t).history = s.history ∨
      ∃ result, (s.resume core t).history = ⟨t.id, t.call, .returned result⟩ :: s.history := by
  unfold resume
  split
  · exact Or.inr ⟨_, rfl⟩
  · exact Or.inr ⟨_, rfl⟩
  · exact Or.inl rfl

theorem mem_resume_history {d : Deed Call} (h : d ∈ s.history) :
    d ∈ (s.resume core t).history := by
  rcases resume_history s core t with heq | ⟨result, heq⟩
  · rwa [heq]
  · rw [heq]
    exact List.mem_cons_of_mem _ h

/-- The end of an operation is no register access. -/
@[simp] theorem accesses_resume (s : Cluster n Call) (core : Fin n) (t : Task Call) :
    (s.resume core t).accesses = s.accesses := by
  unfold accesses
  rcases resume_history s core t with heq | ⟨result, heq⟩
  · rw [heq]
  · rw [heq]
    rfl

/-- The end of an operation ends no suspension. -/
theorem suspended_resume (core : Fin n) (t : Task Call) (h : Suspended purpose id s.history) :
    Suspended purpose id (s.resume core t).history := by
  rcases resume_history s core t with heq | ⟨result, heq⟩
  · rwa [heq]
  · rw [heq]
    exact h.later (Or.inl rfl) nofun

/-- **An action that is no register access and no power-up ends no suspension.** -/
theorem suspended_record {a : Action} (h : Suspended purpose id s.history)
    (haccess : (∀ x, a ≠ .access x) ∨ t.id = id) (hactive : a ≠ .retention (.writeState .active)) :
    Suspended purpose id (s.record t a).history := by
  refine h.later ?_ ?_
  · rcases haccess with hnone | hid
    · left
      cases a with
      | access x => exact absurd rfl (hnone x)
      | _ => rfl
    · cases a with
      | access x => exact Or.inr (congrArg some hid)
      | _ => exact Or.inl rfl
  · intro heq
    cases heq
    exact hactive rfl

end Cluster

end Suspension

/-! ### Numbers -/

namespace Cluster

variable {n : Nat} {Call : Type} {w : Workload n Call} {s s' : Cluster n Call} {m : Move n Call}
  {g g' : Holder n Call}

/-- **What the numbers of the operations say.** -/
structure Numbered (s : Cluster n Call) : Prop where
  /-- Numbers are given in order. -/
  begun : ∀ i t, s.tasks i = some t → t.id < s.begun
  /-- No two operations have the same one. -/
  distinct : ∀ i j t u, s.tasks i = some t → s.tasks j = some u → t.id = u.id → i = j
  /-- Only operations that were begun have accessed registers. -/
  past : ∀ id ∈ s.accesses, id < s.begun
  /-- An operation that has not been granted the session has accessed none. -/
  untouched : ∀ i t, s.tasks i = some t → t.stage.tenure = .outside → t.id ∉ s.accesses
  /-- An operation has made the actions by which it has let the parked cores go. -/
  let_go : ∀ i t, s.tasks i = some t → ∀ a ∈ t.stage.parking.letting,
    (⟨t.id, t.call, .acted a⟩ : Deed Call) ∈ s.history

theorem numbered_start (n : Nat) (Call : Type) (current : FrequencyIndex) (snapshot : Snapshot) :
    (start n Call current snapshot).Numbered where
  begun _ _ ht := nomatch ht
  distinct _ _ _ _ ht := nomatch ht
  past _ hid := absurd hid List.not_mem_nil
  untouched _ _ ht := nomatch ht
  let_go _ _ ht := nomatch ht

/-- The register accesses on record after an action. -/
theorem accesses_of_act {value : UInt32} {a : Action} {r : a.Reply} {s₁ : Cluster n Call}
    (core : Fin n) (t t' : Task Call) (hperform : s.perform value a = some (r, s₁)) :
    ((∀ x, a ≠ .access x) ∧ ((s₁.record t a).resume core t').accesses = s.accesses) ∨
      ((∃ x, a = .access x) ∧ ((s₁.record t a).resume core t').accesses = t.id :: s.accesses) := by
  have hhistory := (perform_frame hperform).2.2
  rw [accesses_resume]
  simp only [accesses, record, hhistory]
  cases a with
  | access x => exact Or.inr ⟨⟨x, rfl⟩, rfl⟩
  | _ => exact Or.inl ⟨(by simp), rfl⟩

theorem Numbered.begin {core : Fin n} {call : Call} (h : s.Numbered) :
    (s.launch w core call).Numbered := by
  have haccesses : (s.launch w core call).accesses = s.accesses := accesses_resume ..
  have hbegun : (s.launch w core call).begun = s.begun + 1 := resume_begun ..
  constructor
  case begun =>
    intro i t ht
    rw [hbegun]
    rcases of_resume_tasks ht with ⟨-, rfl, -⟩ | ⟨-, ht⟩
    · exact Nat.lt_succ_self _
    · exact Nat.lt_succ_of_lt (h.begun i t ht)
  case distinct =>
    intro i j t u ht hu hid
    rcases of_resume_tasks ht with ⟨rfl, rfl, -⟩ | ⟨-, ht'⟩ <;>
      rcases of_resume_tasks hu with ⟨rfl, rfl, -⟩ | ⟨-, hu'⟩
    · rfl
    · exact absurd hid (h.begun j u hu').ne'
    · exact absurd hid (h.begun i t ht').ne
    · exact h.distinct i j t u ht' hu' hid
  case past =>
    intro id hid
    rw [hbegun]
    rw [haccesses] at hid
    exact Nat.lt_succ_of_lt (h.past id hid)
  case untouched =>
    intro i t ht houtside
    rw [haccesses]
    rcases of_resume_tasks ht with ⟨-, rfl, -⟩ | ⟨-, ht⟩
    · exact fun hid => (h.past _ hid).ne rfl
    · exact h.untouched i t ht houtside
  case let_go =>
    intro i t ht a ha
    rcases of_resume_tasks ht with ⟨-, rfl, -⟩ | ⟨-, ht⟩
    · cases ha
    · exact mem_resume_history (h.let_go i t ht a ha)

theorem Numbered.act {core : Fin n} {value : UInt32} {t : Task Call} {a : Action}
    {rest : a.Reply → Operation TransitionError Unit} {r : a.Reply} {s₁ : Cluster n Call}
    (h : s.Numbered) (hcustody : Custody w s g) (htask : s.tasks core = some t)
    (hrest : t.rest = .act a rest) (hperform : s.perform value a = some (r, s₁)) :
    ((s₁.record t a).resume core (next t a r (rest r))).Numbered := by
  have hallows := hcustody.allows htask hrest
  obtain ⟨-, hbegun, hhistory⟩ := perform_frame hperform
  have hunder : ∀ i u, ((s₁.record t a).resume core (next t a r (rest r))).tasks i = some u →
      (i = core ∧ u = next t a r (rest r)) ∨ (i ≠ core ∧ s.tasks i = some u) := fun i u hu =>
    (of_act_tasks hperform hu).imp_left fun ⟨hi, hnext, _⟩ => ⟨hi, hnext⟩
  have hcount : ((s₁.record t a).resume core (next t a r (rest r))).begun = s.begun := by
    rw [resume_begun, record, hbegun]
  have haccesses := accesses_of_act core t (next t a r (rest r)) hperform
  constructor
  case begun =>
    intro i u hu
    rw [hcount]
    rcases hunder i u hu with ⟨rfl, rfl⟩ | ⟨-, hu⟩
    · exact h.begun i t htask
    · exact h.begun i u hu
  case distinct =>
    intro i j u v hu hv hid
    rcases hunder i u hu with ⟨rfl, rfl⟩ | ⟨-, hu'⟩ <;>
      rcases hunder j v hv with ⟨rfl, rfl⟩ | ⟨-, hv'⟩
    · rfl
    · exact h.distinct i j t v htask hv' hid
    · exact h.distinct i j u t hu' htask hid
    · exact h.distinct i j u v hu' hv' hid
  case past =>
    intro id hid
    rw [hcount]
    rcases haccesses with ⟨-, heq⟩ | ⟨-, heq⟩
    · rw [heq] at hid
      exact h.past id hid
    · rw [heq] at hid
      rcases List.mem_cons.1 hid with rfl | hid
      · exact h.begun core t htask
      · exact h.past id hid
  case untouched =>
    intro i u hu houtside
    rcases haccesses with ⟨-, heq⟩ | ⟨⟨x, rfl⟩, heq⟩
    · rw [heq]
      rcases hunder i u hu with ⟨rfl, rfl⟩ | ⟨-, hu⟩
      · exact h.untouched i t htask (Stage.outside_of_after houtside)
      · exact h.untouched i u hu houtside
    · rw [heq]
      rcases hunder i u hu with ⟨rfl, rfl⟩ | ⟨hi, hu⟩
      · -- An operation that accesses registers holds the session.
        obtain ⟨current, htenure⟩ := hallows.1
        rw [show (next t (.access x) r (rest r)).stage.tenure = t.stage.tenure from rfl,
          htenure] at houtside
        cases houtside
      · intro hid
        rcases List.mem_cons.1 hid with hid | hid
        · exact hi (h.distinct i core u t hu htask hid)
        · exact h.untouched i u hu houtside hid
  case let_go =>
    intro i u hu x hx
    have hrecord : ∀ d ∈ s.history, d ∈ (s₁.record t a).history := fun d hd =>
      List.mem_cons_of_mem _ (hhistory ▸ hd)
    rcases hunder i u hu with ⟨rfl, rfl⟩ | ⟨-, hu⟩
    · rcases Stage.letting_after hallows r x hx with rfl | hx
      · exact mem_resume_history (List.mem_cons_self ..)
      · exact mem_resume_history (hrecord _ (h.let_go i t htask x hx))
    · exact mem_resume_history (hrecord _ (h.let_go i u hu x hx))

/-- **Every move keeps the numbers.** -/
theorem Numbered.turn (h : s.Numbered) (hcustody : Custody w s g) (hturn : Turn w s g m s' g') :
    s'.Numbered := by
  cases hturn with
  | begin htask hphase => exact h.begin
  | act htask hrest hperform => exact h.act hcustody htask hrest hperform
  | respond htask hanswer => exact ⟨h.begun, h.distinct, h.past, h.untouched, h.let_go⟩
  | disturb => exact ⟨h.begun, h.distinct, h.past, h.untouched, h.let_go⟩

end Cluster

end Reclock
