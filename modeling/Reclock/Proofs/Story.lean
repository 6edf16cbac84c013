/-
**What each operation of a system has done.**

The record of a system tells the actions of all operations in the order in which they were made.
Here it is taken apart again into one story for each operation.  The story of an operation under
way is where the monitor of its log records stands, and the story of one that has ended is what that
monitor asks of its end.

Main definitions:

* `Reclock.Cluster.actions` — **what an operation has done**, in order;
* `Reclock.Cluster.since` — what has been recorded between two systems;
* `Reclock.Cluster.Told` — **the stories of a system keep to the monitor**.

Main results:

* `Reclock.Cluster.actions_of_append` — a later story goes on where an earlier one stopped;
* `Reclock.Cluster.Turn.news`, `Reclock.Cluster.Turn.under` — what a move puts on record, and who is
  under way after it;
* `Reclock.Cluster.Told.turn` — every move keeps the stories to the monitor.
-/

import Reclock.Proofs.LogOrder
import Reclock.Proofs.Record

set_option relaxedAutoImplicit false
set_option autoImplicit false

namespace Reclock

/-! ### Stories -/

section Stories

variable {Call : Type}

/-- The action, if that is what an operation did. -/
def Deed.action? (d : Deed Call) : Option Action :=
  match d.what with
  | .acted a => some a
  | .returned _ => none

@[simp] theorem Deed.action?_acted (id : Nat) (call : Call) (a : Action) :
    (⟨id, call, .acted a⟩ : Deed Call).action? = some a := rfl

@[simp] theorem Deed.action?_returned (id : Nat) (call : Call)
    (result : Except TransitionError Unit) :
    (⟨id, call, .returned result⟩ : Deed Call).action? = none := rfl

/-- Whether what an operation did is to emit a log record. -/
def Deed.isLog (d : Deed Call) : Bool := d.action?.any Action.isLog

theorem Deed.isLog_iff {d : Deed Call} :
    d.isLog = true ↔ ∃ record, d.what = .acted (.log record) := by
  obtain ⟨id, call, what⟩ := d
  constructor
  · intro h
    cases what with
    | acted a =>
        cases a with
        | log record => exact ⟨record, rfl⟩
        | _ => cases h
    | returned result => cases h
  · rintro ⟨record, rfl⟩
    rfl

/-- The actions of one operation on a record that has the latest first, in order. -/
def actionsOf (history : List (Deed Call)) (id : Nat) : List Action :=
  ((history.filter fun d => d.id = id).filterMap Deed.action?).reverse

theorem actionsOf_acted (history : List (Deed Call)) (id : Nat) (call : Call) (a : Action)
    (other : Nat) : actionsOf (⟨id, call, .acted a⟩ :: history) other =
      if id = other then actionsOf history other ++ [a] else actionsOf history other := by
  by_cases h : id = other <;> simp [actionsOf, h]

theorem actionsOf_returned (history : List (Deed Call)) (id : Nat) (call : Call)
    (result : Except TransitionError Unit) (other : Nat) :
    actionsOf (⟨id, call, .returned result⟩ :: history) other = actionsOf history other := by
  by_cases h : id = other <;> simp [actionsOf, h, List.filterMap_cons]

theorem actionsOf_append (later earlier : List (Deed Call)) (id : Nat) :
    actionsOf (later ++ earlier) id = actionsOf earlier id ++ actionsOf later id := by
  simp [actionsOf]

theorem mem_actionsOf {history : List (Deed Call)} {id : Nat} {a : Action} :
    a ∈ actionsOf history id ↔ ∃ d ∈ history, d.id = id ∧ d.what = .acted a := by
  unfold actionsOf
  rw [List.mem_reverse, List.mem_filterMap]
  constructor
  · rintro ⟨d, hd, haction⟩
    obtain ⟨hmem, hid⟩ := List.mem_filter.1 hd
    refine ⟨d, hmem, by simpa using hid, ?_⟩
    unfold Deed.action? at haction
    split at haction
    case h_1 heq => rw [heq, Option.some.inj haction]
    case h_2 => cases haction
  · rintro ⟨d, hmem, hid, hwhat⟩
    exact ⟨d, List.mem_filter.2 ⟨hmem, by simpa using hid⟩, by simp [Deed.action?, hwhat]⟩

end Stories

namespace Cluster

variable {n : Nat} {Call : Type}

/-- **What an operation has done so far**, in order. -/
def actions (s : Cluster n Call) (id : Nat) : List Action := actionsOf s.history id

/-- What has been recorded since an earlier system, the latest first. -/
def since (earlier s : Cluster n Call) : List (Deed Call) :=
  s.history.take (s.history.length - earlier.history.length)

theorem since_of_history {earlier s : Cluster n Call} {news : List (Deed Call)}
    (h : s.history = news ++ earlier.history) : earlier.since s = news := by
  rw [since, h, List.length_append, Nat.add_sub_cancel, List.take_left']
  rfl

/-- A later story goes on where an earlier one stopped. -/
theorem actions_of_append {earlier s : Cluster n Call} {news : List (Deed Call)}
    (h : s.history = news ++ earlier.history) (id : Nat) :
    s.actions id = earlier.actions id ++ actionsOf news id := by
  rw [actions, h, actionsOf_append]
  rfl

/-- An operation that has engaged has reported once a log record of its own comes on top. -/
theorem spoken_of_news {earlier s : Cluster n Call} {news : List (Deed Call)} {d : Deed Call}
    (h : s.history = news ++ earlier.history) (hengaged : Engaged (earlier.actions d.id))
    (hd : d ∈ news) (hlog : d.isLog = true) : Spoken (s.actions d.id) := by
  obtain ⟨record, hwhat⟩ := Deed.isLog_iff.1 hlog
  obtain ⟨before, after, hsplit⟩ := List.append_of_mem (mem_actionsOf.2 ⟨d, hd, rfl, hwhat⟩)
  rw [actions_of_append h, hsplit, ← List.append_assoc]
  exact ⟨_, record, after, rfl, hengaged.append before⟩

/-! ### What a move puts on record -/

section Moves

variable {w : Workload n Call} {s s' : Cluster n Call} {m : Move n Call} {g g' : Holder n Call}

/-- An operation that goes on puts at most its end on record. -/
theorem resume_news (s : Cluster n Call) (core : Fin n) (t : Task Call) :
    ∃ ends, (s.resume core t).history = ends ++ s.history ∧ ∀ d ∈ ends, d.isLog = false := by
  rcases resume_history s core t with heq | ⟨result, heq⟩
  · exact ⟨[], heq, nofun⟩
  · refine ⟨[⟨t.id, t.call, .returned result⟩], heq, fun d hd => ?_⟩
    rw [List.mem_singleton.1 hd]
    rfl

/-- **What a move puts on record** comes on top of what is there: the action of an operation, if one
makes an action with the move, and no log record but that. -/
theorem Turn.news (h : Turn w s g m s' g') :
    ∃ news, s'.history = news ++ s.history ∧
      (∀ core value t a rest, m = .act core value → s.tasks core = some t → t.rest = .act a rest →
        ⟨t.id, t.call, .acted a⟩ ∈ news) ∧
      ∀ d ∈ news, d.isLog = true → ∃ core value t a rest, m = .act core value ∧
        s.tasks core = some t ∧ t.rest = .act a rest ∧ a.isLog = true ∧ d.id = t.id := by
  cases h with
  | @begin core call htask hphase =>
      obtain ⟨ends, heq, hends⟩ := resume_news { s with begun := s.begun + 1 } core
        ⟨s.begun, call, {}, w.program call core⟩
      refine ⟨ends, heq, by rintro _ _ _ _ _ ⟨⟩, fun d hd hlog => ?_⟩
      cases (hends d hd).symm.trans hlog
  | @act core value t a rest r s₁ htask hrest hperform =>
      obtain ⟨ends, heq, hends⟩ := resume_news (s₁.record t a) core (next t a r (rest r))
      refine ⟨ends ++ [⟨t.id, t.call, .acted a⟩], ?_, ?_, fun d hd hlog => ?_⟩
      · rw [heq, record, (perform_frame hperform).2.2, List.append_assoc]
        rfl
      · rintro k v u b next ⟨⟩ hu hnext
        cases htask.symm.trans hu
        cases hrest.symm.trans hnext
        exact List.mem_append_right _ (List.mem_singleton_self _)
      · rcases List.mem_append.1 hd with hd | hd
        · cases (hends d hd).symm.trans hlog
        · obtain rfl := List.mem_singleton.1 hd
          exact ⟨core, value, t, a, rest, rfl, htask, hrest, hlog, rfl⟩
  | respond htask hanswer => exact ⟨[], rfl, by rintro _ _ _ _ _ ⟨⟩, List.forall_mem_nil _⟩
  | disturb => exact ⟨[], rfl, by rintro _ _ _ _ _ ⟨⟩, List.forall_mem_nil _⟩

/-- A move by which an operation makes an action other than a log record puts the action on record,
and no log record. -/
theorem Turn.quiet {core : Fin n} {value : UInt32} {t : Task Call} {a : Action}
    {rest : a.Reply → Operation TransitionError Unit} (h : Turn w s g (.act core value) s' g')
    (htask : s.tasks core = some t) (hrest : t.rest = .act a rest) (hquiet : a.isLog = false) :
    ∃ news, s'.history = news ++ s.history ∧ ⟨t.id, t.call, .acted a⟩ ∈ news ∧
      ∀ d ∈ news, d.isLog = false := by
  obtain ⟨news, hhistory, hmade, hlogs⟩ := h.news
  refine ⟨news, hhistory, hmade core value t a rest rfl htask hrest, fun d hd => ?_⟩
  by_contra hlog
  obtain ⟨k, v, u, b, next, hmove, hu, hnext, hblog, -⟩ := hlogs d hd (by simpa using hlog)
  cases hmove
  cases htask.symm.trans hu
  cases hrest.symm.trans hnext
  cases hquiet.symm.trans hblog

/-- The number of operations does not fall. -/
theorem Turn.begun_le (h : Turn w s g m s' g') : s.begun ≤ s'.begun := by
  cases h with
  | begin htask hphase =>
      rw [launch, resume_begun]
      exact Nat.le_succ _
  | act htask hrest hperform =>
      rw [resume_begun, record, (perform_frame hperform).2.1]
  | respond htask hanswer => exact le_rfl
  | disturb => exact le_rfl

/-- **Who is under way after a move**: somebody who was before, an operation that has just begun, or
the one that has made an action. -/
theorem Turn.under (h : Turn w s g m s' g') {i : Fin n} {u : Task Call}
    (hu : s'.tasks i = some u) :
    (s.tasks i = some u ∧ ∀ value, m ≠ .act i value) ∨
      (∃ call, m = .begin i call ∧ s.tasks i = none ∧
        u = ⟨s.begun, call, {}, w.program call i⟩) ∨
      ∃ value t a rest r, ∃ s₁ : Cluster n Call, m = .act i value ∧ s.tasks i = some t ∧
        t.rest = .act a rest ∧ s.perform value a = some (r, s₁) ∧ u = next t a r (rest r) := by
  cases h with
  | begin htask hphase =>
      rcases of_resume_tasks hu with ⟨rfl, rfl, -⟩ | ⟨-, hu⟩
      · exact Or.inr (Or.inl ⟨_, rfl, htask, rfl⟩)
      · exact Or.inl ⟨hu, by rintro _ ⟨⟩⟩
  | act htask hrest hperform =>
      rcases of_act_tasks hperform hu with ⟨rfl, rfl, -⟩ | ⟨hi, hu⟩
      · exact Or.inr (Or.inr ⟨_, _, _, _, _, _, rfl, htask, hrest, hperform, rfl⟩)
      · refine Or.inl ⟨hu, ?_⟩
        rintro value ⟨⟩
        exact hi rfl
  | respond htask hanswer => exact Or.inl ⟨hu, by rintro _ ⟨⟩⟩
  | disturb => exact Or.inl ⟨hu, by rintro _ ⟨⟩⟩

/-- **How an operation is found after a move**: on the same core, and unless it was that core that
made an action, as it was. -/
theorem Turn.same (h : Turn w s g m s' g') (hnumbered : s.Numbered) {core i : Fin n}
    {u v : Task Call} (hu : s.tasks core = some u) (hv : s'.tasks i = some v) (hid : v.id = u.id) :
    i = core ∧ ((v = u ∧ ∀ value, m ≠ .act core value) ∨
      ∃ value a rest r, ∃ s₁ : Cluster n Call, m = .act core value ∧ u.rest = .act a rest ∧
        s.perform value a = some (r, s₁) ∧ v = next u a r (rest r)) := by
  rcases h.under hv with ⟨hv, hact⟩ | ⟨call, rfl, hfree, rfl⟩ |
    ⟨value, t, a, rest, r, s₁, rfl, ht, hrest, hperform, rfl⟩
  · cases hnumbered.distinct i core v u hv hu hid
    cases hv.symm.trans hu
    exact ⟨rfl, Or.inl ⟨rfl, hact⟩⟩
  · exact absurd hid (hnumbered.begun core u hu).ne'
  · cases hnumbered.distinct i core t u ht hu hid
    cases ht.symm.trans hu
    exact ⟨rfl, Or.inr ⟨value, a, rest, r, s₁, rfl, hrest, hperform, rfl⟩⟩

end Moves

/-! ### The stories of a system -/

variable {c : Controller} {s s' : Cluster c.coreCount Request} {m : Move c.coreCount Request}
  {g g' : Holder c.coreCount Request} {core : Fin c.coreCount} {t : Task Request}

/-- **The stories of a system keep to the monitor of log records.** -/
structure Told (c : Controller) (s : Cluster c.coreCount Request) : Prop where
  /-- Only operations that were begun have done anything. -/
  begun : ∀ d ∈ s.history, d.id < s.begun
  /-- An operation carries out one call. -/
  call : ∀ i t, s.tasks i = some t → ∀ d ∈ s.history, d.id = t.id → d.call = t.call
  /-- What is left of an operation goes on from its story. -/
  going : ∀ i t, s.tasks i = some t →
    t.rest.Keeps (reticence i) (t.stage, s.actions t.id) (c.Departs t.call.purpose)
  /-- Nobody goes on after a report. -/
  discreet : ∀ id, Discreet (s.actions id)
  /-- An operation that has ended is not under way, and came to its end as it should. -/
  ended : ∀ d ∈ s.history, ∀ result, d.what = .returned result →
    (∀ i t, s.tasks i = some t → t.id ≠ d.id) ∧
      Concludes c.config d.call.purpose result (s.actions d.id)

theorem told_start (c : Controller) (current : FrequencyIndex) (snapshot : Snapshot) :
    Told c (start c.coreCount Request current snapshot) where
  begun _ hd := nomatch hd
  call _ _ ht := nomatch ht
  going _ _ ht := nomatch ht
  discreet _ := discreet_nil
  ended _ hd := nomatch hd

/-- A system in which a core is at a point of an operation, whether or not anything is left. -/
def withTask (s : Cluster n Call) (core : Fin n) (t : Task Call) : Cluster n Call :=
  { s with tasks := Function.update s.tasks core (some t) }

theorem of_withTask {s : Cluster n Call} {core i : Fin n} {t u : Task Call}
    (h : (s.withTask core t).tasks i = some u) :
    (i = core ∧ u = t) ∨ (i ≠ core ∧ s.tasks i = some u) := by
  by_cases hi : i = core
  · subst hi
    exact Or.inl ⟨rfl, by simpa [withTask, eq_comm] using h⟩
  · exact Or.inr ⟨hi, by simpa [withTask, hi] using h⟩

theorem Told.leave (h : Told c (s.withTask core t)) (hbegun : t.id < s.begun)
    (hdistinct : ∀ i u, i ≠ core → s.tasks i = some u → u.id ≠ t.id)
    {result : Except TransitionError Unit}
    (hend : ∀ x Q, t.rest.Keeps (reticence core) x Q → Q result x) :
    Told c (s.leave core t result) := by
  have hunder : ∀ i u, (s.leave core t result).tasks i = some u →
      i ≠ core ∧ s.tasks i = some u := by
    intro i u hu
    by_cases hi : i = core
    · subst hi
      simp [Cluster.leave] at hu
    · exact ⟨hi, by simpa [Cluster.leave, hi] using hu⟩
  have hat : ∀ i u, i ≠ core → s.tasks i = some u → (s.withTask core t).tasks i = some u := by
    intro i u hi hu
    simpa [withTask, hi] using hu
  have hself : (s.withTask core t).tasks core = some t := by simp [withTask]
  have hactions : ∀ id, (s.leave core t result).actions id = s.actions id :=
    actionsOf_returned s.history t.id t.call result
  constructor
  case begun =>
    intro d hd
    rcases List.mem_cons.1 hd with rfl | hd
    · exact hbegun
    · exact h.begun d hd
  case call =>
    intro i u hu d hd hid
    obtain ⟨hi, hu⟩ := hunder i u hu
    rcases List.mem_cons.1 hd with rfl | hd
    · exact absurd hid.symm (hdistinct i u hi hu)
    · exact h.call i u (hat i u hi hu) d hd hid
  case going =>
    intro i u hu
    obtain ⟨hi, hu⟩ := hunder i u hu
    rw [hactions]
    exact h.going i u (hat i u hi hu)
  case discreet =>
    intro id
    rw [hactions]
    exact h.discreet id
  case ended =>
    intro d hd other hwhat
    rw [hactions]
    rcases List.mem_cons.1 hd with rfl | hd
    · cases hwhat
      refine ⟨fun i u hu => ?_, hend _ _ (h.going core t hself)⟩
      obtain ⟨hi, hu⟩ := hunder i u hu
      exact hdistinct i u hi hu
    · obtain ⟨hgone, hconcludes⟩ := h.ended d hd other hwhat
      refine ⟨fun i u hu => ?_, hconcludes⟩
      obtain ⟨hi, hu⟩ := hunder i u hu
      exact hgone i u (hat i u hi hu)

/-- An operation goes on, or ends if nothing is left of it. -/
theorem Told.resume (h : Told c (s.withTask core t)) (hbegun : t.id < s.begun)
    (hdistinct : ∀ i u, i ≠ core → s.tasks i = some u → u.id ≠ t.id) :
    Told c (s.resume core t) := by
  unfold Cluster.resume
  split
  case h_1 result hrest =>
    exact h.leave hbegun hdistinct fun x Q hkeeps => by rwa [hrest] at hkeeps
  case h_2 e hrest =>
    exact h.leave hbegun hdistinct fun x Q hkeeps => by rwa [hrest] at hkeeps
  case h_3 => exact h

theorem Told.begin {call : Request} (h : Told c s) (hnumbered : s.Numbered) :
    Told c (s.launch c.workload core call) := by
  have hunborn : s.actions s.begun = [] := by
    refine List.eq_nil_iff_forall_not_mem.2 fun a ha => ?_
    obtain ⟨d, hd, hid, -⟩ := mem_actionsOf.1 ha
    exact (h.begun d hd).ne hid
  refine Told.resume ?_ (Nat.lt_succ_self _) fun i u _ hu => (hnumbered.begun i u hu).ne
  constructor
  case begun => exact fun d hd => Nat.lt_succ_of_lt (h.begun d hd)
  case call =>
    intro i u hu d hd hid
    rcases of_withTask hu with ⟨-, rfl⟩ | ⟨-, hu⟩
    · exact absurd hid (h.begun d hd).ne
    · exact h.call i u hu d hd hid
  case going =>
    intro i u hu
    rcases of_withTask hu with ⟨rfl, rfl⟩ | ⟨-, hu⟩
    · have hkeeps := c.operation_reticent i call
      rwa [← hunborn] at hkeeps
    · exact h.going i u hu
  case discreet => exact h.discreet
  case ended =>
    intro d hd result hwhat
    obtain ⟨hgone, hconcludes⟩ := h.ended d hd result hwhat
    refine ⟨fun i u hu => ?_, hconcludes⟩
    rcases of_withTask hu with ⟨-, rfl⟩ | ⟨-, hu⟩
    · exact (h.begun d hd).ne'
    · exact hgone i u hu

/-- What an operation does next is what the monitor permits. -/
theorem Told.permits {a : Action} {rest : a.Reply → Operation TransitionError Unit} (h : Told c s)
    (htask : s.tasks core = some t) (hrest : t.rest = .act a rest) :
    Permits core t.stage (s.actions t.id) a := by
  have hkeeps := h.going core t htask
  rw [hrest] at hkeeps
  exact hkeeps.1

/-- An action that is put on record goes on with the story of its operation, and with no other. -/
theorem actions_record {s s₁ : Cluster n Call} {t : Task Call} {value : UInt32} {a : Action}
    {r : a.Reply} (hperform : s.perform value a = some (r, s₁)) (id : Nat) :
    (s₁.record t a).actions id =
      if t.id = id then s.actions id ++ [a] else s.actions id := by
  rw [actions, record, (perform_frame hperform).2.2]
  exact actionsOf_acted s.history t.id t.call a id

/-- The monitor permits the action that an operation makes. -/
theorem Told.record {value : UInt32} {a : Action}
    {rest : a.Reply → Operation TransitionError Unit} {r : a.Reply}
    {s₁ : Cluster c.coreCount Request} (h : Told c s) (hnumbered : s.Numbered)
    (htask : s.tasks core = some t) (hrest : t.rest = .act a rest)
    (hperform : s.perform value a = some (r, s₁)) :
    Told c ((s₁.record t a).withTask core (next t a r (rest r))) := by
  obtain ⟨htasks, hbegun, hhistory⟩ := perform_frame hperform
  have hothers : ∀ i u, i ≠ core → s.tasks i = some u → u.id ≠ t.id := fun i u hi hu hid =>
    hi (hnumbered.distinct i core u t hu htask hid)
  have hown : (s₁.record t a).actions t.id = s.actions t.id ++ [a] := by
    rw [actions_record hperform, if_pos rfl]
  have helse : ∀ id, id ≠ t.id → (s₁.record t a).actions id = s.actions id := by
    intro id hid
    rw [actions_record hperform, if_neg hid.symm]
  have hunder : ∀ i u, ((s₁.record t a).withTask core (next t a r (rest r))).tasks i = some u →
      (i = core ∧ u = next t a r (rest r)) ∨ (i ≠ core ∧ s.tasks i = some u) := by
    intro i u hu
    have hu := of_withTask hu
    rwa [Cluster.record, htasks] at hu
  have hmem : ∀ d ∈ ((s₁.record t a).withTask core (next t a r (rest r))).history,
      d = ⟨t.id, t.call, .acted a⟩ ∨ d ∈ s.history := by
    intro d hd
    rw [← hhistory]
    exact List.mem_cons.1 hd
  constructor
  case begun =>
    intro d hd
    change d.id < s₁.begun
    rw [hbegun]
    rcases hmem d hd with rfl | hd
    · exact hnumbered.begun core t htask
    · exact h.begun d hd
  case call =>
    intro i u hu d hd hid
    rcases hunder i u hu with ⟨-, rfl⟩ | ⟨hi, hu⟩ <;> rcases hmem d hd with rfl | hd
    · rfl
    · exact h.call core t htask d hd hid
    · exact absurd hid.symm (hothers i u hi hu)
    · exact h.call i u hu d hd hid
  case going =>
    intro i u hu
    rcases hunder i u hu with ⟨rfl, rfl⟩ | ⟨hi, hu⟩
    · have hkeeps := h.going i t htask
      rw [hrest] at hkeeps
      have hafter := hkeeps.2 r
      change (rest r).Keeps (reticence i) (t.stage.after a r, (s₁.record t a).actions t.id) _
      rw [hown]
      exact hafter
    · have hkeeps := h.going i u hu
      rwa [← helse u.id (hothers i u hi hu)] at hkeeps
  case discreet =>
    intro id
    change Discreet ((s₁.record t a).actions id)
    by_cases hid : id = t.id
    · rw [hid, hown]
      exact discreet_snoc (h.permits htask hrest).reticent
    · rw [helse id hid]
      exact h.discreet id
  case ended =>
    intro d hd result hwhat
    rcases hmem d hd with rfl | hd
    · cases hwhat
    · obtain ⟨hgone, hconcludes⟩ := h.ended d hd result hwhat
      have hid : t.id ≠ d.id := hgone core t htask
      rw [← helse d.id hid.symm] at hconcludes
      refine ⟨fun i u hu => ?_, hconcludes⟩
      rcases hunder i u hu with ⟨-, rfl⟩ | ⟨-, hu⟩
      · exact hid
      · exact hgone i u hu

theorem Told.act {value : UInt32} {a : Action} {rest : a.Reply → Operation TransitionError Unit}
    {r : a.Reply} {s₁ : Cluster c.coreCount Request} (h : Told c s) (hnumbered : s.Numbered)
    (htask : s.tasks core = some t) (hrest : t.rest = .act a rest)
    (hperform : s.perform value a = some (r, s₁)) :
    Told c ((s₁.record t a).resume core (next t a r (rest r))) := by
  obtain ⟨htasks, hbegun, -⟩ := perform_frame hperform
  refine (h.record hnumbered htask hrest hperform).resume ?_ fun i u hi hu hid => ?_
  · rw [Cluster.record, hbegun]
    exact hnumbered.begun core t htask
  · rw [Cluster.record, htasks] at hu
    exact hi (hnumbered.distinct i core u t hu htask hid)

/-- **Every move keeps the stories to the monitor.** -/
theorem Told.turn (h : Told c s) (hnumbered : s.Numbered)
    (hturn : Turn c.workload s g m s' g') : Told c s' := by
  cases hturn with
  | begin htask hphase => exact h.begin hnumbered
  | act htask hrest hperform => exact h.act hnumbered htask hrest hperform
  | respond htask hanswer => exact ⟨h.begun, h.call, h.going, h.discreet, h.ended⟩
  | disturb => exact ⟨h.begun, h.call, h.going, h.discreet, h.ended⟩

end Cluster

end Reclock
