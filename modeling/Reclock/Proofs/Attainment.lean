/-
**What sequences bring about.**

A statement about the order of accesses is proved step by step: from a record that shows one
thing, a step passes its gates and leaves a record that shows the next.  The rules for this are the
same for every gate, and so is the way in which the operations are made of register sequences:
around those an operation puts nothing on record but signals and log records.

Main definitions:

* `Reclock.Sequence.Attains` — **what a sequence brings about under a gate**;
* `Reclock.Trace.Occurred` — an event that happened at a moment of a certain kind;
* `Reclock.Event.Silent` — the events that are no register accesses;
* `Reclock.Trace.accessGate` — the gates of register accesses alone.

Main results:

* `Reclock.Sequence.Attains.bind`, `attains_modify`, `attains_wait`, `attains_applyProgram` — the
  rules for sequences;
* `Reclock.Controller.recorder_enterRetention_of`, `recorder_exitRetention_of` — the ways down and
  up by what their sequences bring about;
* `Reclock.Controller.recorder_operation_of` — **what all sequences keep, every operation keeps**.
-/

import Reclock.Proofs.Conduct
import Reclock.Proofs.StepOrder

set_option relaxedAutoImplicit false
set_option autoImplicit false

namespace Reclock

/-! ### Kinds of events -/

/-- The writes of a register program, in order. -/
def RegisterProgram.writes (w : Window) (program : RegisterProgram) : List Event :=
  program.map fun entry => .write ⟨w, entry.offset⟩ entry.value

/-- A program that does not name a register does not write it. -/
theorem RegisterProgram.written?_of_mem_writes {w : Window} {program : RegisterProgram}
    {r : Register} (hr : r ∉ registers w program) {e : Event} (he : e ∈ writes w program) :
    Trace.written? r e = none := by
  obtain ⟨entry, hentry, rfl⟩ := List.mem_map.1 he
  refine if_neg fun heq => hr ?_
  exact heq ▸ List.mem_map_of_mem hentry

/-- A program writes only to its own window. -/
theorem RegisterProgram.written?_of_window {w : Window} {program : RegisterProgram} {r : Register}
    (hr : r.window ≠ w) {e : Event} (he : e ∈ writes w program) : Trace.written? r e = none := by
  refine written?_of_mem_writes (fun hmem => ?_) he
  obtain ⟨entry, -, rfl⟩ := List.mem_map.1 hmem
  exact hr rfl

namespace Event

/-- The reads. -/
def IsRead (e : Event) : Prop := ∃ r v, e = .read r v

/-- The writes of a register with a value that satisfies a condition. -/
def Wrote (r : Register) (condition : UInt32 → Prop) (e : Event) : Prop :=
  ∃ v, e = .write r v ∧ condition v

/-- **The events that are no register accesses.** -/
def Silent : Event → Prop
  | .read _ _ => False
  | .write _ _ => False
  | _ => True

theorem silent_of_log {e : Event} (h : ∃ r, e = .log r) : e.Silent := by
  obtain ⟨r, rfl⟩ := h
  trivial

theorem silent_of_interrupt {e : Event} (h : ∃ targets, e = .signal (.interrupt targets)) :
    e.Silent := by
  obtain ⟨targets, rfl⟩ := h
  trivial

end Event

namespace Trace

variable {past : List Event} {shown also : List Event → Prop}

theorem written?_of_silent {e : Event} (he : e.Silent) (r : Register) : written? r e = none := by
  cases e with
  | write s v => exact he.elim
  | _ => rfl

/-! ### What events leave alone -/

/-- What no event of a kind takes away. -/
def Outlasts (shown : List Event → Prop) (kind : Event → Prop) : Prop :=
  ∀ past e, kind e → shown past → shown (past ++ [e])

theorem Outlasts.append {kind : Event → Prop} (h : Outlasts shown kind) {more : List Event}
    (hmore : ∀ e ∈ more, kind e) (hpast : shown past) : shown (past ++ more) := by
  induction more generalizing past with
  | nil => simpa using hpast
  | cons e more ih =>
      rw [List.append_cons]
      exact ih (fun e he => hmore e (List.mem_cons_of_mem _ he))
        (h past e (hmore e (List.mem_cons_self ..)) hpast)

theorem Outlasts.and {kind : Event → Prop} (h : Outlasts shown kind) (h' : Outlasts also kind) :
    Outlasts (fun past => shown past ∧ also past) kind :=
  fun past e he hpast => ⟨h past e he hpast.1, h' past e he hpast.2⟩

theorem Outlasts.mono {kind kind' : Event → Prop} (h : Outlasts shown kind)
    (hkind : ∀ e, kind' e → kind e) : Outlasts shown kind' :=
  fun past e he hpast => h past e (hkind e he) hpast

theorem Outlasts.read (h : Outlasts shown Event.IsRead) (hpast : shown past) (r : Register)
    (v : UInt32) : shown (past ++ [.read r v]) :=
  h past _ ⟨r, v, rfl⟩ hpast

theorem Outlasts.refused (h : Outlasts shown Event.IsRead) (hpast : shown past) (r : Register)
    (values : List UInt32) : shown (past ++ Sequence.refused r values) := by
  refine h.append (fun e he => ?_) hpast
  obtain ⟨v, -, rfl⟩ := List.mem_map.1 he
  exact ⟨r, v, rfl⟩

theorem Lasting.outlasts (h : Lasting shown) (kind : Event → Prop) : Outlasts shown kind :=
  fun past _ _ hpast => h past _ hpast

theorem outlasts_lastWrote (r : Register) (condition : UInt32 → Prop) :
    Outlasts (fun past => LastWrote past r condition) Event.IsRead := by
  rintro past _ ⟨s, v, rfl⟩ hpast
  exact hpast.append (by simp [written?])

/-! ### What has not been written -/

/-- A register has not been written. -/
def Unwritten (past : List Event) (r : Register) : Prop := ∀ e ∈ past, written? r e = none

theorem Unwritten.append {r : Register} (h : Unwritten past r) {more : List Event}
    (hmore : ∀ e ∈ more, written? r e = none) : Unwritten (past ++ more) r :=
  List.forall_mem_append.2 ⟨h, hmore⟩

theorem Unwritten.snoc {r : Register} (h : Unwritten past r) {e : Event}
    (he : written? r e = none) : Unwritten (past ++ [e]) r :=
  h.append (by simpa using he)

theorem outlasts_unwritten (r : Register) :
    Outlasts (fun past => Unwritten past r) Event.Silent :=
  fun _ _ he h => h.snoc (written?_of_silent he r)

/-- What has not been written was not last written with anything. -/
theorem Unwritten.not_lastWrote {r : Register} {condition : UInt32 → Prop}
    (h : Unwritten past r) : ¬ LastWrote past r condition := by
  rintro ⟨v, hv, -⟩
  rw [List.filterMap_eq_nil_iff.2 h] at hv
  cases hv

/-! ### Gates of register accesses -/

/-- The gate that register accesses pass on conditions of their own, and everything else freely. -/
def accessGate (mayRead : List Event → Register → Prop)
    (mayWrite : List Event → Register → UInt32 → Prop) (past : List Event) : Event → Prop
  | .read r _ => mayRead past r
  | .write r v => mayWrite past r v
  | _ => True

theorem accessGate_of_silent {mayRead : List Event → Register → Prop}
    {mayWrite : List Event → Register → UInt32 → Prop} {e : Event} (he : e.Silent) :
    accessGate mayRead mayWrite past e := by
  cases e with
  | read r v => exact he.elim
  | write r v => exact he.elim
  | _ => trivial

/-! ### Events that happened -/

/-- An event of a kind happened, at a moment at which the events before satisfied a condition. -/
def Occurred (past : List Event) (kind : Event → Prop) (moment : List Event → Prop) : Prop :=
  ∃ before e after, past = before ++ e :: after ∧ kind e ∧ moment before

variable {kind : Event → Prop} {moment : List Event → Prop}

theorem occurred_last {e : Event} (he : kind e) (hpast : moment past) :
    Occurred (past ++ [e]) kind moment :=
  ⟨past, e, [], rfl, he, hpast⟩

theorem lasting_occurred (kind : Event → Prop) (moment : List Event → Prop) :
    Lasting fun past => Occurred past kind moment := by
  rintro past more ⟨before, e, after, rfl, he, hbefore⟩
  exact ⟨before, e, after ++ more, by simp, he, hbefore⟩

/-- What was shown for good at the moment of an event is shown ever after. -/
theorem Occurred.earlier (h : Occurred past kind moment) (hlasting : Lasting shown)
    (hmoment : ∀ before, moment before → shown before) : shown past := by
  obtain ⟨before, e, after, rfl, -, hbefore⟩ := h
  exact hlasting _ _ (hmoment before hbefore)

theorem Saw.earlier {r : Register} {condition : UInt32 → Prop} (h : Saw past r condition moment)
    (hlasting : Lasting shown) (hmoment : ∀ before, moment before → shown before) :
    shown past := by
  obtain ⟨before, v, after, rfl, -, hbefore⟩ := h
  exact hlasting _ _ (hmoment before hbefore)

/-- **The end of a procedure** that brings something about unless it gives up. -/
abbrev Achieved {ε α : Type} (after : List Event → Prop) (r : Except ε α) (past : List Event) :
    Prop :=
  ∀ a, r = .ok a → after past

end Trace

/-! ### Sequences -/

namespace Sequence

open Trace

variable {ε α β : Type} {gate : List Event → Event → Prop}
  {before middle after before' after' : List Event → Prop}

/-- **What a sequence brings about**: from a record that shows the one thing on every access passes
its gate, and unless the sequence gives up its record shows the other in the end. -/
def Attains (gate : List Event → Event → Prop) (p : Sequence ε α)
    (before after : List Event → Prop) : Prop :=
  ∀ past, before past → p.Keeps (recorder gate) past (Achieved after)

theorem Attains.mono {p : Sequence ε α} (h : Attains gate p before after)
    (hbefore : ∀ past, before' past → before past) (hafter : ∀ past, after past → after' past) :
    Attains gate p before' after' :=
  fun past hpast => (h past (hbefore past hpast)).mono fun _ past' hr a ha =>
    hafter past' (hr a ha)

theorem Attains.bind {p : Sequence ε α} {f : α → Sequence ε β} (hp : Attains gate p before middle)
    (hf : ∀ a, Attains gate (f a) middle after) : Attains gate (p >>= f) before after := by
  intro past hpast
  refine (hp past hpast).andThen (fun a past' hpast' => ?_) fun e past' _ => nofun
  exact hf a past' (hpast' a rfl)

theorem attains_done (a : α) (h : ∀ past, before past → after past) :
    Attains gate (.done a : Sequence ε α) before after :=
  fun past hpast _ _ => h past hpast

theorem attains_write {r : Register} {v : UInt32}
    (hgate : ∀ past, before past → gate past (.write r v))
    (hafter : ∀ past, before past → after (past ++ [.write r v])) :
    Attains gate (write r v : Sequence ε Unit) before after :=
  fun past hpast => keeps_write (hgate past hpast) fun _ _ => hafter past hpast

theorem attains_modify {r : Register} {f : UInt32 → UInt32}
    (hread : ∀ past v, before past → gate past (.read r v))
    (hwrite : ∀ past v, before past → gate (past ++ [.read r v]) (.write r (f v)))
    (hafter : ∀ past v, before past → after (past ++ [.read r v] ++ [.write r (f v)])) :
    Attains gate (modify r f : Sequence ε Unit) before after :=
  fun past hpast => keeps_modify (fun v => hread past v hpast) (fun v => hwrite past v hpast)
    fun v _ _ => hafter past v hpast

theorem attains_wait {config : Config} {r : Register} {condition : UInt32 → Bool}
    (hgate : ∀ past values v, before past → gate (past ++ refused r values) (.read r v))
    (hafter : ∀ past values v, before past → condition v = true →
      after (past ++ refused r values ++ [.read r v])) :
    Attains gate (Sequences.wait config r condition) before after :=
  fun past hpast => keeps_wait (fun values v => hgate past values v hpast)
    (fun values v _ hv _ _ => hafter past values v hpast hv) fun _ _ _ _ => nofun

/-- What keeps to two monitors of the same kind keeps to one that lets pass what they both do. -/
theorem keeps_both {gate' gate'' : List Event → Event → Prop} {p : Sequence ε α}
    {past : List Event} {Q Q' : Except ε α → List Event → Prop}
    (h : p.Keeps (recorder gate) past Q) (h' : p.Keeps (recorder gate') past Q')
    (hgate : ∀ past e, gate past e → gate' past e → gate'' past e) :
    p.Keeps (recorder gate'') past fun r past' => Q r past' ∧ Q' r past' := by
  induction p generalizing past with
  | done a => exact ⟨h, h'⟩
  | fail e => exact ⟨h, h'⟩
  | act a next ih =>
      refine ⟨fun r e he => ?_, fun r => ih r (h.2 r) (h'.2 r)⟩
      exact hgate past e (h.1 r e he) (h'.1 r e he)

/-- What every pass of a loop keeps, the loop keeps. -/
theorem attains_forEach {bs : List β} {f : β → Sequence ε Unit}
    (hf : ∀ b ∈ bs, Attains gate (f b) before before) :
    Attains gate (.forEach bs f) before before := by
  induction bs with
  | nil => exact attains_done () fun _ => id
  | cons b bs ih =>
      refine (hf b (List.mem_cons_self ..)).bind fun _ => ?_
      exact ih fun b hb => hf b (List.mem_cons_of_mem _ hb)

/-- A program is written entry by entry, and leaves all of its writes on record. -/
theorem attains_applyProgram {w : Window} {program : RegisterProgram}
    (hgate : ∀ past done entry rest, before past → program = done ++ entry :: rest →
      gate (past ++ RegisterProgram.writes w done)
        (.write ⟨w, entry.offset⟩ entry.value))
    (hafter : ∀ past, before past → after (past ++ RegisterProgram.writes w program)) :
    Attains gate (applyProgram w program : Sequence ε Unit) before after := by
  intro past hpast
  -- The entries that are written already move from the program to the record.
  suffices h : ∀ done rest, program = done ++ rest →
      (applyProgram w rest : Sequence ε Unit).Keeps (recorder gate)
        (past ++ RegisterProgram.writes w done) (Achieved after) by
    simpa [RegisterProgram.writes] using h [] program rfl
  intro done rest hprogram
  induction rest generalizing done with
  | nil =>
      intro a _
      rw [List.append_nil] at hprogram
      rw [← hprogram]
      exact hafter past hpast
  | cons entry rest ih =>
      unfold applyProgram Procedure.forEach
      rw [Procedure.keeps_bind]
      refine keeps_write (hgate past done entry rest hpast hprogram) ?_
      simpa [RegisterProgram.writes, applyProgram] using ih (done ++ [entry]) (by simp [hprogram])

/-- Registers are read one by one, and leave all of their values on record. -/
theorem keeps_collect_read {bs : List β} {register : β → Register} {past : List Event}
    (hreads : Outlasts before Event.IsRead)
    (hgate : ∀ past, ∀ b ∈ bs, ∀ v, before past → gate past (.read (register b) v))
    (hpast : before past) :
    (.collect bs fun b => read (register b) : Sequence ε (List UInt32)).Keeps (recorder gate) past
      fun r past' => ∀ values, r = .ok values → before past' ∧ values.length = bs.length ∧
        past' = past ++ List.zipWith .read (bs.map register) values := by
  induction bs generalizing past with
  | nil =>
      intro values hvalues
      cases hvalues
      simpa using hpast
  | cons b bs ih =>
      unfold Procedure.collect
      rw [Procedure.keeps_bind]
      refine keeps_read (fun v => hgate past b (List.mem_cons_self ..) v hpast) fun v => ?_
      dsimp only
      rw [Procedure.keeps_bind]
      refine (ih (fun past b hb => hgate past b (List.mem_cons_of_mem _ hb))
        (hreads.read hpast (register b) v)).mono fun r past' h => ?_
      cases r with
      | error e => exact fun _ => nofun
      | ok rest =>
          intro values hvalues
          cases hvalues
          obtain ⟨hkept, hlength, rfl⟩ := h rest rfl
          exact ⟨hkept, by simp [hlength], by simp⟩

theorem attains_collect_read {bs : List β} {register : β → Register}
    (hduring : ∀ past, before past → middle past) (hreads : Outlasts middle Event.IsRead)
    (hgate : ∀ past, ∀ b ∈ bs, ∀ v, middle past → gate past (.read (register b) v))
    (hafter : ∀ past (values : List UInt32), before past → values.length = bs.length →
      middle (past ++ List.zipWith .read (bs.map register) values) →
        after (past ++ List.zipWith .read (bs.map register) values)) :
    Attains gate (.collect bs fun b => read (register b) : Sequence ε (List UInt32)) before
      after := by
  intro past hpast
  refine (keeps_collect_read hreads hgate (hduring past hpast)).mono ?_
  intro r past' h values hvalues
  obtain ⟨hkept, hlength, rfl⟩ := h values hvalues
  exact hafter past values hpast hlength hkept

/-- What no access takes away is still shown after a sequence all of whose accesses pass their
gates as long as it is. -/
theorem attains_of_within {p : Sequence ε α} {allowed : Access → Prop} (h : p.Within allowed)
    (hkeeps : ∀ past a r, before past → allowed a → before (past ++ [.ofAccess a r]))
    (hgate : ∀ past a r, before past → allowed a → gate past (.ofAccess a r)) :
    Attains gate p before before := by
  induction p with
  | done a => exact attains_done a fun _ => id
  | fail e => exact fun past _ a => nofun
  | act a next ih =>
      intro past hpast
      refine ⟨fun r e he => ?_, fun r => ih r (h.2 r) _ (hkeeps past a r hpast h.1)⟩
      cases he
      exact hgate past a r hpast h.1

/-- What a sequence brings about under one gate and what it keeps under another. -/
theorem Attains.both {gate' gate'' : List Event → Event → Prop} {p : Sequence ε α}
    (h : Attains gate p before after) (h' : Attains gate' p before' after')
    (hgate : ∀ past e, gate past e → gate' past e → gate'' past e) :
    Attains gate'' p (fun past => before past ∧ before' past) fun past =>
      after past ∧ after' past := by
  rintro past ⟨hpast, hpast'⟩
  refine (keeps_both (h past hpast) (h' past hpast') hgate).mono ?_
  exact fun _ _ hend a ha => ⟨hend.1 a ha, hend.2 a ha⟩

/-- A register that a sequence does not write has still not been written after it. -/
theorem Attains.unwritten {p : Sequence ε α} {r : Register} (h : Attains gate p before after)
    (hp : p.Within (Access.Writes (· ≠ r))) :
    Attains gate p (fun past => before past ∧ Unwritten past r) fun past =>
      after past ∧ Unwritten past r := by
  have hkept : Attains anyway p (fun past => Unwritten past r) fun past => Unwritten past r := by
    refine attains_of_within hp ?_ fun _ _ _ _ _ => trivial
    rintro past (s | ⟨s, v⟩) reply hpast hs
    · exact hpast.snoc rfl
    · exact hpast.snoc (if_neg hs)
  exact h.both hkept fun _ _ hgate _ => hgate

/-! ### Evidence -/

section Evidence

variable {config : Config} {r : Register} {shown : UInt32 → Prop}

/-- A poll that comes to an end has seen what it waited for. -/
theorem attains_wait_saw {condition : UInt32 → Bool} (hreads : Outlasts before Event.IsRead)
    (hgate : ∀ past v, before past → gate past (.read r v))
    (hshown : ∀ v, condition v = true → shown v) :
    Attains gate (Sequences.wait config r condition) before fun past => Saw past r shown before :=
  attains_wait (fun _ values v h => hgate _ v (hreads.refused h r values)) fun _ values _ h hv =>
    saw_read (hshown _ hv) (hreads.refused h r values)

theorem attains_write_occurred {v : UInt32} (hgate : ∀ past, before past → gate past (.write r v))
    (hshown : shown v) :
    Attains gate (write r v : Sequence ε Unit) before fun past =>
      Occurred past (Event.Wrote r shown) before :=
  attains_write hgate fun _ h => occurred_last ⟨v, rfl, hshown⟩ h

theorem attains_modify_occurred {f : UInt32 → UInt32} (hreads : Outlasts before Event.IsRead)
    (hread : ∀ past v, before past → gate past (.read r v))
    (hwrite : ∀ past v, before past → gate past (.write r (f v))) (hshown : ∀ v, shown (f v)) :
    Attains gate (modify r f : Sequence ε Unit) before fun past =>
      Occurred past (Event.Wrote r shown) before :=
  attains_modify hread (fun _ v h => hwrite _ v (hreads.read h r v)) fun _ v h =>
    occurred_last ⟨_, rfl, hshown v⟩ (hreads.read h r v)

theorem attains_modify_lastWrote {f : UInt32 → UInt32} (hlasting : Lasting before)
    (hread : ∀ past v, before past → gate past (.read r v))
    (hwrite : ∀ past v, before past → gate past (.write r (f v))) (hshown : ∀ v, shown (f v)) :
    Attains gate (modify r f : Sequence ε Unit) before fun past =>
      before past ∧ LastWrote past r shown :=
  attains_modify hread (fun past v h => hwrite _ v (hlasting past _ h)) fun past v h =>
    ⟨hlasting _ _ (hlasting past _ h), lastWrote_write _ _ (hshown v)⟩

/-- Registers that are modified one by one have all been left as wanted in the end. -/
theorem attains_forEach_modify {bs : List β} {register : β → Register} {f : UInt32 → UInt32}
    (hread : ∀ past, ∀ b ∈ bs, ∀ v, before past → gate past (.read (register b) v))
    (hwrite : ∀ past, ∀ b ∈ bs, ∀ v, before past →
      gate (past ++ [.read (register b) v]) (.write (register b) (f v)))
    (hbefore : ∀ past, ∀ b ∈ bs, ∀ v, before past →
      before (past ++ [.read (register b) v] ++ [.write (register b) (f v)]))
    (hshown : ∀ v, shown (f v)) :
    Attains gate (.forEach bs fun b => modify (register b) f : Sequence ε Unit) before
      fun past => before past ∧ ∀ b ∈ bs, LastWrote past (register b) shown := by
  intro past hpast
  have hnone : ∀ b ∈ ([] : List β), LastWrote past (register b) shown := List.forall_mem_nil _
  exact (keeps_forEach_modify hpast hnone hread hwrite hbefore hshown).mono
    fun _ _ h _ hr => h hr

/-- A bracket of the controller around a body that brings something about. -/
theorem attains_bracket {body : Sequences.Timed Unit}
    (hbefore : ∀ past a r, before past → Access.Writes (· = Ddrc.swctl) a →
      before (past ++ [.ofAccess a r])) (hafter : Lasting after)
    (hgate : ∀ past a r, before past ∨ after past → Access.Writes (· = Ddrc.swctl) a →
      gate past (.ofAccess a r))
    (hbody : Attains gate body before after) :
    Attains gate (Sequences.quasiDynamic config body) before after := by
  have hwithin : ∀ f, (modify Ddrc.swctl f : Sequences.Timed Unit).Within
      (Access.Writes (· = Ddrc.swctl)) := fun f => ⟨trivial, fun _ => ⟨rfl, fun _ => trivial⟩⟩
  have hopen : Attains gate (clearBits Ddrc.swctl Ddrc.swDone : Sequences.Timed Unit) before
      before :=
    attains_of_within (hwithin _) hbefore fun past a r h => hgate past a r (Or.inl h)
  have hclose : Attains gate (setBits Ddrc.swctl Ddrc.swDone : Sequences.Timed Unit) after
      after :=
    attains_of_within (hwithin _) (fun past _ _ h _ => hafter past _ h)
      fun past a r h => hgate past a r (Or.inr h)
  have hacknowledged : Attains gate
      (Sequences.wait config Ddrc.swstat (Sequences.anySet Ddrc.swDoneAck)) after after :=
    attains_of_within (Sequences.within_wait _ _) (fun past _ _ h _ => hafter past _ h)
      fun past a r h => hgate past a r (Or.inr h)
  exact hopen.bind fun _ => hbody.bind fun _ => hclose.bind fun _ => hacknowledged

end Evidence

end Sequence

/-! ### Operations -/

namespace Controller

open Operation Sequences Trace
open Sequence (Attains)

variable {c : Controller} {α ε : Type} {gate : List Event → Event → Prop} {past : List Event}
  {idle held sampled flushed off on shown before after : List Event → Prop}

theorem recorder_attains {p : Sequence ε α} (h : Attains gate p before after)
    (hpast : before past) :
    (registers p).Keeps (recorder gate) past (Achieved after) :=
  (recorder_registers trivial (fun _ _ _ _ => trivial) (fun _ _ _ _ => id) (h past hpast)).mono
    fun _ _ (h : True ∧ _) => h.2

/-- An operation reports that it failed and gives up. -/
theorem recorder_failure (hsilent : ∀ past e, e.Silent → gate past e) (message : String)
    (e : TransitionError) :
    (do log .error message
        .fail e : Operation TransitionError Unit).Keeps (recorder gate) past (Achieved after) := by
  rw [Procedure.keeps_bind]
  exact recorder_log (fun _ => hsilent _ _ trivial) fun _ _ _ => nofun

/-! ### The ways down and up -/

theorem recorder_saveSnapshot_of {current : FrequencyIndex} {timings : PointTimings}
    (hsaved : ∀ past, held past → sampled past)
    (htrained : Attains gate (readTrained timings) held sampled) (hpast : held past) :
    (saveSnapshot current timings).Keeps (recorder gate) past (Achieved sampled) := by
  unfold saveSnapshot
  rw [Procedure.keeps_bind]
  refine recorder_retention fun snapshot => ?_
  dsimp only
  cases snapshot.trained with
  | some trained => exact recorder_retention fun _ _ _ => hsaved past hpast
  | none =>
      refine (recorder_attains htrained hpast).andThen (fun values past' h => ?_) fun _ _ _ => nofun
      exact recorder_retention fun _ _ _ => h values rfl

/-- **The way down**, by what its sequences and the flush bring about. -/
theorem recorder_enterRetention_of (hsilent : ∀ past e, e.Silent → gate past e)
    (hidle : Outlasts idle fun e => ∃ r, e = .log r)
    (hquiet : Attains gate (quietDown c.config) idle held)
    (hsaved : ∀ past, held past → sampled past)
    (htrained : ∀ timings ∈ c.table.points,
      Attains gate (readTrained timings) held sampled)
    (hflush : ∀ past, sampled past → flushed (past ++ [.signal .flush]))
    (hoff : Attains gate (powerOff c.config) flushed off) (hpast : idle past) :
    c.enterRetention.Keeps (recorder gate) past (Achieved off) := by
  have hdown : ∀ timings ∈ c.table.points, ∀ current past, idle past →
      (c.powerDown current timings).Keeps (recorder gate) past (Achieved off) := by
    intro timings htimings current past hpast
    unfold powerDown
    refine (recorder_attains hquiet hpast).andThen (fun a past' h => ?_) fun _ _ _ => nofun
    refine (recorder_saveSnapshot_of hsaved (htrained timings htimings) (h a rfl)).andThen
      (fun a past' h => ?_) fun _ _ _ => nofun
    rw [Procedure.keeps_bind]
    exact recorder_signal (hsilent _ _ trivial) (recorder_attains hoff (hflush _ (h a rfl)))
  unfold enterRetention
  rw [Procedure.keeps_bind]
  refine recorder_begin nofun fun session => ?_
  dsimp only
  split
  · exact recorder_refuse nofun
  · rename_i timings hfound
    have htimings : timings ∈ c.table.points :=
      List.mem_of_getElem? (Option.filter_eq_some_iff.1 hfound).1
    rw [Procedure.keeps_bind]
    refine recorder_retention fun granted => ?_
    cases granted with
    | false => exact recorder_refuse nofun
    | true =>
        unfold enterFrom
        simp only [if_true, Procedure.keeps_bind, Procedure.keeps_attempt]
        refine recorder_log (fun _ => hsilent _ _ trivial) fun logs hlogs => ?_
        have hlogged : idle (past ++ logs) := hidle.append hlogs hpast
        refine (hdown timings htimings _ _ hlogged).mono fun r past' h => ?_
        cases r with
        | error timeout => exact recorder_failure hsilent _ _
        | ok a =>
            simp only [Procedure.keeps_bind]
            exact recorder_retention fun _ => recorder_finish fun _ _ => h a rfl

/-- **The way up**, by what its sequence brings about. -/
theorem recorder_exitRetention_of (hsilent : ∀ past e, e.Silent → gate past e)
    (hon : Outlasts on Event.Silent)
    (hup : ∀ index timings trained, c.table.timings? index = some timings →
      Attains gate (powerUp c.config (timings.point index) timings trained) off on)
    (hpast : off past) : c.exitRetention.Keeps (recorder gate) past (Achieved on) := by
  unfold exitRetention
  simp only [Procedure.keeps_bind]
  refine recorder_retention fun state => ?_
  refine Procedure.keeps_require (fun _ _ => nofun) fun _ => ?_
  refine recorder_begin (fun _ => nofun) fun session => ?_
  dsimp only
  refine recorder_retention fun snapshot => ?_
  cases snapshot with
  | none => exact recorder_refuse fun _ => nofun
  | some snapshot =>
      unfold exitTo
      dsimp only
      split
      · exact recorder_refuse fun _ => nofun
      · rename_i timings htimings
        simp only [Procedure.keeps_bind, Procedure.keeps_attempt]
        refine (recorder_attains (hup _ timings _ htimings) hpast).mono fun r past' h => ?_
        cases r with
        | error timeout => exact recorder_failure hsilent _ _
        | ok a =>
            simp only [Procedure.keeps_bind]
            refine recorder_retention fun _ => recorder_finish ?_
            refine recorder_log (fun _ => hsilent _ _ trivial) fun logs hlogs _ _ => ?_
            exact hon.append (fun e he => Event.silent_of_log (hlogs e he)) (h a rfl)

/-! ### The switches -/

theorem recorder_switchFrom_of (hsilent : ∀ past e, e.Silent → gate past e)
    (hshown : Outlasts shown Event.Silent) {timings : PointTimings}
    (hswitch : ∀ leavingBypass point,
      Attains gate (switchPoint c.config leavingBypass point timings) shown shown)
    (core : Nat) (session : Session) (target : FrequencyIndex) (online : CoreMask)
    (hpast : shown past) :
    (c.switchFrom core session target timings online).Keeps (recorder gate) past
      (Achieved shown) := by
  unfold switchFrom
  simp only [Procedure.keeps_bind, Procedure.keeps_attempt]
  refine recorder_log (fun _ => hsilent _ _ trivial) fun logs hlogs => ?_
  refine recorder_quiesce (fun _ => hsilent _ _ trivial) fun asked hasked => ?_
  refine recorder_signal (hsilent _ _ trivial) ?_
  have hlogged : shown (past ++ logs) := hshown.append (fun e he =>
    Event.silent_of_log (hlogs e he)) hpast
  have hparked : shown (past ++ logs ++ asked) := hshown.append (fun e he =>
    Event.silent_of_interrupt (hasked e he)) hlogged
  have hflushed : shown (past ++ logs ++ asked ++ [.signal .flush]) := hshown _ _ trivial hparked
  refine (recorder_attains (hswitch _ _) hflushed).mono fun r past' h => ?_
  cases r with
  | error timeout => exact recorder_failure hsilent _ _
  | ok a =>
      simp only [Procedure.keeps_bind]
      refine recorder_release (hsilent _ _ trivial) (recorder_finish ?_)
      refine recorder_log (fun _ => hsilent _ _ trivial) fun logs hlogs _ _ => ?_
      have hreleased : shown (past' ++ [.signal .event]) := hshown _ _ trivial (h a rfl)
      exact hshown.append (fun e he => Event.silent_of_log (hlogs e he)) hreleased

theorem recorder_switchFrequency_of (hsilent : ∀ past e, e.Silent → gate past e)
    (hshown : Outlasts shown Event.Silent)
    (hswitch : ∀ timings ∈ c.table.points, ∀ leavingBypass point,
      Attains gate (switchPoint c.config leavingBypass point timings) shown shown)
    (core : Nat) (target : FrequencyIndex) (online : CoreMask) (hpast : shown past) :
    (c.switchFrequency core target online).Keeps (recorder gate) past (Achieved shown) := by
  unfold switchFrequency
  simp only [Procedure.keeps_bind]
  refine Procedure.keeps_demand (fun _ _ => nofun) fun timings htimings => ?_
  refine Procedure.keeps_require (fun _ _ => nofun) fun _ => ?_
  refine Procedure.keeps_require (fun _ _ => nofun) fun _ => ?_
  refine recorder_beginActive (fun _ => nofun) fun session => ?_
  dsimp only
  split
  · exact recorder_finish fun _ _ => hpast
  · exact recorder_switchFrom_of hsilent hshown (hswitch timings (List.mem_of_getElem? htimings))
      core session target online hpast

theorem recorder_fastSwitchTo_of (hsilent : ∀ past e, e.Silent → gate past e)
    (hshown : Outlasts shown Event.Silent)
    (hspeed : ∀ speed, Attains gate (switchSpeed c.config speed) shown shown)
    (core : Nat) (target : FrequencyIndex) (speed : Speed) (online : CoreMask)
    (hpast : shown past) :
    (c.fastSwitchTo core target speed online).Keeps (recorder gate) past (Achieved shown) := by
  unfold fastSwitchTo
  simp only [Procedure.keeps_bind, Procedure.keeps_attempt]
  refine recorder_log (fun _ => hsilent _ _ trivial) fun logs hlogs => ?_
  refine recorder_quiesce (fun _ => hsilent _ _ trivial) fun asked hasked => ?_
  have hlogged : shown (past ++ logs) := hshown.append (fun e he =>
    Event.silent_of_log (hlogs e he)) hpast
  have hparked : shown (past ++ logs ++ asked) := hshown.append (fun e he =>
    Event.silent_of_interrupt (hasked e he)) hlogged
  refine (recorder_attains (hspeed speed) hparked).mono fun r past' h => ?_
  cases r with
  | error timeout => exact recorder_failure hsilent _ _
  | ok a =>
      simp only [Procedure.keeps_bind]
      refine recorder_release (hsilent _ _ trivial) (recorder_finish fun _ _ => ?_)
      exact hshown _ (.signal .event) trivial (h a rfl)

theorem recorder_fastSwitch_of (hsilent : ∀ past e, e.Silent → gate past e)
    (hshown : Outlasts shown Event.Silent)
    (hspeed : ∀ speed, Attains gate (switchSpeed c.config speed) shown shown)
    (core : Nat) (speed : Speed) (online : CoreMask) (hpast : shown past) :
    (c.fastSwitch core speed online).Keeps (recorder gate) past (Achieved shown) := by
  unfold fastSwitch currentFrequency
  simp only [Procedure.keeps_bind]
  refine recorder_barrier fun current => ?_
  refine Procedure.keeps_demand (fun _ _ => nofun) fun pair _ => ?_
  refine Procedure.keeps_require (fun _ _ => nofun) fun _ => ?_
  refine recorder_beginActive (fun _ => nofun) fun session => ?_
  dsimp only
  split
  · exact recorder_refuse fun _ => nofun
  · split
    · exact recorder_finish fun _ _ => hpast
    · exact recorder_fastSwitchTo_of hsilent hshown hspeed core _ speed online hpast

/-- **What all sequences keep, every operation keeps**, if only register accesses can take it
away and the gates are about those alone. -/
theorem recorder_operation_of (hsilent : ∀ past e, e.Silent → gate past e)
    (hshown : Outlasts shown Event.Silent)
    (hswitch : ∀ timings ∈ c.table.points, ∀ leavingBypass point,
      Attains gate (switchPoint c.config leavingBypass point timings) shown shown)
    (hspeed : ∀ speed, Attains gate (switchSpeed c.config speed) shown shown)
    (hquiet : Attains gate (quietDown c.config) shown shown)
    (htrained : ∀ timings ∈ c.table.points,
      Attains gate (readTrained timings) shown shown)
    (hoff : Attains gate (powerOff c.config) shown shown)
    (hup : ∀ timings ∈ c.table.points, ∀ point trained,
      Attains gate (powerUp c.config point timings trained) shown shown)
    (core : Nat) (request : Request) (hpast : shown past) :
    (c.operation core request).Keeps (recorder gate) past (Achieved shown) := by
  cases request with
  | switch target online =>
      exact recorder_switchFrequency_of hsilent hshown hswitch core target online hpast
  | fast speed online => exact recorder_fastSwitch_of hsilent hshown hspeed core speed online hpast
  | enter =>
      exact recorder_enterRetention_of hsilent (hshown.mono fun _ => Event.silent_of_log) hquiet
        (fun _ => id) htrained (fun past h => hshown past _ trivial h) hoff hpast
  | exit =>
      refine recorder_exitRetention_of hsilent hshown (fun index timings trained h => ?_) hpast
      exact hup timings (List.mem_of_getElem? h) _ trained

end Controller

end Reclock
