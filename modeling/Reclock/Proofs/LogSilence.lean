/-
**No log record while the DRAM cannot be used.**

The DRAM cannot be used in two windows.  In the first the cores are parked and one of them drives
the hardware: it opens when the wait for arrivals is over and closes with the last of the register
accesses, or of the steps by which the cores are let go.  In the second the subsystem is off: it
opens with the first register access of the way down and closes with the last of the way up.  A
record that is emitted in one of them may have to be stored in the DRAM.

No operation emits one in the middle of its own work.  But there are other cores, which begin
operations, look, are refused, and go on with operations begun before.  In the first window those of
them that run have arrived and are out of the way.  In the second nobody is granted a session of an
active subsystem until somebody has powered it up, so that whoever speaks has done so.

Main definitions:

* `Reclock.Cluster.SilentWhileParked`, `Reclock.Cluster.SilentWhileOff` — **silence in the
  windows**;
* `Reclock.Cluster.Audited` — what is kept track of along a run;
* `Reclock.Cluster.Holding`, `Reclock.Cluster.Dormant`, `Reclock.Cluster.Woken` — what is true of a
  system in a window;
* `Reclock.Cluster.ParkedSince`, `Reclock.Cluster.OffSince` — what every move in a window keeps.

Main results:

* `Reclock.Cluster.Audited.silentWhileParked`, `Reclock.Cluster.Audited.silentWhileOff` — each
  window, from any system that is accounted for;
* `Reclock.Cluster.log_silence` — **no record in the middle of an operation, nor in a window**.
-/

import Reclock.Proofs.Gathering
import Reclock.Proofs.SingleFlight
import Reclock.Proofs.Story

set_option relaxedAutoImplicit false
set_option autoImplicit false

namespace Reclock

/-! ### What an action leaves of a stage -/

/-- Whether an operation has seen nothing of the subsystem yet, or is on the way up. -/
def Power.dormant : Power → Bool
  | .unseen | .exiting _ => true
  | _ => false

namespace Stage

variable {n : Nat} {Call : Type} {s s₁ : Cluster n Call} {b : Brief} {stage : Stage} {a : Action}
  {value : UInt32} {r : a.Reply}

/-- While the subsystem is not active, an operation that has seen nothing sees at most that it is
off, and the way up ends only with one action. -/
theorem dormant_after (ha : stage.Allows b a) (hperform : s.perform value a = some (r, s₁))
    (hstate : s.retention.state ≠ .active) (hactive : a ≠ .retention (.writeState .active))
    (hdormant : stage.power.dormant = true) : (stage.after a r).power.dormant = true := by
  cases a with
  | access a => exact hdormant
  | signal a => cases a <;> exact hdormant
  | log record => exact hdormant
  | barrier a =>
      rw [power_after_barrier]
      exact hdormant
  | retention a =>
      cases a with
      | readState =>
          cases hperform
          simp only [after]
          split
          case h_1 =>
            rw [if_neg hstate]
            exact hdormant
          case h_2 => exact hdormant
      | writeState state =>
          cases state with
          | active => exact absurd rfl hactive
          | retained =>
              rw [ha.2] at hdormant
              cases hdormant
          | entering => cases ha
          | exiting => cases ha
      | beginEntry =>
          simp only [Cluster.perform, RetentionAccess.apply, hstate, if_false] at hperform
          cases hperform
          exact hdormant
      | beginExit => cases r <;> first | exact hdormant | rfl
      | readSnapshot => exact hdormant
      | writeSnapshot snapshot =>
          rw [ha.2] at hdormant
          cases hdormant
  | abort a => cases r

/-- An operation that has powered the subsystem up does nothing more about it. -/
theorem exited_after (ha : stage.Allows b a) {index : FrequencyIndex}
    (hexited : stage.power = .exited index) (r : a.Reply) :
    (stage.after a r).power = .exited index := by
  cases a with
  | access a => exact hexited
  | signal a => cases a <;> exact hexited
  | log record => exact hexited
  | barrier a =>
      rw [power_after_barrier]
      exact hexited
  | retention a =>
      cases a with
      | readState =>
          simp only [after]
          split
          case h_1 hunseen => cases hexited.symm.trans hunseen
          case h_2 => exact hexited
      | writeState state =>
          cases state with
          | active =>
              obtain ⟨-, other, hexiting⟩ := ha
              cases hexited.symm.trans hexiting
          | retained => cases hexited.symm.trans ha.2
          | entering => cases ha
          | exiting => cases ha
      | beginEntry => cases hexited.symm.trans ha.2.2.1
      | beginExit => cases hexited.symm.trans ha.2.2.1
      | readSnapshot => exact hexited
      | writeSnapshot snapshot => cases hexited.symm.trans ha.2
  | abort a => cases r

end Stage

/-! ### The windows -/

/-- The core that runs in a move.  A disturbance comes from nowhere. -/
def Move.runner? {n : Nat} {Call : Type} : Move n Call → Option (Fin n)
  | .begin core _ | .act core _ | .respond core => some core
  | .disturb _ => none

/-- Whether an action needs the cores parked: whether it engages, or is a step by which they are let
go. -/
def Action.needsParked : Action → Bool
  | .barrier .advanceEpoch | .barrier .unhold => true
  | a => a.engages

namespace Cluster

/-- **Silence while the cores are parked**: from the moment at which an operation has waited for the
other cores, as long as no cores run but its own and the online ones, and until the last of its
actions that need them parked, no core emits a log record. -/
def SilentWhileParked (c : Controller) (s : Cluster c.coreCount Request) : Prop :=
  ∀ (core : Fin c.coreCount) (value : UInt32) (t : Task Request) (online cores : CoreMask)
    (rest : Unit → Operation TransitionError Unit) (ms : List (Move c.coreCount Request))
    (s' : Cluster c.coreCount Request) (u : Task Request) (a : Action)
    (rest' : a.Reply → Operation TransitionError Unit),
    s.tasks core = some t → t.call.purpose = .parks online →
    t.rest = .act (.barrier (.awaitArrival cores)) rest →
    s.run c.workload (.act core value :: ms) = some s' →
    (∀ m ∈ ms, ∀ k ∈ m.runner?, k = core ∨ online.contains k = true) →
    s'.tasks core = some u → u.id = t.id → u.rest = .act a rest' → a.needsParked = true →
    ∀ d ∈ s.since s', d.isLog = false

/-- **Silence while the subsystem is off**: from any register access of the way down on, and as long
as every operation on the way up that has accessed a register accesses another one next, the only
operations that emit a log record are the one on the way down itself and those that had given the
session back before. -/
def SilentWhileOff (c : Controller) (s : Cluster c.coreCount Request) : Prop :=
  ∀ (core : Fin c.coreCount) (t : Task Request) (x : Access)
    (rest : x.Reply → Operation TransitionError Unit) (ms : List (Move c.coreCount Request))
    (s' : Cluster c.coreCount Request),
    s.tasks core = some t → t.call = .enter → t.rest = .act (.access x) rest →
    s.run c.workload ms = some s' →
    (∀ d ∈ s.since s', d.call = .exit → d.access?.isSome = true →
      ∃ k u y next, s'.tasks k = some u ∧ u.id = d.id ∧ u.rest = .act (.access y) next) →
    ∀ d ∈ s.since s', d.isLog = true →
      ∃ k u, s.tasks k = some u ∧ u.id = d.id ∧ (k = core ∨ u.stage.tenure = .over)

/-! ### What is kept track of -/

variable {c : Controller} {s s' : Cluster c.coreCount Request} {m : Move c.coreCount Request}
  {g : Holder c.coreCount Request}

/-- **What is kept track of along a run**: who holds the session, what the memories say, who is out
of the way, and what every operation has done. -/
structure Audited (c : Controller) (s : Cluster c.coreCount Request)
    (g : Holder c.coreCount Request) : Prop where
  /-- There is at most one holder. -/
  custody : Custody c.workload s g
  /-- The transitions keep apart. -/
  flight : Flight c.workload s g
  /-- The cores that have arrived are out of the way. -/
  gathered : Gathered c.workload s g
  /-- The stories keep to the monitor. -/
  told : Told c s

theorem Audited.step (h : Audited c s g) (hstep : s.step c.workload m = some s') :
    ∃ g', Turn c.workload s g m s' g' ∧ Audited c s' g' := by
  obtain ⟨g', hturn, hcustody⟩ := h.custody.step hstep
  exact ⟨g', hturn, hcustody, h.flight.turn h.custody hturn, h.gathered.turn h.custody hturn,
    h.told.turn h.flight.numbered hturn⟩

/-- **What every move of a system that is accounted for keeps, a run keeps**, and the system stays
accounted for. -/
theorem Audited.invariant {A : Move c.coreCount Request → Prop}
    {P : Cluster c.coreCount Request → Prop} {ms : List (Move c.coreCount Request)}
    (hP : ∀ {s g m s' g'}, Audited c s g → Audited c s' g' → Turn c.workload s g m s' g' → A m →
      P s → P s')
    (h : Audited c s g) (hs : P s) (hmoves : ∀ m ∈ ms, A m)
    (hrun : s.run c.workload ms = some s') : ∃ g', Audited c s' g' ∧ P s' := by
  refine Cluster.invariant (P := fun s => ∃ g, Audited c s g ∧ P s) ?_ ⟨g, h, hs⟩
    (along_of_forall hmoves) hrun
  rintro s m s' ⟨g, h, hs⟩ hstep hA
  obtain ⟨g', hturn, h'⟩ := h.step hstep
  exact ⟨g', h', hP h h' hturn hA hs⟩

theorem audited_of_run (current : FrequencyIndex) (snapshot : Snapshot)
    {ms : List (Move c.coreCount Request)}
    (hrun : (start c.coreCount Request current snapshot).run c.workload ms = some s) :
    ∃ g, Audited c s g := by
  have hstart : Audited c (start c.coreCount Request current snapshot) none :=
    ⟨custody_start _ _ _, flight_start _ _ _, gathered_start _ _ _, told_start _ _ _⟩
  obtain ⟨g, h, -⟩ := hstart.invariant (A := fun _ => True) (P := fun _ => True)
    (fun _ _ _ _ _ => trivial) trivial (fun _ _ => trivial) hrun
  exact ⟨g, h⟩

/-! ### While the cores are parked -/

section Parked

variable {core : Fin c.coreCount} {t : Task Request} {g' : Holder c.coreCount Request}

/-- An operation holds the session on a core, and its wait for the others is over. -/
def Holding (core : Fin c.coreCount) (t : Task Request) (s : Cluster c.coreCount Request) : Prop :=
  ∃ u, s.tasks core = some u ∧ u.id = t.id ∧ u.call = t.call ∧ u.stage.holds = true ∧
    u.stage.parking.waited = true

/-- An operation has ended, or has given the session back. -/
def Released (id : Nat) (s : Cluster c.coreCount Request) : Prop :=
  ∀ i u, s.tasks i = some u → u.id = id → u.stage.tenure = .over

/-- What an operation keeps that has waited for the others, until it gives the session back. -/
theorem holding_next {u : Task Request} {a : Action}
    {rest : a.Reply → Operation TransitionError Unit} {r : a.Reply}
    (hallows : u.stage.Allows (c.workload.brief u.call core) a) (hholds : u.stage.holds = true)
    (hwaited : (u.stage.after a r).parking.waited = true) (hid : u.id = t.id)
    (hcall : u.call = t.call) (hnext : s.tasks core = some (next u a r (rest r)))
    (hnot : ¬ Holding core t s) : (next u a r (rest r)).stage.tenure = .over := by
  by_cases hunclaim : a = .barrier .unclaim
  · subst hunclaim
    rfl
  · have hclaim : a ≠ .barrier .claim := by
      rintro rfl
      have htenure : u.stage.tenure = .outside := hallows
      simp [Stage.holds, htenure] at hholds
    have hstays := Stage.holds_after hallows hclaim hunclaim r
    exact absurd ⟨_, hnext, hid, hcall, hstays.trans hholds, hwaited⟩ hnot

theorem Holding.turn (hholding : Holding core t s) (h : Audited c s g)
    (hturn : Turn c.workload s g m s' g') : Holding core t s' ∨ Released t.id s' := by
  obtain ⟨u, hu, hid, hcall, hholds, hwaited⟩ := hholding
  by_cases hafter : Holding core t s'
  · exact Or.inl hafter
  · refine Or.inr fun i v hv hvid => ?_
    obtain ⟨rfl, ⟨rfl, -⟩ | ⟨value, a, rest, r, s₁, rfl, hrest, hperform, rfl⟩⟩ :=
      hturn.same h.flight.numbered hu hv (hvid.trans hid.symm)
    · exact absurd ⟨v, hv, hid, hcall, hholds, hwaited⟩ hafter
    · have hallows := h.custody.allows hu hrest
      have hwaited := Stage.waited_after hallows hwaited r
      exact holding_next hallows hholds hwaited hid hcall hv hafter

/-- An operation that has given the session back does not get it again. -/
theorem Released.turn {id : Nat} (hreleased : Released id s) (hid : id < s.begun)
    (h : Audited c s g) (hturn : Turn c.workload s g m s' g') : Released id s' := by
  rintro i u hu rfl
  rcases hturn.under hu with ⟨hu, -⟩ | ⟨call, -, -, rfl⟩ |
    ⟨value, t, a, rest, r, s₁, -, ht, hrest, -, rfl⟩
  · exact hreleased i u hu rfl
  · exact absurd hid (Nat.lt_irrefl _)
  · exact Stage.over_after (h.custody.allows ht hrest) (hreleased i t ht rfl) r

/-- **While the cores are parked the online ones emit nothing.** -/
theorem Holding.silent (hholding : Holding core t s) (h : Audited c s g) {online : CoreMask}
    (hpurpose : t.call.purpose = .parks online) (hcore : core.val < 32) {k : Fin c.coreCount}
    {v : Task Request} {a : Action} {rest : a.Reply → Operation TransitionError Unit}
    (hk : k ≠ core) (honline : online.contains k = true) (hv : s.tasks k = some v)
    (hrest : v.rest = .act a rest) : a.isLog = false := by
  obtain ⟨u, hu, -, hcall, hholds, hwaited⟩ := hholding
  have hg := h.custody.unique core u hu hholds
  have hasked : u.stage.parking ≠ .unasked := by
    intro hunasked
    rw [hunasked] at hwaited
    cases hwaited
  have hother : (c.workload.brief u.call core).others.contains k = true := by
    have hown : CoreId.ofNat core = .ok ⟨core, hcore⟩ := by simp [CoreId.ofNat, hcore]
    have hcall : u.call.purpose = .parks online := by rw [hcall, hpurpose]
    have hothers : (c.workload.brief u.call core).others = online.erase ⟨core, hcore⟩ :=
      others_eq hown hcall
    have hne : (k : Nat) ≠ core := fun heq => hk (Fin.ext heq)
    rw [hothers, CoreMask.contains_erase, honline]
    simpa using hne
  have harrived := h.gathered.arrived core u hg hwaited k hother
  have houtside := h.gathered.outside core u hg hasked k v hk harrived hv
  have hunseen := ((h.custody.fits k v hv).sound.fresh (Or.inl houtside)).2
  by_contra hlog
  exact (h.told.permits hv hrest).seen (by simpa using hlog) hunseen

/-- While the cores are parked, whoever emits a log record is the operation itself. -/
theorem Holding.speaker (hholding : Holding core t s) (h : Audited c s g) {online : CoreMask}
    (hpurpose : t.call.purpose = .parks online) (hcore : core.val < 32) {k : Fin c.coreCount}
    {v : Task Request} {a : Action} {rest : a.Reply → Operation TransitionError Unit}
    (hk : k = core ∨ online.contains k = true) (hv : s.tasks k = some v)
    (hrest : v.rest = .act a rest) (hlog : a.isLog = true) : v.id = t.id := by
  by_cases hself : k = core
  · subst hself
    obtain ⟨u, hu, hid, -⟩ := hholding
    cases hv.symm.trans hu
    exact hid
  · have hsilent := hholding.silent h hpurpose hcore hself (hk.resolve_left hself) hv hrest
    cases hlog.symm.trans hsilent

/-- The wait for the cores is over with the move that makes it, unless the operation has nothing
left to do then. -/
theorem Audited.holding (h : Audited c s g) {value : UInt32} {cores : CoreMask}
    {rest : Unit → Operation TransitionError Unit} (htask : s.tasks core = some t)
    (hrest : t.rest = .act (.barrier (.awaitArrival cores)) rest)
    (hturn : Turn c.workload s g (.act core value) s' g') :
    Holding core t s' ∨ Released t.id s' := by
  by_cases hafter : Holding core t s'
  · exact Or.inl hafter
  · refine Or.inr fun i v hv hvid => ?_
    obtain ⟨rfl, ⟨-, hact⟩ | ⟨value', b, next, r, s₁, -, hrest', -, rfl⟩⟩ :=
      hturn.same h.flight.numbered htask hv hvid
    · exact absurd rfl (hact value)
    · cases hrest.symm.trans hrest'
      have hallows := h.custody.allows htask hrest
      exact holding_next hallows hallows.1.holds rfl rfl rfl hv hafter

/-- **What a run leaves of a wait for the cores**: either the operation has kept the session, and
all log records since are its own, or it has given the session back. -/
def ParkedSince (earlier : Cluster c.coreCount Request) (core : Fin c.coreCount) (t : Task Request)
    (s : Cluster c.coreCount Request) : Prop :=
  t.id < s.begun ∧ ∃ news, s.history = news ++ earlier.history ∧
    ((Holding core t s ∧ ∀ d ∈ news, d.isLog = true → d.id = t.id) ∨ Released t.id s)

theorem ParkedSince.turn {earlier : Cluster c.coreCount Request}
    (hsince : ParkedSince earlier core t s) (h : Audited c s g)
    (hturn : Turn c.workload s g m s' g') {online : CoreMask}
    (hpurpose : t.call.purpose = .parks online) (hcore : core.val < 32)
    (hrunner : ∀ k ∈ m.runner?, k = core ∨ online.contains k = true) :
    ParkedSince earlier core t s' := by
  obtain ⟨hbegun, news, hhistory, hcase⟩ := hsince
  obtain ⟨more, hmore, -, hlogs⟩ := hturn.news
  refine ⟨hbegun.trans_le hturn.begun_le, more ++ news, ?_, ?_⟩
  · rw [hmore, hhistory, List.append_assoc]
  · rcases hcase with ⟨hholding, hown⟩ | hreleased
    · refine (hholding.turn h hturn).imp (fun hafter => ⟨hafter, fun d hd hlog => ?_⟩) id
      rcases List.mem_append.1 hd with hd | hd
      · obtain ⟨k, value, v, a, rest, rfl, hv, hrest, halog, hid⟩ := hlogs d hd hlog
        exact hid.trans (hholding.speaker h hpurpose hcore (hrunner k rfl) hv hrest halog)
      · exact hown d hd hlog
    · exact Or.inr (hreleased.turn hbegun h hturn)

/-- Only an operation that holds the session needs the cores parked. -/
theorem seated_of_needsParked {b : Brief} {stage : Stage} {a : Action} (ha : stage.Allows b a)
    (hneeds : a.needsParked = true) : stage.Seated := by
  by_contra hseated
  rcases Stage.allows_aside ha hseated with ⟨record, rfl⟩ | rfl | rfl | rfl | rfl <;> cases hneeds

/-- As long as the operation has something to do that needs the cores parked, nobody has emitted
anything. -/
theorem ParkedSince.silent {earlier : Cluster c.coreCount Request}
    (hsince : ParkedSince earlier core t s) (h : Audited c s g)
    (hengaged : Engaged (earlier.actions t.id)) {u : Task Request} {a : Action}
    {rest : a.Reply → Operation TransitionError Unit} (hu : s.tasks core = some u)
    (hid : u.id = t.id) (hrest : u.rest = .act a rest) (hneeds : a.needsParked = true) :
    ∃ news, s.history = news ++ earlier.history ∧ ∀ d ∈ news, d.isLog = false := by
  obtain ⟨-, news, hhistory, ⟨-, hown⟩ | hreleased⟩ := hsince
  · refine ⟨news, hhistory, fun d hd => ?_⟩
    by_contra hlog
    have hlog : d.isLog = true := by simpa using hlog
    -- A record of its own would have been the last thing that it did.
    have hspoken := spoken_of_news hhistory (hown d hd hlog ▸ hengaged) hd hlog
    rw [hown d hd hlog, ← hid] at hspoken
    exact absurd hspoken (h.told.permits hu hrest).reticent
  · obtain ⟨current, hseated⟩ := seated_of_needsParked (h.custody.allows hu hrest) hneeds
    cases hseated.symm.trans (hreleased core u hu hid)

/-- **Silence while the cores are parked**, from any system that is accounted for. -/
theorem Audited.silentWhileParked (h : Audited c s g) : SilentWhileParked c s := by
  intro core value t online cores rest ms s' u a rest' htask hpurpose hrest hrun honline hu hid
    hnext hneeds
  obtain ⟨s₀, hstep, hrun⟩ := run_cons_eq_some.1 hrun
  obtain ⟨g₀, hturn, h₀⟩ := h.step hstep
  have hcore : core.val < 32 := (h.told.permits htask hrest).counted cores rfl
  obtain ⟨first, hfirst, hwait, hquiet⟩ := hturn.quiet htask hrest rfl
  have hengaged : Engaged (s₀.actions t.id) :=
    ⟨_, mem_actionsOf.2 ⟨_, hfirst ▸ List.mem_append_left _ hwait, rfl, rfl⟩, rfl⟩
  have hparked : ParkedSince s₀ core t s₀ := by
    refine ⟨(h.flight.numbered.begun core t htask).trans_le hturn.begun_le, [], rfl, ?_⟩
    exact (h.holding htask hrest hturn).imp (fun hholding => ⟨hholding, List.forall_mem_nil _⟩) id
  obtain ⟨g', h', hsince⟩ := h₀.invariant
    (fun h _ hturn hrunner hsince => hsince.turn h hturn hpurpose hcore hrunner)
    hparked honline hrun
  obtain ⟨news, hhistory, hsilent⟩ := hsince.silent h' hengaged hu hid hnext hneeds
  have hall : s'.history = (news ++ first) ++ s.history := by
    rw [hhistory, hfirst, List.append_assoc]
  rw [since_of_history hall]
  exact fun d hd => (List.mem_append.1 hd).elim (hsilent d) (hquiet d)

end Parked

/-! ### While the subsystem is off -/

section Off

variable {earlier : Cluster c.coreCount Request} {core : Fin c.coreCount}
  {g' : Holder c.coreCount Request}

/-- An operation that may have something to say about the time before: the one on the way down, or
one that had given the session back. -/
def Veteran (earlier : Cluster c.coreCount Request) (core : Fin c.coreCount) (id : Nat) : Prop :=
  ∃ k u, earlier.tasks k = some u ∧ u.id = id ∧ (k = core ∨ u.stage.tenure = .over)

/-- **Nobody has found the subsystem active**: it is not, and an operation under way has something
to say about the time before and is not about to power it up, or has seen at most that it is off
and had accessed no register. -/
structure Dormant (earlier : Cluster c.coreCount Request) (core : Fin c.coreCount)
    (s : Cluster c.coreCount Request) : Prop where
  /-- The subsystem is not active. -/
  state : s.retention.state ≠ .active
  /-- This is what the operations under way have seen and done. -/
  tasks : ∀ i u, s.tasks i = some u →
    (Veteran earlier core u.id ∧ (u.call ≠ .exit ∨ u.stage.tenure = .over)) ∨
      (u.stage.power.dormant = true ∧ u.id ∉ earlier.accesses)

/-- **An operation on the way up has accessed registers and is through with it.** -/
def Woken (news : List (Deed Request)) (s : Cluster c.coreCount Request) : Prop :=
  ∃ d ∈ news, d.call = .exit ∧ d.access?.isSome = true ∧
    ∀ i u, s.tasks i = some u → u.id = d.id → ∃ index, u.stage.power = .exited index

theorem Woken.turn {news : List (Deed Request)} (hwoken : Woken news s) (h : Audited c s g)
    (hturn : Turn c.workload s g m s' g') (hnews : ∀ d ∈ news, d ∈ s.history)
    (more : List (Deed Request)) : Woken (more ++ news) s' := by
  obtain ⟨d, hd, hcall, haccess, hthrough⟩ := hwoken
  refine ⟨d, List.mem_append_right _ hd, hcall, haccess, fun i u hu hid => ?_⟩
  rcases hturn.under hu with ⟨hu, -⟩ | ⟨call, -, -, rfl⟩ |
    ⟨value, t, a, rest, r, s₁, -, ht, hrest, -, rfl⟩
  · exact hthrough i u hu hid
  · exact absurd hid (h.told.begun d (hnews d hd)).ne'
  · obtain ⟨index, hexited⟩ := hthrough i t ht hid
    exact ⟨index, Stage.exited_after (h.custody.allows ht hrest) hexited r⟩

/-- The subsystem becomes active only by the operation that powers it up. -/
theorem Turn.inactive (hturn : Turn c.workload s g m s' g') (hstate : s.retention.state ≠ .active)
    (hactive : ∀ k value t a rest, m = .act k value → s.tasks k = some t → t.rest = .act a rest →
      a ≠ .retention (.writeState .active)) : s'.retention.state ≠ .active := by
  cases hturn with
  | begin htask hphase =>
      rw [launch, resume_retention]
      exact hstate
  | @act k value t a rest r s₁ htask hrest hperform =>
      have hactive := hactive k value t a rest rfl htask hrest
      rw [resume_retention, Cluster.record]
      cases effect_of_perform hperform with
      | retention x =>
          cases x with
          | writeState state =>
              intro heq
              exact hactive (by rw [show state = .active from heq])
          | beginEntry =>
              simp only [RetentionAccess.apply, hstate, if_false]
              exact hstate
          | beginExit =>
              dsimp only [RetentionAccess.apply]
              split
              · simp
              · exact hstate
          | _ => exact hstate
      | _ => exact hstate
  | respond htask hanswer => exact hstate
  | disturb => exact hstate

/-- Only one request powers the subsystem up. -/
theorem eq_exit_of_powersUp {call : Request} (h : call.purpose = .powersUp) : call = .exit := by
  cases call with
  | exit => rfl
  | _ => cases h

/-- **An operation on the way up that speaks, or ends the way, is through with it**, and has
accessed a register since. -/
theorem Audited.woken {k : Fin c.coreCount} {value : UInt32} {u : Task Request} {a : Action}
    {rest : a.Reply → Operation TransitionError Unit} {index : FrequencyIndex}
    {news more : List (Deed Request)} (h : Audited c s g) (h' : Audited c s' g')
    (hturn : Turn c.workload s g (.act k value) s' g') (hu : s.tasks k = some u)
    (hrest : u.rest = .act a rest) (hexiting : u.stage.power = .exiting index)
    (ha : a.isLog = true ∨ a = .retention (.writeState .active))
    (hfresh : u.id ∉ earlier.accesses) (hnews : s.history = news ++ earlier.history)
    (hmore : s'.history = more ++ s.history) (hmade : ⟨u.id, u.call, .acted a⟩ ∈ more) :
    Woken (more ++ news) s' := by
  have hsound := (h.custody.fits k u hu).sound
  have hexit : u.call = .exit := eq_exit_of_powersUp (hsound.up index (Or.inl hexiting))
  obtain ⟨x, hx⟩ := (h.told.permits hu hrest).woken index hexiting ha
  obtain ⟨d, hd, hid, hwhat⟩ := mem_actionsOf.1 hx
  have haccess : d.access? = some u.id := by rw [Deed.access?, hwhat, hid]
  have hdnews : d ∈ news := by
    rw [hnews] at hd
    refine (List.mem_append.1 hd).resolve_right fun hbefore => hfresh ?_
    exact List.mem_filterMap.2 ⟨d, hbefore, haccess⟩
  refine ⟨d, List.mem_append_right _ hdnews, (h.told.call k u hu d hd hid).trans hexit,
    by rw [haccess]; rfl, fun i v hv hvid => ?_⟩
  obtain ⟨rfl, ⟨-, hact⟩ | ⟨value', b, next, r, s₁, -, hrest', -, rfl⟩⟩ :=
    hturn.same h.flight.numbered hu hv (hvid.trans hid)
  · exact absurd rfl (hact value)
  · cases hrest.symm.trans hrest'
    rcases ha with hlog | rfl
    · -- After its report the operation has ended.
      obtain ⟨b, rest', hgoing⟩ := (h'.custody.fits i _ hv).going
      have hspoken := spoken_of_news (d := ⟨u.id, u.call, .acted a⟩) hmore
        ⟨.access x, hx, rfl⟩ hmade hlog
      exact absurd hspoken (h'.told.permits hv hgoing).reticent
    · refine ⟨index, ?_⟩
      simp [Cluster.next, Stage.after, hexiting]

/-- Before an operation is through with the way up, only those emit a log record that have something
to say about the time before, and the subsystem does not become active. -/
theorem Dormant.speaker {k : Fin c.coreCount} {value : UInt32} {u : Task Request} {a : Action}
    {rest : a.Reply → Operation TransitionError Unit} {news more : List (Deed Request)}
    (hdormant : Dormant earlier core s) (h : Audited c s g) (h' : Audited c s' g')
    (hturn : Turn c.workload s g (.act k value) s' g') (hu : s.tasks k = some u)
    (hrest : u.rest = .act a rest) (hnews : s.history = news ++ earlier.history)
    (hmore : s'.history = more ++ s.history) (hmade : ⟨u.id, u.call, .acted a⟩ ∈ more)
    (hnot : ¬ Woken (more ++ news) s')
    (ha : a.isLog = true ∨ a = .retention (.writeState .active)) :
    Veteran earlier core u.id ∧ a ≠ .retention (.writeState .active) := by
  have hsound := (h.custody.fits k u hu).sound
  rcases hdormant.tasks k u hu with ⟨hveteran, hpast⟩ | ⟨hsleeps, hfresh⟩
  · refine ⟨hveteran, ?_⟩
    rintro rfl
    obtain ⟨⟨current, hseated⟩, index, hexiting⟩ := h.custody.allows hu hrest
    have hpurpose : u.call.purpose = .powersUp := hsound.up index (Or.inl hexiting)
    rcases hpast with hcall | hover
    · exact hcall (eq_exit_of_powersUp hpurpose)
    · cases hseated.symm.trans hover
  · exfalso
    cases hpower : u.stage.power with
    | unseen =>
        rcases ha with hlog | rfl
        · exact (h.told.permits hu hrest).seen hlog hpower
        · obtain ⟨-, index, hexiting⟩ := h.custody.allows hu hrest
          cases hpower.symm.trans hexiting
    | exiting index =>
        exact hnot (h.woken h' hturn hu hrest hpower ha hfresh hnews hmore hmade)
    | _ =>
        rw [hpower] at hsleeps
        cases hsleeps

theorem Dormant.turn (hdormant : Dormant earlier core s) (hnumbered : earlier.Numbered)
    (hbegun : earlier.begun ≤ s.begun) (h : Audited c s g) (hturn : Turn c.workload s g m s' g')
    (hactive : ∀ k value u a rest, m = .act k value → s.tasks k = some u → u.rest = .act a rest →
      a ≠ .retention (.writeState .active)) : Dormant earlier core s' := by
  refine ⟨hturn.inactive hdormant.state hactive, fun i u hu => ?_⟩
  rcases hturn.under hu with ⟨hu, -⟩ | ⟨call, -, -, rfl⟩ |
    ⟨value, t, a, rest, r, s₁, rfl, ht, hrest, hperform, rfl⟩
  · exact hdormant.tasks i u hu
  · refine Or.inr ⟨rfl, fun hid => ?_⟩
    exact Nat.lt_irrefl _ ((hnumbered.past _ hid).trans_le hbegun)
  · have hallows := h.custody.allows ht hrest
    refine (hdormant.tasks i t ht).imp (fun hveteran => ?_) fun hsleeps => ?_
    · exact ⟨hveteran.1, hveteran.2.imp id fun hover => Stage.over_after hallows hover r⟩
    · exact ⟨Stage.dormant_after hallows hperform hdormant.state
        (hactive i value t a rest rfl ht hrest) hsleeps.1, hsleeps.2⟩

/-- **What a run leaves of the way down**: either an operation is through with the way up, or nobody
has found the subsystem active, and the log records since are about the time before. -/
def OffSince (earlier : Cluster c.coreCount Request) (core : Fin c.coreCount)
    (s : Cluster c.coreCount Request) : Prop :=
  earlier.begun ≤ s.begun ∧ ∃ news, s.history = news ++ earlier.history ∧
    (Woken news s ∨
      (Dormant earlier core s ∧ ∀ d ∈ news, d.isLog = true → Veteran earlier core d.id))

theorem OffSince.turn (hsince : OffSince earlier core s) (hnumbered : earlier.Numbered)
    (h : Audited c s g) (h' : Audited c s' g') (hturn : Turn c.workload s g m s' g') :
    OffSince earlier core s' := by
  obtain ⟨hbegun, news, hhistory, hcase⟩ := hsince
  obtain ⟨more, hmore, hmade, hlogs⟩ := hturn.news
  refine ⟨hbegun.trans hturn.begun_le, more ++ news, ?_, ?_⟩
  · rw [hmore, hhistory, List.append_assoc]
  · rcases hcase with hwoken | ⟨hdormant, hquiet⟩
    · have hnews : ∀ d ∈ news, d ∈ s.history := fun d hd => hhistory ▸ List.mem_append_left _ hd
      exact Or.inl (hwoken.turn h hturn hnews more)
    · by_cases hwoken : Woken (more ++ news) s'
      · exact Or.inl hwoken
      · have hspeaker : ∀ k value u a rest, m = .act k value → s.tasks k = some u →
            u.rest = .act a rest → a.isLog = true ∨ a = .retention (.writeState .active) →
            Veteran earlier core u.id ∧ a ≠ .retention (.writeState .active) := by
          rintro k value u a rest rfl hu hrest ha
          exact hdormant.speaker h h' hturn hu hrest hhistory hmore
            (hmade k value u a rest rfl hu hrest) hwoken ha
        refine Or.inr ⟨hdormant.turn hnumbered hbegun h hturn ?_, fun d hd hlog => ?_⟩
        · intro k value u a rest hm hu hrest hactive
          exact (hspeaker k value u a rest hm hu hrest (Or.inr hactive)).2 hactive
        · rcases List.mem_append.1 hd with hd | hd
          · obtain ⟨k, value, u, a, rest, hm, hu, hrest, halog, hid⟩ := hlogs d hd hlog
            exact hid ▸ (hspeaker k value u a rest hm hu hrest (Or.inl halog)).1
          · exact hquiet d hd hlog

/-- An operation that is through with the way up accesses no register next. -/
theorem Woken.closed {news : List (Deed Request)} (hwoken : Woken news s) (h : Audited c s g) :
    ¬ ∀ d ∈ news, d.call = .exit → d.access?.isSome = true →
      ∃ k u y next, s.tasks k = some u ∧ u.id = d.id ∧ u.rest = .act (.access y) next := by
  intro hwindow
  obtain ⟨d, hd, hexit, haccess, hthrough⟩ := hwoken
  obtain ⟨k, u, y, next, hu, hid, hnext⟩ := hwindow d hd hexit haccess
  obtain ⟨index, hexited⟩ := hthrough k u hu hid
  obtain ⟨-, hdrives⟩ := h.custody.allows hu hnext
  rcases hdrives with ⟨-, hpower⟩ | hpower | hpower | ⟨other, hpower⟩ <;>
    cases hexited.symm.trans hpower

/-- The way down begins with nobody else in a session, and with the subsystem no longer active. -/
theorem Audited.dormant (h : Audited c s g) {t : Task Request} {x : Access}
    {rest : x.Reply → Operation TransitionError Unit} (htask : s.tasks core = some t)
    (hcall : t.call = .enter) (hrest : t.rest = .act (.access x) rest) : Dormant s core s := by
  obtain ⟨hseated, hdrives⟩ := h.custody.allows htask hrest
  have hsound := (h.custody.fits core t htask).sound
  have hg := h.custody.unique core t htask hseated.holds
  have hpurpose : c.workload.purpose t.call = .powersDown := by
    rw [hcall]
    rfl
  have hknows := h.flight.knows
  rw [hg] at hknows
  have hentering : t.stage.power = .entering ∨ t.stage.power = .saved := by
    rcases hdrives with ⟨hparked, -⟩ | hpower | hpower | ⟨index, hpower⟩
    · obtain ⟨online, hparks⟩ := (hsound.asked (by simp [hparked])).1
      cases hpurpose.symm.trans hparks
    · exact Or.inl hpower
    · exact Or.inr hpower
    · cases hpurpose.symm.trans (hsound.up index (Or.inl hpower))
  have hstate : s.retention.state = .entering := by
    refine hknows.state .entering ?_
    rcases hentering with hpower | hpower <;> simp [Holder.stage, hpower, Power.leaves]
  refine ⟨by simp [hstate], fun i u hu => ?_⟩
  by_cases hi : i = core
  · subst hi
    cases htask.symm.trans hu
    exact Or.inl ⟨⟨i, t, htask, rfl, Or.inl rfl⟩, Or.inl (by simp [hcall])⟩
  · have hfree : u.stage.holds = false := by
      by_contra hholds
      have hself := h.custody.unique i u hu (by simpa using hholds)
      rw [hg] at hself
      cases hself
      exact hi rfl
    cases htenure : u.stage.tenure with
    | outside =>
        refine Or.inr ⟨?_, h.flight.numbered.untouched i u hu htenure⟩
        rw [((h.custody.fits i u hu).sound.fresh (Or.inl htenure)).2]
        rfl
    | «over» => exact Or.inl ⟨⟨i, u, hu, rfl, Or.inr htenure⟩, Or.inr rfl⟩
    | _ => simp [Stage.holds, htenure] at hfree

/-- **Silence while the subsystem is off**, from any system that is accounted for. -/
theorem Audited.silentWhileOff (h : Audited c s g) : SilentWhileOff c s := by
  intro core t x rest ms s' htask hcall hrest hrun hwindow
  have hnumbered := h.flight.numbered
  have hoff : OffSince s core s :=
    ⟨le_rfl, [], rfl, Or.inr ⟨h.dormant htask hcall hrest, List.forall_mem_nil _⟩⟩
  obtain ⟨g', h', -, news, hhistory, hcase⟩ := h.invariant (A := fun _ => True)
    (fun h h' hturn _ hsince => hsince.turn hnumbered h h' hturn) hoff (fun _ _ => trivial) hrun
  rw [since_of_history hhistory] at hwindow ⊢
  rcases hcase with hwoken | ⟨-, hveteran⟩
  · exact absurd hwindow (hwoken.closed h')
  · exact hveteran

end Off

/-! ### Silence -/

/-- **No log record in a critical window.**  From any start and in whatever order the cores of a
system move, an operation that has interrupted or awaited cores, flushed caches or accessed a
register emits at most one more record, and does nothing after it; it does so after a success only
when it has given the session back and has let the cores go, and after a timeout right after the
last read of the poll; and no core emits one while the cores are parked, and none but those that
have something to say about the time before while the subsystem is off. -/
theorem log_silence (c : Controller) (current : FrequencyIndex) (snapshot : Snapshot)
    (ms : List (Move c.coreCount Request)) {s : Cluster c.coreCount Request}
    (hrun : (start c.coreCount Request current snapshot).run c.workload ms = some s) :
    (∀ id, Discreet (s.actions id)) ∧
      (∀ d ∈ s.history, ∀ result, d.what = .returned result →
        Concludes c.config d.call.purpose result (s.actions d.id)) ∧
      SilentWhileParked c s ∧ SilentWhileOff c s := by
  obtain ⟨g, h⟩ := audited_of_run current snapshot hrun
  refine ⟨h.told.discreet, fun d hd result hwhat => ?_, h.silentWhileParked, h.silentWhileOff⟩
  exact (h.told.ended d hd result hwhat).2

/-- A core powers the subsystem down and comes to its first register access. -/
def descending {n : Nat} (core : Fin n) : List (Move n Request) :=
  .begin core .enter :: List.replicate 4 (.act core 0)

theorem log_silence_pair :
    (∃ s s', (start 2 Request ⟨0⟩ {}).run twoPoints.workload (switching.take 13) = some s ∧
      s.run twoPoints.workload [.act (0 : Fin 2) 0, .act (0 : Fin 2) 0] = some s' ∧
      ∀ d ∈ s.since s', d.isLog = false) ∧
    ∃ s s', (start 2 Request ⟨0⟩ {}).run twoPoints.workload (descending (0 : Fin 2)) = some s ∧
      s.run twoPoints.workload [.begin (1 : Fin 2) .enter, .act (1 : Fin 2) 0] = some s' ∧
      ∀ d ∈ s.since s', d.isLog = true → d.id ≠ 1 := by
  constructor
  · obtain ⟨s, t, cores, rest, s', u, x, next, hrun, htask, hcall, hrest, hrun', hu, hid, hnext⟩ :
        ∃ s t cores rest s' u x next,
          (start 2 Request ⟨0⟩ {}).run twoPoints.workload (switching.take 13) = some s ∧
          s.tasks (0 : Fin 2) = some t ∧ t.call.purpose = .parks (.all 2) ∧
          t.rest = .act (.barrier (.awaitArrival cores)) rest ∧
          s.run twoPoints.workload [.act (0 : Fin 2) 0, .act (0 : Fin 2) 0] = some s' ∧
          s'.tasks (0 : Fin 2) = some u ∧ u.id = t.id ∧ u.rest = .act (.access x) next :=
      ⟨_, _, _, _, _, _, _, _, rfl, rfl, rfl, rfl, rfl, rfl, rfl, rfl⟩
    refine ⟨s, s', hrun, hrun', ?_⟩
    obtain ⟨-, -, hparked, -⟩ := log_silence twoPoints ⟨0⟩ {} (switching.take 13) hrun
    refine hparked (0 : Fin 2) 0 t (.all 2) cores rest [.act (0 : Fin 2) 0] s' u (.access x) next
      htask hcall hrest hrun' ?_ hu hid hnext rfl
    intro m hm k hk
    rw [List.mem_singleton.1 hm] at hk
    exact Or.inl (Option.some.inj hk).symm
  · obtain ⟨s, t, x, rest, s', hrun, htask, hfree, hid, hcall, hrest, hrun', hhistory⟩ :
        ∃ s t x rest s',
          (start 2 Request ⟨0⟩ {}).run twoPoints.workload (descending (0 : Fin 2)) = some s ∧
          s.tasks (0 : Fin 2) = some t ∧ s.tasks (1 : Fin 2) = none ∧ t.id = 0 ∧ t.call = .enter ∧
          t.rest = .act (.access x) rest ∧
          s.run twoPoints.workload [.begin (1 : Fin 2) .enter, .act (1 : Fin 2) 0] = some s' ∧
          s'.history = [⟨1, .enter, .returned (.error .busy)⟩,
            ⟨1, .enter, .acted (.barrier .claim)⟩] ++ s.history :=
      ⟨_, _, _, _, _, rfl, rfl, rfl, rfl, rfl, rfl, rfl, rfl⟩
    refine ⟨s, s', hrun, hrun', fun d hd hlog => ?_⟩
    obtain ⟨-, -, -, hoff⟩ := log_silence twoPoints ⟨0⟩ {} (descending (0 : Fin 2)) hrun
    have hwindow : ∀ d ∈ s.since s', d.call ≠ .exit := by
      rw [since_of_history hhistory]
      simp
    obtain ⟨k, u, hu, hself, -⟩ := hoff (0 : Fin 2) t x rest _ s' htask hcall hrest hrun'
      (fun d hd hexit => absurd hexit (hwindow d hd)) d hd hlog
    -- Only the operation on the way down was under way before.
    have hcores : ∀ k : Fin 2, k = 0 ∨ k = 1 := by decide
    have hk : k = (0 : Fin 2) := by
      refine (hcores k).resolve_right fun hpeer => ?_
      subst hpeer
      cases hfree.symm.trans hu
    subst hk
    cases htask.symm.trans hu
    rw [← hself, hid]
    exact Nat.zero_ne_one

end Cluster

end Reclock
