/-
**Calls as operations of the controller.**

A call names its function twice: for the dispatch, which looks for the service that owns it, and for
the service, which looks for the function.  Both read the low half of the first register, and only
the dispatch looks at the bits that a fast call must leave clear.  The arguments lose their upper
halves, and a number of a point becomes a byte only if it is one.  Here the interface is written
down on the bits and numbers that a caller passes, apart from how the functions are told apart, and
a call is shown to do what it says in every state and over every register file.

Main definitions:

* `Reclock.CallRegisters.AsksFor`, `Reclock.CallRegisters.Invalid` — what the first register says;
* `Reclock.Service.FirstOwner` — the service that a call belongs to;
* `Reclock.Operation.Coded` — the number that stands for each outcome of an operation;
* `Reclock.Operation.Answers`, `Reports`, `Carries` — a call that only answers, one that answers
  with a number, and **one that does what an operation does** and reports its outcome;
* `Reclock.DramService.Serves` — what each function of the DRAM service promises.

Main results:

* `Reclock.CallRegisters.asksFor_iff`, `invalid_iff` — the two readings of the identifier;
* `Reclock.DramService.serves_handle` — the service keeps its promises;
* `Reclock.dispatch_refines` — **what a call comes to**, whatever the services and the registers.
-/

import Mathlib.Data.Nat.Bitwise
import Reclock.Board
import Reclock.Proofs.Runs
import Reclock.Proofs.Words
import Reclock.Smc.DramService

set_option relaxedAutoImplicit false
set_option autoImplicit false

namespace Reclock

/-! ### The first register -/

namespace CallRegisters

/-- The low half of a register, as a number. -/
def low (regs : CallRegisters) (i : Fin 18) : Nat := regs[i].toNat % 2 ^ 32

/-- **The function that a call asks for**: the low half of the first register, the SVE hint
cleared. -/
structure AsksFor (regs : CallRegisters) (f : FunctionId) : Prop where
  /-- The SVE hint, bit 16, is clear. -/
  hint : f.word.toNat.testBit 16 = false
  /-- The other bits are those of the register. -/
  other : ∀ i, i ≠ 16 → f.word.toNat.testBit i = (regs.low 0).testBit i

/-- **A call is invalid** if it is a fast one with a bit set that has to be clear. -/
def Invalid (regs : CallRegisters) : Prop :=
  (regs.low 0).testBit 31 ∧ ∃ i, 17 ≤ i ∧ i ≤ 23 ∧ (regs.low 0).testBit i

variable {regs : CallRegisters} {f : FunctionId}

theorem toNat_toUInt32_value (i : Fin 18) : (regs.value i).toUInt32.toNat = regs.low i := by
  rw [value, Vector.getElem?_eq_getElem i.isLt, Option.getD_some, UInt64.toNat_toUInt32]
  rfl

/-- A number has no bits beyond its size. -/
theorem testBit_beyond {x n i : Nat} (hx : x < 2 ^ n) (hi : n ≤ i) : x.testBit i = false :=
  Nat.testBit_lt_two_pow (lt_of_lt_of_le hx (Nat.pow_le_pow_right (by decide) hi))

/-- The identifier by which the service is looked up is that of the function asked for. -/
theorem asksFor_iff :
    regs.AsksFor f ↔ f = (FunctionId.ofRegister (regs.value 0)).withoutSveHint := by
  have hmask : (~~~FunctionId.sveHint).toNat = 0xfffeffff := by decide
  have hword : (regs.value 0).toUInt32.toNat = regs.low 0 := toNat_toUInt32_value 0
  have hbits (i : Nat) : ((FunctionId.ofRegister (regs.value 0)).word &&&
      ~~~FunctionId.sveHint).toNat.testBit i =
        ((regs.low 0).testBit i && (0xfffeffff : Nat).testBit i) := by
    rw [FunctionId.ofRegister, UInt32.toNat_and, hmask, hword, Nat.testBit_and]
  -- the mask has every bit of a word but the hint
  have hrest (i : Nat) (hi : i ≠ 16) :
      ((regs.low 0).testBit i && (0xfffeffff : Nat).testBit i) = (regs.low 0).testBit i := by
    by_cases hlt : i < 32
    · have hset : (0xfffeffff : Nat).testBit i = true := by
        revert hi
        decide +revert
      rw [hset, Bool.and_true]
    · have hhigh : (regs.low 0).testBit i = false :=
        testBit_beyond (Nat.mod_lt _ (Nat.two_pow_pos 32)) (Nat.le_of_not_lt hlt)
      rw [hhigh, Bool.false_and]
  constructor
  · rintro ⟨hhint, hother⟩
    refine congrArg FunctionId.mk (UInt32.toNat_inj.1 (Nat.eq_of_testBit_eq fun i => ?_))
    rw [hbits]
    by_cases hi : i = 16
    · subst hi
      rw [hhint]
      exact (Bool.and_false _).symm
    · rw [hrest i hi, hother i hi]
  · rintro rfl
    refine ⟨?_, fun i hi => ?_⟩
    · rw [FunctionId.withoutSveHint, hbits]
      exact Bool.and_false _
    · rw [FunctionId.withoutSveHint, hbits, hrest i hi]

end CallRegisters

theorem FunctionId.isFast_iff (f : FunctionId) : f.isFast = f.word.toNat.testBit 31 := by
  have hbit : f.word &&& fastBit = 0 ↔ f.word.toNat.testBit 31 = false :=
    Word.and_eq_zero_iff (k := 31) rfl
  by_cases hfast : f.word &&& fastBit = 0
  · rw [hbit.1 hfast, isFast, callType, if_pos hfast]
    rfl
  · rw [Bool.eq_true_of_not_eq_false fun h => hfast (hbit.2 h), isFast, callType, if_neg hfast]
    split <;> rfl

theorem FunctionId.reservedBits_clear_iff (f : FunctionId) : f.word &&& reservedBits = 0 ↔
    ∀ i, 17 ≤ i → i ≤ 23 → f.word.toNat.testBit i = false := by
  have hmask (i : Nat) : reservedBits.toNat.testBit i = decide (17 ≤ i ∧ i ≤ 23) := by
    by_cases hlt : i < 24
    · decide +revert
    · rw [CallRegisters.testBit_beyond (show reservedBits.toNat < 2 ^ 24 by decide) (by omega)]
      exact (decide_eq_false (by omega)).symm
  rw [← UInt32.toNat_inj, UInt32.toNat_and]
  constructor
  · intro h i hlow hhigh
    have hi := congrArg (Nat.testBit · i) h
    simpa [hmask, hlow, hhigh] using hi
  · intro h
    refine Nat.eq_of_testBit_eq fun i => ?_
    rw [Nat.testBit_and, hmask, UInt32.toNat_zero, Nat.zero_testBit]
    by_cases hi : 17 ≤ i ∧ i ≤ 23
    · rw [h i hi.1 hi.2, Bool.false_and]
    · rw [decide_eq_false hi, Bool.and_false]

/-- Calls are turned away for their identifier exactly if they are invalid. -/
theorem CallRegisters.invalid_iff {regs : CallRegisters} :
    regs.Invalid ↔ (FunctionId.ofRegister (regs.value 0)).isValid = false := by
  have hword : (FunctionId.ofRegister (regs.value 0)).word.toNat = regs.low 0 :=
    toNat_toUInt32_value 0
  rw [FunctionId.isValid, FunctionId.isFast_iff, hword, Bool.or_eq_false_iff, Bool.not_eq_false',
    beq_eq_false_iff_ne, ne_eq, FunctionId.reservedBits_clear_iff, hword, Invalid]
  simp only [not_forall, Bool.not_eq_false, exists_prop]

/-! ### The owner -/

/-- **The service that a call belongs to**: it owns the function, and none before it does. -/
def Service.FirstOwner (services : List Service) (f : FunctionId) (service : Service) : Prop :=
  ∃ before after, services = before ++ service :: after ∧
    (∀ other ∈ before, other.owns f = false) ∧ service.owns f = true

theorem Service.FirstOwner.find {services : List Service} {f : FunctionId} {service : Service}
    (h : service.FirstOwner services f) :
    services.find? (fun other => other.owns f) = some service := by
  obtain ⟨before, after, hservices, hbefore, howns⟩ := h
  refine List.find?_eq_some_iff_append.2 ⟨howns, before, after, hservices, fun other hother => ?_⟩
  rw [hbefore other hother]
  rfl

/-! ### What a call comes to -/

namespace Operation

variable {H : Type} [RegisterFile H]

/-- A call answers with these values, and takes the system from one state to the other. -/
def Answers (p : Operation Empty CallReturn) (s s' : System H) (values : List UInt64) : Prop :=
  ∃ ret : CallReturn, s.run p = .ok (.ok ret) s' ∧ ret.values = values

/-- A call answers with a single value, which is a number in two's complement. -/
def Reports (p : Operation Empty CallReturn) (s s' : System H) (number : Int) : Prop :=
  ∃ value : UInt64, value.toInt64.toInt = number ∧ Answers p s s' [value]

/-- **The number that a caller gets for each outcome.**  -1 stands for a function that does not
exist, which no operation comes to. -/
inductive Coded : Except TransitionError Unit → Int → Prop
  | success : Coded (.ok ()) 0
  | invalidIndex (index : FrequencyIndex) : Coded (.error (.invalidIndex index)) (-2)
  | busy : Coded (.error .busy) (-3)
  | invalidTransition (source target : FrequencyIndex) :
      Coded (.error (.invalidTransition source target)) (-4)
  | pollTimeout (timeout : PollTimeout) : Coded (.error (.pollTimeout timeout)) (-5)
  | notRetained : Coded (.error .notRetained) (-6)
  | invalidCoreMask (online : CoreMask) : Coded (.error (.invalidCoreMask online)) (-7)

/-- **A call does what an operation does**, to the last step if that halts, and reports the number
of what the operation comes to. -/
def Carries (p : Operation Empty CallReturn) (q : Operation TransitionError Unit)
    (s : System H) : Prop :=
  match s.run q with
  | .ok outcome s' => ∃ number, Coded outcome number ∧ Reports p s s' number
  | .error halt s' => s.run p = .error halt s'

variable {s : System H}

theorem answers_done (ret : CallReturn) : Answers (.done ret) s s ret.values := ⟨ret, rfl, rfl⟩

/-- The register of a status holds its code. -/
theorem toInt_word (status : Status) : status.word.toInt64.toInt = status.code.toInt := by
  cases status <;> decide

/-- A call that ends with a status reports the status's code. -/
theorem reports_of_run {p : Operation Empty CallReturn} {s' : System H} {status : Status}
    {number : Int} (hrun : s.run p = .ok (.ok (.ofStatus status)) s')
    (hnumber : status.code.toInt = number) : Reports p s s' number :=
  ⟨status.word, (toInt_word status).trans hnumber, .ofStatus status, hrun, rfl⟩

/-- The status of an outcome has the outcome's number as its code. -/
theorem coded_ofOutcome (outcome : Except TransitionError Unit) :
    Coded outcome (Status.ofOutcome outcome).code.toInt := by
  cases outcome with
  | ok => exact .success
  | error e =>
      cases e with
      | invalidIndex index => exact .invalidIndex index
      | busy => exact .busy
      | invalidTransition source target => exact .invalidTransition source target
      | pollTimeout timeout => exact .pollTimeout timeout
      | notRetained => exact .notRetained
      | invalidCoreMask online => exact .invalidCoreMask online

theorem carries_answerStatus (q : Operation TransitionError Unit) :
    Carries (DramService.answerStatus q) q s := by
  have hrun : s.run (DramService.answerStatus q) = match s.run q with
      | .ok outcome s' => .ok (.ok (.ofStatus (.ofOutcome outcome))) s'
      | .error halt s' => .error halt s' := by
    rw [System.run, DramService.answerStatus, Procedure.run_bind, Procedure.run_attempt]
    rw [System.run]
    cases Procedure.run System.answer q s with
    | ok outcome s' => rfl
    | error halt s' => rfl
  rw [Carries]
  split
  · next outcome s' hq =>
      rw [hq] at hrun
      exact ⟨_, coded_ofOutcome outcome, reports_of_run hrun rfl⟩
  · next halt s' hq =>
      rw [hq] at hrun
      exact hrun

end Operation

namespace DramService

open Operation

variable {H : Type} [RegisterFile H]

/-- **What the functions of the service promise**, for a call on a core with these registers.  The
queries, the refusals and the unknown functions change nothing, but for the record of the latter;
the requests do what the operations of the controller do. -/
structure Serves (c : Controller) (core : Nat) (regs : CallRegisters) (function : Nat)
    (call : Operation Empty CallReturn) (s : System H) : Prop where
  /-- The number of points. -/
  count : function = 0x82000100 → Answers call s s [.ofNat c.table.points.length]
  /-- A point of the table: its data rate, and whether its clock bypasses the PLL. -/
  info : function = 0x82000101 → ∀ t, c.table.points[regs.low 1]? = some t →
    Answers call s s [0, t.dataRate.toUInt64, if t.bypass then 1 else 0]
  /-- A number that is no point of the table. -/
  noInfo : function = 0x82000101 → c.table.points[regs.low 1]? = none → Reports call s s (-2)
  /-- The current point. -/
  current : function = 0x82000102 → Answers call s s [.ofNat s.barrier.current.toNat]
  /-- A switch to the point of that number. -/
  switch : function = 0x82000103 → ∀ (target : FrequencyIndex) (online : CoreMask),
    target.toNat = regs.low 1 → online.bits.toNat = regs.low 2 →
      Carries call (c.switchFrequency core target online) s
  /-- A number that is too large for a point. -/
  noSwitch : function = 0x82000103 → 256 ≤ regs.low 1 → Reports call s s (-2)
  /-- A switch by the hardware sequencer, to the speed of that number. -/
  fast : function = 0x82000104 → ∀ (speed : Speed) (online : CoreMask),
    speed.number.toNat = regs.low 1 → online.bits.toNat = regs.low 2 →
      Carries call (c.fastSwitch core speed online) s
  /-- A number of no speed. -/
  noFast : function = 0x82000104 → 2 ≤ regs.low 1 → Reports call s s (-4)
  /-- The UUID of the service, its bytes in their order from the lowest of the first word. -/
  uid : function = 0x8200ff01 →
    Answers call s s [0x2a7c0d5e, 0x6e4fb491, 0x270dc8a3, 0x40e9156b]
  /-- The major and the minor revision. -/
  revision : function = 0x8200ff03 → Answers call s s [1, 0]
  /-- Any other function: a record at the level of debugging is all that happens. -/
  unknown : function ∉ [0x82000100, 0x82000101, 0x82000102, 0x82000103, 0x82000104, 0x8200ff01,
      0x8200ff03] → ∃ message, Reports call s (s.record (.log ⟨.debug, message⟩)) (-1)

/-- A function is known by its number. -/
theorem eq_of_toNat {f g : FunctionId} (h : f.word.toNat = g.word.toNat) : f = g :=
  congrArg FunctionId.mk (UInt32.toNat_inj.1 h)

theorem pointArgument_of_lt {n : UInt32} {index : FrequencyIndex} (h : index.toNat = n.toNat) :
    pointArgument n = some index := by
  have hlt : index.toNat < 256 := index.val.toNat_lt
  rw [pointArgument, if_pos (UInt32.le_iff_toNat_le.2 (show n.toNat ≤ 255 by omega))]
  refine congrArg some (congrArg FrequencyIndex.mk (UInt8.toNat_inj.1 ?_))
  rw [UInt32.toNat_toUInt8, Nat.mod_eq_of_lt (by omega), ← h]
  rfl

theorem pointArgument_of_ge {n : UInt32} (h : 256 ≤ n.toNat) : pointArgument n = none :=
  if_neg fun hle => by
    have hle : n.toNat ≤ 255 := UInt32.le_iff_toNat_le.1 hle
    omega

theorem ofNumber?_of_ge {n : UInt32} (h : 2 ≤ n.toNat) : Speed.ofNumber? n = none := by
  have hne (k : UInt32) (hk : k.toNat < 2) : n ≠ k := by
    rintro rfl
    omega
  rw [Speed.ofNumber?, if_neg (hne 0 (by decide)), if_neg (hne 1 (by decide))]

/-- The answer about a number that is a point of the table. -/
theorem describePoint_of_some {c : Controller} {n : UInt32} {t : PointTimings}
    (h : c.table.points[n.toNat]? = some t) : describePoint c n =
      .ofWords [Status.success.word, t.dataRate.toUInt64, clockSource t.bypass] := by
  obtain ⟨hlt, -⟩ := List.getElem?_eq_some_iff.1 h
  have hle : c.table.points.length ≤ 4 := c.table.length_points_le
  have hindex : (⟨n.toUInt8⟩ : FrequencyIndex).toNat = n.toNat := by
    rw [FrequencyIndex.toNat, UInt32.toNat_toUInt8, Nat.mod_eq_of_lt (by omega)]
  rw [describePoint, pointArgument_of_lt hindex]
  simp only [Controller.frequencyInfo, TimingTable.point?, TimingTable.timings?, hindex, h,
    Option.map_some, PointTimings.point]

/-- The answer about a number that is not. -/
theorem describePoint_of_none {c : Controller} {n : UInt32}
    (h : c.table.points[n.toNat]? = none) : describePoint c n = .ofStatus .invalidIndex := by
  by_cases hlarge : 256 ≤ n.toNat
  · rw [describePoint, pointArgument_of_ge hlarge]
  · have hindex : (⟨n.toUInt8⟩ : FrequencyIndex).toNat = n.toNat := by
      rw [FrequencyIndex.toNat, UInt32.toNat_toUInt8, Nat.mod_eq_of_lt (by omega)]
    rw [describePoint, pointArgument_of_lt hindex]
    simp only [Controller.frequencyInfo, TimingTable.point?, TimingTable.timings?, hindex, h,
      Option.map_none, TransitionError.status]

/-- **The service keeps its promises.** -/
theorem serves_handle (c : Controller) (core : Nat) {regs : CallRegisters} {f : FunctionId}
    (hf : regs.AsksFor f) (s : System H) :
    Serves c core regs f.word.toNat (handle c core regs) s := by
  have hfirst : (regs.value 1).toUInt32.toNat = regs.low 1 := CallRegisters.toNat_toUInt32_value 1
  have honline (online : CoreMask) (h : online.bits.toNat = regs.low 2) :
      (⟨(regs.value 2).toUInt32⟩ : CoreMask) = online :=
    congrArg CoreMask.mk (UInt32.toNat_inj.1 ((CallRegisters.toNat_toUInt32_value 2).trans h.symm))
  have hid := CallRegisters.asksFor_iff.1 hf
  rw [handle, ← hid]
  constructor
  case count =>
    intro h
    rw [eq_of_toNat (g := frequencyCount) h]
    exact answers_done _
  case info =>
    intro h t ht
    rw [← hfirst] at ht
    rw [eq_of_toNat (g := frequencyInfo) h, describePoint_of_some ht]
    exact answers_done _
  case noInfo =>
    intro h hnone
    rw [← hfirst] at hnone
    rw [eq_of_toNat (g := frequencyInfo) h, describePoint_of_none hnone]
    exact reports_of_run rfl rfl
  case current =>
    intro h
    rw [eq_of_toNat (g := currentPoint) h]
    refine ⟨_, rfl, congrArg (fun w => [w]) (UInt64.toNat_inj.1 ?_)⟩
    have hlt : s.barrier.current.toNat < 2 ^ 8 := s.barrier.current.val.toNat_lt
    rw [UInt8.toNat_toUInt64, UInt64.toNat_ofNat_of_lt' (lt_trans hlt (by decide))]
    rfl
  case switch =>
    intro h target online htarget hbits
    rw [eq_of_toNat (g := requestSwitch) h, pointArgument_of_lt (htarget.trans hfirst.symm),
      honline online hbits]
    exact carries_answerStatus _
  case noSwitch =>
    intro h hlarge
    rw [eq_of_toNat (g := requestSwitch) h, pointArgument_of_ge (by omega)]
    exact reports_of_run rfl rfl
  case fast =>
    intro h speed online hspeed hbits
    rw [eq_of_toNat (g := fastSwitch) h, honline online hbits,
      UInt32.toNat_inj.1 (hfirst.trans hspeed.symm), Speed.ofNumber?_number]
    exact carries_answerStatus _
  case noFast =>
    intro h hlarge
    rw [eq_of_toNat (g := fastSwitch) h, ofNumber?_of_ge (by omega)]
    exact reports_of_run rfl rfl
  case uid =>
    intro h
    rw [eq_of_toNat (g := callUid) h]
    exact answers_done _
  case revision =>
    intro h
    rw [eq_of_toNat (g := revision) h]
    exact answers_done _
  case unknown =>
    intro h
    simp only [List.mem_cons, List.not_mem_nil, or_false, not_or] at h
    obtain ⟨hcount, hinfo, hcurrent, hswitch, hfast, huid, hrevision⟩ := h
    have hne (g : FunctionId) (hg : f.word.toNat ≠ g.word.toNat) : f ≠ g :=
      fun heq => hg (congrArg (fun f => f.word.toNat) heq)
    rw [if_neg (hne frequencyCount hcount), if_neg (hne frequencyInfo hinfo),
      if_neg (hne currentPoint hcurrent), if_neg (hne requestSwitch hswitch),
      if_neg (hne fastSwitch hfast), if_neg (hne callUid huid), if_neg (hne revision hrevision)]
    exact ⟨_, reports_of_run rfl rfl⟩

end DramService

/-! ### Dispatch -/

section Dispatch

variable {services : List Service} {regs : CallRegisters} {f : FunctionId}

/-- The value for an unknown function has all its bits set. -/
theorem values_notSupported : CallReturn.notSupported.values = [0xffffffffffffffff] := by decide

/-- A call that is turned away. -/
theorem dispatch_of_invalid (h : regs.Invalid) : dispatch services regs = .done .notSupported := by
  rw [dispatch, CallRegisters.invalid_iff.1 h]
  rfl

theorem dispatch_of_valid (hf : regs.AsksFor f) (h : ¬ regs.Invalid) : dispatch services regs =
    match services.find? fun service => service.owns f with
    | some service => service.handle regs
    | none => .done .notSupported := by
  rw [CallRegisters.invalid_iff, Bool.not_eq_false] at h
  have hfunction := (CallRegisters.asksFor_iff.1 hf).symm
  cases hfind : services.find? fun service => service.owns f with
  | none => simp only [dispatch, h, hfunction, hfind, if_true]
  | some service => simp only [dispatch, h, hfunction, hfind, if_true]

/-- A call that no service owns. -/
theorem dispatch_of_none (hf : regs.AsksFor f)
    (h : ∀ service ∈ services, service.owns f = false) :
    dispatch services regs = .done .notSupported := by
  by_cases hinvalid : regs.Invalid
  · exact dispatch_of_invalid hinvalid
  · have hnone : services.find? (fun service => service.owns f) = none :=
      List.find?_eq_none.2 fun service hservice => by rw [h service hservice]; decide
    rw [dispatch_of_valid hf hinvalid, hnone]

/-- A call goes to the first service that owns its function. -/
theorem dispatch_of_first (hf : regs.AsksFor f) (h : ¬ regs.Invalid) {service : Service}
    (hfirst : service.FirstOwner services f) : dispatch services regs = service.handle regs := by
  rw [dispatch_of_valid hf h, hfirst.find]

end Dispatch

open Operation in
/-- **What a call comes to**, for any services, any registers and any state of the system.  An
invalid call, and one that no service owns, is answered with the value whose bits are all set, and
nothing happens.  Any other call is the business of the first service that owns its function, which
sees the registers as they are.  If that is the DRAM service, the call does what the service
promises of its function. -/
theorem dispatch_refines {H : Type} [RegisterFile H] (c : Controller) (core : Nat)
    (services : List Service) (regs : CallRegisters) (f : FunctionId) (hf : regs.AsksFor f) :
    (regs.Invalid ∨ (∀ service ∈ services, service.owns f = false) →
      ∀ s : System H, Answers (dispatch services regs) s s [0xffffffffffffffff]) ∧
    (¬ regs.Invalid → ∀ service, Service.FirstOwner services f service →
      dispatch services regs = service.handle regs) ∧
    (¬ regs.Invalid → Service.FirstOwner services f (DramService.service c core) →
      ∀ s : System H,
        DramService.Serves c core regs f.word.toNat (dispatch services regs) s) := by
  refine ⟨?_, fun hvalid service hfirst => dispatch_of_first hf hvalid hfirst, ?_⟩
  · rintro (hinvalid | hnone) s
    · rw [dispatch_of_invalid hinvalid, ← values_notSupported]
      exact answers_done _
    · rw [dispatch_of_none hf hnone, ← values_notSupported]
      exact answers_done _
  · intro hvalid hfirst s
    rw [dispatch_of_first hf hvalid hfirst]
    exact DramService.serves_handle c core hf s

/-- A request for point 257, with the hint set and with garbage in the upper halves. -/
def wideRequest : CallRegisters :=
  .ofList [0xdeadbeef82010103, 0xffffffff00000101, 0xffffffff0000000f]

/-- The request does not reach a service of another entity, and does not switch to point 1. -/
theorem dispatch_refines_wideRequest :
    wideRequest.AsksFor ⟨0x82000103⟩ ∧ ¬ wideRequest.Invalid ∧
      Service.FirstOwner [.ofEntity 0 Handler.none, DramService.service Board.controller 0]
        ⟨0x82000103⟩ (DramService.service Board.controller 0) ∧
      Operation.Reports
        (dispatch [.ofEntity 0 Handler.none, DramService.service Board.controller 0] wideRequest)
        (System.start (Hardware.bootedAt (Board.samplePoint 3200 false)) Board.coreCount ⟨0⟩)
        (System.start (Hardware.bootedAt (Board.samplePoint 3200 false)) Board.coreCount ⟨0⟩)
        (-2) := by
  have hasks : wideRequest.AsksFor ⟨0x82000103⟩ := CallRegisters.asksFor_iff.2 (by decide)
  have hvalid : ¬ wideRequest.Invalid := by
    rw [CallRegisters.invalid_iff]
    decide
  have hfirst : Service.FirstOwner
      [.ofEntity 0 Handler.none, DramService.service Board.controller 0] ⟨0x82000103⟩
      (DramService.service Board.controller 0) :=
    ⟨[.ofEntity 0 Handler.none], [], rfl, by decide, by decide⟩
  refine ⟨hasks, hvalid, hfirst, ?_⟩
  have hserves := (dispatch_refines (H := Hardware) Board.controller 0 _ wideRequest _ hasks).2.2
    hvalid hfirst
  exact (hserves _).noSwitch (by decide) (by decide)

end Reclock
