/-
**The format of an encoded timing table.**

The reader of an encoded table walks through the words, and takes from the records how far each
list goes.  Here the format is written down apart from the reader: what a header, a record and a
list spell, when a record announces the timings of a point, and which defects there are, in the
order in which they count.  The reader then accepts the byte sequences of the format and no others,
with the table that they describe, and names the first defect of all others.

Every part of the reader is inverted by one equivalence, from words to points: the words that it
accepts are those that the part spells, followed by any words.  Bytes come in only at the end,
since a byte sequence begins with the spelling of some words exactly when its words begin with
them.

Main definitions:

* `Reclock.Blob.spell` — the bytes of a word sequence;
* `Reclock.Blob.Record.Announces`, `Reclock.Blob.Header.Laid`, `Reclock.Blob.Header.Pairs`,
  `Reclock.Blob.Header.Describes` — the format;
* `Reclock.Blob.Header.defects`, `Reclock.Blob.Rejected` — what can be wrong, in order;
* `Reclock.TimingTable.encode` — a table in this format.

Main results:

* `Reclock.Blob.words_eq_append` — bytes and words begin alike;
* `Reclock.Blob.Header.points?_eq_some` — the reader of records and lists;
* `Reclock.TimingTable.blob_format` — **what is accepted, what is rejected and for what reason, and
  that every table reads back from its encoding**.
-/

import Mathlib.Data.List.Forall2
import Mathlib.Data.Nat.Bitwise
import Reclock.Board
import Reclock.Proofs.Words
import Reclock.Timing.Blob

set_option relaxedAutoImplicit false
set_option autoImplicit false

namespace Reclock

namespace Blob

/-! ### Words as bytes -/

/-- The four bytes of a word, the least significant first. -/
def bytesOf (w : UInt32) : List UInt8 :=
  [w.toUInt8, (w >>> 8).toUInt8, (w >>> 16).toUInt8, (w >>> 24).toUInt8]

/-- The bytes of a word sequence. -/
def spell (ws : List UInt32) : List UInt8 := ws.flatMap bytesOf

/-- The value of a word, from its bytes as digits. -/
theorem toNat_word (b0 b1 b2 b3 : UInt8) : (word b0 b1 b2 b3).toNat =
    b0.toNat + 2 ^ 8 * b1.toNat + 2 ^ 16 * b2.toNat + 2 ^ 24 * b3.toNat := by
  have h0 : b0.toNat < 2 ^ 8 := b0.toNat_lt
  have h1 : b1.toNat < 2 ^ 8 := b1.toNat_lt
  have h2 : b2.toNat < 2 ^ 8 := b2.toNat_lt
  have hshift (b : UInt8) (k : Nat) (h : k ≤ 24) : b.toNat <<< k % 2 ^ 32 = 2 ^ k * b.toNat := by
    rw [Nat.shiftLeft_eq, Nat.mul_comm, Nat.mod_eq_of_lt]
    calc 2 ^ k * b.toNat < 2 ^ k * 2 ^ 8 :=
          Nat.mul_lt_mul_of_pos_left b.toNat_lt (Nat.two_pow_pos k)
      _ = 2 ^ (k + 8) := (Nat.pow_add ..).symm
      _ ≤ 2 ^ 32 := Nat.pow_le_pow_right (by decide) (by omega)
  simp only [word, UInt32.toNat_or, UInt32.toNat_shiftLeft, UInt8.toNat_toUInt32,
    UInt32.reduceToNat, Nat.reduceMod]
  rw [hshift b1 8 (by decide), hshift b2 16 (by decide), hshift b3 24 (by decide)]
  -- the bytes do not overlap, so that the disjunctions are sums
  rw [Nat.or_comm b0.toNat, ← Nat.two_pow_add_eq_or_of_lt h0,
    Nat.or_comm _ (2 ^ 16 * _), ← Nat.two_pow_add_eq_or_of_lt (by omega),
    Nat.or_comm _ (2 ^ 24 * _), ← Nat.two_pow_add_eq_or_of_lt (by omega)]
  omega

@[simp] theorem word_bytes (w : UInt32) :
    word w.toUInt8 (w >>> 8).toUInt8 (w >>> 16).toUInt8 (w >>> 24).toUInt8 = w := by
  refine UInt32.toNat_inj.1 ?_
  have := w.toNat_lt
  simp only [toNat_word, UInt32.toNat_toUInt8, UInt32.toNat_shiftRight, UInt32.reduceToNat,
    Nat.reduceMod, Nat.shiftRight_eq_div_pow]
  omega

@[simp] theorem bytesOf_word (b0 b1 b2 b3 : UInt8) :
    bytesOf (word b0 b1 b2 b3) = [b0, b1, b2, b3] := by
  have h0 : b0.toNat < 2 ^ 8 := b0.toNat_lt
  have h1 : b1.toNat < 2 ^ 8 := b1.toNat_lt
  have h2 : b2.toNat < 2 ^ 8 := b2.toNat_lt
  have h3 : b3.toNat < 2 ^ 8 := b3.toNat_lt
  simp only [bytesOf, List.cons.injEq, ← UInt8.toNat_inj, UInt32.toNat_toUInt8,
    UInt32.toNat_shiftRight, toNat_word, UInt32.reduceToNat, Nat.reduceMod,
    Nat.shiftRight_eq_div_pow, and_true]
  refine ⟨?_, ?_, ?_, ?_⟩
  · omega
  · omega
  · omega
  · omega

theorem words_spell_append (ws : List UInt32) (tail : List UInt8) :
    words (spell ws ++ tail) = ws ++ words tail := by
  induction ws with
  | nil => rfl
  | cons w ws ih =>
      have hcons : spell (w :: ws) ++ tail =
          w.toUInt8 :: (w >>> 8).toUInt8 :: (w >>> 16).toUInt8 :: (w >>> 24).toUInt8 ::
            (spell ws ++ tail) := rfl
      rw [hcons, words, word_bytes, ih, List.cons_append]

/-- Bytes are the spelling of their words, and what is no whole word after it. -/
theorem exists_spell_words (bytes : List UInt8) : ∃ tail, bytes = spell (words bytes) ++ tail := by
  fun_induction words bytes with
  | case1 b0 b1 b2 b3 rest ih =>
      obtain ⟨tail, htail⟩ := ih
      refine ⟨tail, ?_⟩
      rw [spell, List.flatMap_cons, bytesOf_word, List.append_assoc, ← spell, ← htail]
      rfl
  | case2 bytes => exact ⟨bytes, rfl⟩

/-- **Bytes and words begin alike.** -/
theorem words_eq_append {bytes : List UInt8} {ws rest : List UInt32} :
    words bytes = ws ++ rest ↔ ∃ body, bytes = spell ws ++ body ∧ words body = rest := by
  constructor
  · intro h
    obtain ⟨tail, htail⟩ := exists_spell_words bytes
    have hbytes : bytes = spell ws ++ (spell rest ++ tail) := by
      rw [htail, h, spell, List.flatMap_append, List.append_assoc]
      rfl
    refine ⟨spell rest ++ tail, hbytes, ?_⟩
    have hwords := words_spell_append ws (spell rest ++ tail)
    rw [← hbytes, h] at hwords
    exact (List.append_cancel_left hwords).symm
  · rintro ⟨body, rfl, rfl⟩
    exact words_spell_append ws body

theorem length_words (bytes : List UInt8) : (words bytes).length = bytes.length / 4 := by
  fun_induction words bytes with
  | case1 b0 b1 b2 b3 rest ih =>
      simp only [List.length_cons, ih]
      omega
  | case2 bytes h =>
      match bytes, h with
      | [], _ | [_], _ | [_, _], _ | [_, _, _], _ => simp
      | b0 :: b1 :: b2 :: b3 :: rest, h => exact (h b0 b1 b2 b3 rest rfl).elim

/-! ### The format -/

/-- What a header spells. -/
def Header.words (h : Header) : List UInt32 := [h.magic, h.pointCount, h.fastFull, h.fastHalf]

/-- The lengths that a record holds. -/
def Record.lengths (r : Record) : List UInt32 :=
  [r.controller, r.phyInit, r.phyTrained, r.phyEngine, r.modeRegisters]

/-- What a record spells. -/
def Record.words (r : Record) : List UInt32 := r.dataRate :: r.flags :: r.lengths

/-- What a list spells: an offset and a value for each entry. -/
def programWords (program : RegisterProgram) : List UInt32 :=
  program.flatMap fun entry => [entry.offset, entry.value]

end Blob

/-- The five lists of a point, in the order of a blob. -/
def PointTimings.lists (t : PointTimings) : List RegisterProgram :=
  [t.controller, t.phyInit, t.phyTrained, t.phyEngine, t.modeRegisters]

/-- What the lists of a point spell. -/
def PointTimings.words (t : PointTimings) : List UInt32 := t.lists.flatMap Blob.programWords

namespace Blob

/-- **The timings that a record announces**: its data rate, the lowest of its flags as the source
of the clock, and lists of the lengths in it. -/
structure Record.Announces (r : Record) (t : PointTimings) : Prop where
  /-- The data rate is that of the record. -/
  dataRate : t.dataRate = r.dataRate
  /-- The clock bypasses the PLL if the lowest flag is set, whatever the others are. -/
  bypass : t.bypass = r.flags.toNat.testBit 0
  /-- The lists are as long as the record says. -/
  lengths : t.lists.map List.length = r.lengths.map UInt32.toNat

/-- The bytes after a header that lay out these points: as many records as the header says, which
announce the points one by one, then the lists of the points, then anything. -/
def Header.Laid (h : Header) (points : List PointTimings) (body : List UInt8) : Prop :=
  ∃ records trailing, records.length = h.pointCount.toNat ∧
    List.Forall₂ Record.Announces records points ∧
    body = spell (records.flatMap Record.words ++ points.flatMap PointTimings.words) ++ trailing

/-- Neither field of the header says that there is no fast switching. -/
def Header.Names (h : Header) : Prop := h.fastFull ≠ noFastSwitch ∧ h.fastHalf ≠ noFastSwitch

/-- **The fast pair of a header**: none if either field says so, and otherwise the two points that
the fields number, which have to be there. -/
inductive Header.Pairs (h : Header) : Option FastPair → Prop
  /-- There is no fast switching. -/
  | absent : h.fastFull = noFastSwitch ∨ h.fastHalf = noFastSwitch → Header.Pairs h none
  /-- Both fields number a point. -/
  | present (pair : FastPair) : h.Names → pair.full.toNat = h.fastFull.toNat →
      pair.half.toNat = h.fastHalf.toNat → h.fastFull.toNat < h.pointCount.toNat →
      h.fastHalf.toNat < h.pointCount.toNat → Header.Pairs h (some pair)

/-- **What a header and the bytes after it describe.** -/
structure Header.Describes (h : Header) (body : List UInt8) (points : List PointTimings)
    (fast : Option FastPair) : Prop where
  /-- The header begins with the magic number. -/
  magic : h.magic = Blob.magic
  /-- There is a point. -/
  pos : 1 ≤ h.pointCount.toNat
  /-- There are at most four points. -/
  le : h.pointCount.toNat ≤ 4
  /-- The points follow. -/
  laid : h.Laid points body
  /-- The fields for fast switching name the pair. -/
  pairs : h.Pairs fast

/-! ### What can be wrong -/

/-- The first of several conditions that applies, by what stands beside it. -/
inductive FirstOf {α : Type} : List (Prop × α) → α → Prop
  /-- The first condition applies. -/
  | here {p : Prop} {a : α} {rest : List (Prop × α)} : p → FirstOf ((p, a) :: rest) a
  /-- The first condition does not apply. -/
  | later {p : Prop} {a b : α} {rest : List (Prop × α)} :
      ¬ p → FirstOf rest a → FirstOf ((p, b) :: rest) a

/-- One of the conditions is the first, or none applies. -/
theorem FirstOf.exists_or {α : Type} (conditions : List (Prop × α)) :
    (∃ a, FirstOf conditions a) ∨ ∀ condition ∈ conditions, ¬ condition.1 := by
  induction conditions with
  | nil => exact Or.inr (by simp)
  | cons condition rest ih =>
      by_cases h : condition.1
      · exact Or.inl ⟨condition.2, .here h⟩
      · refine ih.imp (fun ⟨a, ha⟩ => ⟨a, .later h ha⟩) fun hrest => ?_
        exact List.forall_mem_cons.2 ⟨h, hrest⟩

theorem FirstOf.cons_iff {α : Type} {p : Prop} {a b : α} {rest : List (Prop × α)} :
    FirstOf ((p, b) :: rest) a ↔ (p ∧ a = b) ∨ (¬ p ∧ FirstOf rest a) := by
  constructor
  · rintro (hp | ⟨hp, hrest⟩)
    · exact Or.inl ⟨hp, rfl⟩
    · exact Or.inr ⟨hp, hrest⟩
  · rintro (⟨hp, rfl⟩ | ⟨hp, hrest⟩)
    · exact .here hp
    · exact .later hp hrest

theorem FirstOf.not_nil {α : Type} {a : α} : ¬ FirstOf [] a := nofun

/-- **The defects of a header and the bytes after it**, in the order in which they are looked
for, with the errors that report them. -/
def Header.defects (h : Header) (body : List UInt8) : List (Prop × TableError) :=
  [(h.magic ≠ Blob.magic, .badMagic h.magic),
   (4 < h.pointCount.toNat, .tooManyPoints h.pointCount.toNat),
   (¬ ∃ points, h.Laid points body, .malformed),
   (h.Names ∧ (255 < h.fastFull.toNat ∨ 255 < h.fastHalf.toNat), .malformed),
   (h.pointCount.toNat = 0, .empty),
   (h.Names ∧ h.pointCount.toNat ≤ h.fastFull.toNat, .fastSwitchIndex ⟨h.fastFull.toUInt8⟩),
   (h.Names ∧ h.pointCount.toNat ≤ h.fastHalf.toNat, .fastSwitchIndex ⟨h.fastHalf.toUInt8⟩)]

/-- **Why bytes at an address are rejected**: they do not start at a word, or are too short for a
header, or else have a first defect. -/
inductive Rejected (bytes : List UInt8) (address : Nat) : TableError → Prop
  /-- The bytes do not start at a word. -/
  | misaligned : address % 4 ≠ 0 → Rejected bytes address .malformed
  /-- The bytes are shorter than a header. -/
  | short : bytes.length < 16 → Rejected bytes address .malformed
  /-- There is a header, and something is wrong with it or with what follows. -/
  | defect {h : Header} {body : List UInt8} {e : TableError} : address % 4 = 0 →
      bytes = spell h.words ++ body → FirstOf (h.defects body) e → Rejected bytes address e

/-! ### The parts of the reader -/

theorem header?_eq_some {ws rest : List UInt32} {h : Header} :
    header? ws = some (h, rest) ↔ ws = h.words ++ rest := by
  constructor
  · fun_cases header? ws with
    | case1 m count full half rest' =>
        intro heq
        simp only [Option.some.injEq, Prod.mk.injEq] at heq
        obtain ⟨rfl, rfl⟩ := heq
        rfl
    | case2 => simp
  · rintro rfl
    rfl

theorem header?_eq_none {ws : List UInt32} : header? ws = none ↔ ws.length < 4 := by
  match ws with
  | [] | [_] | [_, _] | [_, _, _] => simp [header?]
  | _ :: _ :: _ :: _ :: _ => simp [header?]

theorem records?_append (records : List Record) (rest : List UInt32) :
    records? records.length (records.flatMap Record.words ++ rest) = some (records, rest) := by
  induction records with
  | nil => rfl
  | cons r records ih =>
      rw [List.length_cons, List.flatMap_cons, List.append_assoc]
      simp only [Record.words, Record.lengths, List.cons_append, List.nil_append, records?]
      rw [ih]
      rfl

theorem records?_eq_some {count : Nat} {ws rest : List UInt32} {records : List Record} :
    records? count ws = some (records, rest) ↔
      records.length = count ∧ ws = records.flatMap Record.words ++ rest := by
  constructor
  · fun_induction records? count ws generalizing records with
    | case1 ws =>
        intro h
        simp only [Option.some.injEq, Prod.mk.injEq] at h
        obtain ⟨rfl, rfl⟩ := h
        exact ⟨rfl, rfl⟩
    | case2 count rate flags a b c d e rest' ih =>
        intro h
        simp only [Option.bind_eq_bind, Option.bind_eq_some_iff, Prod.exists, Option.pure_def,
          Option.some.injEq, Prod.mk.injEq] at h
        obtain ⟨records', rest'', h', rfl, rfl⟩ := h
        obtain ⟨rfl, rfl⟩ := ih h'
        exact ⟨rfl, rfl⟩
    | case3 => simp
  · rintro ⟨rfl, rfl⟩
    exact records?_append records rest

theorem program?_append (program : RegisterProgram) (rest : List UInt32) :
    program? program.length (programWords program ++ rest) = some (program, rest) := by
  induction program with
  | nil => rfl
  | cons entry program ih =>
      rw [programWords, List.length_cons, List.flatMap_cons, List.append_assoc, ← programWords]
      simp only [List.cons_append, List.nil_append, program?]
      rw [ih]
      rfl

theorem program?_eq_some {count : Nat} {ws rest : List UInt32} {program : RegisterProgram} :
    program? count ws = some (program, rest) ↔
      program.length = count ∧ ws = programWords program ++ rest := by
  constructor
  · fun_induction program? count ws generalizing program with
    | case1 ws =>
        intro h
        simp only [Option.some.injEq, Prod.mk.injEq] at h
        obtain ⟨rfl, rfl⟩ := h
        exact ⟨rfl, rfl⟩
    | case2 count offset value rest' ih =>
        intro h
        simp only [Option.bind_eq_bind, Option.bind_eq_some_iff, Prod.exists, Option.pure_def,
          Option.some.injEq, Prod.mk.injEq] at h
        obtain ⟨program', rest'', h', rfl, rfl⟩ := h
        obtain ⟨rfl, rfl⟩ := ih h'
        exact ⟨rfl, rfl⟩
    | case3 => simp
  · rintro ⟨rfl, rfl⟩
    exact program?_append program rest

/-- The flag that the reader tests is the lowest. -/
theorem bypassFlag_set (flags : UInt32) :
    (flags &&& bypassFlag != 0) = flags.toNat.testBit 0 := by
  refine Bool.eq_iff_iff.2 ?_
  rw [bne_iff_ne, ne_eq, Word.and_eq_zero_iff (k := 0) rfl, Bool.not_eq_false]

theorem words_append (t : PointTimings) (rest : List UInt32) :
    t.words ++ rest = programWords t.controller ++ (programWords t.phyInit ++
      (programWords t.phyTrained ++ (programWords t.phyEngine ++
        (programWords t.modeRegisters ++ rest)))) := by
  simp only [PointTimings.words, PointTimings.lists, List.flatMap_cons, List.flatMap_nil,
    List.append_assoc, List.append_nil]

theorem timings?_eq_some {r : Record} {ws rest : List UInt32} {t : PointTimings} :
    timings? r ws = some (t, rest) ↔ r.Announces t ∧ ws = t.words ++ rest := by
  simp only [timings?, Option.bind_eq_bind, Option.bind_eq_some_iff, Prod.exists, Option.pure_def,
    Option.some.injEq, Prod.mk.injEq, program?_eq_some, words_append]
  constructor
  · rintro ⟨a, _, ⟨ha, rfl⟩, b, _, ⟨hb, rfl⟩, c, _, ⟨hc, rfl⟩, d, _, ⟨hd, rfl⟩, e, _, ⟨he, rfl⟩,
      rfl, rfl⟩
    refine ⟨⟨rfl, bypassFlag_set _, ?_⟩, rfl⟩
    simp only [PointTimings.lists, Record.lengths, List.map_cons, List.map_nil, ha, hb, hc, hd, he]
  · rintro ⟨⟨hrate, hbypass, hlengths⟩, rfl⟩
    simp only [PointTimings.lists, Record.lengths, List.map_cons, List.map_nil, List.cons.injEq,
      and_true] at hlengths
    obtain ⟨ha, hb, hc, hd, he⟩ := hlengths
    refine ⟨t.controller, _, ⟨ha, rfl⟩, t.phyInit, _, ⟨hb, rfl⟩, t.phyTrained, _, ⟨hc, rfl⟩,
      t.phyEngine, _, ⟨hd, rfl⟩, t.modeRegisters, rest, ⟨he, rfl⟩, ?_, rfl⟩
    rw [bypassFlag_set, ← hrate, ← hbypass]

theorem points?_eq_some {records : List Record} {ws : List UInt32} {points : List PointTimings} :
    points? records ws = some points ↔ List.Forall₂ Record.Announces records points ∧
      ∃ rest, ws = points.flatMap PointTimings.words ++ rest := by
  induction records generalizing ws points with
  | nil =>
      simp only [points?, Option.some.injEq, List.forall₂_nil_left_iff, eq_comm (a := [])]
      constructor
      · rintro rfl
        exact ⟨rfl, ws, rfl⟩
      · exact And.left
  | cons r records ih =>
      simp only [points?, Option.bind_eq_bind, Option.bind_eq_some_iff, Prod.exists,
        Option.pure_def, Option.some.injEq, timings?_eq_some, ih, List.forall₂_cons_left_iff]
      constructor
      · rintro ⟨t, _, ⟨ht, rfl⟩, points, ⟨hpoints, rest, rfl⟩, rfl⟩
        exact ⟨⟨t, points, ht, hpoints, rfl⟩, rest, by rw [List.flatMap_cons, List.append_assoc]⟩
      · rintro ⟨⟨t, points, ht, hpoints, rfl⟩, rest, rfl⟩
        exact ⟨t, _, ⟨ht, by rw [List.flatMap_cons, List.append_assoc]⟩, points,
          ⟨hpoints, rest, rfl⟩, rfl⟩

/-- The points that a header and the words after it describe. -/
def Header.points? (h : Header) (ws : List UInt32) : Option (List PointTimings) := do
  let (records, lists) ← records? h.pointCount.toNat ws
  Blob.points? records lists

/-- **The reader of records and lists** accepts exactly what is laid out after the header. -/
theorem Header.points?_eq_some {h : Header} {body : List UInt8} {points : List PointTimings} :
    h.points? (Blob.words body) = some points ↔ h.Laid points body := by
  simp only [Header.points?, Option.bind_eq_bind, Option.bind_eq_some_iff, Prod.exists,
    records?_eq_some, Blob.points?_eq_some]
  constructor
  · rintro ⟨records, _, ⟨hcount, hwords⟩, hannounced, rest, rfl⟩
    rw [← List.append_assoc] at hwords
    obtain ⟨trailing, hbody, -⟩ := words_eq_append.1 hwords
    exact ⟨records, trailing, hcount, hannounced, hbody⟩
  · rintro ⟨records, trailing, hcount, hannounced, rfl⟩
    refine ⟨records, _, ⟨hcount, ?_⟩, hannounced, Blob.words trailing, rfl⟩
    rw [words_spell_append, List.append_assoc]

/-- Points that are laid out are as many as the header says. -/
theorem Header.Laid.length_eq {h : Header} {body : List UInt8} {points : List PointTimings}
    (hlaid : h.Laid points body) : points.length = h.pointCount.toNat := by
  obtain ⟨records, trailing, hcount, hannounced, -⟩ := hlaid
  rw [← hannounced.length_eq, hcount]

theorem toNat_ofField {w : UInt32} (hw : w.toNat ≤ 255) :
    (⟨w.toUInt8⟩ : FrequencyIndex).toNat = w.toNat := by
  rw [FrequencyIndex.toNat, UInt32.toNat_toUInt8, Nat.mod_eq_of_lt (by omega)]

theorem fastPair?_of_not_names {h : Header} (hnames : ¬ h.Names) : fastPair? h = some none := by
  refine if_pos ?_
  simpa only [Header.Names, not_and_or, not_not] using hnames

theorem fastPair?_of_names {h : Header} (hnames : h.Names) : fastPair? h =
    if h.fastFull.toNat ≤ 255 ∧ h.fastHalf.toNat ≤ 255 then
      some (some ⟨⟨h.fastFull.toUInt8⟩, ⟨h.fastHalf.toUInt8⟩⟩)
    else none := by
  refine if_neg ?_
  simpa only [Header.Names, not_or] using hnames

end Blob

/-! ### The reader -/

namespace TimingTable

open Blob

/-- The check of points and pair, once they are read. -/
theorem ofBlob_spell {address : Nat} (haddress : address % 4 = 0) (h : Header)
    (body : List UInt8) : ofBlob (spell h.words ++ body) address =
      if h.magic ≠ Blob.magic then .error (.badMagic h.magic)
      else if 4 < h.pointCount.toNat then .error (.tooManyPoints h.pointCount.toNat)
      else
        match h.points? (Blob.words body), fastPair? h with
        | some points, some fast => ofPoints points fast
        | _, _ => .error .malformed := by
  rw [ofBlob, if_neg (not_not.2 haddress), words_spell_append, header?_eq_some.2 rfl]
  simp only [Header.points?, maxPoints, gt_iff_lt, Option.bind_eq_bind]
  congr 2
  cases records? h.pointCount.toNat (Blob.words body) with
  | none => rfl
  | some read => rfl

/-! ### The check of a table -/

theorem outside_of_lt {count : Nat} {fast : Option FastPair}
    (h : ∀ pair, fast = some pair → pair.full.toNat < count ∧ pair.half.toNat < count) :
    outside count fast = none := by
  cases fast with
  | none => rfl
  | some pair =>
      obtain ⟨hfull, hhalf⟩ := h pair rfl
      rw [outside, if_neg (by omega), if_neg (by omega)]

/-- A table is accepted as it is. -/
theorem ofPoints_eq_ok {points : List PointTimings} {fast : Option FastPair} {t : TimingTable} :
    ofPoints points fast = .ok t ↔ t.points = points ∧ t.fast = fast := by
  constructor
  · fun_cases ofPoints points fast with
    | case1 => simp
    | case2 => simp
    | case3 hcount hne hfast =>
        rintro ⟨⟩
        exact ⟨rfl, rfl⟩
    | case4 => simp
  · rintro ⟨rfl, rfl⟩
    fun_cases ofPoints t.points t.fast with
    | case1 hcount hnil => exact absurd hnil t.points_ne_nil
    | case2 hcount hne index hfast =>
        rw [outside_of_lt t.fast_lt] at hfast
        simp at hfast
    | case3 => rfl
    | case4 hcount => exact absurd t.length_points_le hcount

theorem ofPoints_outside {points : List PointTimings} {fast : Option FastPair}
    {index : FrequencyIndex} (hle : points.length ≤ maxPoints) (hne : points ≠ [])
    (hout : outside points.length fast = some index) :
    ofPoints points fast = .error (.fastSwitchIndex index) := by
  rw [ofPoints, dif_pos hle, dif_neg hne]
  split
  · next index' h =>
      rw [hout] at h
      rw [Option.some.inj h]
  · next h => simp [hout] at h

/-! ### Acceptance and rejection -/

variable {address : Nat} {h : Header} {body : List UInt8}

/-- The first defect is reported. -/
theorem ofBlob_of_defect (haddress : address % 4 = 0) {e : TableError}
    (hfirst : FirstOf (h.defects body) e) :
    ofBlob (spell h.words ++ body) address = .error e := by
  rw [ofBlob_spell haddress]
  simp only [Header.defects, FirstOf.cons_iff, FirstOf.not_nil, and_false, or_false] at hfirst
  -- the conditions are taken in their order, each with the earlier ones excluded
  obtain ⟨hmagic, rfl⟩ | ⟨hmagic, hfirst⟩ := hfirst
  · exact if_pos hmagic
  rw [if_neg hmagic]
  obtain ⟨hmany, rfl⟩ | ⟨hmany, hfirst⟩ := hfirst
  · exact if_pos hmany
  rw [if_neg hmany]
  obtain ⟨hlaid, rfl⟩ | ⟨hlaid, hfirst⟩ := hfirst
  · rw [Option.eq_none_iff_forall_ne_some.2 fun points hpoints =>
      hlaid ⟨points, Header.points?_eq_some.1 hpoints⟩]
  obtain ⟨points, hlaid⟩ := not_not.1 hlaid
  rw [Header.points?_eq_some.2 hlaid]
  have hlength := hlaid.length_eq
  obtain ⟨⟨hnames, hwide⟩, rfl⟩ | ⟨hnarrow, hfirst⟩ := hfirst
  · rw [fastPair?_of_names hnames, if_neg (by omega)]
  obtain ⟨hzero, rfl⟩ | ⟨hzero, hfirst⟩ := hfirst
  · have hnil : points = [] := List.length_eq_zero_iff.1 (by omega)
    subst hnil
    by_cases hnames : h.Names
    · have hwide : ¬ (255 < h.fastFull.toNat ∨ 255 < h.fastHalf.toNat) :=
        fun hwide => hnarrow ⟨hnames, hwide⟩
      rw [fastPair?_of_names hnames, if_pos (by omega)]
      rfl
    · rw [fastPair?_of_not_names hnames]
      rfl
  -- what is left are the two fields of the fast pair
  have hne : points ≠ [] := fun hnil => hzero (by rw [← hlength, hnil, List.length_nil])
  have hle : points.length ≤ maxPoints := by simp only [maxPoints]; omega
  have hread (hnames : h.Names) : h.fastFull.toNat ≤ 255 ∧ h.fastHalf.toNat ≤ 255 ∧
      fastPair? h = some (some ⟨⟨h.fastFull.toUInt8⟩, ⟨h.fastHalf.toUInt8⟩⟩) := by
    have hwide : ¬ (255 < h.fastFull.toNat ∨ 255 < h.fastHalf.toNat) :=
      fun hwide => hnarrow ⟨hnames, hwide⟩
    exact ⟨by omega, by omega, by rw [fastPair?_of_names hnames, if_pos (by omega)]⟩
  obtain ⟨⟨hnames, hfull⟩, rfl⟩ | ⟨hfull, ⟨hnames, hhalf⟩, rfl⟩ := hfirst
  · obtain ⟨hf, hh, hpair⟩ := hread hnames
    rw [hpair]
    refine ofPoints_outside hle hne ?_
    rw [outside, if_pos (by rw [toNat_ofField hf]; omega)]
  · obtain ⟨hf, hh, hpair⟩ := hread hnames
    have hfull : ¬ h.pointCount.toNat ≤ h.fastFull.toNat := fun hle => hfull ⟨hnames, hle⟩
    rw [hpair]
    refine ofPoints_outside hle hne ?_
    rw [outside, if_neg (by rw [toNat_ofField hf]; omega),
      if_pos (by rw [toNat_ofField hh]; omega)]

/-- What is described is accepted as described. -/
theorem ofBlob_of_describes (haddress : address % 4 = 0) {t : TimingTable}
    (hdescribes : h.Describes body t.points t.fast) :
    ofBlob (spell h.words ++ body) address = .ok t := by
  obtain ⟨hmagic, hpos, hle, hlaid, hpairs⟩ := hdescribes
  rw [ofBlob_spell haddress, if_neg (not_not.2 hmagic), if_neg (by omega),
    Header.points?_eq_some.2 hlaid]
  have hfast : fastPair? h = some t.fast := by
    generalize t.fast = fast at hpairs
    cases hpairs with
    | absent habsent => exact if_pos habsent
    | present pair hnames hfull hhalf hfullLt hhalfLt =>
        rw [fastPair?_of_names hnames, if_pos (by omega)]
        obtain ⟨⟨full⟩, ⟨half⟩⟩ := pair
        simp only [FrequencyIndex.toNat] at hfull hhalf
        congr
        · rw [← UInt8.toNat_inj, UInt32.toNat_toUInt8, hfull, Nat.mod_eq_of_lt (by omega)]
        · rw [← UInt8.toNat_inj, UInt32.toNat_toUInt8, hhalf, Nat.mod_eq_of_lt (by omega)]
  rw [hfast]
  exact ofPoints_eq_ok.2 ⟨rfl, rfl⟩

/-- Where nothing is wrong, a table is described. -/
theorem exists_describes (hsound : ∀ defect ∈ h.defects body, ¬ defect.1) :
    ∃ t : TimingTable, h.Describes body t.points t.fast := by
  simp only [Header.defects, List.forall_mem_cons, not_not, not_and, not_lt, not_or] at hsound
  obtain ⟨hmagic, hle, ⟨points, hlaid⟩, hnarrow, hzero, hfull, hhalf, -⟩ := hsound
  have hlength := hlaid.length_eq
  have hne : points ≠ [] := fun hnil => hzero (by rw [← hlength, hnil, List.length_nil])
  have hmax : points.length ≤ maxPoints := by simp only [maxPoints]; omega
  by_cases hnames : h.Names
  · obtain ⟨hf, hh⟩ := hnarrow hnames
    specialize hfull hnames
    specialize hhalf hnames
    refine ⟨⟨points, some ⟨⟨h.fastFull.toUInt8⟩, ⟨h.fastHalf.toUInt8⟩⟩, hne, hmax, ?_⟩,
      hmagic, by omega, hle, hlaid, .present _ hnames (toNat_ofField hf) (toNat_ofField hh)
        (by omega) (by omega)⟩
    rintro pair ⟨⟩
    rw [toNat_ofField hf, toNat_ofField hh]
    omega
  · refine ⟨⟨points, none, hne, hmax, nofun⟩, hmagic, by omega, hle, hlaid, .absent ?_⟩
    simpa only [Header.Names, not_and_or, not_not] using hnames

/-- Bytes of a table are rejected for a first defect, or describe a table that they are read as. -/
theorem rejected_or_described (bytes : List UInt8) (address : Nat) :
    (∃ e, Rejected bytes address e ∧ ofBlob bytes address = .error e) ∨
      ∃ (h : Header) (body : List UInt8) (t : TimingTable), address % 4 = 0 ∧
        bytes = spell h.words ++ body ∧ h.Describes body t.points t.fast ∧
          ofBlob bytes address = .ok t := by
  by_cases haddress : address % 4 = 0
  swap
  · exact Or.inl ⟨_, .misaligned haddress, if_pos haddress⟩
  cases hheader : header? (Blob.words bytes) with
  | none =>
      have hshort : bytes.length < 16 := by
        have := header?_eq_none.1 hheader
        rw [length_words] at this
        omega
      refine Or.inl ⟨_, .short hshort, ?_⟩
      rw [ofBlob, if_neg (not_not.2 haddress), hheader]
  | some read =>
      obtain ⟨h, rest⟩ := read
      obtain ⟨body, rfl, -⟩ := words_eq_append.1 (header?_eq_some.1 hheader)
      obtain ⟨e, he⟩ | hsound := FirstOf.exists_or (h.defects body)
      · exact Or.inl ⟨e, .defect haddress rfl he, ofBlob_of_defect haddress he⟩
      · obtain ⟨t, ht⟩ := exists_describes hsound
        exact Or.inr ⟨h, body, t, haddress, rfl, ht, ofBlob_of_describes haddress ht⟩

theorem ofBlob_of_rejected {bytes : List UInt8} {e : TableError}
    (hrejected : Rejected bytes address e) : ofBlob bytes address = .error e := by
  cases hrejected with
  | misaligned haddress => exact if_pos haddress
  | short hshort =>
      have hnone : header? (Blob.words bytes) = none := by
        rw [header?_eq_none, length_words]
        omega
      by_cases haddress : address % 4 = 0
      · rw [ofBlob, if_neg (not_not.2 haddress), hnone]
      · exact if_pos haddress
  | defect haddress hbytes hfirst =>
      subst hbytes
      exact ofBlob_of_defect haddress hfirst

end TimingTable

/-! ### Encoding -/

/-- The record of a point. -/
def PointTimings.record (t : PointTimings) : Blob.Record where
  dataRate := t.dataRate
  flags := if t.bypass then Blob.bypassFlag else 0
  controller := .ofNat t.controller.length
  phyInit := .ofNat t.phyInit.length
  phyTrained := .ofNat t.phyTrained.length
  phyEngine := .ofNat t.phyEngine.length
  modeRegisters := .ofNat t.modeRegisters.length

/-- The field of a header for a point of the fast pair, or for there being none. -/
def FastPair.field (fast : Option FastPair) (speed : Speed) : UInt32 :=
  match fast with
  | none => Blob.noFastSwitch
  | some pair => (pair.point speed).val.toUInt32

namespace TimingTable

open Blob

/-- The header of a table. -/
def header (t : TimingTable) : Header where
  magic := Blob.magic
  pointCount := .ofNat t.size
  fastFull := FastPair.field t.fast .full
  fastHalf := FastPair.field t.fast .half

/-- What follows the header of a table. -/
def body (t : TimingTable) : List UInt8 :=
  spell ((t.points.map PointTimings.record).flatMap Record.words ++
    t.points.flatMap PointTimings.words)

/-- **A table in the format of a blob.** -/
def encode (t : TimingTable) : List UInt8 := spell t.header.words ++ t.body

theorem announces_record {t : PointTimings} (hlengths : ∀ list ∈ t.lists, list.length < 2 ^ 32) :
    t.record.Announces t := by
  refine ⟨rfl, ?_, ?_⟩
  · cases hbypass : t.bypass with
    | false => simp [PointTimings.record, hbypass]
    | true => simp [PointTimings.record, hbypass, bypassFlag]
  · simp only [PointTimings.lists, List.forall_mem_cons] at hlengths
    obtain ⟨ha, hb, hc, hd, he, -⟩ := hlengths
    simp only [PointTimings.lists, PointTimings.record, Record.lengths, List.map_cons,
      List.map_nil, UInt32.toNat_ofNat_of_lt' ha, UInt32.toNat_ofNat_of_lt' hb,
      UInt32.toNat_ofNat_of_lt' hc, UInt32.toNat_ofNat_of_lt' hd, UInt32.toNat_ofNat_of_lt' he]

theorem toNat_pointCount (t : TimingTable) : t.header.pointCount.toNat = t.size := by
  have hle : t.size ≤ 4 := t.length_points_le
  exact UInt32.toNat_ofNat_of_lt' (lt_of_le_of_lt hle (by decide))

/-- The number of a point is not the word for no fast switching. -/
theorem toUInt32_ne_noFastSwitch (i : UInt8) : i.toUInt32 ≠ noFastSwitch := by
  intro h
  have := congrArg UInt32.toNat h
  have hlt := i.toNat_lt
  rw [UInt8.toNat_toUInt32] at this
  simp only [noFastSwitch, UInt32.reduceToNat] at this
  omega

theorem header_pairs (t : TimingTable) : t.header.Pairs t.fast := by
  have hcount : t.header.pointCount.toNat = t.points.length := toNat_pointCount t
  have hlt := t.fast_lt
  cases hfast : t.fast with
  | none => exact .absent (Or.inl (by rw [header, hfast]; rfl))
  | some pair =>
      obtain ⟨hfull, hhalf⟩ := hlt pair hfast
      have hfield (speed : Speed) :
          FastPair.field t.fast speed = (pair.point speed).val.toUInt32 := by
        rw [hfast]
        rfl
      have hnames : t.header.Names :=
        ⟨(hfield .full).trans_ne (toUInt32_ne_noFastSwitch _),
          (hfield .half).trans_ne (toUInt32_ne_noFastSwitch _)⟩
      have hfullField : t.header.fastFull.toNat = pair.full.toNat := by
        rw [show t.header.fastFull = _ from hfield .full, UInt8.toNat_toUInt32]
        rfl
      have hhalfField : t.header.fastHalf.toNat = pair.half.toNat := by
        rw [show t.header.fastHalf = _ from hfield .half, UInt8.toNat_toUInt32]
        rfl
      exact .present pair hnames hfullField.symm hhalfField.symm (by omega) (by omega)

/-- What a table is encoded as describes it, whatever follows. -/
theorem header_describes (t : TimingTable) (trailing : List UInt8)
    (hlengths : ∀ p ∈ t.points, ∀ list ∈ p.lists, list.length < 2 ^ 32) :
    t.header.Describes (t.body ++ trailing) t.points t.fast := by
  have hcount := toNat_pointCount t
  have hpos : 0 < t.size := List.length_pos_iff.2 t.points_ne_nil
  have hle : t.size ≤ 4 := t.length_points_le
  refine ⟨rfl, by omega, by omega, ⟨t.points.map PointTimings.record, trailing, ?_, ?_, rfl⟩,
    header_pairs t⟩
  · rw [List.length_map, hcount, size]
  · refine List.forall₂_map_left_iff.2 (List.forall₂_same.2 fun p hp => ?_)
    exact announces_record (hlengths p hp)

/-- **The format of an encoded table.**  Whatever the bytes and their place, they are read as a
table exactly if they start at a word and begin with a header and what describes the points and the
fast pair of that table.  They are rejected with an error exactly if it reports the first thing
that is wrong with them.  Hence every table, built from points whose lists have lengths that a word
holds, is read back from its encoding and any bytes after it. -/
theorem blob_format :
    (∀ (bytes : List UInt8) (address : Nat) (t : TimingTable), ofBlob bytes address = .ok t ↔
      address % 4 = 0 ∧ ∃ (h : Header) (body : List UInt8),
        bytes = spell h.words ++ body ∧ h.Describes body t.points t.fast) ∧
    (∀ (bytes : List UInt8) (address : Nat) (e : TableError),
      ofBlob bytes address = .error e ↔ Rejected bytes address e) ∧
    ∀ (points : List PointTimings) (fast : Option FastPair) (t : TimingTable) (address : Nat)
      (trailing : List UInt8), ofPoints points fast = .ok t →
      (∀ p ∈ points, ∀ list ∈ p.lists, list.length < 2 ^ 32) → address % 4 = 0 →
      ofBlob (t.encode ++ trailing) address = .ok t := by
  refine ⟨fun bytes address t => ⟨fun h => ?_, ?_⟩, fun bytes address e => ⟨fun h => ?_, ?_⟩, ?_⟩
  · obtain ⟨e, -, he⟩ | ⟨header, body, t', haddress, hbytes, hdescribes, ht'⟩ :=
      rejected_or_described bytes address
    · exact absurd (he.symm.trans h) (by simp)
    · obtain rfl : t' = t := Except.ok.inj (ht'.symm.trans h)
      exact ⟨haddress, header, body, hbytes, hdescribes⟩
  · rintro ⟨haddress, header, body, rfl, hdescribes⟩
    exact ofBlob_of_describes haddress hdescribes
  · obtain ⟨e', hrejected, he'⟩ | ⟨header, body, t', haddress, hbytes, hdescribes, ht'⟩ :=
      rejected_or_described bytes address
    · obtain rfl : e' = e := Except.error.inj (he'.symm.trans h)
      exact hrejected
    · exact absurd (ht'.symm.trans h) (by simp)
  · exact ofBlob_of_rejected
  · intro points fast t address trailing hbuilt hlengths haddress
    obtain ⟨rfl, rfl⟩ := ofPoints_eq_ok.1 hbuilt
    rw [encode, List.append_assoc]
    exact ofBlob_of_describes haddress (header_describes t trailing hlengths)

/-- The table of the sample board is read back, with a byte after it that is part of nothing. -/
theorem sample_blob_format :
    ofPoints Board.samplePoints (some ⟨⟨0⟩, ⟨1⟩⟩) = .ok Board.sampleTable ∧
      (∀ p ∈ Board.samplePoints, ∀ list ∈ p.lists, list.length < 2 ^ 32) ∧ 4096 % 4 = 0 ∧
      ofBlob (Board.sampleTable.encode ++ [7]) 4096 = .ok Board.sampleTable :=
  ⟨rfl, by decide, by decide,
    blob_format.2.2 Board.samplePoints (some ⟨⟨0⟩, ⟨1⟩⟩) Board.sampleTable 4096 [7] rfl (by decide)
      (by decide)⟩

end TimingTable

end Reclock
