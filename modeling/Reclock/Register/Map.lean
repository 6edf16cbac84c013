/-
**Register contents.**

A register map holds the values of the registers that have been given one; every other register
holds zero.  Giving a value replaces the earlier one, so a map never grows beyond the registers
in use.

Main definitions:

* `Reclock.RegisterMap` — the maps, with `find?`, `get`, `set`, `erase` and `dropWhere`.

Main results:

* `Reclock.RegisterMap.get_set` — the value of a register is the last one it was given;
* `Reclock.RegisterMap.get_dropWhere` — dropping registers resets them to zero and no others.
-/

import Reclock.Register

set_option relaxedAutoImplicit false
set_option autoImplicit false

namespace Reclock

/-- Values of registers; a register without one holds zero. -/
structure RegisterMap where
  /-- The registers that have a value. -/
  entries : List (Register × UInt32) := []
  deriving Inhabited

namespace RegisterMap

/-! ### Operations -/

/-- The value given to a register, if it has been given one. -/
def find? (m : RegisterMap) (r : Register) : Option UInt32 := m.entries.lookup r

/-- The value that a register holds. -/
def get (m : RegisterMap) (r : Register) : UInt32 := (m.find? r).getD 0

/-- The list of entries with one of them replaced, or added at the end. -/
def put (r : Register) (value : UInt32) : List (Register × UInt32) → List (Register × UInt32)
  | [] => [(r, value)]
  | (s, old) :: rest => if s = r then (r, value) :: rest else (s, old) :: put r value rest

/-- Gives a register a value. -/
def set (m : RegisterMap) (r : Register) (value : UInt32) : RegisterMap := ⟨put r value m.entries⟩

/-- Takes the value of a register away. -/
def erase (m : RegisterMap) (r : Register) : RegisterMap :=
  ⟨m.entries.filter fun entry => entry.1 ≠ r⟩

/-- Takes the values of all registers away that satisfy a condition. -/
def dropWhere (m : RegisterMap) (condition : Register → Bool) : RegisterMap :=
  ⟨m.entries.filter fun entry => !condition entry.1⟩

/-! ### What they do to the values -/

@[simp] theorem get_empty (r : Register) : ({} : RegisterMap).get r = 0 := rfl

theorem lookup_put (entries : List (Register × UInt32)) (r s : Register) (value : UInt32) :
    (put r value entries).lookup s = if s = r then some value else entries.lookup s := by
  induction entries with
  | nil =>
      by_cases h : s = r
      · simp [put, h]
      · have hb : (s == r) = false := by simpa using h
        simp [put, List.lookup_cons, h, hb]
  | cons entry rest ih =>
      obtain ⟨t, old⟩ := entry
      unfold put
      by_cases ht : t = r
      · subst ht
        by_cases hs : s = t
        · simp [hs]
        · have hb : (s == t) = false := by simpa using hs
          simp [List.lookup_cons, hs, hb]
      · by_cases hs : s = t
        · subst hs
          simp [ht]
        · have hst : (s == t) = false := by simpa using hs
          simp [List.lookup_cons, ht, hst, ih]

theorem find?_set (m : RegisterMap) (r s : Register) (value : UInt32) :
    (m.set r value).find? s = if s = r then some value else m.find? s :=
  lookup_put m.entries r s value

/-- **The value of a register is the last one it was given.** -/
theorem get_set (m : RegisterMap) (r s : Register) (value : UInt32) :
    (m.set r value).get s = if s = r then value else m.get s := by
  unfold get
  rw [find?_set]
  split <;> rfl

@[simp] theorem get_set_self (m : RegisterMap) (r : Register) (value : UInt32) :
    (m.set r value).get r = value := by rw [get_set, if_pos rfl]

theorem get_set_of_ne {m : RegisterMap} {r s : Register} {value : UInt32} (h : s ≠ r) :
    (m.set r value).get s = m.get s := by rw [get_set, if_neg h]

theorem lookup_filter (entries : List (Register × UInt32)) (keep : Register → Bool)
    (s : Register) :
    (entries.filter fun entry => keep entry.1).lookup s =
      if keep s then entries.lookup s else none := by
  induction entries with
  | nil => simp
  | cons entry rest ih =>
      obtain ⟨t, old⟩ := entry
      by_cases hs : s = t
      · subst hs
        cases hk : keep s <;> simp [hk, ih]
      · have hst : (s == t) = false := by simpa using hs
        cases hk : keep t <;> simp [List.lookup_cons, hk, hst, ih]

theorem find?_dropWhere (m : RegisterMap) (condition : Register → Bool) (s : Register) :
    (m.dropWhere condition).find? s = if condition s then none else m.find? s := by
  unfold find? dropWhere
  rw [lookup_filter m.entries (fun r => !condition r) s]
  cases condition s <;> rfl

/-- Dropping registers resets them to zero and leaves the others alone. -/
theorem get_dropWhere (m : RegisterMap) (condition : Register → Bool) (s : Register) :
    (m.dropWhere condition).get s = if condition s then 0 else m.get s := by
  unfold get
  rw [find?_dropWhere]
  split <;> rfl

end RegisterMap

end Reclock
