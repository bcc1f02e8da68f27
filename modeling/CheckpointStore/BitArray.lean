import Mathlib.Data.List.Basic
import Mathlib.Data.List.GetD
import Mathlib.Logic.Function.Iterate

/-!
# CheckpointStore.BitArray — the growable bitmap behind `usedChunkInfo_` and `validChunkInfo_`

`BitArray` (a util class) is not among the repository's files: it is modelled from the spec
(§4.1) as its list of bits.  `set` past the end grows the array and zero-fills the gap, `append`
stores at the end and returns that index, `clear` empties the array and `reset` clears every
bit but keeps the length.  `get` past the end reads `false`, the bit a zero-filling `set`
would have written there.

* `get_set`: a `set` changes exactly one position, also when it grows the array.
* `countFalse_set_of_lt`, `countFalse_set_of_le`: the false bits after a `set` inside and past
  the end; `freeUseBitNum_` is meant to track this count.
-/

namespace CheckpointStore

/-- Modelled from the spec: `BitArray`, the packed boolean vector of §4.1, as its bits. -/
structure BitArray where
  bits : List Bool
  deriving DecidableEq, Repr

namespace BitArray

/-- The array a constructor `BitArray(capacity)` makes: the capacity is only reserved. -/
def empty : BitArray := ⟨[]⟩

def length (b : BitArray) : Nat := b.bits.length

/-- `get(pos)`; past the end it reads `false`. -/
def get (b : BitArray) (pos : Nat) : Bool := b.bits.getD pos false

/-- `set(pos, value)`: past the end the array grows to `pos + 1` bits, the gap zero-filled. -/
def set (b : BitArray) (pos : Nat) (value : Bool) : BitArray :=
  if pos < b.length then ⟨b.bits.set pos value⟩
  else ⟨b.bits ++ List.replicate (pos - b.length) false ++ [value]⟩

/-- `append(value)`: the index the bit was stored at, and the grown array. -/
def append (b : BitArray) (value : Bool) : Nat × BitArray := (b.length, ⟨b.bits ++ [value]⟩)

/-- `reserve(n)` only changes the capacity. -/
def reserve (b : BitArray) (_ : Nat) : BitArray := b

def clear (_ : BitArray) : BitArray := empty

def reset (b : BitArray) : BitArray := ⟨List.replicate b.length false⟩

/-- The number of false bits, the quantity `freeUseBitNum_` counts. -/
def countFalse (b : BitArray) : Nat := b.bits.count false

/-! ### Length and bits after each operation -/

@[simp] theorem length_empty : empty.length = 0 := rfl

@[simp] theorem length_mk (l : List Bool) : (⟨l⟩ : BitArray).length = l.length := rfl

@[simp] theorem get_empty (pos : Nat) : empty.get pos = false := rfl

@[simp] theorem reserve_eq (b : BitArray) (n : Nat) : b.reserve n = b := rfl

@[simp] theorem clear_eq (b : BitArray) : b.clear = empty := rfl

theorem get_of_length_le {b : BitArray} {pos : Nat} (h : b.length ≤ pos) : b.get pos = false :=
  List.getD_eq_default _ _ h

@[simp] theorem length_set (b : BitArray) (pos : Nat) (value : Bool) :
    (b.set pos value).length = max b.length (pos + 1) := by
  unfold set
  split <;> simp [length] at * <;> omega

@[simp] theorem get_set (b : BitArray) (pos j : Nat) (value : Bool) :
    (b.set pos value).get j = if j = pos then value else b.get j := by
  unfold set get length
  simp only [List.getD_eq_getElem?_getD]
  split
  · rw [List.getElem?_set]
    by_cases hj : j = pos
    · subst hj; simp [*]
    · simp [Ne.symm hj, hj]
  · rcases Nat.lt_or_ge j b.bits.length with hj | hj
    · rw [List.append_assoc, List.getElem?_append_left hj, if_neg (by omega)]
    · rw [List.append_assoc, List.getElem?_append_right hj, List.getElem?_append,
        List.getElem?_eq_none hj]
      simp only [List.length_replicate, List.getElem?_replicate]
      rcases Nat.lt_trichotomy j pos with h | rfl | h
      · simp [Nat.ne_of_lt h, show j - b.bits.length < pos - b.bits.length by omega]
      · simp
      · rw [if_neg (by omega), if_neg (by omega), List.getElem?_eq_none (by simp; omega)]

theorem ext_get {a b : BitArray} (hl : a.length = b.length) (hg : ∀ i, a.get i = b.get i) :
    a = b := by
  cases a; cases b
  simp only [mk.injEq]
  refine List.ext_getElem hl fun i h₁ h₂ => ?_
  simpa [get, h₁, h₂] using hg i

theorem set_of_get_eq {b : BitArray} {pos : Nat} {value : Bool} (h : pos < b.length)
    (hv : b.get pos = value) : b.set pos value = b :=
  ext_get (by simp; omega) fun j => by rw [get_set]; split <;> simp_all

theorem append_eq_set (b : BitArray) (value : Bool) :
    b.append value = (b.length, b.set b.length value) := by
  simp [append, set]

@[simp] theorem length_reset (b : BitArray) : b.reset.length = b.length := by
  simp [reset]

@[simp] theorem get_mk_replicate_false (n pos : Nat) :
    (⟨List.replicate n false⟩ : BitArray).get pos = false := by
  simp only [get, List.getD_eq_getElem?_getD, List.getElem?_replicate]
  split_ifs <;> rfl

@[simp] theorem get_reset (b : BitArray) (pos : Nat) : b.reset.get pos = false :=
  get_mk_replicate_false _ _

@[simp] theorem empty_set_false (pos : Nat) :
    empty.set pos false = ⟨List.replicate (pos + 1) false⟩ := by
  simp [set, empty, List.replicate_succ']

theorem appendFalse_iterate (n : Nat) :
    (fun b : BitArray => (b.append false).2)^[n] empty = ⟨List.replicate n false⟩ := by
  induction n with
  | zero => rfl
  | succ n ih => rw [Function.iterate_succ_apply', ih]; simp [append, List.replicate_succ']

/-! ### The false-bit count -/

theorem countFalse_le_length (b : BitArray) : b.countFalse ≤ b.length :=
  List.count_le_length _ _

@[simp] theorem countFalse_empty : empty.countFalse = 0 := rfl

@[simp] theorem countFalse_reset (b : BitArray) : b.reset.countFalse = b.length := by
  simp [reset, countFalse, List.count_replicate]

@[simp] theorem countFalse_mk_replicate (n : Nat) (v : Bool) :
    (⟨List.replicate n v⟩ : BitArray).countFalse = if v then 0 else n := by
  cases v <;> simp [countFalse, List.count_replicate]

theorem exists_get_false {b : BitArray} (h : 0 < b.countFalse) :
    ∃ i < b.length, b.get i = false := by
  obtain ⟨i, hi, hv⟩ := List.getElem_of_mem (List.count_pos_iff.mp h)
  exact ⟨i, hi, by simp [get, hi, hv]⟩

theorem countFalse_pos {b : BitArray} {i : Nat} (hi : i < b.length) (h : b.get i = false) :
    0 < b.countFalse := by
  rw [get, List.getD_eq_getElem _ _ hi] at h
  exact List.count_pos_iff.mpr (h ▸ List.getElem_mem hi)

theorem countFalse_set_of_lt {b : BitArray} {pos : Nat} (value : Bool) (h : pos < b.length) :
    (b.set pos value).countFalse + (!b.get pos).toNat = b.countFalse + (!value).toNat := by
  have hmem := List.getElem_mem h
  simp only [set, if_pos h, countFalse, List.count_set _ _ _ _ h, get, List.getD_eq_getElem _ _ h]
  revert hmem
  cases b.bits[pos] <;> cases value <;> simp
  all_goals intro hm; have := List.count_pos_iff.mpr hm; omega

theorem countFalse_set_of_le {b : BitArray} {pos : Nat} (value : Bool) (h : b.length ≤ pos) :
    (b.set pos value).countFalse = b.countFalse + (pos - b.length) + (!value).toNat := by
  simp only [set, if_neg (Nat.not_lt.mpr h), countFalse, List.count_append,
    List.count_replicate_self, List.count_singleton]
  cases value <;> rfl

end BitArray

end CheckpointStore
