import Mathlib.Data.Nat.Find
import CheckpointStore.BitArray

/-!
# CheckpointStore.Alloc.Search — the bounded free-block search of `allocateBlock`

`allocateBlock` runs two `for` loops over `usedChunkInfo_` sharing one `count`: from the cursor
to the end, then (if nothing was found and `count` has not passed the limit) from 0 to where the
cursor was.  Each loop stops at a false bit, or once `count > ALLOCATE_BLOCK_SEARCH_LIMIT`
after a probe.  `searchLoop` is one such loop; `freeBlockSearch` is the two of them.  The
result also lists the positions handed to `usedChunkInfo_.get`, in order.

* `searchLoop_found`: a loop returns only a false bit, and every bit it passed is true.
* `searchLoop_reads`: a loop reads only ahead of its start, and never past a false bit.
* `searchLoop_first_free`: a false bit within the limit is found, together with its place.
-/

namespace CheckpointStore

/-- What one search loop leaves: `allocatePos`, the final `pos` and `count`, the bits read. -/
structure Search where
  allocatePos : Option Nat
  pos : Nat
  count : Nat
  reads : List Nat
  deriving DecidableEq, Repr

/-- One loop `for (; pos < stop; ++pos, ++count)` with `n = stop - pos` iterations left: a
false bit ends it with that position, `count > ALLOCATE_BLOCK_SEARCH_LIMIT` ends it without. -/
def searchLoop (used : BitArray) (limit : Nat) : (n pos count : Nat) → Search
  | 0, pos, count => ⟨none, pos, count, []⟩
  | n + 1, pos, count =>
    if !used.get pos then ⟨some pos, pos, count, [pos]⟩
    else if count > limit then ⟨none, pos, count, [pos]⟩
    else
      let r := searchLoop used limit n (pos + 1) (count + 1)
      { r with reads := pos :: r.reads }

/-- The search of `allocateBlock` from `cursor`: to the end of the array, then from 0 up to
the old cursor if nothing was found and `count` is still within the limit. -/
def freeBlockSearch (limit : Nat) (used : BitArray) (cursor : Nat) : Search :=
  let r := searchLoop used limit (used.length - cursor) cursor 0
  if r.allocatePos = none ∧ r.count ≤ limit then
    let r' := searchLoop used limit cursor 0 r.count
    { r' with reads := r.reads ++ r'.reads }
  else r

/-- The place of position `q` in the order the search probes `L` bits from `cursor`. -/
def probeRank (L cursor q : Nat) : Nat := if cursor ≤ q then q - cursor else q + (L - cursor)

theorem probeRank_of_le {L cursor q : Nat} (h : cursor ≤ q) : probeRank L cursor q = q - cursor :=
  if_pos h

theorem probeRank_of_lt {L cursor q : Nat} (h : q < cursor) :
    probeRank L cursor q = q + (L - cursor) :=
  if_neg (Nat.not_le.mpr h)

variable {used : BitArray} {limit : Nat}

/-! ### One loop -/

@[simp] theorem searchLoop_zero (pos count : Nat) :
    searchLoop used limit 0 pos count = ⟨none, pos, count, []⟩ := rfl

theorem searchLoop_succ (n pos count : Nat) : searchLoop used limit (n + 1) pos count =
    if !used.get pos then ⟨some pos, pos, count, [pos]⟩
    else if count > limit then ⟨none, pos, count, [pos]⟩
    else { searchLoop used limit n (pos + 1) (count + 1) with
      reads := pos :: (searchLoop used limit n (pos + 1) (count + 1)).reads } := rfl

/-- A loop returns a false bit inside its range, past only true bits. -/
theorem searchLoop_found {n pos count p : Nat}
    (h : (searchLoop used limit n pos count).allocatePos = some p) :
    pos ≤ p ∧ p < pos + n ∧ used.get p = false ∧ ∀ j, pos ≤ j → j < p → used.get j = true := by
  induction n generalizing pos count with
  | zero => simp at h
  | succ n ih =>
    rw [searchLoop_succ] at h
    by_cases hg : used.get pos = false
    · simp only [hg, Bool.not_false, ite_true, Option.some.injEq] at h
      subst h
      exact ⟨le_rfl, by omega, hg, fun j h1 h2 => by omega⟩
    by_cases hc : count > limit
    · simp [hg, hc] at h
    simp only [hg, hc, Bool.not_eq_true', ite_false] at h
    obtain ⟨h1, h2, h3, h4⟩ := ih h
    refine ⟨by omega, by omega, h3, fun j hj hjp => ?_⟩
    rcases Nat.eq_or_lt_of_le hj with rfl | hj
    · simpa using hg
    · exact h4 j hj hjp

/-- A loop reads ahead of its start, inside its range, and only past true bits. -/
theorem searchLoop_reads {n pos count q : Nat} (h : q ∈ (searchLoop used limit n pos count).reads) :
    pos ≤ q ∧ q < pos + n ∧ ∀ j, pos ≤ j → j < q → used.get j = true := by
  induction n generalizing pos count with
  | zero => simp at h
  | succ n ih =>
    rw [searchLoop_succ] at h
    have hstop : q = pos → pos ≤ q ∧ q < pos + (n + 1) ∧
        ∀ j, pos ≤ j → j < q → used.get j = true :=
      fun hq => ⟨by omega, by omega, fun j hj hjq => by omega⟩
    split_ifs at h with hg hc
    · exact hstop (List.mem_singleton.mp h)
    · exact hstop (List.mem_singleton.mp h)
    · rcases List.mem_cons.mp h with h | h
      · exact hstop h
      · obtain ⟨h1, h2, h3⟩ := ih h
        refine ⟨by omega, by omega, fun j hj hjq => ?_⟩
        rcases Nat.eq_or_lt_of_le hj with rfl | hj
        · simpa using hg
        · exact h3 j hj hjq

theorem searchLoop_first_free {n pos count m : Nat} (hm : m < n)
    (hused : ∀ i < m, used.get (pos + i) = true) (hfree : used.get (pos + m) = false)
    (hcount : count + m ≤ limit + 1) :
    (searchLoop used limit n pos count).allocatePos = some (pos + m) ∧
      (searchLoop used limit n pos count).pos = pos + m := by
  induction m generalizing n pos count with
  | zero =>
    cases n with
    | zero => omega
    | succ n => simp_all [searchLoop_succ]
  | succ m ih =>
    cases n with
    | zero => omega
    | succ n =>
      have h0 : used.get pos = true := by simpa using hused 0 (Nat.succ_pos m)
      have ih' := @ih n (pos + 1) (count + 1) (by omega)
        (fun i hi => by simpa [Nat.add_assoc, Nat.add_comm 1] using hused (i + 1) (by omega))
        (by simpa [Nat.add_assoc, Nat.add_comm 1] using hfree) (by omega)
      rw [searchLoop_succ, if_neg (by simp [h0]), if_neg (by omega)]
      simpa [Nat.add_assoc, Nat.add_comm 1] using ih'

theorem searchLoop_pos_of_found {n pos count p : Nat}
    (h : (searchLoop used limit n pos count).allocatePos = some p) :
    (searchLoop used limit n pos count).pos = p := by
  induction n generalizing pos count with
  | zero => simp at h
  | succ n ih =>
    rw [searchLoop_succ] at h ⊢
    by_cases hg : used.get pos = false
    · simp only [hg, Bool.not_false, ite_true, Option.some.injEq] at h ⊢
      exact h
    by_cases hc : count > limit
    · simp [hg, hc] at h
    simp only [hg, hc, Bool.not_eq_true', ite_false] at h ⊢
    exact ih h

theorem searchLoop_none {n pos count : Nat}
    (h : (searchLoop used limit n pos count).allocatePos = none)
    (hc : (searchLoop used limit n pos count).count ≤ limit) :
    ∀ i < n, used.get (pos + i) = true := by
  induction n generalizing pos count with
  | zero => intro i hi; omega
  | succ n ih =>
    rw [searchLoop_succ] at h hc
    by_cases hg : used.get pos = false
    · simp [hg] at h
    by_cases hcl : count > limit
    · rw [if_neg (by simpa using hg), if_pos hcl] at hc
      exact absurd hc (Nat.not_le.mpr hcl)
    simp only [hg, hcl, Bool.not_eq_true', ite_false] at h hc
    intro i hi
    rcases i with _ | i
    · simpa using hg
    · rw [show pos + (i + 1) = pos + 1 + i by omega]
      exact ih h hc i (by omega)

theorem searchLoop_of_all_true {n pos count : Nat} (hused : ∀ i < n, used.get (pos + i) = true)
    (hcount : count + n ≤ limit + 1) :
    (searchLoop used limit n pos count).allocatePos = none ∧
      (searchLoop used limit n pos count).count = count + n := by
  induction n generalizing pos count with
  | zero => exact ⟨rfl, rfl⟩
  | succ n ih =>
    have h0 : used.get pos = true := by simpa using hused 0 (Nat.succ_pos n)
    obtain ⟨h1, h2⟩ := @ih (pos + 1) (count + 1)
      (fun i hi => by rw [show pos + 1 + i = pos + (i + 1) by omega]; exact hused (i + 1) (by omega))
      (by omega)
    rw [searchLoop_succ, if_neg (by simp [h0]), if_neg (by omega)]
    exact ⟨h1, by rw [h2]; omega⟩

/-! ### Both loops -/

/-- The search returns a false bit of the array when the array has one. -/
theorem freeBlockSearch_found {cursor p f : Nat} (hf : f < used.length) (hff : used.get f = false)
    (h : (freeBlockSearch limit used cursor).allocatePos = some p) :
    p < used.length ∧ used.get p = false := by
  dsimp only [freeBlockSearch] at h
  split_ifs at h with h₁
  · obtain ⟨-, -, hp, hbefore⟩ := searchLoop_found h
    refine ⟨?_, hp⟩
    by_contra hge
    have := hbefore f (Nat.zero_le f) (by omega)
    simp [hff] at this
  · obtain ⟨h1, h2, hp, -⟩ := searchLoop_found h
    exact ⟨by omega, hp⟩

/-- With a false bit in the array, every position the search reads is inside the array. -/
theorem freeBlockSearch_reads {cursor q f : Nat} (hf : f < used.length) (hff : used.get f = false)
    (h : q ∈ (freeBlockSearch limit used cursor).reads) : q < used.length := by
  dsimp only [freeBlockSearch] at h
  split_ifs at h with h₁
  · rcases List.mem_append.mp h with h | h
    · obtain ⟨h1, h2, -⟩ := searchLoop_reads h
      omega
    · obtain ⟨-, -, hbefore⟩ := searchLoop_reads h
      by_contra hge
      have := hbefore f (Nat.zero_le f) (by omega)
      simp [hff] at this
  · obtain ⟨h1, h2, -⟩ := searchLoop_reads h
    omega

/-- The search returns the false bit first in probe order from the cursor, and stops there. -/
theorem freeBlockSearch_first {cursor p : Nat}
    (h : (freeBlockSearch limit used cursor).allocatePos = some p) :
    used.get p = false ∧ (freeBlockSearch limit used cursor).pos = p ∧
      ∀ q < used.length, used.get q = false →
        probeRank used.length cursor p ≤ probeRank used.length cursor q := by
  unfold freeBlockSearch at h ⊢
  dsimp only at h ⊢
  split_ifs at h ⊢ with h₁
  · -- found by the second loop, after the first ran out over true bits
    obtain ⟨-, hp, hpf, hbefore⟩ := searchLoop_found h
    have hall := searchLoop_none h₁.1 h₁.2
    refine ⟨hpf, searchLoop_pos_of_found h, fun q hq hqf => ?_⟩
    have hqc : q < cursor := by
      by_contra hge
      have := hall (q - cursor) (by omega)
      rw [Nat.add_sub_cancel' (by omega)] at this
      simp [hqf] at this
    have hpq : p ≤ q := by
      by_contra hlt
      have := hbefore q (Nat.zero_le q) (by omega)
      simp [hqf] at this
    rw [probeRank_of_lt (by omega), probeRank_of_lt hqc]
    omega
  · -- found by the first loop
    obtain ⟨hcp, hp, hpf, hbefore⟩ := searchLoop_found h
    refine ⟨hpf, searchLoop_pos_of_found h, fun q hq hqf => ?_⟩
    rw [probeRank_of_le hcp]
    by_cases hcq : cursor ≤ q
    · rw [probeRank_of_le hcq]
      by_contra hlt
      have := hbefore q hcq (by omega)
      simp [hqf] at this
    · rw [probeRank_of_lt (by omega)]
      omega

/-- A false bit among the first `limit + 1` probes is found. -/
theorem freeBlockSearch_finds {cursor q : Nat} (hq : q < used.length) (hqf : used.get q = false)
    (hr : probeRank used.length cursor q ≤ limit) :
    ∃ p, (freeBlockSearch limit used cursor).allocatePos = some p := by
  classical
  -- `f`: the false bit first in the probe order
  have hex : ∃ r, ∃ f < used.length, used.get f = false ∧ probeRank used.length cursor f = r :=
    ⟨_, q, hq, hqf, rfl⟩
  obtain ⟨f, hf, hff, hrf⟩ := Nat.find_spec hex
  have hfq : probeRank used.length cursor f ≤ probeRank used.length cursor q :=
    hrf ▸ Nat.find_min' hex ⟨q, hq, hqf, rfl⟩
  have hmin : ∀ j < used.length,
      probeRank used.length cursor j < probeRank used.length cursor f → used.get j = true :=
    fun j hj hlt => by
      by_contra hj'
      exact absurd (Nat.find_min' hex ⟨j, hj, by simpa using hj', rfl⟩) (by omega)
  unfold freeBlockSearch
  dsimp only
  by_cases hcf : cursor ≤ f
  · -- the first loop reaches `f`
    have hrank := probeRank_of_le (L := used.length) hcf
    obtain ⟨h1, -⟩ := @searchLoop_first_free used limit (used.length - cursor) cursor 0 (f - cursor)
      (by omega)
      (fun i hi => hmin _ (by omega) (by rw [probeRank_of_le (Nat.le_add_right cursor i)]; omega))
      (by rwa [Nat.add_sub_cancel' hcf]) (by omega)
    rw [if_neg (by simp [h1])]
    exact ⟨_, h1⟩
  · -- the first loop runs out over true bits, the second reaches `f`
    have hrank := probeRank_of_lt (L := used.length) (Nat.lt_of_not_le hcf)
    obtain ⟨h1, h2⟩ := @searchLoop_of_all_true used limit (used.length - cursor) cursor 0
      (fun i hi => hmin _ (by omega) (by rw [probeRank_of_le (Nat.le_add_right cursor i)]; omega))
      (by omega)
    rw [if_pos ⟨h1, by omega⟩, h2]
    obtain ⟨h3, -⟩ := @searchLoop_first_free used limit cursor 0 (0 + (used.length - cursor)) f
      (by omega)
      (fun i hi => by
        rw [Nat.zero_add]
        exact hmin i (by omega) (by rw [probeRank_of_lt (by omega)]; omega))
      (by rwa [Nat.zero_add]) (by omega)
    exact ⟨_, h3⟩

end CheckpointStore
