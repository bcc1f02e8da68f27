import Mathlib.Data.Finset.Basic
import Mathlib.Data.Finset.Range
import CheckpointStore.Alloc.Allocator

/-!
# CheckpointStore.Alloc.Refinement — the allocator refines an allocator of block sets

What the bitmap allocator is for, stated without bitmaps: a set of live blocks (handed out by
`allocateBlock`, not yet freed) and a set of valid blocks.  `allocate` may hand out any block
that is not live and makes it live; `free` of a live block makes it not live; neither touches
the valid set (freeing never clears a valid bit, appending sets the new block's valid bit to
`false`, which it already reads as).

`toAbs` reads the sets off the bitmaps.  From any object with the representation invariant,
every trace of `allocateBlock` and of `freeBlock` on marked blocks is a run of the abstract
allocator (`allocTrace_refines`), and from where it ends both members go on as abstract steps.
-/

namespace CheckpointStore

/-- The allocator as its clients see it: the live blocks and the valid blocks. -/
structure AbsAlloc where
  live : Finset Nat
  valid : Finset Nat
  deriving DecidableEq

/-- What an allocator call did: `allocateBlock` returned `p`, or `freeBlock(b)` ran. -/
inductive AllocEvent
  | allocated (p : Nat)
  | freed (b : Nat)
  deriving DecidableEq, Repr

namespace AbsAlloc

/-- The abstract allocator's steps. -/
inductive Step : AbsAlloc → AllocEvent → AbsAlloc → Prop
  | allocate {a : AbsAlloc} {p : Nat} : p ∉ a.live → Step a (.allocated p) ⟨insert p a.live, a.valid⟩
  | free {a : AbsAlloc} {b : Nat} : b ∈ a.live → Step a (.freed b) ⟨a.live.erase b, a.valid⟩

/-- Runs of the abstract allocator. -/
inductive Run : AbsAlloc → List AllocEvent → AbsAlloc → Prop
  | nil {a : AbsAlloc} : Run a [] a
  | cons {a a' a'' : AbsAlloc} {e : AllocEvent} {es : List AllocEvent} :
      Step a e a' → Run a' es a'' → Run a (e :: es) a''

end AbsAlloc

namespace CheckpointFile

/-- Traces of `allocateBlock` and of `freeBlock` on marked blocks, with what each call did. -/
inductive AllocTrace (limit : Nat) : CheckpointFile → List AllocEvent → CheckpointFile → Prop
  | nil {cf : CheckpointFile} : AllocTrace limit cf [] cf
  | allocate {cf cf₁ cf' : CheckpointFile} {p : Nat} {es : List AllocEvent} :
      cf.allocateBlock limit = .ok (p, cf₁) → AllocTrace limit cf₁ es cf' →
      AllocTrace limit cf (.allocated p :: es) cf'
  | free {cf cf₁ cf' : CheckpointFile} {b : Nat} {es : List AllocEvent} :
      cf.usedChunkInfo_.get b = true → cf.freeBlock b = .ok cf₁ → AllocTrace limit cf₁ es cf' →
      AllocTrace limit cf (.freed b :: es) cf'

/-- The sets a pair of bitmaps stands for: the marked `used` bits and the marked `valid` bits. -/
def toAbs (cf : CheckpointFile) : AbsAlloc :=
  ⟨(Finset.range cf.usedChunkInfo_.length).filter (cf.usedChunkInfo_.get · = true),
    (Finset.range cf.validChunkInfo_.length).filter (cf.validChunkInfo_.get · = true)⟩

theorem lt_length_of_get {b : BitArray} {i : Nat} (h : b.get i = true) : i < b.length := by
  by_contra hge
  rw [BitArray.get_of_length_le (Nat.le_of_not_lt hge)] at h
  cases h

@[simp] theorem mem_live {cf : CheckpointFile} {i : Nat} :
    i ∈ cf.toAbs.live ↔ cf.usedChunkInfo_.get i = true := by
  simp only [toAbs, Finset.mem_filter, Finset.mem_range, and_iff_right_iff_imp]
  exact lt_length_of_get

@[simp] theorem mem_valid {cf : CheckpointFile} {i : Nat} :
    i ∈ cf.toAbs.valid ↔ cf.validChunkInfo_.get i = true := by
  simp only [toAbs, Finset.mem_filter, Finset.mem_range, and_iff_right_iff_imp]
  exact lt_length_of_get

variable {limit : Nat} {cf cf' : CheckpointFile}

/-- Under `Inv`, `allocateBlock` is an abstract `allocate` of the block it returns. -/
theorem toAbs_allocateBlock {p : Nat} (h : Inv cf) (ha : cf.allocateBlock limit = .ok (p, cf')) :
    AbsAlloc.Step cf.toAbs (.allocated p) cf'.toAbs := by
  obtain ⟨q, cursor, hq, he⟩ := @allocateBlock_eq limit cf h
  rw [ha, Except.ok.injEq, Prod.mk.injEq] at he
  obtain ⟨rfl, rfl⟩ := he
  have hfree : cf.usedChunkInfo_.get p = false := by
    rcases hq with ⟨-, hg⟩ | rfl
    · exact hg
    · exact BitArray.get_of_length_le le_rfl
  have hvalid : cf.validChunkInfo_.get p = false ∨ p < cf.usedChunkInfo_.length := by
    rcases hq with ⟨hp, -⟩ | rfl
    · exact .inr hp
    · exact .inl (BitArray.get_of_length_le h.length_eq.ge)
  have hstep := AbsAlloc.Step.allocate (a := cf.toAbs) (p := p) (by simp [hfree])
  convert hstep using 2
  · ext i
    by_cases hi : i = p <;> simp [hi]
  · ext i
    split_ifs with hp
    · rfl
    · have hv := hvalid.resolve_right hp
      by_cases hi : i = p <;> simp [hi, hv]

/-- `freeBlock` of a marked block is an abstract `free`. -/
theorem toAbs_freeBlock {b : Nat} (h : Inv cf) (hb : cf.usedChunkInfo_.get b = true)
    (hf : cf.freeBlock b = .ok cf') : AbsAlloc.Step cf.toAbs (.freed b) cf'.toAbs := by
  rw [freeBlock_eq h hb, Except.ok.injEq] at hf
  subst hf
  have hstep := AbsAlloc.Step.free (a := cf.toAbs) (b := b) (by simpa using hb)
  convert hstep using 2
  ext i
  by_cases hi : i = b <;> simp [hi]

/-- Every trace from an object with the invariant is a run of the abstract allocator. -/
theorem allocTrace_refines {es : List AllocEvent} (h : Inv cf) (htr : AllocTrace limit cf es cf') :
    AbsAlloc.Run cf.toAbs es cf'.toAbs ∧ Inv cf' := by
  induction htr with
  | nil => exact ⟨.nil, h⟩
  | allocate ha _ ih =>
    obtain ⟨hrun, hi⟩ := ih (h.allocateBlock ha)
    exact ⟨.cons (toAbs_allocateBlock h ha) hrun, hi⟩
  | free hb hf _ ih =>
    obtain ⟨cf₂, hf₂, hi₂⟩ := h.freeBlock hb
    cases hf.symm.trans hf₂
    obtain ⟨hrun, hi⟩ := ih hi₂
    exact ⟨.cons (toAbs_freeBlock h hb hf) hrun, hi⟩

/-- The allocator refines the abstract one: from an object with the representation invariant,
every trace of `allocateBlock` and of `freeBlock` on live blocks runs the abstract allocator
(each allocation returns a block not live and makes it live, each free removes exactly its
block, the valid set never changes), and from where the trace ends `allocateBlock` and every
`freeBlock` of a live block return, again as abstract steps. -/
theorem allocator_refines {es : List AllocEvent} (h : Inv cf) (htr : AllocTrace limit cf es cf') :
    AbsAlloc.Run cf.toAbs es cf'.toAbs ∧
      (∃ p cf'', cf'.allocateBlock limit = .ok (p, cf'') ∧
        AbsAlloc.Step cf'.toAbs (.allocated p) cf''.toAbs) ∧
      ∀ b ∈ cf'.toAbs.live, ∃ cf'', cf'.freeBlock b = .ok cf'' ∧
        AbsAlloc.Step cf'.toAbs (.freed b) cf''.toAbs := by
  obtain ⟨hrun, hi⟩ := allocTrace_refines h htr
  refine ⟨hrun, ?_, fun b hb => ?_⟩
  · obtain ⟨p, cursor, -, he⟩ := @allocateBlock_eq limit cf' hi
    exact ⟨p, _, he, toAbs_allocateBlock hi he⟩
  · have hb' := mem_live.mp hb
    obtain ⟨cf'', hf, -⟩ := hi.freeBlock hb'
    exact ⟨cf'', hf, toAbs_freeBlock hi hb' hf⟩

theorem allocator_refines_alloc_free :
    ∃ cf cf', cf = { init ⟨12, "", 0, 0, 0, [], by decide⟩ with
        usedChunkInfo_ := ⟨[false, false]⟩, validChunkInfo_ := ⟨[false, false]⟩,
        freeUseBitNum_ := 2 } ∧ Inv cf ∧ AllocTrace 1024 cf [.allocated 0, .freed 0] cf' ∧
      AbsAlloc.Run cf.toAbs [.allocated 0, .freed 0] cf'.toAbs ∧
      (∃ p cf'', cf'.allocateBlock 1024 = .ok (p, cf'') ∧
        AbsAlloc.Step cf'.toAbs (.allocated p) cf''.toAbs) ∧
      ∀ b ∈ cf'.toAbs.live, ∃ cf'', cf'.freeBlock b = .ok cf'' ∧
        AbsAlloc.Step cf'.toAbs (.freed b) cf''.toAbs := by
  refine ⟨_, _, rfl, ⟨rfl, rfl⟩, .allocate rfl (.free rfl rfl .nil), ?_⟩
  exact allocator_refines ⟨rfl, rfl⟩ (.allocate rfl (.free rfl rfl .nil))

end CheckpointFile

end CheckpointStore
