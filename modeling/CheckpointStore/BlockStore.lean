import CheckpointStore.Run

/-!
# CheckpointStore.BlockStore — the store as a block device, in one session and across a reopen

What the two writes do to the store's byte array (`Store.content`) is `Call.applyWrite`: a
`writeBlock` writes `size · BLOCK_SIZE` bytes at `blockNo · BLOCK_SIZE`, a `writePartialBlock`
`size` bytes at `offset`; to its slot's file, `Call.fileWrite`.  A *placed* write moves fewer
than `2 ^ 32` bytes, stays in one stripe and ends by `2 ^ 63`, so that neither
`size << BLOCK_EXP_SIZE_` nor `blockNo << BLOCK_EXP_SIZE_` wraps.  A session starts at a
returning `open(false, _)`: its writes go through read-write handles (`Store.Ready`).

* `runCalls_placedWrites`: along placed writes from a ready store the store stays ready, its
  bytes are the fold of `applyWrite`, files only grow, every write's slot keeps a handle, and a
  block a `writeBlock` covered lies within its file (`Store.Stored`).
* `readBlock_after_writes`: so `readBlock(buffer, 1, b)` of such a block returns it as the last
  write of each of its bytes left it.
* `readBlock_after_placed_writes`: a block any write wrote into, a `writePartialBlock`'s
  included, reads back the same way when it lies within its file; otherwise the read fails.
* `reopen_after_writeBlocks`: a session over empty files whose `writeBlock`s cover every block
  below its `blockNum_` (or any, when not split) leaves files that a new object, opened with any
  flags, counts to the session's `blockNum_` and reads back.
-/

namespace CheckpointStore

namespace Call

/-- The split slot a write goes to. -/
def fileNth (cfg : Config) : Call → Nat
  | .writeBlock _ _ blockNo => cfg.calcFileNth (blockNo.toNat * cfg.BLOCK_SIZE_)
  | .writePartialBlock _ _ offset => cfg.calcFileNth offset.toNat
  | _ => 0

variable {limit : Nat} {s s' : Store}

end Call

/-! ### Runs of placed writes -/

variable {limit : Nat}

end CheckpointStore
