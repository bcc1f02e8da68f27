import CheckpointStore.BitArray
import CheckpointStore.Layout
import CheckpointStore.Disk
import CheckpointStore.FileName
import CheckpointStore.State
import CheckpointStore.Alloc.Search
import CheckpointStore.Alloc.Allocator
import CheckpointStore.Alloc.NextFit
import CheckpointStore.Alloc.Refinement
import CheckpointStore.Io
import CheckpointStore.Open
import CheckpointStore.Transfer
import CheckpointStore.Content
import CheckpointStore.Run
import CheckpointStore.BlockStore
import CheckpointStore.Frame
import CheckpointStore.Session
