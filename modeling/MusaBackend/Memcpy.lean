import MusaBackend.Runtime
import Mathlib.Tactic.Ring

/-!
Copy direction, dimension selection and the copy command of `musa_queue::submit_memcpy`.

The queue picks one of `musaMemcpyAsync`, `musaMemcpy2DAsync` and `musaMemcpy3DAsync`
from the transfer range. What those calls write is MUSA's documented semantics, stated
here as the list of destination bytes each call writes, each paired with the source
byte it copies. The reference is the region `offset + [0, range)` of two row-major
allocations, enumerated in the same order.

`memory_location::get_access_ptr` and `memcpy_operation::get_num_transferred_bytes` are
not among the sources; they are the row-major linear offset times the element size and
the element count times the source element size.
-/

namespace MusaBackend

/-- `api_platform`. -/
inductive ApiPlatform where
  | cuda
  | hip
  | omp
  | levelZero
  | ocl
  | musa
deriving DecidableEq, Repr

/-- `hardware_platform`. -/
inductive HardwarePlatform where
  | rocm
  | cuda
  | levelZero
  | ocl
  | cpu
  | musa
deriving DecidableEq, Repr

/-- The two fields of a device's `get_full_backend_descriptor()` that copies read. -/
structure BackendDescriptor where
  swPlatform : ApiPlatform
  hwPlatform : HardwarePlatform
deriving DecidableEq, Repr

/-- `memory_location`: an allocation and the position of the access in it. -/
structure MemoryLocation where
  device : BackendDescriptor
  basePtr : Nat
  allocationShape : Range3
  accessOffset : Range3
  elementSize : Nat
deriving DecidableEq, Repr

/-- `memory_location::get_access_ptr()`. -/
def MemoryLocation.getAccessPtr (location : MemoryLocation) : Nat :=
  location.basePtr +
    ((location.accessOffset.d0 * location.allocationShape.d1 + location.accessOffset.d1) *
        location.allocationShape.d2 + location.accessOffset.d2) * location.elementSize

/-- `memcpy_operation`. -/
structure MemcpyOperation where
  source : MemoryLocation
  dest : MemoryLocation
  numElements : Range3
deriving DecidableEq, Repr

/-- `memcpy_operation::get_num_transferred_bytes()`. -/
def MemcpyOperation.getNumTransferredBytes (op : MemcpyOperation) : Nat :=
  op.numElements.size * op.source.elementSize

/-- `rt::range<2>`. -/
structure Range2 where
  d0 : Nat
  d1 : Nat
deriving DecidableEq, Repr

/-- `extract_from_range3<2>`: the two fastest-varying components. -/
def extractFromRange3 (r : Range3) : Range2 := ⟨r.d1, r.d2⟩

/-- The copy direction `submit_memcpy` picks, or the assertion it stops at. -/
def submitMemcpyKind (source dest : BackendDescriptor) : Except Assertion MemcpyKind :=
  if source.swPlatform = .musa then
    if dest.swPlatform = .musa then
      if source.hwPlatform = dest.hwPlatform then .ok .deviceToDevice
      else .error "Attempted to execute explicit device<->device copy operation between devices from different MUSA hardware backends"
    else if dest.hwPlatform = .cpu then .ok .deviceToHost
    else .error "Unknown copy destination platform"
  else if source.hwPlatform = .cpu then
    if dest.swPlatform = .musa then .ok .hostToDevice
    else .error "Unknown copy destination platform"
  else .error "Unknown copy source platform"

/-- Whether the copy moves both whole allocations, which makes it one flat copy. -/
def MemcpyOperation.isFullBuffer (op : MemcpyOperation) : Prop :=
  op.numElements = op.source.allocationShape ∧ op.numElements = op.dest.allocationShape ∧
    op.source.accessOffset = Range3.zero ∧ op.dest.accessOffset = Range3.zero

instance (op : MemcpyOperation) : Decidable op.isFullBuffer :=
  inferInstanceAs (Decidable (_ ∧ _ ∧ _ ∧ _))

/-- The `dimension` that `submit_memcpy` computes. -/
def submitMemcpyDimension (op : MemcpyOperation) : Nat :=
  let transferRange := op.numElements
  let dimension :=
    if transferRange.d0 > 1 then 3 else if transferRange.d1 > 1 then 2 else 1
  if op.isFullBuffer then 1 else dimension

/-- The one copy call `submit_memcpy` issues for `op`. -/
def submitMemcpyCall (op : MemcpyOperation) (kind : MemcpyKind) (stream : Stream) :
    MusaCall :=
  if submitMemcpyDimension op = 1 then
    .memcpyAsync op.dest.getAccessPtr op.source.getAccessPtr op.getNumTransferredBytes
      kind stream
  else if submitMemcpyDimension op = 2 then
    .memcpy2DAsync op.dest.getAccessPtr
      ((extractFromRange3 op.dest.allocationShape).d1 * op.dest.elementSize)
      op.source.getAccessPtr
      ((extractFromRange3 op.source.allocationShape).d1 * op.source.elementSize)
      ((extractFromRange3 op.numElements).d1 * op.source.elementSize)
      (extractFromRange3 op.numElements).d0 kind stream
  else
    .memcpy3DAsync
      { srcPtr := ⟨op.source.getAccessPtr,
          op.source.allocationShape.d2 * op.source.elementSize,
          op.source.allocationShape.d2, op.source.allocationShape.d1⟩
        dstPtr := ⟨op.dest.getAccessPtr,
          op.dest.allocationShape.d2 * op.dest.elementSize,
          op.dest.allocationShape.d2, op.dest.allocationShape.d1⟩
        width := op.numElements.d2 * op.source.elementSize
        height := op.numElements.d1
        depth := op.numElements.d0
        kind } stream

theorem submitMemcpyCall_target (op : MemcpyOperation) (kind : MemcpyKind) (stream : Stream) :
    (submitMemcpyCall op kind stream).target = some stream := by
  unfold submitMemcpyCall
  split
  · rfl
  · split <;> rfl

theorem submitMemcpyCall_recordedEvent (op : MemcpyOperation) (kind : MemcpyKind)
    (stream : Stream) : (submitMemcpyCall op kind stream).recordedEvent = none := by
  unfold submitMemcpyCall
  split
  · rfl
  · split <;> rfl

/-- The destination bytes a copy call writes, in order, each with its source byte. -/
def MusaCall.copies : MusaCall → List (Nat × Nat)
  | .memcpyAsync dst src count _ _ =>
      (List.range count).map fun k => (dst + k, src + k)
  | .memcpy2DAsync dst dpitch src spitch width height _ _ =>
      (List.range height).flatMap fun row =>
        (List.range width).map fun k => (dst + row * dpitch + k, src + row * spitch + k)
  | .memcpy3DAsync params _ =>
      (List.range params.depth).flatMap fun z =>
        (List.range params.height).flatMap fun y =>
          (List.range params.width).map fun x =>
            (params.dstPtr.ptr + (z * params.dstPtr.ysize + y) * params.dstPtr.pitch + x,
              params.srcPtr.ptr + (z * params.srcPtr.ysize + y) * params.srcPtr.pitch + x)
  | _ => []

/-- The first byte of row `(z, y)` of the accessed region of a row-major allocation. -/
def MemoryLocation.rowStart (location : MemoryLocation) (z y : Nat) : Nat :=
  location.basePtr +
    (((location.accessOffset.d0 + z) * location.allocationShape.d1 +
        location.accessOffset.d1 + y) * location.allocationShape.d2 +
      location.accessOffset.d2) * location.elementSize

/-- The reference: every byte of the destination region `offset + [0, range)`, paired
with the byte at the same position of the source region. -/
def MemcpyOperation.regionCopies (op : MemcpyOperation) : List (Nat × Nat) :=
  (List.range op.numElements.d0).flatMap fun z =>
    (List.range op.numElements.d1).flatMap fun y =>
      (List.range (op.numElements.d2 * op.source.elementSize)).map fun x =>
        (op.dest.rowStart z y + x, op.source.rowStart z y + x)

theorem range_mul_map {α : Type} (a b : Nat) (f : Nat → α) :
    (List.range (a * b)).map f =
      (List.range a).flatMap fun i => (List.range b).map fun j => f (i * b + j) := by
  induction a with
  | zero => simp
  | succ a ih =>
      rw [Nat.succ_mul, List.range_add, List.map_append, ih, List.range_succ,
        List.flatMap_append, List.map_map]
      simp [Function.comp_def]

theorem submitMemcpyDimension_cases (op : MemcpyOperation) :
    (op.isFullBuffer ∧ submitMemcpyDimension op = 1) ∨
      (¬ op.isFullBuffer ∧ 1 < op.numElements.d0 ∧ submitMemcpyDimension op = 3) ∨
      (¬ op.isFullBuffer ∧ op.numElements.d0 ≤ 1 ∧ 1 < op.numElements.d1 ∧
        submitMemcpyDimension op = 2) ∨
      (¬ op.isFullBuffer ∧ op.numElements.d0 ≤ 1 ∧ op.numElements.d1 ≤ 1 ∧
        submitMemcpyDimension op = 1) := by
  unfold submitMemcpyDimension
  by_cases full : op.isFullBuffer
  · simp [full]
  · by_cases slow : 1 < op.numElements.d0
    · simp [full, slow]
    · by_cases middle : 1 < op.numElements.d1 <;> simp [full, slow, middle] <;> omega

theorem submitMemcpyCall_copies_of_one {op : MemcpyOperation} (kind : MemcpyKind)
    (stream : Stream) (flat : submitMemcpyDimension op = 1) :
    (submitMemcpyCall op kind stream).copies =
      (List.range op.getNumTransferredBytes).map fun k =>
        (op.dest.getAccessPtr + k, op.source.getAccessPtr + k) := by
  simp [submitMemcpyCall, flat, MusaCall.copies]

theorem regionCopies_of_fullBuffer {op : MemcpyOperation} (full : op.isFullBuffer)
    (sameSize : op.dest.elementSize = op.source.elementSize) :
    op.regionCopies =
      (List.range op.getNumTransferredBytes).map fun k =>
        (op.dest.getAccessPtr + k, op.source.getAccessPtr + k) := by
  obtain ⟨sourceShape, destShape, sourceOffset, destOffset⟩ := full
  have blocks : op.getNumTransferredBytes =
      op.numElements.d0 * (op.numElements.d1 * (op.numElements.d2 * op.source.elementSize)) := by
    simp only [MemcpyOperation.getNumTransferredBytes, Range3.size]
    ring
  rw [blocks, range_mul_map, MemcpyOperation.regionCopies]
  congr 1; funext z
  rw [range_mul_map]
  congr 1; funext y
  congr 1; funext x
  simp only [MemoryLocation.rowStart, MemoryLocation.getAccessPtr,
    sourceOffset, destOffset, ← sourceShape, ← destShape, sameSize, Range3.zero]
  ext <;> ring

theorem regionCopies_of_single_row {op : MemcpyOperation} (slow : op.numElements.d0 ≤ 1)
    (middle : op.numElements.d1 ≤ 1) :
    op.regionCopies =
      (List.range op.getNumTransferredBytes).map fun k =>
        (op.dest.getAccessPtr + k, op.source.getAccessPtr + k) := by
  have zeroOrOne : ∀ n : Nat, n ≤ 1 → n = 0 ∨ n = 1 := by omega
  simp only [MemcpyOperation.regionCopies, MemcpyOperation.getNumTransferredBytes, Range3.size]
  rcases zeroOrOne _ slow with empty | single
  · simp [empty]
  rcases zeroOrOne _ middle with empty | row
  · simp [empty]
  simp only [single, row, List.range_succ, List.range_zero, List.nil_append,
    List.flatMap_cons, List.flatMap_nil, List.append_nil, Nat.one_mul]
  rfl

theorem submitMemcpyCall_copies_of_two {op : MemcpyOperation} (kind : MemcpyKind)
    (stream : Stream) (planar : submitMemcpyDimension op = 2)
    (single : op.numElements.d0 = 1) (sameSize : op.dest.elementSize = op.source.elementSize) :
    (submitMemcpyCall op kind stream).copies = op.regionCopies := by
  rw [submitMemcpyCall, if_neg (by rw [planar]; decide), if_pos planar]
  simp only [MusaCall.copies, MemcpyOperation.regionCopies, single, extractFromRange3,
    List.range_succ, List.range_zero, List.nil_append, List.flatMap_cons, List.flatMap_nil,
    List.append_nil]
  congr 1; funext y
  congr 1; funext x
  simp only [MemoryLocation.rowStart, MemoryLocation.getAccessPtr, sameSize]
  ext <;> ring

theorem submitMemcpyCall_copies_of_three {op : MemcpyOperation} (kind : MemcpyKind)
    (stream : Stream) (volume : submitMemcpyDimension op = 3)
    (sameSize : op.dest.elementSize = op.source.elementSize) :
    (submitMemcpyCall op kind stream).copies = op.regionCopies := by
  rw [submitMemcpyCall, if_neg (by rw [volume]; decide), if_neg (by rw [volume]; decide)]
  simp only [MusaCall.copies, MemcpyOperation.regionCopies]
  congr 1; funext z
  congr 1; funext y
  congr 1; funext x
  simp only [MemoryLocation.rowStart, MemoryLocation.getAccessPtr, sameSize]
  ext <;> ring

/-- Unless the slowest extent is empty under a middle extent above one, the call
`submit_memcpy` issues writes exactly the bytes of the destination region, each from the
same position of the source region. -/
theorem submitMemcpyCall_copies_region (op : MemcpyOperation) (kind : MemcpyKind)
    (stream : Stream) (sameSize : op.dest.elementSize = op.source.elementSize)
    (rows : 0 < op.numElements.d0 ∨ op.numElements.d1 ≤ 1) :
    (submitMemcpyCall op kind stream).copies = op.regionCopies := by
  rcases submitMemcpyDimension_cases op with
    ⟨full, flat⟩ | ⟨_, _, volume⟩ | ⟨_, slow, middle, planar⟩ | ⟨_, slow, middle, flat⟩
  · rw [submitMemcpyCall_copies_of_one kind stream flat, regionCopies_of_fullBuffer full sameSize]
  · exact submitMemcpyCall_copies_of_three kind stream volume sameSize
  · exact submitMemcpyCall_copies_of_two kind stream planar (by omega) sameSize
  · rw [submitMemcpyCall_copies_of_one kind stream flat,
      regionCopies_of_single_row slow middle]

def innerBlockCopy : MemcpyOperation :=
  { source := { device := ⟨.musa, .musa⟩, basePtr := 4096, allocationShape := ⟨3, 3, 3⟩
                accessOffset := ⟨1, 1, 1⟩, elementSize := 2 }
    dest := { device := ⟨.musa, .musa⟩, basePtr := 8192, allocationShape := ⟨3, 3, 3⟩
              accessOffset := ⟨1, 1, 1⟩, elementSize := 2 }
    numElements := ⟨2, 2, 2⟩ }

theorem submitMemcpyCall_copies_region_innerBlock :
    innerBlockCopy.dest.elementSize = innerBlockCopy.source.elementSize ∧
      (0 < innerBlockCopy.numElements.d0 ∨ innerBlockCopy.numElements.d1 ≤ 1) ∧
      (submitMemcpyCall innerBlockCopy .deviceToDevice none).copies =
        innerBlockCopy.regionCopies :=
  ⟨rfl, .inl (by decide), submitMemcpyCall_copies_region innerBlockCopy _ _ rfl (.inl (by decide))⟩

def emptySlabCopy : MemcpyOperation :=
  { source := { device := ⟨.musa, .musa⟩, basePtr := 4096, allocationShape := ⟨1, 2, 1⟩
                accessOffset := Range3.zero, elementSize := 1 }
    dest := { device := ⟨.musa, .musa⟩, basePtr := 8192, allocationShape := ⟨1, 2, 1⟩
              accessOffset := Range3.zero, elementSize := 1 }
    numElements := ⟨0, 2, 1⟩ }

/-- The range `(0, 2, 1)` selects the 2D path, which copies two rows although the
region it names is empty. -/
theorem submitMemcpyCall_emptySlabCopy :
    submitMemcpyDimension emptySlabCopy = 2 ∧
      (submitMemcpyCall emptySlabCopy .deviceToDevice none).copies =
        [(8192, 4096), (8193, 4097)] ∧
      emptySlabCopy.regionCopies = [] := by
  decide

end MusaBackend
