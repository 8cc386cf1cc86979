import CoServer.Base.Common
import Mathlib.Data.List.TakeDrop
import Mathlib.Tactic.Linarith

/-! # `CoBuffer`: the growable buffer of a connection

The buffer owns one `malloc` block.  The valid bytes start `misalignSize` bytes
into the block, behind bytes that were erased earlier, and growing first uses
the slack behind them, then slides them to the front, and only then reallocates.

Addresses are natural numbers and `0` is `NULL`.  An operation returns `none`
where the source has no defined behaviour: a copy outside the block, or the
doubling loop that never ends once a `size_t` has wrapped to zero. -/

namespace CoServer

/-- `BUFFER_SIZE_MAX`, that is `UINTPTR_MAX`. -/
def bufferSizeMax : Nat := 2 ^ 64 - 1

/-- `BUFFER_SIZE_4096`, the room requested before each `recv`. -/
def bufferSize4096 : Nat := 4096

/-- What a successful `realloc` hands back: the address of the new block, and
    the indeterminate bytes behind those it kept. -/
structure Block where
  address : Nat
  fresh : Bytes

structure CoBuffer where
  originBuffer : Nat := 0
  block : Bytes := []
  totalSize : Nat := 0
  buffer : Nat := 0
  bufferSize : Nat := 0
  misalignSize : Nat := 0

/-! ## Blocks of memory -/

/-- `memcpy` of `data` to the offset `at` of a block. -/
def memcpyBlock (block : Bytes) (offset : Nat) (data : Bytes) : Option Bytes :=
  if offset + data.length ≤ block.length then
    some (block.take offset ++ data ++ block.drop (offset + data.length))
  else none

/-- `memmove` of `size` bytes from `offset` to the start of a block. -/
def memmoveFront (block : Bytes) (offset size : Nat) : Option Bytes :=
  if offset + size ≤ block.length then
    memcpyBlock block 0 ((block.drop offset).take size)
  else none

/-- The contents of a block after `realloc` to `size` bytes. -/
def reallocBlock (block : Bytes) (size : Nat) (fresh : Bytes) : Bytes :=
  (block ++ fresh ++ List.replicate size 0).take size

/-- `while (reallocSize < needSize) reallocSize <<= 1`.  After sixty-four
    doublings a `size_t` is zero and stays zero, so the loop does not end. -/
def doubleUntil : Nat → Nat → Nat → Option Nat
  | 0, _, _ => none
  | fuel + 1, reallocSize, needSize =>
    if reallocSize < needSize then doubleUntil fuel (sizeT (reallocSize * 2)) needSize
    else some reallocSize

namespace CoBuffer

/-! ## The operations -/

/-- `if (reallocSize < 256) reallocSize = 256`. -/
def startSize (totalSize : Nat) : Nat := if totalSize < 256 then 256 else totalSize

/-- The size `buffer_expand` passes to `realloc`. -/
def reallocSize (totalSize needSize : Nat) : Option Nat :=
  if startSize totalSize < bufferSizeMax / 2 then doubleUntil 65 (startSize totalSize) needSize
  else some needSize

/-- The end of `buffer_expand`: `realloc` failed, or its block is taken over. -/
def takeRealloc (self : CoBuffer) (size : Nat) : Option Block → Int × CoBuffer
  | none => (coError, self)
  | some new => (coOk, { self with
      originBuffer := new.address, buffer := new.address
      block := reallocBlock self.block size new.fresh, totalSize := size })

/-- The last part of `buffer_expand`: slide over erased bytes, then `realloc`. -/
def growBlock (self : CoBuffer) (size : Nat) (memory : Option Block) :
    Option (Int × CoBuffer) :=
  if self.originBuffer ≠ self.buffer then
    (memmoveFront self.block (self.buffer - self.originBuffer) self.bufferSize).map fun block =>
      { self with block, buffer := self.originBuffer, misalignSize := 0 }.takeRealloc size memory
  else some (self.takeRealloc size memory)

/-- `memory` is what `realloc` returns, should it be called. -/
def bufferExpand (self : CoBuffer) (dataLen : Nat) (memory : Option Block) :
    Option (Int × CoBuffer) :=
  let usedSize := sizeT (self.misalignSize + self.bufferSize)
  if self.totalSize < usedSize then some (coError, self)
  else if sizeSub self.totalSize usedSize ≥ dataLen then some (coOk, self)
  else if sizeT (usedSize + dataLen) > bufferSizeMax then some (coError, self)
  else if sizeSub self.totalSize self.bufferSize ≥ dataLen then
    -- enough room once the erased bytes are counted: slide the valid bytes to the front
    (memmoveFront self.block (self.buffer - self.originBuffer) self.bufferSize).map fun block =>
      (coOk, { self with block, buffer := self.originBuffer, misalignSize := 0 })
  else
    match reallocSize self.totalSize (sizeT (self.bufferSize + dataLen)) with
    | none => none
    | some size => self.growBlock size memory

def bufferAppend (self : CoBuffer) (data : Bytes) (memory : Option Block) :
    Option (Int × CoBuffer) :=
  let bufferUsed := sizeT (self.misalignSize + self.bufferSize)
  let expanded := if sizeSub self.totalSize bufferUsed < data.length then
      self.bufferExpand data.length memory
    else some (coOk, self)
  match expanded with
  | none => none
  | some (ret, self) =>
    if ret ≠ coOk then some (coError, self)
    else (memcpyBlock self.block (self.buffer - self.originBuffer + self.bufferSize) data).map
      fun block => (coOk, { self with block, bufferSize := sizeT (self.bufferSize + data.length) })

def bufferErase (self : CoBuffer) (dataLen : Nat) : Int × CoBuffer :=
  if dataLen ≥ self.bufferSize then
    (coOk, { self with buffer := self.originBuffer, bufferSize := 0, misalignSize := 0 })
  else
    (coOk, { self with
      buffer := self.buffer + dataLen
      bufferSize := self.bufferSize - dataLen
      misalignSize := self.misalignSize + dataLen })

def bufferSizeExpand (self : CoBuffer) (dataLen : Nat) : Int × CoBuffer :=
  if self.totalSize < sizeT (sizeT (self.misalignSize + self.bufferSize) + dataLen) then
    (coError, self)
  else (coOk, { self with bufferSize := sizeT (self.bufferSize + dataLen) })

def reset (self : CoBuffer) : CoBuffer :=
  { self with buffer := self.originBuffer, bufferSize := 0, misalignSize := 0 }

/-- The caller's copy of received bytes to `get_bufferdata() + get_buffersize()`. -/
def writeSpace (self : CoBuffer) (data : Bytes) : Option CoBuffer :=
  (memcpyBlock self.block (self.buffer - self.originBuffer + self.bufferSize) data).map
    fun block => { self with block }

/-- The valid bytes: `get_buffersize()` bytes from `get_bufferdata()` on. -/
def region (self : CoBuffer) : Bytes :=
  (self.block.drop (self.buffer - self.originBuffer)).take self.bufferSize

/-! ## Well-formed buffers -/

structure Valid (coBuffer : CoBuffer) : Prop where
  blockLength : coBuffer.block.length = coBuffer.totalSize
  bufferAt : coBuffer.buffer = coBuffer.originBuffer + coBuffer.misalignSize
  usedLe : coBuffer.misalignSize + coBuffer.bufferSize ≤ coBuffer.totalSize
  totalLt : coBuffer.totalSize < 2 ^ 64

/-- The bytes free behind the valid region. -/
def slack (coBuffer : CoBuffer) : Nat :=
  coBuffer.totalSize - (coBuffer.misalignSize + coBuffer.bufferSize)

theorem valid_fresh : ({} : CoBuffer).Valid := by
  constructor <;> decide

@[simp] theorem region_fresh : ({} : CoBuffer).region = [] := rfl

section
variable {coBuffer : CoBuffer}

theorem Valid.offset (valid : coBuffer.Valid) :
    coBuffer.buffer - coBuffer.originBuffer = coBuffer.misalignSize := by
  have := valid.bufferAt
  omega

theorem Valid.region_eq (valid : coBuffer.Valid) :
    coBuffer.region = (coBuffer.block.drop coBuffer.misalignSize).take coBuffer.bufferSize := by
  rw [region, valid.offset]

theorem Valid.region_length (valid : coBuffer.Valid) : coBuffer.region.length = coBuffer.bufferSize := by
  rw [valid.region_eq, List.length_take, List.length_drop, valid.blockLength]
  have := valid.usedLe
  omega

theorem Valid.used_eq (valid : coBuffer.Valid) :
    sizeT (coBuffer.misalignSize + coBuffer.bufferSize) = coBuffer.misalignSize + coBuffer.bufferSize :=
  sizeT_of_lt (lt_of_le_of_lt valid.usedLe valid.totalLt)

theorem Valid.size_lt (valid : coBuffer.Valid) : coBuffer.bufferSize < 2 ^ 64 := by
  have := valid.usedLe
  have := valid.totalLt
  omega

/-- The block is the erased bytes, the valid bytes and the slack. -/
theorem Valid.block_eq (valid : coBuffer.Valid) :
    coBuffer.block = coBuffer.block.take coBuffer.misalignSize ++ coBuffer.region ++
      coBuffer.block.drop (coBuffer.misalignSize + coBuffer.bufferSize) := by
  rw [valid.region_eq, List.append_assoc, ← List.drop_drop, List.take_append_drop,
    List.take_append_drop]

end

/-! ## What each operation does to a well-formed buffer -/

section
variable {coBuffer : CoBuffer}

@[simp] theorem bufferErase_code (coBuffer : CoBuffer) (dataLen : Nat) :
    (coBuffer.bufferErase dataLen).1 = coOk := by
  unfold bufferErase
  split <;> rfl

@[simp] theorem bufferErase_totalSize (coBuffer : CoBuffer) (dataLen : Nat) :
    (coBuffer.bufferErase dataLen).2.totalSize = coBuffer.totalSize := by
  unfold bufferErase
  split <;> rfl

theorem Valid.bufferErase (valid : coBuffer.Valid) (dataLen : Nat) :
    (coBuffer.bufferErase dataLen).2.Valid := by
  have bufferAt := valid.bufferAt
  have usedLe := valid.usedLe
  unfold CoBuffer.bufferErase
  split
  · exact ⟨valid.blockLength, rfl, by simp, valid.totalLt⟩
  · refine ⟨valid.blockLength, ?_, ?_, valid.totalLt⟩
    · simp only [bufferAt, Nat.add_assoc]
    · simp only
      omega

theorem Valid.region_bufferErase (valid : coBuffer.Valid) (dataLen : Nat) :
    (coBuffer.bufferErase dataLen).2.region = coBuffer.region.drop dataLen := by
  have erased := valid.bufferErase dataLen
  unfold CoBuffer.bufferErase at erased ⊢
  split
  · rename_i all
    rw [List.drop_eq_nil_of_le (by rw [valid.region_length]; exact all)]
    simp [region]
  · rename_i part
    rw [if_neg part] at erased
    rw [erased.region_eq, valid.region_eq, List.drop_take, List.drop_drop]

theorem Valid.reset (valid : coBuffer.Valid) : coBuffer.reset.Valid :=
  ⟨valid.blockLength, rfl, by simp [CoBuffer.reset], valid.totalLt⟩

@[simp] theorem region_reset (coBuffer : CoBuffer) : coBuffer.reset.region = [] := by
  simp [region, CoBuffer.reset]

/-- The buffer after its valid bytes were moved over the erased ones. -/
def slide (coBuffer : CoBuffer) : CoBuffer :=
  { coBuffer with
    block := coBuffer.region ++ coBuffer.block.drop coBuffer.bufferSize
    buffer := coBuffer.originBuffer, misalignSize := 0 }

theorem Valid.memmoveFront (valid : coBuffer.Valid) :
    memmoveFront coBuffer.block (coBuffer.buffer - coBuffer.originBuffer) coBuffer.bufferSize =
      some (coBuffer.region ++ coBuffer.block.drop coBuffer.bufferSize) := by
  have regionLength := valid.region_length
  have blockLength := valid.blockLength
  have usedLe := valid.usedLe
  unfold CoServer.memmoveFront memcpyBlock
  rw [← region, if_pos (by rw [valid.offset]; omega), if_pos (by omega)]
  simp [regionLength]

theorem Valid.slide (valid : coBuffer.Valid) : coBuffer.slide.Valid := by
  have regionLength := valid.region_length
  have blockLength := valid.blockLength
  have usedLe := valid.usedLe
  refine ⟨?_, rfl, ?_, valid.totalLt⟩
  · simp only [CoBuffer.slide, List.length_append, List.length_drop]
    omega
  · simp only [CoBuffer.slide]
    omega

theorem Valid.region_slide (valid : coBuffer.Valid) : coBuffer.slide.region = coBuffer.region := by
  have regionLength := valid.region_length
  rw [valid.slide.region_eq]
  simp only [CoBuffer.slide, List.drop_zero]
  exact List.take_left' regionLength

theorem slide_eq_self (valid : coBuffer.Valid) (aligned : coBuffer.originBuffer = coBuffer.buffer) :
    coBuffer.slide = coBuffer := by
  obtain ⟨originBuffer, block, totalSize, buffer, bufferSize, misalignSize⟩ := coBuffer
  have misaligned : misalignSize = 0 := by
    have := valid.bufferAt
    simp only at this aligned
    omega
  have split := valid.block_eq
  simp only at misaligned aligned
  subst misaligned aligned
  rw [List.take_zero, List.nil_append, Nat.zero_add] at split
  unfold CoBuffer.slide
  rw [← split]

theorem reallocBlock_length (block : Bytes) (size : Nat) (fresh : Bytes) :
    (reallocBlock block size fresh).length = size := by
  rw [reallocBlock, List.length_take_of_le]
  simp only [List.length_append, List.length_replicate]
  omega

theorem reallocBlock_take {block : Bytes} {size count : Nat} (fresh : Bytes)
    (count_le : count ≤ size) (count_le_block : count ≤ block.length) :
    (reallocBlock block size fresh).take count = block.take count := by
  rw [reallocBlock, List.take_take, Nat.min_eq_left count_le, List.append_assoc,
    List.take_append_of_le_length count_le_block]

theorem doubleUntil_ge {fuel size need result : Nat} (found : doubleUntil fuel size need = some result) :
    need ≤ result := by
  induction fuel generalizing size with
  | zero => cases found
  | succ fuel ih =>
    unfold doubleUntil at found
    split at found
    · exact ih found
    · cases found
      omega

theorem doubleUntil_lt {fuel size need result : Nat} (found : doubleUntil fuel size need = some result)
    (size_lt : size < 2 ^ 64) : result < 2 ^ 64 := by
  induction fuel generalizing size with
  | zero => cases found
  | succ fuel ih =>
    unfold doubleUntil at found
    split at found
    · exact ih found (sizeT_lt _)
    · cases found
      exact size_lt

/-- Below half of the address space the loop ends, and never overshoots by more
    than one doubling. -/
theorem doubleUntil_total {fuel size need : Nat} (size_le : size < 2 ^ 64) (need_lt : need < 2 ^ 63)
    (enough : need ≤ size * 2 ^ fuel) :
    ∃ result, doubleUntil (fuel + 1) size need = some result ∧
      (result = size ∨ result < 2 * need) := by
  induction fuel generalizing size with
  | zero =>
    refine ⟨size, ?_, .inl rfl⟩
    rw [doubleUntil, if_neg (by omega)]
  | succ fuel ih =>
    rw [doubleUntil]
    split
    · rename_i short
      have doubled : sizeT (size * 2) = size * 2 := sizeT_of_lt (by omega)
      rw [doubled]
      obtain ⟨result, found, bound⟩ := @ih (size * 2) (by omega)
        (by rw [Nat.pow_succ] at enough; linarith)
      refine ⟨result, found, .inr ?_⟩
      rcases bound with rfl | bound <;> omega
    · exact ⟨size, rfl, .inl rfl⟩

theorem startSize_bounds (totalSize : Nat) :
    256 ≤ startSize totalSize ∧ (startSize totalSize = totalSize ∨ startSize totalSize = 256) := by
  unfold startSize
  split <;> omega

theorem reallocSize_ge {totalSize needSize size : Nat}
    (found : reallocSize totalSize needSize = some size) : needSize ≤ size := by
  unfold reallocSize at found
  split at found
  · exact doubleUntil_ge found
  · cases found
    exact Nat.le_refl _

theorem reallocSize_lt {totalSize needSize size : Nat}
    (found : reallocSize totalSize needSize = some size)
    (total_lt : totalSize < 2 ^ 64) (need_lt : needSize < 2 ^ 64) : size < 2 ^ 64 := by
  unfold reallocSize at found
  split at found
  · refine doubleUntil_lt found ?_
    have := startSize_bounds totalSize
    omega
  · cases found
    exact need_lt

theorem reallocSize_total {totalSize needSize : Nat} (total_lt : totalSize < 2 ^ 63)
    (need_lt : needSize < 2 ^ 62) :
    ∃ size, reallocSize totalSize needSize = some size ∧ size < 2 ^ 63 := by
  have start := startSize_bounds totalSize
  unfold reallocSize
  split
  · obtain ⟨size, found, bound⟩ := @doubleUntil_total 64 (startSize totalSize)
      needSize (by omega) (by omega) (by omega)
    refine ⟨size, found, ?_⟩
    omega
  · exact ⟨needSize, rfl, by omega⟩

/-- The part of `growBlock` before `realloc` is `slide`. -/
theorem Valid.growBlock_eq (valid : coBuffer.Valid) (size : Nat) (memory : Option Block) :
    coBuffer.growBlock size memory = some (coBuffer.slide.takeRealloc size memory) := by
  unfold growBlock
  by_cases aligned : coBuffer.originBuffer = coBuffer.buffer
  · rw [if_neg (by simpa using aligned), slide_eq_self valid aligned]
  · rw [if_pos aligned, valid.memmoveFront, Option.map_some]
    rfl

/-- A `realloc` that keeps the valid bytes yields a well-formed buffer with the
    same bytes, and a failing one changes nothing. -/
theorem Valid.takeRealloc (valid : coBuffer.Valid) (memory : Option Block) {size : Nat}
    (size_ge : coBuffer.bufferSize ≤ size) (size_lt : size < 2 ^ 64)
    (aligned : coBuffer.misalignSize = 0) :
    (coBuffer.takeRealloc size memory).2.Valid ∧
      (coBuffer.takeRealloc size memory).2.region = coBuffer.region := by
  cases memory with
  | none => exact ⟨valid, rfl⟩
  | some new =>
    have kept : (coBuffer.takeRealloc size (some new)).2.Valid := by
      refine ⟨reallocBlock_length _ _ _, ?_, ?_, size_lt⟩
      · simp [CoBuffer.takeRealloc, aligned]
      · simp only [CoBuffer.takeRealloc, aligned]
        omega
    have usedLe := valid.usedLe
    have blockLength := valid.blockLength
    refine ⟨kept, ?_⟩
    rw [kept.region_eq, valid.region_eq]
    simp only [CoBuffer.takeRealloc, aligned, List.drop_zero]
    exact reallocBlock_take _ size_ge (by omega)

end

end CoBuffer

end CoServer
