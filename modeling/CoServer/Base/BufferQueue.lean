import CoServer.Base.Buffer
import CoServer.Lib.Run
import Mathlib.Algebra.BigOperators.Group.List.Basic

/-! # `CoBuffer` refines a byte queue

What a connection needs from its buffer is a queue of bytes: append at the end,
drop from the front, empty.  The three ways of making room never show through.

`Valid.bufferExpand_inv` says once what `buffer_expand` can do; the other
lemmas about growing are read off it. -/

namespace CoServer

namespace CoBuffer

section
variable {coBuffer after : CoBuffer} {dataLen : Nat} {memory : Option Block} {ret : Int}

/-! ## Growing -/

/-- `buffer_expand` finds slack, slides, or reallocates what it slid. -/
theorem Valid.bufferExpand_inv (valid : coBuffer.Valid)
    (run : coBuffer.bufferExpand dataLen memory = some (ret, after)) :
    (ret = coOk ∧ after = coBuffer ∧ dataLen ≤ coBuffer.slack) ∨
    (ret = coOk ∧ after = coBuffer.slide ∧ coBuffer.bufferSize + dataLen ≤ coBuffer.totalSize) ∨
    (∃ size, reallocSize coBuffer.totalSize (sizeT (coBuffer.bufferSize + dataLen)) = some size ∧
      (ret, after) = coBuffer.slide.takeRealloc size memory) := by
  have usedLe := valid.usedLe
  have totalLt := valid.totalLt
  have noWrap := sizeT_lt (coBuffer.misalignSize + coBuffer.bufferSize + dataLen)
  unfold bufferExpand at run
  simp only [valid.used_eq] at run
  rw [if_neg (by omega), sizeSub_of_le totalLt usedLe, sizeSub_of_le totalLt (by omega)] at run
  split at run
  · rename_i room
    cases run
    exact .inl ⟨rfl, rfl, room⟩
  · rw [if_neg (by unfold bufferSizeMax; omega)] at run
    split at run
    · rename_i room
      rw [valid.memmoveFront, Option.map_some] at run
      cases run
      exact .inr (.inl ⟨rfl, rfl, by omega⟩)
    · cases found : reallocSize coBuffer.totalSize (sizeT (coBuffer.bufferSize + dataLen)) with
      | none => simp [found] at run
      | some size =>
        simp only [found] at run
        rw [valid.growBlock_eq] at run
        exact .inr (.inr ⟨size, rfl, (Option.some.inj run).symm⟩)

theorem slack_slide (coBuffer : CoBuffer) : coBuffer.slide.slack = coBuffer.totalSize - coBuffer.bufferSize := by
  simp [slack, CoBuffer.slide]

/-- As long as the request fits in a `size_t`, the valid bytes survive and a
    successful call leaves the requested room behind them. -/
theorem Valid.bufferExpand (valid : coBuffer.Valid) (fits : coBuffer.bufferSize + dataLen < 2 ^ 64)
    (run : coBuffer.bufferExpand dataLen memory = some (ret, after)) :
    after.Valid ∧ after.region = coBuffer.region ∧
      (ret = coOk ∧ dataLen ≤ after.slack ∨ ret = coError) := by
  rcases valid.bufferExpand_inv run with ⟨rfl, rfl, room⟩ | ⟨rfl, rfl, room⟩ | ⟨size, found, result⟩
  · exact ⟨valid, rfl, .inl ⟨rfl, room⟩⟩
  · refine ⟨valid.slide, valid.region_slide, .inl ⟨rfl, ?_⟩⟩
    rw [slack_slide]
    omega
  · have totalLt := valid.totalLt
    rw [sizeT_of_lt fits] at found
    have size_ge := reallocSize_ge found
    have size_lt := reallocSize_lt found totalLt fits
    obtain ⟨kept, same⟩ := valid.slide.takeRealloc memory
      (show coBuffer.bufferSize ≤ size by omega) size_lt rfl
    rw [← result] at kept same
    refine ⟨kept, same.trans valid.region_slide, ?_⟩
    cases memory with
    | none =>
      cases result
      exact .inr rfl
    | some new =>
      cases result
      refine .inl ⟨rfl, ?_⟩
      simp only [slack, CoBuffer.slide]
      omega

/-- A failed call changes no valid byte, whatever was asked for. -/
theorem Valid.bufferExpand_failed (valid : coBuffer.Valid)
    (run : coBuffer.bufferExpand dataLen memory = some (ret, after)) (failed : ret ≠ coOk) :
    ret = coError ∧ after.Valid ∧ after.region = coBuffer.region := by
  rcases valid.bufferExpand_inv run with ⟨rfl, _⟩ | ⟨rfl, _⟩ | ⟨size, _, result⟩
  · exact absurd rfl failed
  · exact absurd rfl failed
  · cases memory with
    | none =>
      cases result
      exact ⟨rfl, valid.slide, valid.region_slide⟩
    | some new =>
      cases result
      exact absurd rfl failed

/-- Growing never makes the block larger than the address space, and moves no
    valid byte towards the end of the block. -/
theorem Valid.bufferExpand_bounds (valid : coBuffer.Valid)
    (run : coBuffer.bufferExpand dataLen memory = some (ret, after)) :
    after.block.length < 2 ^ 64 ∧ after.bufferSize = coBuffer.bufferSize := by
  have blockLength := valid.blockLength
  have totalLt := valid.totalLt
  have slid := valid.slide.blockLength
  rcases valid.bufferExpand_inv run with ⟨_, rfl, _⟩ | ⟨_, rfl, _⟩ | ⟨size, found, result⟩
  · exact ⟨by omega, rfl⟩
  · exact ⟨by rw [slid]; exact totalLt, rfl⟩
  · cases memory with
    | none =>
      cases result
      exact ⟨by rw [slid]; exact totalLt, rfl⟩
    | some new =>
      cases result
      refine ⟨?_, rfl⟩
      simp only [reallocBlock_length]
      exact reallocSize_lt found totalLt (sizeT_lt _)

/-- Below a quarter of the address space the call always returns. -/
theorem Valid.bufferExpand_total (valid : coBuffer.Valid) (memory : Option Block)
    (total_lt : coBuffer.totalSize < 2 ^ 63) (need_lt : coBuffer.bufferSize + dataLen < 2 ^ 62) :
    ∃ ret after, coBuffer.bufferExpand dataLen memory = some (ret, after) ∧
      after.totalSize < 2 ^ 63 := by
  have usedLe := valid.usedLe
  have totalLt := valid.totalLt
  have noWrap := sizeT_lt (coBuffer.misalignSize + coBuffer.bufferSize + dataLen)
  obtain ⟨size, found, size_lt⟩ := reallocSize_total total_lt need_lt
  unfold CoBuffer.bufferExpand
  simp only [valid.used_eq]
  rw [if_neg (by omega), sizeSub_of_le totalLt usedLe, sizeSub_of_le totalLt (by omega),
    if_neg (show ¬sizeT (coBuffer.misalignSize + coBuffer.bufferSize + dataLen) > bufferSizeMax by
      unfold bufferSizeMax; omega), sizeT_of_lt (by omega : coBuffer.bufferSize + dataLen < 2 ^ 64),
    found]
  simp only [valid.growBlock_eq, valid.memmoveFront, Option.map_some]
  split
  · exact ⟨_, _, rfl, total_lt⟩
  · split
    · exact ⟨_, _, rfl, total_lt⟩
    · refine ⟨_, _, rfl, ?_⟩
      cases memory with
      | none => exact total_lt
      | some new => exact size_lt

/-! ## Appending -/

/-- Bytes copied into the slack follow the valid bytes. -/
theorem Valid.memcpySlack (valid : coBuffer.Valid) {data : Bytes} (room : data.length ≤ coBuffer.slack) :
    ∃ block, memcpyBlock coBuffer.block (coBuffer.buffer - coBuffer.originBuffer + coBuffer.bufferSize)
        data = some block ∧ block.length = coBuffer.block.length ∧
      (block.drop coBuffer.misalignSize).take (coBuffer.bufferSize + data.length) =
        coBuffer.region ++ data := by
  have usedLe := valid.usedLe
  have blockLength := valid.blockLength
  have regionLength := valid.region_length
  unfold slack at room
  refine ⟨_, if_pos (by rw [valid.offset]; omega), ?_, ?_⟩
  · simp only [List.length_append, List.length_take, List.length_drop, valid.offset]
    omega
  · rw [valid.offset, List.append_assoc, List.drop_append_of_le_length
      (by rw [List.length_take]; omega), List.drop_take, Nat.add_sub_cancel_left, ← valid.region_eq,
      ← List.append_assoc, List.take_left' (by rw [List.length_append, regionLength])]

/-- `m_bufferSize += data.length()` over freshly copied bytes. -/
theorem Valid.extend (valid : coBuffer.Valid) {data block : Bytes} (room : data.length ≤ coBuffer.slack)
    (length : block.length = coBuffer.block.length)
    (bytes : (block.drop coBuffer.misalignSize).take (coBuffer.bufferSize + data.length) =
      coBuffer.region ++ data) :
    ({ coBuffer with block, bufferSize := coBuffer.bufferSize + data.length } : CoBuffer).Valid ∧
    ({ coBuffer with block, bufferSize := coBuffer.bufferSize + data.length } : CoBuffer).region =
      coBuffer.region ++ data := by
  have usedLe := valid.usedLe
  have extended :
      ({ coBuffer with block, bufferSize := coBuffer.bufferSize + data.length } : CoBuffer).Valid := by
    refine ⟨length.trans valid.blockLength, valid.bufferAt, ?_, valid.totalLt⟩
    unfold slack at room
    simp only
    omega
  exact ⟨extended, by rw [extended.region_eq]; exact bytes⟩

/-- A call that returns either appended the data or left the valid bytes alone. -/
theorem Valid.bufferAppend {data : Bytes} (valid : coBuffer.Valid)
    (run : coBuffer.bufferAppend data memory = some (ret, after)) :
    after.Valid ∧ (ret = coOk ∧ after.region = coBuffer.region ++ data ∨
      ret = coError ∧ after.region = coBuffer.region) := by
  have usedLe := valid.usedLe
  have totalLt := valid.totalLt
  unfold CoBuffer.bufferAppend at run
  simp only [valid.used_eq, sizeSub_of_le totalLt usedLe] at run
  -- the state in which `memcpy` runs, with its room
  have copied : ∀ grown : CoBuffer, grown.Valid → grown.region = coBuffer.region →
      data.length ≤ grown.slack →
      (memcpyBlock grown.block (grown.buffer - grown.originBuffer + grown.bufferSize) data).map
        (fun block => (coOk, { grown with block, bufferSize := sizeT (grown.bufferSize + data.length) }))
          = some (ret, after) →
      after.Valid ∧ (ret = coOk ∧ after.region = coBuffer.region ++ data ∨
        ret = coError ∧ after.region = coBuffer.region) := by
    intro grown grownValid same room run
    obtain ⟨block, copy, length, bytes⟩ := grownValid.memcpySlack room
    have fits : grown.bufferSize + data.length < 2 ^ 64 := by
      have := grownValid.usedLe
      have := grownValid.totalLt
      unfold slack at room
      omega
    rw [copy, Option.map_some, sizeT_of_lt fits] at run
    cases run
    obtain ⟨extended, region⟩ := grownValid.extend room length bytes
    exact ⟨extended, .inl ⟨rfl, by rw [region, same]⟩⟩
  split at run
  · cases run
  · rename_i mid code grown expanded
    split at expanded
    · split at run
      · rename_i failed
        cases run
        obtain ⟨_, kept, same⟩ := valid.bufferExpand_failed expanded failed
        exact ⟨kept, .inr ⟨rfl, same⟩⟩
      · rename_i succeeded
        simp only [ne_eq, not_not] at succeeded
        subst succeeded
        by_cases fits : coBuffer.bufferSize + data.length < 2 ^ 64
        · obtain ⟨kept, same, room | failed⟩ := valid.bufferExpand fits expanded
          · exact copied grown kept same room.2 run
          · cases failed
        · -- the request wrapped, so no block is large enough for the copy
          obtain ⟨small, size⟩ := valid.bufferExpand_bounds expanded
          rw [memcpyBlock, if_neg (by omega)] at run
          cases run
    · rename_i enough
      cases expanded
      rw [if_neg (by simp)] at run
      exact copied coBuffer valid rfl (by unfold slack; omega) run

/-- The appends of the server succeed while memory lasts. -/
theorem Valid.bufferAppend_total {data : Bytes} (valid : coBuffer.Valid) (memory : Option Block)
    (total_lt : coBuffer.totalSize < 2 ^ 63) (need_lt : coBuffer.bufferSize + data.length < 2 ^ 62) :
    ∃ ret after, coBuffer.bufferAppend data memory = some (ret, after) ∧
      after.totalSize < 2 ^ 63 := by
  have usedLe := valid.usedLe
  have totalLt := valid.totalLt
  obtain ⟨code, grown, expanded, grown_lt⟩ := valid.bufferExpand_total memory total_lt need_lt
  unfold CoBuffer.bufferAppend
  simp only [valid.used_eq, sizeSub_of_le totalLt usedLe]
  by_cases short : coBuffer.totalSize - (coBuffer.misalignSize + coBuffer.bufferSize) < data.length
  · rw [if_pos short, expanded]
    obtain ⟨kept, same, ⟨rfl, room⟩ | rfl⟩ := valid.bufferExpand (by omega) expanded
    · obtain ⟨block, copy, _⟩ := kept.memcpySlack room
      simp only [copy, Option.map_some]
      exact ⟨_, _, rfl, grown_lt⟩
    · exact ⟨_, _, rfl, grown_lt⟩
  · obtain ⟨block, copy, _⟩ := valid.memcpySlack (show data.length ≤ coBuffer.slack by unfold slack; omega)
    rw [if_neg short]
    simp only [copy, Option.map_some]
    exact ⟨_, _, rfl, total_lt⟩

/-- An append fails only when it asked for room and got none. -/
theorem bufferAppend_failed {data : Bytes} (run : coBuffer.bufferAppend data memory = some (coError, after)) :
    ∃ ret grown, coBuffer.bufferExpand data.length memory = some (ret, grown) ∧ ret ≠ coOk := by
  unfold CoBuffer.bufferAppend at run
  simp only at run
  split at run
  · cases run
  · rename_i ret grown expanded
    split at run
    · rename_i failed
      split at expanded
      · exact ⟨ret, grown, expanded, failed⟩
      · cases expanded
        exact absurd rfl failed
    · simp at run

/-- So it succeeds when `realloc` does. -/
theorem Valid.bufferAppend_some {data : Bytes} (valid : coBuffer.Valid) (new : Block)
    (total_lt : coBuffer.totalSize < 2 ^ 63) (need_lt : coBuffer.bufferSize + data.length < 2 ^ 62) :
    ∃ after, coBuffer.bufferAppend data (some new) = some (coOk, after) ∧ after.Valid ∧
      after.region = coBuffer.region ++ data ∧ after.totalSize < 2 ^ 63 := by
  obtain ⟨ret, after, ran, after_lt⟩ := valid.bufferAppend_total (some new) total_lt need_lt
  obtain ⟨kept, ⟨rfl, region⟩ | ⟨rfl, _⟩⟩ := valid.bufferAppend ran
  · exact ⟨after, ran, kept, region, after_lt⟩
  · obtain ⟨code, grown, expanded, failed⟩ := bufferAppend_failed ran
    rcases valid.bufferExpand_inv expanded with ⟨rfl, _⟩ | ⟨rfl, _⟩ | ⟨_, _, result⟩
    · exact absurd rfl failed
    · exact absurd rfl failed
    · cases result
      exact absurd rfl failed

/-! ## Taking over received bytes -/

/-- `buffer_size_expand` by the number of bytes that were copied into the space. -/
theorem Valid.writeSpace {data : Bytes} (valid : coBuffer.Valid) (room : data.length ≤ coBuffer.slack) :
    ∃ written, coBuffer.writeSpace data = some written ∧
      (written.bufferSizeExpand data.length).1 = coOk ∧
      (written.bufferSizeExpand data.length).2.Valid ∧
      (written.bufferSizeExpand data.length).2.region = coBuffer.region ++ data ∧
      (written.bufferSizeExpand data.length).2.totalSize = coBuffer.totalSize := by
  have totalLt := valid.totalLt
  have usedLe := valid.usedLe
  obtain ⟨block, copy, length, bytes⟩ := valid.memcpySlack room
  obtain ⟨extended, region⟩ := valid.extend room length bytes
  unfold slack at room
  have used : sizeT (sizeT (coBuffer.misalignSize + coBuffer.bufferSize) + data.length) =
      coBuffer.misalignSize + coBuffer.bufferSize + data.length := by
    rw [valid.used_eq, sizeT_of_lt (by omega)]
  refine ⟨{ coBuffer with block }, by rw [CoBuffer.writeSpace, copy]; rfl, ?_⟩
  unfold bufferSizeExpand
  simp only [used, sizeT_of_lt (by omega : coBuffer.bufferSize + data.length < 2 ^ 64)]
  rw [if_neg (by omega)]
  exact ⟨rfl, extended, region, rfl⟩

/-- No `buffer_size_expand` within the free space fails. -/
theorem Valid.bufferSizeExpand_ok (valid : coBuffer.Valid) {written : Nat}
    (room : written ≤ coBuffer.slack) : (coBuffer.bufferSizeExpand written).1 = coOk := by
  have totalLt := valid.totalLt
  have usedLe := valid.usedLe
  unfold slack at room
  unfold bufferSizeExpand
  rw [valid.used_eq, sizeT_of_lt (by omega), if_neg (by omega)]

end

end CoBuffer

/-! ## The reference queue -/

/-- The calls a connection makes on its buffer.  `write` is the `recv` pattern:
    room for `dataLen` bytes, then the received bytes, then their number. -/
inductive BufferOp where
  | append (data : Bytes) (memory : Option Block)
  | erase (dataLen : Nat)
  | expand (dataLen : Nat) (memory : Option Block)
  | write (dataLen : Nat) (data : Bytes) (fits : data.length ≤ dataLen) (memory : Option Block)
  | reset

namespace BufferOp

/-- The room a call asks for. -/
def size : BufferOp → Nat
  | append data _ => data.length
  | expand dataLen _ | write dataLen _ _ _ => dataLen
  | erase _ | reset => 0

def perform (coBuffer : CoBuffer) : BufferOp → Option (Int × CoBuffer)
  | append data memory => coBuffer.bufferAppend data memory
  | erase dataLen => some (coBuffer.bufferErase dataLen)
  | expand dataLen memory => coBuffer.bufferExpand dataLen memory
  | write dataLen data _ memory =>
    match coBuffer.bufferExpand dataLen memory with
    | none => none
    | some (ret, coBuffer) =>
      if ret ≠ coOk then some (ret, coBuffer)
      else (coBuffer.writeSpace data).map fun coBuffer => coBuffer.bufferSizeExpand data.length
  | reset => some (coOk, coBuffer.reset)

/-- The queue after a call that succeeded. -/
def onQueue (queue : Bytes) : BufferOp → Bytes
  | append data _ | write _ data _ _ => queue ++ data
  | erase dataLen => queue.drop (min dataLen queue.length)
  | expand _ _ => queue
  | reset => []

/-- One call, on the buffer and on the reference queue.  The queue only moves
    when the call returned `CO_OK`. -/
def step (state : CoBuffer × Bytes) (op : BufferOp) : Option (CoBuffer × Bytes) :=
  (op.perform state.1).map fun (ret, coBuffer) =>
    (coBuffer, if ret = coOk then op.onQueue state.2 else state.2)

/-- The invariant of a run: the queue is the valid region, and the room asked
    for from here on keeps the sizes far below the width of a `size_t`. -/
structure Refines (budget : Nat) (rest : List BufferOp) (state : CoBuffer × Bytes) : Prop where
  valid : state.1.Valid
  region : state.1.region = state.2
  total_lt : state.1.totalSize < 2 ^ 63
  within : state.1.bufferSize + (rest.map size).sum + budget < 2 ^ 62

theorem refines_fresh {budget : Nat} {ops : List BufferOp}
    (within : (ops.map size).sum + budget < 2 ^ 62) : Refines budget ops ({}, []) :=
  ⟨CoBuffer.valid_fresh, rfl, by decide, by simpa using within⟩

/-- What a call has to show for the invariant to survive it. -/
theorem Refines.of_perform {budget : Nat} {op : BufferOp} {rest : List BufferOp}
    {state : CoBuffer × Bytes} {ret : Int} {after : CoBuffer} (refines : Refines budget (op :: rest) state)
    (performed : op.perform state.1 = some (ret, after)) (valid : after.Valid)
    (region : after.region = if ret = coOk then op.onQueue state.2 else state.2)
    (total_lt : after.totalSize < 2 ^ 63) (grows : after.region.length ≤ state.2.length + op.size) :
    ∃ next, op.step state = some next ∧ Refines budget rest next := by
  refine ⟨(after, if ret = coOk then op.onQueue state.2 else state.2), by rw [step, performed]; rfl,
    valid, region, total_lt, ?_⟩
  have within := refines.within
  have before := refines.valid.region_length
  have now := valid.region_length
  rw [refines.region] at before
  simp only [List.map_cons, List.sum_cons] at within ⊢
  omega

theorem Refines.step {budget : Nat} {op : BufferOp} {rest : List BufferOp} {state : CoBuffer × Bytes}
    (refines : Refines budget (op :: rest) state) :
    ∃ next, op.step state = some next ∧ Refines budget rest next := by
  have valid := refines.valid
  have region := refines.region
  have within := refines.within
  have length := valid.region_length
  simp only [List.map_cons, List.sum_cons] at within
  cases op with
  | append data memory =>
    simp only [size] at within
    obtain ⟨ret, after, ran, total_lt⟩ := valid.bufferAppend_total memory refines.total_lt
      (show state.1.bufferSize + data.length < 2 ^ 62 by omega)
    obtain ⟨kept, ⟨rfl, bytes⟩ | ⟨rfl, bytes⟩⟩ := valid.bufferAppend ran
    · refine refines.of_perform ran kept ?_ total_lt ?_ <;> simp [bytes, region, onQueue, size]
    · refine refines.of_perform ran kept ?_ total_lt ?_ <;> simp [bytes, region]
  | erase dataLen =>
    have performed : perform state.1 (.erase dataLen) = some (coOk, (state.1.bufferErase dataLen).2) := by
      rw [perform, ← CoBuffer.bufferErase_code state.1 dataLen]
    refine refines.of_perform performed (valid.bufferErase dataLen) ?_ ?_ ?_
    · rw [valid.region_bufferErase, region, if_pos rfl, onQueue, List.drop_eq_drop_min]
    · have := refines.total_lt
      unfold CoBuffer.bufferErase
      split <;> exact this
    · rw [valid.region_bufferErase, region, List.length_drop]
      omega
  | expand dataLen memory =>
    simp only [size] at within
    obtain ⟨ret, after, ran, total_lt⟩ := valid.bufferExpand_total memory refines.total_lt
      (show state.1.bufferSize + dataLen < 2 ^ 62 by omega)
    obtain ⟨kept, same, _⟩ := valid.bufferExpand (by omega) ran
    refine refines.of_perform ran kept ?_ total_lt ?_
    · rw [same, region, onQueue, ite_self]
    · rw [same, region]
      omega
  | write dataLen data fits memory =>
    simp only [size] at within
    obtain ⟨ret, grown, expanded, total_lt⟩ := valid.bufferExpand_total memory refines.total_lt
      (show state.1.bufferSize + dataLen < 2 ^ 62 by omega)
    obtain ⟨kept, same, ⟨rfl, room⟩ | rfl⟩ := valid.bufferExpand (by omega) expanded
    · obtain ⟨written, copied, code, extended, bytes, total⟩ := kept.writeSpace (fits.trans room)
      have performed : perform state.1 (.write dataLen data fits memory) =
          some (coOk, (written.bufferSizeExpand data.length).2) := by
        rw [perform, expanded]
        simp only [ne_eq, not_true_eq_false, if_false, copied, Option.map_some, ← code]
      refine refines.of_perform performed extended ?_ (by rw [total]; exact total_lt) ?_
      · rw [bytes, same, region, if_pos rfl, onQueue]
      · rw [bytes, same, region, List.length_append, size]
        omega
    · have performed : perform state.1 (.write dataLen data fits memory) = some (coError, grown) := by
        rw [perform, expanded]
        rfl
      refine refines.of_perform performed kept ?_ total_lt ?_
      · rw [same, region]
        rfl
      · rw [same, region]
        omega
  | reset =>
    have performed : perform state.1 .reset = some (coOk, state.1.reset) := rfl
    refine refines.of_perform performed valid.reset ?_ ?_ ?_
    · simp [onQueue]
    · exact refines.total_lt
    · simp

theorem run_refines (budget : Nat) (ops : List BufferOp)
    (within : (ops.map size).sum + budget < 2 ^ 62) :
    ∃ final, ops.foldlM step ({}, []) = some final ∧ Refines budget [] final :=
  Lib.run_invariant step (Refines budget) (fun _ _ _ refines => refines.step) ops ({}, [])
    (refines_fresh within)

/-- From a fresh buffer, calls that together ask for less than `2 ^ 62` bytes are
    all defined, keep the sizes consistent and the valid bytes equal to the
    reference queue, and `buffer_expand` then frees the room it was asked for. -/
theorem buffer_refines_queue (ops : List BufferOp) (within : (ops.map size).sum < 2 ^ 62) :
    ∃ coBuffer queue, ops.foldlM step ({}, []) = some (coBuffer, queue) ∧
      coBuffer.misalignSize + coBuffer.bufferSize ≤ coBuffer.totalSize ∧
      coBuffer.buffer = coBuffer.originBuffer + coBuffer.misalignSize ∧
      coBuffer.region = queue ∧
      ∀ dataLen memory, (ops.map size).sum + dataLen < 2 ^ 62 →
        ∃ ret after, coBuffer.bufferExpand dataLen memory = some (ret, after) ∧
          after.region = queue ∧
          (ret = coOk → after.misalignSize + after.bufferSize + dataLen ≤ after.totalSize ∧
            ∀ written ≤ dataLen, (after.bufferSizeExpand written).1 = coOk) := by
  obtain ⟨⟨coBuffer, queue⟩, ran, refines⟩ := run_refines 0 ops (by simpa using within)
  refine ⟨coBuffer, queue, ran, refines.valid.usedLe, refines.valid.bufferAt, refines.region, ?_⟩
  intro dataLen memory within
  obtain ⟨final, ranAgain, spare⟩ := run_refines dataLen ops within
  obtain rfl : final = (coBuffer, queue) := Option.some.inj (ranAgain.symm.trans ran)
  have room := spare.within
  simp only [List.map_nil, List.sum_nil, Nat.add_zero] at room
  obtain ⟨ret, after, expanded, _⟩ := spare.valid.bufferExpand_total memory spare.total_lt
    (show coBuffer.bufferSize + dataLen < 2 ^ 62 by simpa using room)
  obtain ⟨kept, same, outcome⟩ := spare.valid.bufferExpand (by simp only; omega) expanded
  refine ⟨ret, after, expanded, same.trans spare.region, ?_⟩
  rintro rfl
  obtain ⟨_, slack⟩ | failed := outcome
  · refine ⟨?_, fun written written_le => kept.bufferSizeExpand_ok (written_le.trans slack)⟩
    have := kept.usedLe
    unfold CoBuffer.slack at slack
    omega
  · cases failed

/-- A run with a failing `realloc`, a partial erase and a received byte. -/
theorem buffer_refines_queue_erase_write :
    ∃ coBuffer queue,
      [append [1, 2, 3] none, append [1, 2, 3] (some ⟨4096, []⟩), erase 2,
        write 300 [4] (by decide) (some ⟨8192, []⟩)].foldlM step ({}, []) = some (coBuffer, queue) ∧
      coBuffer.region = queue := by
  obtain ⟨coBuffer, queue, ran, _, _, region, _⟩ := buffer_refines_queue
    [append [1, 2, 3] none, append [1, 2, 3] (some ⟨4096, []⟩), erase 2,
      write 300 [4] (by decide) (some ⟨8192, []⟩)] (by decide)
  exact ⟨coBuffer, queue, ran, region⟩

end BufferOp

end CoServer
