import CoServer.Base.BufferQueue

/-! # `buffer_expand` for every `size_t`

The test for sums that are too large compares a `size_t` with the largest
`size_t`, so it refuses nothing.  A request near the end of the range wraps
`needSize`, or leaves the doubling loop without an end. -/

namespace CoServer

/-! ## Doubling -/

/-- `size <<= 1`, taken `rounds` times. -/
def doubled (size rounds : Nat) : Nat := sizeT (size * 2 ^ rounds)

theorem doubled_succ (size rounds : Nat) : doubled (sizeT (size * 2)) rounds = doubled size (rounds + 1) := by
  unfold doubled sizeT
  rw [Nat.mod_mul_mod, Nat.mul_assoc, ← Nat.pow_succ']

theorem doubled_zero {size : Nat} (size_lt : size < 2 ^ 64) : doubled size 0 = size := by
  rw [doubled, Nat.pow_zero, Nat.mul_one, sizeT_of_lt size_lt]

/-- After sixty-four rounds every bit has left the `size_t`. -/
theorem doubled_vanishes {size rounds : Nat} (many : 64 ≤ rounds) : doubled size rounds = 0 :=
  Nat.mod_eq_zero_of_dvd (Dvd.dvd.mul_left (Nat.pow_dvd_pow 2 many) size)

/-- What the loop finds is one of the doublings. -/
theorem doubleUntil_doubled {fuel size need result : Nat} (size_lt : size < 2 ^ 64)
    (found : doubleUntil fuel size need = some result) : ∃ rounds, result = doubled size rounds := by
  induction fuel generalizing size with
  | zero => cases found
  | succ fuel ih =>
    unfold doubleUntil at found
    split at found
    · obtain ⟨rounds, rfl⟩ := ih (sizeT_lt _) found
      exact ⟨rounds + 1, doubled_succ size rounds⟩
    · cases found
      exact ⟨0, (doubled_zero size_lt).symm⟩

/-- The loop ends when one of the doublings it has the fuel for is large enough. -/
theorem doubleUntil_ends {fuel size need rounds : Nat} (size_lt : size < 2 ^ 64)
    (enough : need ≤ doubled size rounds) (few : rounds < fuel) :
    ∃ result, doubleUntil fuel size need = some result := by
  induction fuel generalizing size rounds with
  | zero => omega
  | succ fuel ih =>
    unfold doubleUntil
    split
    · rename_i short
      cases rounds with
      | zero =>
        rw [doubled_zero size_lt] at enough
        omega
      | succ rounds =>
        rw [← doubled_succ] at enough
        exact ih (sizeT_lt _) enough (by omega)
    · exact ⟨size, rfl⟩

/-- The loop ends exactly when some doubling is large enough; its fuel is never what stops it. -/
theorem doubleUntil_iff {size need : Nat} (size_lt : size < 2 ^ 64) :
    (∃ result, doubleUntil 65 size need = some result) ↔ ∃ rounds, need ≤ doubled size rounds := by
  constructor
  · rintro ⟨result, found⟩
    obtain ⟨rounds, rfl⟩ := doubleUntil_doubled size_lt found
    exact ⟨rounds, CoBuffer.doubleUntil_ge found⟩
  · rintro ⟨rounds, enough⟩
    by_cases few : rounds < 65
    · exact doubleUntil_ends size_lt enough few
    · -- a wrapped size of zero suffices only for a request of zero
      rw [doubled_vanishes (by omega)] at enough
      exact @doubleUntil_ends 65 size need 0 size_lt (by omega) (by decide)

namespace CoBuffer

/-! ## What a successful call leaves behind -/

/-- What survives of `Valid` when `realloc` was passed a wrapped size: the valid bytes may
    reach beyond the block. -/
structure Sized (coBuffer : CoBuffer) : Prop where
  blockLength : coBuffer.block.length = coBuffer.totalSize
  bufferAt : coBuffer.buffer = coBuffer.originBuffer + coBuffer.misalignSize
  usedLt : coBuffer.misalignSize + coBuffer.bufferSize < 2 ^ 64
  totalLt : coBuffer.totalSize < 2 ^ 64

section
variable {coBuffer after : CoBuffer} {dataLen : Nat} {ret : Int}

theorem Valid.sized (valid : coBuffer.Valid) : coBuffer.Sized where
  blockLength := valid.blockLength
  bufferAt := valid.bufferAt
  usedLt := lt_of_le_of_lt valid.usedLe valid.totalLt
  totalLt := valid.totalLt

theorem Sized.valid (sized : coBuffer.Sized)
    (usedLe : coBuffer.misalignSize + coBuffer.bufferSize ≤ coBuffer.totalSize) : coBuffer.Valid where
  blockLength := sized.blockLength
  bufferAt := sized.bufferAt
  usedLe := usedLe
  totalLt := sized.totalLt

theorem Sized.offset (sized : coBuffer.Sized) :
    coBuffer.buffer - coBuffer.originBuffer = coBuffer.misalignSize := by
  have := sized.bufferAt
  omega

/-- A block that is too small for its valid bytes is not grown. -/
theorem Sized.bufferExpand_short (sized : coBuffer.Sized) (memory : Option Block)
    (short : coBuffer.totalSize < coBuffer.misalignSize + coBuffer.bufferSize) :
    coBuffer.bufferExpand dataLen memory = some (coError, coBuffer) := by
  unfold CoBuffer.bufferExpand
  rw [sizeT_of_lt sized.usedLt]
  exact if_pos short

/-- `buffer_expand` of a well-formed buffer: slack, a slide, or a slide and `realloc`. -/
theorem Valid.bufferExpand_eq (valid : coBuffer.Valid) (dataLen : Nat) (memory : Option Block) :
    coBuffer.bufferExpand dataLen memory =
      if coBuffer.misalignSize + coBuffer.bufferSize + dataLen ≤ coBuffer.totalSize then
        some (coOk, coBuffer)
      else if coBuffer.bufferSize + dataLen ≤ coBuffer.totalSize then some (coOk, coBuffer.slide)
      else (reallocSize coBuffer.totalSize (sizeT (coBuffer.bufferSize + dataLen))).map
        fun size => coBuffer.slide.takeRealloc size memory := by
  have usedLe := valid.usedLe
  have totalLt := valid.totalLt
  have refused := sizeT_lt (coBuffer.misalignSize + coBuffer.bufferSize + dataLen)
  unfold CoBuffer.bufferExpand
  simp only [valid.used_eq, valid.growBlock_eq, valid.memmoveFront, Option.map_some]
  rw [if_neg (by omega), sizeSub_of_le totalLt usedLe, sizeSub_of_le totalLt (by omega)]
  -- the sum is a `size_t`, so it is never larger than the largest one
  rw [if_neg (show ¬sizeT (coBuffer.misalignSize + coBuffer.bufferSize + dataLen) > bufferSizeMax by
    unfold bufferSizeMax; omega)]
  by_cases room : coBuffer.misalignSize + coBuffer.bufferSize + dataLen ≤ coBuffer.totalSize
  · rw [if_pos room, if_pos (by omega)]
  · rw [if_neg room, if_neg (by omega)]
    by_cases erased : coBuffer.bufferSize + dataLen ≤ coBuffer.totalSize
    · rw [if_pos erased, if_pos (by omega)]
      rfl
    · rw [if_neg erased, if_neg (by omega)]
      cases reallocSize coBuffer.totalSize (sizeT (coBuffer.bufferSize + dataLen)) <;> rfl

/-! ## Reachable buffers -/

theorem Sized.bufferExpand (sized : coBuffer.Sized) {memory : Option Block}
    (run : coBuffer.bufferExpand dataLen memory = some (ret, after)) : after.Sized := by
  by_cases short : coBuffer.totalSize < coBuffer.misalignSize + coBuffer.bufferSize
  · rw [sized.bufferExpand_short memory short] at run
    cases run
    exact sized
  · have valid := sized.valid (Nat.le_of_not_lt short)
    have sizeLt := valid.size_lt
    -- slack, a slide, or `realloc`, with or without memory
    rcases valid.bufferExpand_inv run with ⟨_, rfl, _⟩ | ⟨_, rfl, _⟩ | ⟨size, found, result⟩
    · exact sized
    · exact valid.slide.sized
    · cases memory with
      | none =>
        cases result
        exact valid.slide.sized
      | some new =>
        cases result
        have size_lt := reallocSize_lt found valid.totalLt (sizeT_lt _)
        exact ⟨reallocBlock_length _ _ _, rfl, by simpa [CoBuffer.slide] using sizeLt, size_lt⟩

/-- A copy behind the valid bytes that is defined stays inside the block. -/
theorem Sized.memcpy (sized : coBuffer.Sized) {data block : Bytes}
    (copied : memcpyBlock coBuffer.block
      (coBuffer.buffer - coBuffer.originBuffer + coBuffer.bufferSize) data = some block) :
    block.length = coBuffer.totalSize ∧
      coBuffer.misalignSize + coBuffer.bufferSize + data.length ≤ coBuffer.totalSize := by
  rw [sized.offset] at copied
  unfold memcpyBlock at copied
  split at copied
  · rename_i inside
    cases copied
    rw [sized.blockLength] at inside
    refine ⟨?_, inside⟩
    simp only [List.length_append, List.length_take, List.length_drop, sized.blockLength]
    omega
  · cases copied

/-- `m_bufferSize` grows by the bytes that were copied. -/
theorem Sized.extend (sized : coBuffer.Sized) {data block : Bytes}
    (length : block.length = coBuffer.totalSize)
    (room : coBuffer.misalignSize + coBuffer.bufferSize + data.length ≤ coBuffer.totalSize) :
    ({ coBuffer with block, bufferSize := sizeT (coBuffer.bufferSize + data.length) } : CoBuffer).Sized := by
  have totalLt := sized.totalLt
  rw [sizeT_of_lt (by omega)]
  refine ⟨length, sized.bufferAt, ?_, totalLt⟩
  dsimp only
  omega

theorem Sized.bufferAppend (sized : coBuffer.Sized) {data : Bytes} {memory : Option Block}
    (run : coBuffer.bufferAppend data memory = some (ret, after)) : after.Sized := by
  unfold CoBuffer.bufferAppend at run
  dsimp only at run
  split at run
  · cases run
  · rename_i code grown expanded
    -- the request may be nothing, and then nothing is expanded
    have grownSized : grown.Sized := by
      split at expanded
      · exact sized.bufferExpand expanded
      · cases expanded
        exact sized
    split at run
    · cases run
      exact grownSized
    · obtain ⟨block, copied, result⟩ := Option.map_eq_some_iff.1 run
      cases result
      obtain ⟨length, room⟩ := grownSized.memcpy copied
      exact grownSized.extend length room

theorem Sized.bufferErase (sized : coBuffer.Sized) (dataLen : Nat) :
    (coBuffer.bufferErase dataLen).2.Sized := by
  have bufferAt := sized.bufferAt
  have usedLt := sized.usedLt
  unfold CoBuffer.bufferErase
  split
  · exact ⟨sized.blockLength, rfl, Nat.two_pow_pos 64, sized.totalLt⟩
  · refine ⟨sized.blockLength, ?_, ?_, sized.totalLt⟩ <;> dsimp only <;> omega

/-- The `recv` pattern, whose copy is defined only inside the block. -/
theorem Sized.write (sized : coBuffer.Sized) {data : Bytes} {written : CoBuffer}
    (wrote : coBuffer.writeSpace data = some written) :
    (written.bufferSizeExpand data.length).2.Sized := by
  obtain ⟨block, copied, rfl⟩ := Option.map_eq_some_iff.1 wrote
  obtain ⟨length, room⟩ := sized.memcpy copied
  unfold bufferSizeExpand
  split
  · exact ⟨length, sized.bufferAt, sized.usedLt, sized.totalLt⟩
  · exact sized.extend length room

end

end CoBuffer

namespace BufferOp

open CoBuffer

theorem perform_sized {coBuffer after : CoBuffer} {op : BufferOp} {ret : Int} (sized : coBuffer.Sized)
    (performed : op.perform coBuffer = some (ret, after)) : after.Sized := by
  cases op with
  | append data memory => exact sized.bufferAppend performed
  | erase dataLen =>
    have erased := sized.bufferErase dataLen
    rw [Option.some.inj performed] at erased
    exact erased
  | expand dataLen memory => exact sized.bufferExpand performed
  | write dataLen data fits memory =>
    rw [perform] at performed
    split at performed
    · cases performed
    · rename_i code grown expanded
      have grownSized : grown.Sized := sized.bufferExpand expanded
      split at performed
      · cases performed
        exact grownSized
      · obtain ⟨written, copied, result⟩ := Option.map_eq_some_iff.1 performed
        have extended := grownSized.write copied
        rw [result] at extended
        exact extended
  | reset =>
    cases performed
    exact ⟨sized.blockLength, rfl, Nat.two_pow_pos 64, sized.totalLt⟩

/-- Every reachable buffer, whatever was asked for on the way. -/
theorem run_sized {ops : List BufferOp} {coBuffer : CoBuffer} {queue : Bytes}
    (ran : ops.foldlM step ({}, []) = some (coBuffer, queue)) : coBuffer.Sized := by
  -- the queue plays no part
  refine Lib.run_keeps step (fun state => state.1.Sized) ?_ valid_fresh.sized ran
  intro state op next sized stepped
  obtain ⟨⟨ret, after⟩, performed, rfl⟩ := Option.map_eq_some_iff.1 stepped
  exact perform_sized sized performed

end BufferOp

namespace CoBuffer

/-! ## Sound growth -/

/-- The call returns, and leaves the valid bytes alone or the requested room behind them. -/
def Grows (self : CoBuffer) (dataLen : Nat) : Prop :=
  ∀ memory, ∃ ret after, self.bufferExpand dataLen memory = some (ret, after) ∧
    (ret = coError ∧ after.region = self.region ∨
      ret = coOk ∧ after.misalignSize + after.bufferSize + dataLen ≤ after.totalSize)

/-- The request is met without `realloc`, or a size that `realloc` may be passed meets it. -/
def Growable (self : CoBuffer) (dataLen : Nat) : Prop :=
  self.totalSize < self.misalignSize + self.bufferSize ∨
  self.bufferSize + dataLen ≤ self.totalSize ∨
  if startSize self.totalSize < bufferSizeMax / 2 then
    ∃ rounds, self.bufferSize + dataLen ≤ doubled (startSize self.totalSize) rounds
  else self.bufferSize + dataLen < 2 ^ 64

theorem reallocSize_iff {totalSize needSize : Nat} (total_lt : totalSize < 2 ^ 64) :
    (∃ size, reallocSize totalSize needSize = some size) ↔
      (startSize totalSize < bufferSizeMax / 2 →
        ∃ rounds, needSize ≤ doubled (startSize totalSize) rounds) := by
  have start := startSize_bounds totalSize
  unfold reallocSize
  split
  · rename_i small
    rw [doubleUntil_iff (by omega)]
    exact ⟨fun ends _ => ends, fun ends => ends small⟩
  · rename_i large
    exact ⟨fun _ small => absurd small large, fun _ => ⟨needSize, rfl⟩⟩

/-- Sizes that `realloc` may be passed are below the range of a `size_t`. -/
theorem Growable.fits {coBuffer : CoBuffer} {dataLen : Nat} (sized : coBuffer.Sized)
    (usedLe : coBuffer.misalignSize + coBuffer.bufferSize ≤ coBuffer.totalSize)
    (growable : coBuffer.Growable dataLen) : coBuffer.bufferSize + dataLen < 2 ^ 64 := by
  have totalLt := sized.totalLt
  obtain short | room | sizes := growable
  · omega
  · omega
  · split at sizes
    · obtain ⟨rounds, enough⟩ := sizes
      exact lt_of_le_of_lt enough (sizeT_lt _)
    · exact sizes

theorem Sized.grows_iff {coBuffer : CoBuffer} {dataLen : Nat} (sized : coBuffer.Sized) :
    coBuffer.Grows dataLen ↔ coBuffer.Growable dataLen := by
  -- a block that is already overrun is refused, which is sound
  by_cases short : coBuffer.totalSize < coBuffer.misalignSize + coBuffer.bufferSize
  · exact ⟨fun _ => .inl short,
      fun _ memory => ⟨coError, coBuffer, sized.bufferExpand_short memory short, .inl ⟨rfl, rfl⟩⟩⟩
  have usedLe := Nat.le_of_not_lt short
  have valid := sized.valid usedLe
  have totalLt := sized.totalLt
  -- what fits into the block is met by a slide at most
  by_cases room : coBuffer.bufferSize + dataLen ≤ coBuffer.totalSize
  · refine ⟨fun _ => .inr (.inl room), fun _ memory => ?_⟩
    rw [valid.bufferExpand_eq]
    by_cases slack : coBuffer.misalignSize + coBuffer.bufferSize + dataLen ≤ coBuffer.totalSize
    · exact ⟨coOk, coBuffer, if_pos slack, .inr ⟨rfl, slack⟩⟩
    · refine ⟨coOk, coBuffer.slide, by rw [if_neg slack, if_pos room], .inr ⟨rfl, ?_⟩⟩
      simpa [CoBuffer.slide] using room
  · have grows : ∀ memory, coBuffer.bufferExpand dataLen memory =
        (reallocSize coBuffer.totalSize (sizeT (coBuffer.bufferSize + dataLen))).map
          fun size => coBuffer.slide.takeRealloc size memory := by
      intro memory
      rw [valid.bufferExpand_eq, if_neg (by omega), if_neg room]
    constructor
    · intro sound
      -- a `realloc` that succeeds shows the size it was passed
      obtain ⟨ret, after, ran, outcome⟩ := sound (some ⟨0, []⟩)
      rw [grows] at ran
      obtain ⟨size, found, result⟩ := Option.map_eq_some_iff.1 ran
      cases result
      have size_lt := reallocSize_lt found totalLt (sizeT_lt _)
      obtain ⟨failed, _⟩ | ⟨_, free⟩ := outcome
      · cases failed
      · simp only [CoBuffer.slide, Nat.zero_add] at free
        -- the size that was passed is a `size_t`, and the request is within it
        have fits : coBuffer.bufferSize + dataLen < 2 ^ 64 := by omega
        rw [sizeT_of_lt fits] at found
        have ends := (reallocSize_iff totalLt).1 ⟨size, found⟩
        refine .inr (.inr ?_)
        split
        · rename_i small
          exact ends small
        · exact fits
    · intro growable memory
      -- so the request did not wrap, and the size that was found meets it
      have fits := growable.fits sized usedLe
      obtain ⟨size, found⟩ := (@reallocSize_iff _ (coBuffer.bufferSize + dataLen) totalLt).2 <| by
        intro small
        obtain overfull | enough | sizes := growable
        · omega
        · omega
        · rwa [if_pos small] at sizes
      have enough := reallocSize_ge found
      rw [grows, sizeT_of_lt fits, found, Option.map_some]
      cases memory with
      | none => exact ⟨coError, coBuffer.slide, rfl, .inl ⟨rfl, valid.region_slide⟩⟩
      | some new =>
        refine ⟨coOk, _, rfl, .inr ⟨rfl, ?_⟩⟩
        simpa [CoBuffer.slide] using enough

/-- Growth of a reachable buffer is sound exactly for the requests that some size meets. -/
theorem buffer_grows_iff (ops : List BufferOp) (coBuffer : CoBuffer) (queue : Bytes)
    (ran : ops.foldlM BufferOp.step ({}, []) = some (coBuffer, queue)) (dataLen : Nat) :
    coBuffer.Grows dataLen ↔ coBuffer.Growable dataLen :=
  (BufferOp.run_sized ran).grows_iff

/-- One byte, behind which there is a request. -/
def oneByte : List BufferOp := [.append [7] (some ⟨4096, []⟩)]

theorem oneByte_ran : ∃ coBuffer queue, oneByte.foldlM BufferOp.step ({}, []) = some (coBuffer, queue) ∧
    coBuffer.misalignSize = 0 ∧ coBuffer.bufferSize = 1 ∧ coBuffer.totalSize = 256 := by
  obtain ⟨⟨coBuffer, queue⟩, ran⟩ : ∃ final, oneByte.foldlM BufferOp.step ({}, []) = some final :=
    Option.isSome_iff_exists.1 (by decide +kernel)
  have sizes : (oneByte.foldlM BufferOp.step ({}, [])).map
      (fun state => (state.1.misalignSize, state.1.bufferSize, state.1.totalSize)) =
        some (0, 1, 256) := by
    decide +kernel
  rw [ran] at sizes
  simp only [Option.map_some, Option.some.injEq, Prod.mk.injEq] at sizes
  exact ⟨coBuffer, queue, ran, sizes⟩

theorem buffer_grows_oneByte : ∃ coBuffer queue,
    oneByte.foldlM BufferOp.step ({}, []) = some (coBuffer, queue) ∧ coBuffer.Grows 300 := by
  obtain ⟨coBuffer, queue, ran, misaligned, size, total⟩ := oneByte_ran
  refine ⟨coBuffer, queue, ran, (buffer_grows_iff oneByte coBuffer queue ran 300).2 (.inr (.inr ?_))⟩
  rw [total, size]
  exact (if_pos (by decide)).mpr ⟨1, by decide⟩

/-- A request for all but one of the sizes there are wraps to nothing and is not refused. -/
theorem buffer_growth_unsound : ¬ ∀ (ops : List BufferOp) (coBuffer : CoBuffer) (queue : Bytes),
    ops.foldlM BufferOp.step ({}, []) = some (coBuffer, queue) →
      ∀ dataLen < 2 ^ 64, coBuffer.Grows dataLen := by
  intro sound
  obtain ⟨coBuffer, queue, ran, misaligned, size, total⟩ := oneByte_ran
  have sized := BufferOp.run_sized ran
  have growable := sized.grows_iff.1 (sound oneByte coBuffer queue ran (2 ^ 64 - 1) (by omega))
  have fits := growable.fits sized (by omega)
  omega

end CoBuffer

end CoServer
