import CoServer.Core.Coroutine
import CoServer.Base.Buffer

/-! # A shared stack is as good as one stack each

A coroutine that goes on finds its registers and what it used of the stack, however
many others ran in between on the same bytes.  The saved copy of a coroutine that
begins anew is still copied over the entry frame; it does no harm, since it ends
with the same frame. -/

namespace CoServer

variable {Registers : Type}

/-! ## Copies -/

theorem readBlock_eq_some {block saved : Bytes} {size : Nat} :
    readBlock block size = some saved ↔ size ≤ block.length ∧ block.take size = saved := by
  rw [readBlock, Option.ite_none_right_eq_some, Option.some.injEq]

theorem copyTop_eq_some {stack bytes copied : Bytes} :
    copyTop stack bytes = some copied ↔
      bytes.length ≤ stack.length ∧ stack.take (stack.length - bytes.length) ++ bytes = copied := by
  unfold copyTop memcpyBlock
  rw [Option.ite_none_right_eq_some]
  refine and_congr_right fun fits => ?_
  have total : stack.length - bytes.length + bytes.length = stack.length := Nat.sub_add_cancel fits
  rw [if_pos (by omega), total, List.drop_length, List.append_nil, Option.some.injEq]

theorem copyTop_length {stack bytes copied : Bytes} (copy : copyTop stack bytes = some copied) :
    copied.length = stack.length := by
  obtain ⟨fits, rfl⟩ := copyTop_eq_some.1 copy
  rw [List.length_append, List.length_take]
  omega

theorem copyTop_suffix {stack bytes copied : Bytes} (copy : copyTop stack bytes = some copied) :
    bytes <:+ copied := by
  obtain ⟨-, rfl⟩ := copyTop_eq_some.1 copy
  exact List.suffix_append _ _

theorem copyTop_nil (stack : Bytes) : copyTop stack [] = some stack := by
  rw [copyTop_eq_some]
  exact ⟨Nat.zero_le _, by simp⟩

/-- A list is what is below its suffix, and the suffix. -/
theorem take_append_suffix {stack used : Bytes} (suffix : used <:+ stack) :
    stack.take (stack.length - used.length) ++ used = stack := by
  obtain ⟨below, rfl⟩ := suffix
  rw [List.length_append, Nat.add_sub_cancel, List.take_left]

theorem stackTop_length {stack : Bytes} {size : Nat} (fits : size ≤ stack.length) :
    (stackTop stack size).length = size := by
  rw [stackTop, List.length_drop]
  omega

theorem stackTop_of_suffix {stack used : Bytes} (suffix : used <:+ stack) : stackTop stack used.length = used := by
  obtain ⟨below, rfl⟩ := suffix
  rw [stackTop, List.length_append, Nat.add_sub_cancel, List.drop_left]

/-- What is used is more than the entry frame. -/
theorem suffix_stackTop {stack frame : Bytes} {size : Nat} (framed : frame <:+ stack)
    (more : frame.length ≤ size) : frame <:+ stackTop stack size := by
  obtain ⟨below, rfl⟩ := framed
  unfold stackTop
  rw [List.length_append, List.drop_append_of_le_length (by omega)]
  exact List.suffix_append _ _

/-! ## Saved stacks -/

namespace CoCoroutine

/-- The copy of the stack. -/
def saved (self : CoCoroutine Registers) : Bytes := self.interStack.take self.interStackSize

/-- The block has the size that is written down, and the copy is in it. -/
structure InBlock (coroutine : CoCoroutine Registers) : Prop where
  block : coroutine.interStack.length = coroutine.interStackCap
  size : coroutine.interStackSize ≤ coroutine.interStackCap

theorem InBlock.read {self : CoCoroutine Registers} (inBlock : self.InBlock) :
    readBlock self.interStack self.interStackSize = some self.saved :=
  readBlock_eq_some.2 ⟨inBlock.block ▸ inBlock.size, rfl⟩

theorem InBlock.saved_length {self : CoCoroutine Registers} (inBlock : self.InBlock) :
    self.saved.length = self.interStackSize :=
  List.length_take_of_le (inBlock.block ▸ inBlock.size)

/-- `reserve` leaves the rest of the coroutine alone. -/
theorem reserve_some {self reserved : CoCoroutine Registers} (inBlock : self.InBlock) {size : Nat}
    {memory : Option Bytes} (reserves : self.reserve size memory = some reserved) :
    reserved.interStack.length = reserved.interStackCap ∧ size ≤ reserved.interStackCap ∧
      reserved.coroutineStatus = self.coroutineStatus := by
  unfold reserve at reserves
  split at reserves
  · obtain ⟨fresh, -, rfl⟩ := Option.map_eq_some_iff.1 reserves
    exact ⟨CoBuffer.reallocBlock_length _ _ _, le_rfl, rfl⟩
  · cases reserves
    exact ⟨inBlock.block, by omega, rfl⟩

theorem reserve_isSome (self : CoCoroutine Registers) (size : Nat) (fresh : Bytes) :
    (self.reserve size (some fresh)).isSome := by
  unfold reserve
  split <;> rfl

/-- What was saved is read back. -/
structure Saves (before after : CoCoroutine Registers) (used : Bytes) : Prop where
  inBlock : after.InBlock
  saved : after.saved = used
  status : after.coroutineStatus = before.coroutineStatus

theorem save_some {self saved : CoCoroutine Registers} (inBlock : self.InBlock) {used : Bytes}
    {memory : Option Bytes} (saves : self.save used memory = some saved) : self.Saves saved used := by
  obtain ⟨reserved, reserves, copied⟩ := Option.bind_eq_some_iff.1 saves
  obtain ⟨block, room, status⟩ := reserve_some inBlock reserves
  obtain ⟨interStack, copy, rfl⟩ := Option.map_eq_some_iff.1 copied
  unfold memcpyBlock at copy
  rw [Option.ite_none_right_eq_some, Option.some.injEq] at copy
  obtain ⟨-, rfl⟩ := copy
  refine ⟨⟨?_, room⟩, ?_, status⟩
  · simp only [List.take_zero, List.nil_append, Nat.zero_add, List.length_append, List.length_drop]
    omega
  · unfold CoCoroutine.saved
    simp only [List.take_zero, List.nil_append]
    exact List.take_left

theorem save_isSome {self : CoCoroutine Registers} (inBlock : self.InBlock) (used fresh : Bytes) :
    (self.save used (some fresh)).isSome := by
  obtain ⟨reserved, reserves⟩ := Option.isSome_iff_exists.1 (self.reserve_isSome used.length fresh)
  obtain ⟨block, room, -⟩ := reserve_some inBlock reserves
  unfold save memcpyBlock
  rw [reserves, Option.bind_some, if_pos (by omega)]
  rfl

end CoCoroutine

/-! ## The invariant -/

/-- The copies are in their blocks and fit on the stack, and what has run once ends with the
    entry frame. -/
structure CoroutineThread.Sound (layout : StackLayout Registers) (thread : CoroutineThread Registers) :
    Prop where
  inBlock : ∀ coroutine, (thread.coroutines coroutine).InBlock
  fits : ∀ coroutine, (thread.coroutines coroutine).interStackSize ≤ thread.sharedStack.length
  framed : ∀ coroutine, (thread.coroutines coroutine).interStackSize ≠ 0 →
    layout.frame <:+ (thread.coroutines coroutine).saved
  begun : ∀ coroutine, (thread.coroutines coroutine).context ≠ none → thread.running ≠ some coroutine →
    layout.frame <:+ (thread.coroutines coroutine).saved
  runs : ∀ coroutine, thread.running = some coroutine → layout.frame <:+ thread.sharedStack
  suspended : ∀ coroutine, (thread.coroutines coroutine).coroutineStatus = .suspend →
    (thread.coroutines coroutine).context ≠ none

/-- The coroutines of the thread have the stacks of `own`. -/
structure CoroutineThread.Represents (thread : CoroutineThread Registers) (own : PrivateThread Registers) :
    Prop where
  registers : own.registers = thread.registers
  contextMain : own.contextMain = thread.contextMain
  running : own.running = thread.running
  status : ∀ coroutine, own.status coroutine = (thread.coroutines coroutine).coroutineStatus
  context : ∀ coroutine, own.context coroutine = (thread.coroutines coroutine).context
  saved : ∀ coroutine, thread.running ≠ some coroutine →
    own.stack coroutine = (thread.coroutines coroutine).saved
  runs : ∀ coroutine, thread.running = some coroutine → own.stack coroutine = thread.sharedStack

/-! ## What a step does -/

section
variable {layout : StackLayout Registers} {thread next : CoroutineThread Registers} {coroutine : Nat}

theorem CoroutineThread.swapIn_some (inBlock : (thread.coroutines coroutine).InBlock)
    (swaps : thread.swapIn coroutine = some next) :
    ∃ context copied, (thread.coroutines coroutine).context = some context ∧
      copyTop thread.sharedStack (thread.coroutines coroutine).saved = some copied ∧
      next = { thread with
        sharedStack := copied, contextMain := thread.registers, registers := context,
        running := some coroutine } := by
  obtain ⟨context, was, swaps⟩ := Option.bind_eq_some_iff.1 swaps
  rw [inBlock.read, Option.bind_some] at swaps
  obtain ⟨copied, copy, rfl⟩ := Option.map_eq_some_iff.1 swaps
  exact ⟨context, copied, was, copy, rfl⟩

/-- A coroutine begins at the entry: its last handler is done, and `getcontext` succeeds. -/
def CoroutineThread.Begins (thread : CoroutineThread Registers) (coroutine : Nat) (getcontext : Bool) : Prop :=
  (thread.coroutines coroutine).coroutineStatus = .ready ∧ getcontext = true

/-- What a dispatch does. -/
structure Dispatches (layout : StackLayout Registers) (thread : CoroutineThread Registers) (coroutine : Nat)
    (getcontext : Bool) (next : CoroutineThread Registers) : Prop where
  coroutines : next.coroutines = Function.update thread.coroutines coroutine
    { thread.coroutines coroutine with coroutineStatus := .suspend, context := some next.registers }
  running : next.running = some coroutine
  contextMain : next.contextMain = thread.registers
  length : next.sharedStack.length = thread.sharedStack.length
  frame : layout.frame <:+ next.sharedStack
  begins : thread.Begins coroutine getcontext → next.registers = layout.entry coroutine
  goesOn : ¬thread.Begins coroutine getcontext →
    (thread.coroutines coroutine).context = some next.registers ∧
      (thread.coroutines coroutine).saved <:+ next.sharedStack

/-- A coroutine that goes on has the status and the context that a dispatch leaves. -/
theorem CoroutineThread.swapIn_dispatches {getcontext : Bool} {status : CoroutineStatus}
    (sound : thread.Sound layout) (idle : thread.running = none)
    (goesOn : ¬thread.Begins coroutine getcontext)
    (swaps : (thread.update coroutine ({ · with coroutineStatus := status })).swapIn coroutine = some next)
    (suspended : status = .suspend) : Dispatches layout thread coroutine getcontext next := by
  subst suspended
  have inBlock : ((thread.update coroutine ({ · with coroutineStatus := .suspend })).coroutines
      coroutine).InBlock := by
    simp only [update, Function.update_self]
    exact ⟨(sound.inBlock coroutine).block, (sound.inBlock coroutine).size⟩
  obtain ⟨context, copied, was, copy, rfl⟩ := swapIn_some inBlock swaps
  simp only [update, Function.update_self] at was copy
  have saved : (thread.coroutines coroutine).saved <:+ copied := copyTop_suffix copy
  have framed : layout.frame <:+ (thread.coroutines coroutine).saved := by
    refine sound.begun coroutine ?_ ?_
    · rw [was]
      exact Option.some_ne_none _
    · rw [idle]
      exact (Option.some_ne_none _).symm
  refine ⟨?_, rfl, rfl, copyTop_length copy, framed.trans saved, fun begins => absurd begins goesOn,
    fun _ => ⟨was, saved⟩⟩
  simp only [update, was]

theorem CoroutineThread.dispatch_some {getcontext : Bool} (sound : thread.Sound layout)
    (idle : thread.running = none) (dispatched : thread.dispatch layout coroutine getcontext = some next) :
    Dispatches layout thread coroutine getcontext next := by
  unfold dispatch at dispatched
  split at dispatched
  · rename_i ready
    obtain ⟨started, inits, swaps⟩ := Option.bind_eq_some_iff.1 dispatched
    cases getcontext with
    | false =>
      cases inits
      exact swapIn_dispatches sound idle (fun begins => Bool.false_ne_true begins.2) swaps rfl
    | true =>
      obtain ⟨made, entered, rfl⟩ := Option.map_eq_some_iff.1 inits
      have inBlock := sound.inBlock coroutine
      obtain ⟨context, copied, was, copy, rfl⟩ := swapIn_some (by
        simp only [update, Function.update_self]
        exact ⟨inBlock.block, inBlock.size⟩) swaps
      simp only [update, Function.update_self, Option.some.injEq] at was copy entered
      subst was
      have framed : layout.frame <:+ copied := by
        by_cases none : (thread.coroutines coroutine).interStackSize = 0
        · -- nothing was ever saved, and the frame stays as `makecontext` made it
          have empty : (thread.coroutines coroutine).saved = [] := by rw [CoCoroutine.saved, none, List.take_zero]
          have same : copied = made := by
            have kept := copyTop_nil made
            rw [← empty] at kept
            exact Option.some.inj (copy.symm.trans kept)
          rw [same]
          exact copyTop_suffix entered
        · exact (sound.framed coroutine none).trans (copyTop_suffix copy)
      refine ⟨?_, rfl, rfl, (copyTop_length copy).trans (copyTop_length entered), framed, fun _ => rfl,
        fun goesOn => absurd ⟨ready, rfl⟩ goesOn⟩
      simp only [update, Function.update_self, Function.update_idem]
  · rename_i suspended
    refine swapIn_dispatches sound idle (fun begins => ?_) ?_ (rfl : CoroutineStatus.suspend = .suspend)
    · cases suspended.symm.trans begins.1
    · rw [← dispatched]
      congr 1
      simp only [update, ← suspended, Function.update_eq_self]

/-- What a `swap_out` does. -/
structure SwapsOut (thread : CoroutineThread Registers) (coroutine : Nat) (finished : Bool) (size : Nat)
    (saved : CoCoroutine Registers) (next : CoroutineThread Registers) : Prop where
  fits : size ≤ thread.sharedStack.length
  inBlock : saved.InBlock
  copy : saved.saved = stackTop thread.sharedStack size
  status : saved.coroutineStatus = if finished then .ready else (thread.coroutines coroutine).coroutineStatus
  next : next = { thread with
    coroutines := Function.update thread.coroutines coroutine { saved with context := some thread.registers }
    registers := thread.contextMain, running := none }

theorem CoroutineThread.swapOut_some {finished : Bool} {size : Nat} {memory : Option Bytes}
    (inBlock : (thread.coroutines coroutine).InBlock)
    (swaps : (thread.finish coroutine finished).swapOut coroutine size memory = some next) :
    ∃ saved, SwapsOut thread coroutine finished size saved next := by
  obtain ⟨fits, swaps⟩ := Option.ite_none_right_eq_some.1 swaps
  obtain ⟨saved, saves, rfl⟩ := Option.map_eq_some_iff.1 swaps
  cases finished with
  | false =>
    have outcome := CoCoroutine.save_some inBlock saves
    exact ⟨saved, fits, outcome.inBlock, outcome.saved, outcome.status, rfl⟩
  | true =>
    have unchanged : ((thread.finish coroutine true).coroutines coroutine).InBlock := by
      simp only [finish, if_true, update, Function.update_self]
      exact ⟨inBlock.block, inBlock.size⟩
    have outcome := CoCoroutine.save_some unchanged saves
    refine ⟨saved, fits, outcome.inBlock, outcome.saved, ?_, ?_⟩
    · rw [outcome.status]
      simp only [finish, if_true, update, Function.update_self]
    · simp only [finish, if_true, update, Function.update_idem]

/-! ## Every step keeps the invariant and is one with stacks of their own -/

/-- What a coroutine that is dispatched goes on with. -/
def CoroutineThread.usedBy (layout : StackLayout Registers) (self : CoroutineThread Registers)
    (coroutine : Nat) (getcontext : Bool) : Bytes :=
  if (self.coroutines coroutine).coroutineStatus = .ready ∧ getcontext = true then layout.frame
  else (self.coroutines coroutine).saved

/-- What is below that on the shared stack. -/
def CoroutineThread.unused (layout : StackLayout Registers) (self : CoroutineThread Registers) :
    CoroutineEvent Registers → Bytes
  | .dispatch coroutine getcontext =>
    match self.dispatch layout coroutine getcontext with
    | none => []
    | some next =>
      next.sharedStack.take (next.sharedStack.length - (self.usedBy layout coroutine getcontext).length)
  | _ => []

theorem CoroutineThread.unused_dispatch {getcontext : Bool}
    (dispatched : thread.dispatch layout coroutine getcontext = some next) :
    thread.unused layout (.dispatch coroutine getcontext) =
      next.sharedStack.take (next.sharedStack.length - (thread.usedBy layout coroutine getcontext).length) := by
  simp only [unused, dispatched]

/-- The event of a step, with what is unused. -/
def CoroutineThread.privateEvent (layout : StackLayout Registers) (self : CoroutineThread Registers)
    (event : CoroutineEvent Registers) : List (PrivateEvent Registers) :=
  [(event, self.unused layout event)]

theorem CoroutineThread.Sound.dispatch {getcontext : Bool} (sound : thread.Sound layout)
    (idle : thread.running = none) (dispatches : Dispatches layout thread coroutine getcontext next) : next.Sound layout := by
  have copies : ∀ other, (next.coroutines other).InBlock ∧
      (next.coroutines other).saved = (thread.coroutines other).saved ∧
      (next.coroutines other).interStackSize = (thread.coroutines other).interStackSize := fun other => by
    rw [dispatches.coroutines]
    by_cases same : other = coroutine
    · subst same
      rw [Function.update_self]
      exact ⟨⟨(sound.inBlock other).block, (sound.inBlock other).size⟩, rfl, rfl⟩
    · rw [Function.update_of_ne same]
      exact ⟨sound.inBlock other, rfl, rfl⟩
  refine ⟨fun other => (copies other).1, fun other => ?_, fun other ran => ?_, fun other was others => ?_,
    fun _ _ => dispatches.frame, fun other => ?_⟩
  · rw [(copies other).2.2, dispatches.length]
    exact sound.fits other
  · rw [(copies other).2.2] at ran
    rw [(copies other).2.1]
    exact sound.framed other ran
  · rw [dispatches.running] at others
    have apart : other ≠ coroutine := fun same => others (congrArg some same.symm)
    rw [dispatches.coroutines, Function.update_of_ne apart] at was
    rw [(copies other).2.1]
    refine sound.begun other was ?_
    rw [idle]
    exact (Option.some_ne_none _).symm
  · rw [dispatches.coroutines]
    by_cases same : other = coroutine
    · subst same
      rw [Function.update_self]
      exact fun _ => Option.some_ne_none _
    · rw [Function.update_of_ne same]
      exact sound.suspended other

theorem CoroutineThread.Sound.swapOut {finished : Bool} {size : Nat} {saved : CoCoroutine Registers}
    (sound : thread.Sound layout) (runs : thread.running = some coroutine) (more : layout.frame.length ≤ size)
    (swapsOut : SwapsOut thread coroutine finished size saved next) : next.Sound layout := by
  obtain ⟨fits, inBlock, copy, -, rfl⟩ := swapsOut
  have framed : layout.frame <:+ saved.saved := by
    rw [copy]
    exact suffix_stackTop (sound.runs coroutine runs) more
  have length : saved.interStackSize = size := by
    rw [← inBlock.saved_length, copy, stackTop_length fits]
  refine ⟨fun other => ?_, fun other => ?_, fun other ran => ?_, fun other was _ => ?_,
    fun _ running => ?_, fun other => ?_⟩
  · by_cases same : other = coroutine
    · subst same
      simp only [Function.update_self]
      exact ⟨inBlock.block, inBlock.size⟩
    · simp only [Function.update_of_ne same]
      exact sound.inBlock other
  · by_cases same : other = coroutine
    · subst same
      simp only [Function.update_self]
      exact length.trans_le fits
    · simp only [Function.update_of_ne same]
      exact sound.fits other
  · by_cases same : other = coroutine
    · subst same
      simp only [Function.update_self]
      exact framed
    · simp only [Function.update_of_ne same] at ran ⊢
      exact sound.framed other ran
  · by_cases same : other = coroutine
    · subst same
      simp only [Function.update_self]
      exact framed
    · simp only [Function.update_of_ne same] at was ⊢
      refine sound.begun other was ?_
      rw [runs]
      exact fun running => same (Option.some.inj running).symm
  · cases running
  · by_cases same : other = coroutine
    · subst same
      simp only [Function.update_self]
      exact fun _ => Option.some_ne_none _
    · simp only [Function.update_of_ne same]
      exact sound.suspended other

/-- A status says nothing about the copies. -/
theorem CoroutineThread.Sound.reset (sound : thread.Sound layout) (coroutine : Nat) :
    (thread.update coroutine (·.reset)).Sound layout := by
  have same : ∀ other, ∃ status, (status = .suspend → (thread.coroutines other).coroutineStatus = .suspend) ∧
      (thread.update coroutine (·.reset)).coroutines other =
        { thread.coroutines other with coroutineStatus := status } := fun other => by
    by_cases same : other = coroutine
    · subst same
      exact ⟨.ready, fun suspended => absurd suspended (by decide), Function.update_self _ _ _⟩
    · exact ⟨_, id, Function.update_of_ne same _ _⟩
  refine ⟨fun other => ?_, fun other => ?_, fun other ran => ?_, fun other was others => ?_, sound.runs,
    fun other suspended => ?_⟩
  all_goals obtain ⟨status, was_suspended, other_eq⟩ := same other
  · rw [other_eq]
    exact ⟨(sound.inBlock other).block, (sound.inBlock other).size⟩
  · rw [other_eq]
    exact sound.fits other
  · rw [other_eq] at ran ⊢
    exact sound.framed other ran
  · rw [other_eq] at was ⊢
    exact sound.begun other was others
  · rw [other_eq] at suspended ⊢
    exact sound.suspended other (was_suspended suspended)

theorem CoroutineThread.Sound.step {event : CoroutineEvent Registers} (sound : thread.Sound layout)
    (stepped : thread.step layout event = some next) : next.Sound layout := by
  cases event with
  | work registers stack =>
    unfold CoroutineThread.step at stepped
    dsimp only at stepped
    split at stepped
    · rename_i idle
      cases stepped
      exact ⟨sound.inBlock, sound.fits, sound.framed, sound.begun, sound.runs, sound.suspended⟩
    · rename_i runs
      obtain ⟨⟨length, framed⟩, stepped⟩ := Option.ite_none_right_eq_some.1 stepped
      cases stepped
      refine ⟨sound.inBlock, fun other => ?_, sound.framed, sound.begun, fun _ _ => framed, sound.suspended⟩
      exact (sound.fits other).trans_eq length.symm
  | dispatch coroutine getcontext =>
    unfold CoroutineThread.step at stepped
    dsimp only at stepped
    split at stepped
    · rename_i idle
      exact sound.dispatch idle (dispatch_some sound idle stepped)
    · cases stepped
  | swapOut finished size memory =>
    unfold CoroutineThread.step at stepped
    dsimp only at stepped
    split at stepped
    · cases stepped
    · rename_i coroutine runs
      obtain ⟨more, stepped⟩ := Option.ite_none_right_eq_some.1 stepped
      obtain ⟨saved, swapsOut⟩ := swapOut_some (sound.inBlock coroutine) stepped
      exact sound.swapOut runs more swapsOut
  | reset coroutine =>
    cases stepped
    exact sound.reset coroutine

/-- The coroutine that is dispatched runs on the shared stack; the others are left alone. -/
theorem CoroutineThread.Represents.dispatched {getcontext : Bool} {own : PrivateThread Registers}
    {status : Nat → CoroutineStatus} {stack : Nat → Bytes}
    (represents : thread.Represents own) (idle : thread.running = none)
    (dispatches : Dispatches layout thread coroutine getcontext next)
    (statusOf : status = Function.update own.status coroutine .suspend)
    (stackOf : stack = Function.update own.stack coroutine next.sharedStack) :
    next.Represents { own with
      registers := next.registers, contextMain := own.registers, running := some coroutine, status, stack
      context := Function.update own.context coroutine (some next.registers) } := by
  subst statusOf stackOf
  refine ⟨rfl, ?_, dispatches.running.symm, fun other => ?_, fun other => ?_, fun other waits => ?_,
    fun other runs => ?_⟩
  · rw [dispatches.contextMain]
    exact represents.registers
  · rw [dispatches.coroutines]
    by_cases same : other = coroutine
    · subst same
      simp only [Function.update_self]
    · simp only [Function.update_of_ne same]
      exact represents.status other
  · rw [dispatches.coroutines]
    by_cases same : other = coroutine
    · subst same
      simp only [Function.update_self]
    · simp only [Function.update_of_ne same]
      exact represents.context other
  · rw [dispatches.running] at waits
    have apart : other ≠ coroutine := fun same => waits (congrArg some same.symm)
    rw [dispatches.coroutines]
    simp only [Function.update_of_ne apart]
    refine represents.saved other ?_
    rw [idle]
    exact (Option.some_ne_none _).symm
  · rw [dispatches.running] at runs
    cases runs
    simp only [Function.update_self]

/-- The dispatch of a coroutine, with its own stack. -/
theorem CoroutineThread.Represents.dispatch {getcontext : Bool} {own : PrivateThread Registers}
    (represents : thread.Represents own) (idle : thread.running = none)
    (dispatched : thread.dispatch layout coroutine getcontext = some next)
    (dispatches : Dispatches layout thread coroutine getcontext next) :
    ∃ ownNext, own.dispatch layout coroutine getcontext
      (thread.unused layout (.dispatch coroutine getcontext)) = some ownNext ∧ next.Represents ownNext := by
  have status := represents.status coroutine
  have stack : own.stack coroutine = (thread.coroutines coroutine).saved := represents.saved coroutine (by
    rw [idle]
    exact (Option.some_ne_none _).symm)
  have below := unused_dispatch dispatched
  by_cases begins : thread.Begins coroutine getcontext
  · -- the copy that was put on the stack is not used
    have used : thread.usedBy layout coroutine getcontext = layout.frame := if_pos begins
    rw [used] at below
    have onTop := take_append_suffix dispatches.frame
    rw [← below] at onTop
    obtain ⟨ready, rfl⟩ := begins
    have entry : next.registers = layout.entry coroutine := dispatches.begins ⟨ready, rfl⟩
    rw [ready] at status
    refine ⟨_, ?_, represents.dispatched idle dispatches rfl rfl⟩
    simp only [PrivateThread.dispatch, status, if_true, PrivateThread.resume, PrivateThread.begin,
      PrivateThread.setStatus, Function.update_self, Option.map_some, Function.update_idem, onTop, entry]
  · have used : thread.usedBy layout coroutine getcontext = (thread.coroutines coroutine).saved := if_neg begins
    rw [used] at below
    obtain ⟨was, saved⟩ := dispatches.goesOn begins
    have onTop := take_append_suffix saved
    rw [← below] at onTop
    have context := (represents.context coroutine).trans was
    have keptContext : Function.update own.context coroutine (some next.registers) = own.context := by
      rw [← context, Function.update_eq_self]
    refine ⟨_, ?_, represents.dispatched idle dispatches rfl rfl⟩
    rw [keptContext]
    cases statusOf : (thread.coroutines coroutine).coroutineStatus with
    | ready =>
      rw [statusOf] at status
      have failed : getcontext = false := Bool.eq_false_iff.2 fun succeeds => begins ⟨statusOf, succeeds⟩
      subst failed
      simp only [PrivateThread.dispatch, status, Bool.false_eq_true, if_false, PrivateThread.resume,
        PrivateThread.setStatus, context, Option.map_some, stack, onTop]
    | suspend =>
      rw [statusOf] at status
      have keptStatus : Function.update own.status coroutine .suspend = own.status := by
        rw [← status, Function.update_eq_self]
      simp only [PrivateThread.dispatch, status, PrivateThread.resume, context, Option.map_some, stack, onTop,
        keptStatus]

theorem CoroutineThread.Represents.swapOut {finished : Bool} {size : Nat} {saved : CoCoroutine Registers}
    {own : PrivateThread Registers} (represents : thread.Represents own)
    (runs : thread.running = some coroutine)
    (swapsOut : SwapsOut thread coroutine finished size saved next) :
    next.Represents ((if finished then own.setStatus coroutine .ready else own).suspend coroutine size) := by
  obtain ⟨-, inBlock, copy, status, rfl⟩ := swapsOut
  have stack : own.stack coroutine = thread.sharedStack := represents.runs coroutine runs
  have others : ∀ other, other ≠ coroutine → thread.running ≠ some other := fun other apart running =>
    apart (Option.some.inj (runs.symm.trans running)).symm
  have statusOf : (if finished then own.setStatus coroutine .ready else own).status =
      Function.update own.status coroutine saved.coroutineStatus := by
    rw [status, ← represents.status coroutine]
    cases finished with
    | false => exact (Function.update_eq_self coroutine own.status).symm
    | true => rfl
  have rest : (if finished then own.setStatus coroutine .ready else own) =
      { own with status := Function.update own.status coroutine saved.coroutineStatus } := by
    rw [← statusOf]
    cases finished <;> rfl
  rw [rest]
  refine ⟨represents.contextMain, represents.contextMain, rfl, fun other => ?_, fun other => ?_,
    fun other _ => ?_, fun _ running => ?_⟩
  · by_cases same : other = coroutine
    · subst same
      simp only [PrivateThread.suspend, Function.update_self]
    · simp only [PrivateThread.suspend, Function.update_of_ne same]
      exact represents.status other
  · by_cases same : other = coroutine
    · subst same
      simp only [PrivateThread.suspend, Function.update_self, represents.registers]
    · simp only [PrivateThread.suspend, Function.update_of_ne same]
      exact represents.context other
  · by_cases same : other = coroutine
    · subst same
      simp only [PrivateThread.suspend, Function.update_self, stack, ← copy]
      rfl
    · simp only [PrivateThread.suspend, Function.update_of_ne same]
      exact represents.saved other (others other same)
  · cases running

theorem CoroutineThread.Represents.reset {own : PrivateThread Registers} (represents : thread.Represents own)
    (coroutine : Nat) :
    (thread.update coroutine (·.reset)).Represents (own.setStatus coroutine .ready) := by
  refine ⟨represents.registers, represents.contextMain, represents.running, fun other => ?_, fun other => ?_,
    fun other waits => ?_, represents.runs⟩
  all_goals by_cases same : other = coroutine
  all_goals try subst same
  · simp only [PrivateThread.setStatus, update, Function.update_self, CoCoroutine.reset]
  · simp only [PrivateThread.setStatus, update, Function.update_of_ne same]
    exact represents.status other
  · simp only [PrivateThread.setStatus, update, Function.update_self, CoCoroutine.reset]
    exact represents.context other
  · simp only [PrivateThread.setStatus, update, Function.update_of_ne same]
    exact represents.context other
  · simp only [PrivateThread.setStatus, update, Function.update_self]
    exact represents.saved other waits
  · simp only [PrivateThread.setStatus, update, Function.update_of_ne same]
    exact represents.saved other waits

/-- The coroutine that runs has the whole shared stack. -/
theorem CoroutineThread.Represents.work {own : PrivateThread Registers} (represents : thread.Represents own)
    (runs : thread.running = some coroutine) (registers : Registers) (stack : Bytes) :
    ({ thread with registers, sharedStack := stack } : CoroutineThread Registers).Represents
      { own with registers, stack := Function.update own.stack coroutine stack } := by
  refine ⟨rfl, represents.contextMain, represents.running, represents.status, represents.context,
    fun other waits => ?_, fun other others => ?_⟩
  · have apart : other ≠ coroutine := fun same => waits (same ▸ runs)
    simp only [Function.update_of_ne apart]
    exact represents.saved other waits
  · cases runs.symm.trans others
    simp only [Function.update_self]

theorem CoroutineThread.simulates (layout : StackLayout Registers) :
    Lib.Simulates (CoroutineThread.step layout) (PrivateThread.step layout)
      (CoroutineThread.privateEvent layout) fun thread own => thread.Sound layout ∧ thread.Represents own := by
  intro thread event next own ⟨sound, represents⟩ stepped
  have soundNext := sound.step stepped
  suffices matched : ∃ ownNext, own.step layout (event, thread.unused layout event) = some ownNext ∧
      next.Represents ownNext by
    obtain ⟨ownNext, ownStepped, representsNext⟩ := matched
    refine ⟨ownNext, ?_, soundNext, representsNext⟩
    exact Lib.run_cons.2 ⟨ownNext, ownStepped, rfl⟩
  unfold CoroutineThread.step at stepped
  unfold PrivateThread.step
  have running := represents.running
  cases event with
  | work registers stack =>
    dsimp only at stepped ⊢
    cases runs : thread.running with
    | none =>
      rw [runs] at running stepped
      rw [running]
      rw [← Option.some.inj stepped]
      refine ⟨_, rfl, rfl, represents.contextMain, rfl, represents.status, represents.context,
        fun other waits => represents.saved other (runs ▸ waits), fun _ others => ?_⟩
      cases others
    | some coroutine =>
      rw [runs] at running stepped
      rw [running]
      obtain ⟨-, stepped⟩ := Option.ite_none_right_eq_some.1 stepped
      rw [← Option.some.inj stepped]
      have works := represents.work runs registers stack
      rw [running, runs] at works
      exact ⟨_, rfl, works⟩
  | dispatch coroutine getcontext =>
    dsimp only at stepped ⊢
    cases runs : thread.running with
    | none =>
      rw [runs] at running stepped
      rw [running]
      exact represents.dispatch runs stepped (dispatch_some sound runs stepped)
    | some other =>
      rw [runs] at stepped
      cases stepped
  | swapOut finished size memory =>
    dsimp only at stepped ⊢
    cases runs : thread.running with
    | none =>
      rw [runs] at stepped
      cases stepped
    | some coroutine =>
      rw [runs] at running stepped
      rw [running]
      obtain ⟨-, stepped⟩ := Option.ite_none_right_eq_some.1 stepped
      obtain ⟨saved, swapsOut⟩ := swapOut_some (sound.inBlock coroutine) stepped
      exact ⟨_, rfl, represents.swapOut runs swapsOut⟩
  | reset coroutine =>
    cases stepped
    exact ⟨_, rfl, represents.reset coroutine⟩

/-! ## Runs of a thread -/

theorem CoroutineThread.fresh_sound (layout : StackLayout Registers) (sharedStack : Bytes)
    (registers contextMain : Registers) : (fresh sharedStack registers contextMain).Sound layout :=
  ⟨fun _ => ⟨rfl, le_rfl⟩, fun _ => Nat.zero_le _, fun _ saved => absurd rfl saved, fun _ begun => absurd rfl begun,
    (fun _ running => by cases running), (fun _ suspended => by cases suspended)⟩

theorem CoroutineThread.fresh_represents (sharedStack : Bytes) (registers contextMain : Registers) :
    (fresh sharedStack registers contextMain).Represents { registers, contextMain } :=
  ⟨rfl, rfl, rfl, fun _ => rfl, fun _ => rfl, fun _ _ => rfl, fun _ running => by cases running⟩

theorem CoroutineThread.runLabels_events (layout : StackLayout Registers) {events : List (CoroutineEvent Registers)}
    {start final : CoroutineThread Registers} (ran : events.foldlM (step layout) start = some final) :
    (Lib.runLabels (step layout) (privateEvent layout) start events).map Prod.fst = events := by
  induction events generalizing start with
  | nil => rfl
  | cons event rest ih =>
    obtain ⟨next, stepped, ran⟩ := Lib.run_cons.1 ran
    rw [Lib.runLabels_cons stepped, List.map_append, ih ran]
    rfl

/-- A run of coroutines on one stack is a run of the same events on stacks of their own: the
    coroutine that runs finds its stack on the shared one, and the others have theirs saved. -/
theorem stacks_private {layout : StackLayout Registers} {sharedStack : Bytes} {registers contextMain : Registers}
    {events : List (CoroutineEvent Registers)} {final : CoroutineThread Registers}
    (ran : events.foldlM (CoroutineThread.step layout) (.fresh sharedStack registers contextMain) = some final) :
    ∃ (own : PrivateThread Registers) (privateEvents : List (PrivateEvent Registers)),
      privateEvents.map Prod.fst = events ∧
      privateEvents.foldlM (PrivateThread.step layout) { registers, contextMain } = some own ∧
      final.Represents own := by
  obtain ⟨own, matched, -, represents⟩ := (CoroutineThread.simulates layout).run
    ⟨CoroutineThread.fresh_sound layout sharedStack registers contextMain,
      CoroutineThread.fresh_represents sharedStack registers contextMain⟩ ran
  exact ⟨own, _, CoroutineThread.runLabels_events layout ran, matched, represents⟩

/-- A small stack, with an entry frame of one byte. -/
def smallLayout : StackLayout Nat := { entry := (· + 100), frame := [9] }

/-- One coroutine uses three bytes of the stack and another one four. -/
def twoCoroutines : List (CoroutineEvent Nat) := [
  .dispatch 1 true, .work 11 [0, 1, 2, 9], .swapOut false 3 (some []),
  .dispatch 2 true, .work 22 [7, 7, 7, 9], .swapOut false 4 (some []), .dispatch 1 true]

theorem stacks_private_two : ∃ final own,
    twoCoroutines.foldlM (CoroutineThread.step smallLayout) (.fresh [0, 0, 0, 0] 5 6) = some final ∧
      final.sharedStack = [7, 1, 2, 9] ∧ final.Represents own := by
  have ran : (twoCoroutines.foldlM (CoroutineThread.step smallLayout) (.fresh [0, 0, 0, 0] 5 6)).map
      (·.sharedStack) = some [7, 1, 2, 9] := by
    decide
  obtain ⟨final, ran, stack⟩ := Option.map_eq_some_iff.1 ran
  obtain ⟨own, -, -, -, represents⟩ := stacks_private ran
  exact ⟨final, own, ran, stack, represents⟩

/-- The event is not about the coroutine. -/
def CoroutineEvent.Spares (coroutine : Nat) : CoroutineEvent Registers → Prop
  | .dispatch other _ | .reset other => other ≠ coroutine
  | .work _ _ | .swapOut _ _ _ => True

/-- A coroutine that waits is left alone by what the others do. -/
theorem CoroutineThread.step_spares {event : CoroutineEvent Registers} (sound : thread.Sound layout)
    (waits : thread.running ≠ some coroutine) (spares : event.Spares coroutine)
    (stepped : thread.step layout event = some next) :
    next.coroutines coroutine = thread.coroutines coroutine ∧ next.running ≠ some coroutine ∧
      next.sharedStack.length = thread.sharedStack.length := by
  unfold step at stepped
  cases event with
  | work registers stack =>
    dsimp only at stepped
    split at stepped
    · cases stepped
      exact ⟨rfl, waits, rfl⟩
    · obtain ⟨⟨length, -⟩, stepped⟩ := Option.ite_none_right_eq_some.1 stepped
      cases stepped
      exact ⟨rfl, waits, length⟩
  | dispatch other getcontext =>
    dsimp only at stepped
    split at stepped
    · rename_i idle
      have dispatches := dispatch_some sound idle stepped
      refine ⟨?_, ?_, dispatches.length⟩
      · rw [dispatches.coroutines, Function.update_of_ne (Ne.symm spares)]
      · rw [dispatches.running]
        exact fun same => spares (Option.some.inj same)
    · cases stepped
  | swapOut finished size memory =>
    dsimp only at stepped
    split at stepped
    · cases stepped
    · rename_i other runs
      obtain ⟨-, stepped⟩ := Option.ite_none_right_eq_some.1 stepped
      obtain ⟨saved, -, -, -, -, rfl⟩ := swapOut_some (sound.inBlock other) stepped
      have apart : coroutine ≠ other := fun same => waits (same ▸ runs)
      exact ⟨Function.update_of_ne apart _ _, (Option.some_ne_none _).symm, rfl⟩
  | reset other =>
    cases stepped
    exact ⟨Function.update_of_ne (Ne.symm spares) _ _, waits, rfl⟩

theorem CoroutineThread.run_spares {events : List (CoroutineEvent Registers)} (sound : thread.Sound layout)
    (waits : thread.running ≠ some coroutine) (spares : ∀ event ∈ events, event.Spares coroutine)
    (ran : events.foldlM (step layout) thread = some next) :
    next.coroutines coroutine = thread.coroutines coroutine ∧
      next.sharedStack.length = thread.sharedStack.length := by
  induction events generalizing thread with
  | nil =>
    cases ran
    exact ⟨rfl, rfl⟩
  | cons event rest ih =>
    obtain ⟨middle, stepped, ran⟩ := Lib.run_cons.1 ran
    obtain ⟨same, waits, length⟩ := step_spares sound waits (spares event List.mem_cons_self) stepped
    obtain ⟨kept, lengthKept⟩ := ih (sound.step stepped) waits
      (fun event mem => spares event (List.mem_cons_of_mem _ mem)) ran
    exact ⟨kept.trans same, lengthKept.trans length⟩

/-- A coroutine that is suspended and dispatched again finds its registers and its part of the
    stack as they were, whatever the others did in between. -/
theorem coroutine_continues {layout : StackLayout Registers} {sharedStack : Bytes}
    {registers contextMain : Registers} {earlier meanwhile : List (CoroutineEvent Registers)}
    {before out middle after : CoroutineThread Registers} {coroutine size : Nat} {memory : Option Bytes}
    {getcontext : Bool}
    (ran : earlier.foldlM (CoroutineThread.step layout) (.fresh sharedStack registers contextMain) = some before)
    (runs : before.running = some coroutine)
    (handles : (before.coroutines coroutine).coroutineStatus = .suspend)
    (yields : before.step layout (.swapOut false size memory) = some out)
    (spares : ∀ event ∈ meanwhile, event.Spares coroutine)
    (others : meanwhile.foldlM (CoroutineThread.step layout) out = some middle)
    (dispatched : middle.step layout (.dispatch coroutine getcontext) = some after) :
    after.registers = before.registers ∧ after.running = some coroutine ∧
      stackTop after.sharedStack size = stackTop before.sharedStack size := by
  have soundBefore : before.Sound layout :=
    Lib.run_keeps _ (·.Sound layout) (fun _ _ _ sound => sound.step)
      (CoroutineThread.fresh_sound layout sharedStack registers contextMain) ran
  have soundOut := soundBefore.step yields
  have soundMiddle : middle.Sound layout :=
    Lib.run_keeps _ (·.Sound layout) (fun _ _ _ sound => sound.step) soundOut others
  unfold CoroutineThread.step at yields
  dsimp only at yields
  rw [runs] at yields
  obtain ⟨-, yields⟩ := Option.ite_none_right_eq_some.1 yields
  obtain ⟨saved, fits, inBlock, copy, status, rfl⟩ := CoroutineThread.swapOut_some (soundBefore.inBlock coroutine) yields
  obtain ⟨same, length⟩ := CoroutineThread.run_spares soundOut (Option.some_ne_none coroutine).symm spares others
  simp only [Function.update_self] at same
  unfold CoroutineThread.step at dispatched
  dsimp only at dispatched
  split at dispatched
  · rename_i idle
    have dispatches := CoroutineThread.dispatch_some soundMiddle idle dispatched
    have goesOn : ¬middle.Begins coroutine getcontext := by
      rintro ⟨ready, -⟩
      rw [same] at ready
      cases (status.trans handles).symm.trans ready
    obtain ⟨context, suffix⟩ := dispatches.goesOn goesOn
    rw [same] at context suffix
    refine ⟨(Option.some.inj context).symm, dispatches.running, ?_⟩
    have onTop : stackTop before.sharedStack size <:+ after.sharedStack := copy ▸ suffix
    have found := stackTop_of_suffix onTop
    rwa [stackTop_length fits] at found
  · cases dispatched

theorem coroutine_continues_two : ∃ before after : CoroutineThread Nat,
    after.registers = before.registers ∧ after.running = some 1 ∧
      stackTop after.sharedStack 3 = stackTop before.sharedStack 3 := by
  have first : ((twoCoroutines.take 2).foldlM (CoroutineThread.step smallLayout) (.fresh [0, 0, 0, 0] 5 6)).map
      (fun before => (before.running, (before.coroutines 1).coroutineStatus)) = some (some 1, .suspend) := by
    decide
  obtain ⟨before, ran, stands⟩ := Option.map_eq_some_iff.1 first
  have whole : (twoCoroutines.foldlM (CoroutineThread.step smallLayout) (.fresh [0, 0, 0, 0] 5 6)).isSome := by
    decide
  obtain ⟨after, whole⟩ := Option.isSome_iff_exists.1 whole
  have parts : twoCoroutines = twoCoroutines.take 2 ++ twoCoroutines.drop 2 := rfl
  rw [parts, List.foldlM_append, ran] at whole
  obtain ⟨out, yields, whole⟩ := Lib.run_cons.1 whole
  obtain ⟨middle, others, dispatched⟩ := (@Lib.run_concat _ _ _ _ ((twoCoroutines.drop 3).take 3) _ _).1 whole
  exact ⟨before, after, coroutine_continues ran (congrArg Prod.fst stands) (congrArg Prod.snd stands) yields
    (by simp [twoCoroutines, CoroutineEvent.Spares]) others dispatched⟩

/-! ## The copies stay in their blocks -/

theorem CoroutineThread.step_length {event : CoroutineEvent Registers} (sound : thread.Sound layout)
    (stepped : thread.step layout event = some next) :
    next.sharedStack.length = thread.sharedStack.length := by
  unfold step at stepped
  cases event with
  | work registers stack =>
    dsimp only at stepped
    split at stepped
    · cases stepped
      rfl
    · obtain ⟨⟨length, -⟩, stepped⟩ := Option.ite_none_right_eq_some.1 stepped
      cases stepped
      exact length
  | dispatch other getcontext =>
    dsimp only at stepped
    split at stepped
    · rename_i idle
      exact (dispatch_some sound idle stepped).length
    · cases stepped
  | swapOut finished size memory =>
    dsimp only at stepped
    split at stepped
    · cases stepped
    · rename_i other runs
      obtain ⟨-, stepped⟩ := Option.ite_none_right_eq_some.1 stepped
      obtain ⟨saved, -, -, -, -, rfl⟩ := swapOut_some (sound.inBlock other) stepped
      rfl
  | reset other =>
    cases stepped
    rfl

theorem CoroutineThread.swapIn_isSome (inBlock : (thread.coroutines coroutine).InBlock)
    (fits : (thread.coroutines coroutine).interStackSize ≤ thread.sharedStack.length)
    (begun : (thread.coroutines coroutine).context ≠ none) : (thread.swapIn coroutine).isSome := by
  obtain ⟨context, was⟩ := Option.ne_none_iff_exists'.1 begun
  have room : (thread.coroutines coroutine).saved.length ≤ thread.sharedStack.length :=
    inBlock.saved_length.trans_le fits
  unfold swapIn
  rw [was, Option.bind_some, inBlock.read, Option.bind_some, copyTop_eq_some.2 ⟨room, rfl⟩]
  rfl

/-- A coroutine can be dispatched unless it is dispatched first and `getcontext` fails. -/
theorem CoroutineThread.Sound.dispatch_isSome {getcontext : Bool} (sound : thread.Sound layout)
    (room : layout.frame.length ≤ thread.sharedStack.length)
    (entered : getcontext = false → (thread.coroutines coroutine).context ≠ none) :
    (thread.dispatch layout coroutine getcontext).isSome := by
  have inBlock := sound.inBlock coroutine
  have fits := sound.fits coroutine
  unfold CoroutineThread.dispatch
  cases statusOf : (thread.coroutines coroutine).coroutineStatus with
  | suspend => exact swapIn_isSome inBlock fits (sound.suspended coroutine statusOf)
  | ready =>
    cases getcontext with
    | false =>
      refine swapIn_isSome ?_ ?_ ?_
      all_goals simp only [update, Function.update_self]
      · exact ⟨inBlock.block, inBlock.size⟩
      · exact fits
      · exact entered rfl
    | true =>
      have made := copyTop_eq_some.2 ⟨room, rfl⟩
      simp only [initCoroutine, if_true, update, made, Option.map_some, Option.bind_some]
      refine swapIn_isSome ?_ ?_ ?_
      all_goals simp only [Function.update_self]
      · exact ⟨inBlock.block, inBlock.size⟩
      · exact fits.trans_eq (copyTop_length made).symm
      · exact Option.some_ne_none _

theorem CoroutineThread.Sound.swapOut_isSome {finished : Bool} {size : Nat} (sound : thread.Sound layout)
    (fits : size ≤ thread.sharedStack.length) (fresh : Bytes) :
    ((thread.finish coroutine finished).swapOut coroutine size (some fresh)).isSome := by
  have inBlock := sound.inBlock coroutine
  have unchanged : ((thread.finish coroutine finished).coroutines coroutine).InBlock ∧
      (thread.finish coroutine finished).sharedStack = thread.sharedStack := by
    cases finished with
    | false => exact ⟨inBlock, rfl⟩
    | true =>
      simp only [finish, if_true, update, Function.update_self, and_true]
      exact ⟨inBlock.block, inBlock.size⟩
  obtain ⟨saved, saves⟩ := Option.isSome_iff_exists.1
    (CoCoroutine.save_isSome unchanged.1 (stackTop thread.sharedStack size) fresh)
  unfold CoroutineThread.swapOut
  rw [unchanged.2, if_pos fits, saves]
  rfl

/-- No copy of `swap_in` or `swap_out` leaves its blocks, and the assertion of `swap_out` holds
    while the stack has not overflowed. -/
theorem swaps_defined {layout : StackLayout Registers} {sharedStack : Bytes} {registers contextMain : Registers}
    {events : List (CoroutineEvent Registers)} {final : CoroutineThread Registers}
    (room : layout.frame.length ≤ sharedStack.length)
    (ran : events.foldlM (CoroutineThread.step layout) (.fresh sharedStack registers contextMain) = some final) :
    (final.running = none → ∀ coroutine getcontext,
      (getcontext = false → (final.coroutines coroutine).context ≠ none) →
        (final.step layout (.dispatch coroutine getcontext)).isSome) ∧
    (∀ coroutine, final.running = some coroutine → ∀ finished size fresh,
      layout.frame.length ≤ size → size ≤ sharedStack.length →
        (final.step layout (.swapOut finished size (some fresh))).isSome) := by
  obtain ⟨sound, length⟩ : final.Sound layout ∧ final.sharedStack.length = sharedStack.length :=
    Lib.run_keeps _ (fun thread => thread.Sound layout ∧ thread.sharedStack.length = sharedStack.length)
      (fun _ _ _ ⟨sound, length⟩ stepped => ⟨sound.step stepped, (CoroutineThread.step_length sound stepped).trans length⟩)
      ⟨CoroutineThread.fresh_sound layout sharedStack registers contextMain, rfl⟩ ran
  refine ⟨fun idle coroutine getcontext entered => ?_, fun coroutine runs finished size fresh more fits => ?_⟩
  · unfold CoroutineThread.step
    dsimp only
    rw [idle]
    exact sound.dispatch_isSome (room.trans_eq length.symm) entered
  · unfold CoroutineThread.step
    dsimp only
    rw [runs]
    dsimp only
    rw [if_pos more]
    exact sound.swapOut_isSome (fits.trans_eq length.symm) fresh

theorem swaps_defined_two : ∃ final : CoroutineThread Nat, final.running = some 1 ∧
    (final.step smallLayout (.swapOut true 2 (some []))).isSome := by
  have ran : (twoCoroutines.foldlM (CoroutineThread.step smallLayout) (.fresh [0, 0, 0, 0] 5 6)).map
      (·.running) = some (some 1) := by
    decide
  obtain ⟨final, ran, runs⟩ := Option.map_eq_some_iff.1 ran
  exact ⟨final, runs, (swaps_defined (by decide) ran).2 1 runs true 2 [] (by decide) (by decide)⟩

end

end CoServer
