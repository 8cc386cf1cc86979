import CoServer.Core.Connection
import CoServer.Lib.Simulation
import Mathlib.Logic.Function.Basic
import Mathlib.Data.List.Infix

/-! # `CoCoroutineMain`: coroutines that share one stack

A coroutine runs on the one stack of its thread.  `swap_out` copies what it uses
of the stack to a block of the coroutine, and `swap_in` copies it back.

Addresses grow upwards and a stack grows downwards, so a stack is a list of bytes
whose last one is used first.  What is below the variable `dummy` of `swap_out`
is not used any more when the coroutine goes on. -/

namespace CoServer

/-- What `makecontext` sets up for a coroutine: the registers to begin with, and the bytes at the
    top of the stack.  The bytes depend on the stack alone, which is the same for all coroutines. -/
structure StackLayout (Registers : Type) where
  entry : Nat → Registers
  frame : Bytes

structure CoCoroutine (Registers : Type) where
  coroutineStatus : CoroutineStatus := .ready
  /-- the registers in `m_context` -/
  context : Option Registers := none
  interStack : Bytes := []
  interStackCap : Nat := 0
  interStackSize : Nat := 0

/-- A thread with its coroutines. -/
structure CoroutineThread (Registers : Type) where
  sharedStack : Bytes
  /-- the registers of whatever runs -/
  registers : Registers
  contextMain : Registers
  coroutines : Nat → CoCoroutine Registers := fun _ => {}
  running : Option Nat := none

inductive CoroutineEvent (Registers : Type) where
  /-- whatever runs goes on -/
  | work (registers : Registers) (stack : Bytes)
  /-- `func_dispatcher` gets to the coroutine; whether `getcontext` succeeds, if it is called -/
  | dispatch (coroutine : Nat) (getcontext : Bool)
  /-- `swap_out`, perhaps at the end of `func_proc_coroutine`; the new bytes of `realloc`, if it is called -/
  | swapOut (finished : Bool) (currentStackSize : Nat) (memory : Option Bytes)
  | reset (coroutine : Nat)

variable {Registers : Type}

/-- The last `size` bytes. -/
def stackTop (stack : Bytes) (size : Nat) : Bytes := stack.drop (stack.length - size)

/-- `memcpy` from the start of a block. -/
def readBlock (block : Bytes) (size : Nat) : Option Bytes :=
  if size ≤ block.length then some (block.take size) else none

/-- `memcpy` to the top of a stack. -/
def copyTop (stack bytes : Bytes) : Option Bytes :=
  if bytes.length ≤ stack.length then memcpyBlock stack (stack.length - bytes.length) bytes else none

namespace CoCoroutine

def reset (self : CoCoroutine Registers) : CoCoroutine Registers :=
  { self with coroutineStatus := .ready }

/-- The block of `m_interStack` has room for `size` bytes. -/
def reserve (self : CoCoroutine Registers) (size : Nat) (memory : Option Bytes) :
    Option (CoCoroutine Registers) :=
  if self.interStackCap < size then
    memory.map fun fresh =>
      { self with interStack := reallocBlock self.interStack size fresh, interStackCap := size }
  else some self

/-- The used part of the stack is saved. -/
def save (self : CoCoroutine Registers) (used : Bytes) (memory : Option Bytes) :
    Option (CoCoroutine Registers) :=
  (self.reserve used.length memory).bind fun reserved =>
    (memcpyBlock reserved.interStack 0 used).map fun interStack =>
      { reserved with interStack, interStackSize := used.length }

end CoCoroutine

namespace CoroutineThread

def update (self : CoroutineThread Registers) (coroutine : Nat)
    (f : CoCoroutine Registers → CoCoroutine Registers) : CoroutineThread Registers :=
  { self with coroutines := Function.update self.coroutines coroutine (f (self.coroutines coroutine)) }

/-- `init_coroutine`; its return value is not looked at. -/
def initCoroutine (layout : StackLayout Registers) (self : CoroutineThread Registers) (coroutine : Nat)
    (getcontext : Bool) : Option (CoroutineThread Registers) :=
  if getcontext then
    (copyTop self.sharedStack layout.frame).map fun sharedStack =>
      { self.update coroutine ({ · with context := some (layout.entry coroutine) }) with sharedStack }
  else some self

/-- `swap_in` -/
def swapIn (self : CoroutineThread Registers) (coroutine : Nat) : Option (CoroutineThread Registers) :=
  (self.coroutines coroutine).context.bind fun context =>
    (readBlock (self.coroutines coroutine).interStack (self.coroutines coroutine).interStackSize).bind fun saved =>
      (copyTop self.sharedStack saved).map fun sharedStack =>
        { self with sharedStack, contextMain := self.registers, registers := context, running := some coroutine }

/-- The switch of `func_dispatcher`. -/
def dispatch (layout : StackLayout Registers) (self : CoroutineThread Registers) (coroutine : Nat)
    (getcontext : Bool) : Option (CoroutineThread Registers) :=
  match (self.coroutines coroutine).coroutineStatus with
  | .ready =>
    ((self.update coroutine ({ · with coroutineStatus := .suspend })).initCoroutine layout coroutine
      getcontext).bind (·.swapIn coroutine)
  | .suspend => self.swapIn coroutine

/-- `swap_out`, with its assertion. -/
def swapOut (self : CoroutineThread Registers) (coroutine : Nat) (currentStackSize : Nat)
    (memory : Option Bytes) : Option (CoroutineThread Registers) :=
  if currentStackSize ≤ self.sharedStack.length then
    ((self.coroutines coroutine).save (stackTop self.sharedStack currentStackSize) memory).map fun saved =>
      { self.update coroutine (fun _ => { saved with context := some self.registers }) with
        registers := self.contextMain, running := none }
  else none

/-- `func_proc_coroutine` is done with its handler. -/
def finish (self : CoroutineThread Registers) (coroutine : Nat) (finished : Bool) : CoroutineThread Registers :=
  if finished then self.update coroutine ({ · with coroutineStatus := .ready }) else self

/-- A coroutine leaves the frame below its first function alone, and `swap_out` is called from there. -/
def step (layout : StackLayout Registers) (self : CoroutineThread Registers) :
    CoroutineEvent Registers → Option (CoroutineThread Registers)
  | .work registers stack =>
    match self.running with
    | none => some { self with registers }
    | some _ =>
      if stack.length = self.sharedStack.length ∧ layout.frame <:+ stack then
        some { self with registers, sharedStack := stack }
      else none
  | .dispatch coroutine getcontext =>
    match self.running with
    | none => self.dispatch layout coroutine getcontext
    | some _ => none
  | .swapOut finished currentStackSize memory =>
    match self.running with
    | none => none
    | some coroutine =>
      if layout.frame.length ≤ currentStackSize then
        (self.finish coroutine finished).swapOut coroutine currentStackSize memory
      else none
  | .reset coroutine => some (self.update coroutine (·.reset))

/-- A thread that has dispatched nothing yet. -/
def fresh (sharedStack : Bytes) (registers contextMain : Registers) : CoroutineThread Registers :=
  { sharedStack, registers, contextMain }

end CoroutineThread

/-! ## Coroutines with stacks of their own -/

/-- A thread whose coroutines do not share their stacks. -/
structure PrivateThread (Registers : Type) where
  registers : Registers
  contextMain : Registers
  status : Nat → CoroutineStatus := fun _ => .ready
  context : Nat → Option Registers := fun _ => none
  /-- the whole stack of the coroutine that runs, and what the others use of theirs -/
  stack : Nat → Bytes := fun _ => []
  running : Option Nat := none

/-- An event, and what is below the used part of the stack of a coroutine that begins or goes on. -/
abbrev PrivateEvent (Registers : Type) := CoroutineEvent Registers × Bytes

namespace PrivateThread

def setStatus (self : PrivateThread Registers) (coroutine : Nat) (status : CoroutineStatus) :
    PrivateThread Registers :=
  { self with status := Function.update self.status coroutine status }

/-- The coroutine begins at the entry. -/
def begin (layout : StackLayout Registers) (self : PrivateThread Registers) (coroutine : Nat) :
    PrivateThread Registers :=
  { self with
    context := Function.update self.context coroutine (some (layout.entry coroutine))
    stack := Function.update self.stack coroutine layout.frame }

/-- The coroutine goes on where it was. -/
def resume (self : PrivateThread Registers) (coroutine : Nat) (unused : Bytes) :
    Option (PrivateThread Registers) :=
  (self.context coroutine).map fun context =>
    { self with
      registers := context, contextMain := self.registers, running := some coroutine
      stack := Function.update self.stack coroutine (unused ++ self.stack coroutine) }

def dispatch (layout : StackLayout Registers) (self : PrivateThread Registers) (coroutine : Nat)
    (getcontext : Bool) (unused : Bytes) : Option (PrivateThread Registers) :=
  match self.status coroutine with
  | .ready =>
    let started := self.setStatus coroutine .suspend
    (if getcontext then started.begin layout coroutine else started).resume coroutine unused
  | .suspend => self.resume coroutine unused

/-- The coroutine that runs stops, with `size` bytes of its stack in use. -/
def suspend (self : PrivateThread Registers) (coroutine : Nat) (size : Nat) : PrivateThread Registers :=
  { self with
    context := Function.update self.context coroutine (some self.registers)
    stack := Function.update self.stack coroutine (stackTop (self.stack coroutine) size)
    registers := self.contextMain, running := none }

def step (layout : StackLayout Registers) (self : PrivateThread Registers) :
    PrivateEvent Registers → Option (PrivateThread Registers)
  | (.work registers stack, _) =>
    match self.running with
    | none => some { self with registers }
    | some coroutine =>
      some { self with registers, stack := Function.update self.stack coroutine stack }
  | (.dispatch coroutine getcontext, unused) =>
    match self.running with
    | none => self.dispatch layout coroutine getcontext unused
    | some _ => none
  | (.swapOut finished currentStackSize _, _) =>
    match self.running with
    | none => none
    | some coroutine =>
      some ((if finished then self.setStatus coroutine .ready else self).suspend coroutine currentStackSize)
  | (.reset coroutine, _) => some (self.setStatus coroutine .ready)

end PrivateThread

end CoServer
