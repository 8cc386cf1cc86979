import CoServer.Base.Common
import Mathlib.Data.Finset.Basic

/-! # Sockets: the kernel's table of descriptors and `CoTCP`

The kernel is modelled as far as the server depends on it: the descriptors that
are open and what each of them is registered for in the epoll instance.  Results
of system calls that the kernel is free to choose are parameters. -/

namespace CoServer

/-! ## The kernel -/

/-- The bits of an `epoll_event` that the server uses. -/
structure EpollEvents where
  epollin : Bool := false
  epollout : Bool := false
  epollrdhup : Bool := false
  epollerr : Bool := false
  epollhup : Bool := false
deriving DecidableEq

namespace EpollEvents

/-- `a | b` -/
def union (a b : EpollEvents) : EpollEvents :=
  { epollin := a.epollin || b.epollin, epollout := a.epollout || b.epollout
    epollrdhup := a.epollrdhup || b.epollrdhup, epollerr := a.epollerr || b.epollerr
    epollhup := a.epollhup || b.epollhup }

/-- `a & b` -/
def inter (a b : EpollEvents) : EpollEvents :=
  { epollin := a.epollin && b.epollin, epollout := a.epollout && b.epollout
    epollrdhup := a.epollrdhup && b.epollrdhup, epollerr := a.epollerr && b.epollerr
    epollhup := a.epollhup && b.epollhup }

/-- `a & ~b` -/
def diff (a b : EpollEvents) : EpollEvents :=
  { epollin := a.epollin && !b.epollin, epollout := a.epollout && !b.epollout
    epollrdhup := a.epollrdhup && !b.epollrdhup, epollerr := a.epollerr && !b.epollerr
    epollhup := a.epollhup && !b.epollhup }

/-- `(a & b) != 0` -/
def meets (a b : EpollEvents) : Bool :=
  (a.epollin && b.epollin) || (a.epollout && b.epollout) || (a.epollrdhup && b.epollrdhup) ||
    (a.epollerr && b.epollerr) || (a.epollhup && b.epollhup)

/-- No bit is set: the value `0`. -/
def zero : EpollEvents := {}

end EpollEvents

def coEventIn : EpollEvents := { epollin := true }
def coEventOut : EpollEvents := { epollout := true }
def coEventRead : EpollEvents := { epollin := true, epollrdhup := true }
def coEventWrite : EpollEvents := { epollout := true, epollrdhup := true }

/-- What a descriptor is registered for, with the two halves of `data.u64`. -/
structure Registration where
  events : EpollEvents
  connId : Nat
  version : Nat
deriving DecidableEq

structure Kernel where
  descriptors : Finset Int := ∅
  interest : Int → Option Registration := fun _ => none

/-- A system call handed out the descriptor `fd`. -/
def Kernel.open (kernel : Kernel) (fd : Int) : Kernel :=
  { kernel with descriptors := insert fd kernel.descriptors }

/-- `close` also ends the registration of the descriptor. -/
def Kernel.close (kernel : Kernel) (fd : Int) : Kernel :=
  { descriptors := kernel.descriptors.erase fd
    interest := Function.update kernel.interest fd none }

/-! ## `CoTCP` -/

structure CoTCP where
  ip : Bytes := []
  port : Nat := 0
  socketfd : Int := -1
  sndTimeoutMs : Int := 0
  rcvTimeoutMs : Int := 0
  connectState : Bool := false

/-- What the system calls of one `get_connection` return. -/
structure OpenCalls where
  socket : Int
  setSndTimeout : Int := 0
  setRcvTimeout : Int := 0
  /-- the address that `getpeername` reports, if it does -/
  getpeername : Option (Bytes × Nat) := none
  ioctl : Int := 0
  setReuseAddr : Int := 0
  setReusePort : Int := 0
  bind : Int := 0
  listen : Int := 0

namespace CoTCP

/-- The object after `reset`; the descriptor is forgotten, not closed. -/
def reset (_ : CoTCP) : CoTCP := {}

/-- `tcp_close`: `SAFE_CLOSE` closes positive descriptors only. -/
def tcpClose (self : CoTCP) (kernel : Kernel) : CoTCP × Kernel :=
  if self.socketfd > 0 then
    ({ self with socketfd := -1, connectState := false }, kernel.close self.socketfd)
  else ({ self with connectState := false }, kernel)

/-- `set_sndtimeout_ms` and `set_rcvtimeout_ms`, whose `setsockopt` returns `ret`. -/
def setTimeoutMs (ret : Int) : Int := if ret = coError then coError else coOk

def initIpport (self : CoTCP) (kernel : Kernel) (calls : OpenCalls) (ip : Bytes) (port : Nat) :
    Int × CoTCP × Kernel :=
  let self := { self with ip, port }
  if self.socketfd > 0 then (coOk, self, kernel)
  else if calls.socket = -1 then (coError, { self with socketfd := -1 }, kernel)
  else
    let self := { self with socketfd := calls.socket }
    let kernel := kernel.open calls.socket
    -- `!set_sndtimeout_ms(..)` holds when the call succeeded
    if self.sndTimeoutMs > 0 ∧ setTimeoutMs calls.setSndTimeout = coOk then (coError, self, kernel)
    else if self.rcvTimeoutMs > 0 ∧ setTimeoutMs calls.setRcvTimeout = coOk then
      (coError, self, kernel)
    else (coOk, self, kernel)

def initClientSocketfd (self : CoTCP) (kernel : Kernel) (calls : OpenCalls) (socketFd : Int)
    (getPeerInfo : Bool := true) : Int × CoTCP × Kernel :=
  let (self, kernel) := if self.socketfd ≠ -1 then self.tcpClose kernel else (self, kernel)
  let self := { self with port := 0, ip := [], socketfd := socketFd, connectState := true }
  match getPeerInfo, calls.getpeername with
  | true, some (ip, port) => (coOk, { self with ip, port }, kernel)
  | _, _ => (coOk, self, kernel)

def setNonblock (calls : OpenCalls) : Int := calls.ioctl

def setReused (calls : OpenCalls) : Int :=
  if calls.setReuseAddr = coError then coError
  else if calls.setReusePort = coError then coError
  else coOk

def serverBind (self : CoTCP) (calls : OpenCalls) : Int :=
  if self.port ≤ 0 then coError
  else if calls.bind = -1 then coError
  else coOk

def serverListen (calls : OpenCalls) : Int :=
  if calls.listen < 0 then coError else coOk

end CoTCP

/-! ## What the calls do to the descriptor -/

namespace CoTCP

variable {tcp : CoTCP} {kernel : Kernel} {calls : OpenCalls}

@[simp] theorem reset_socketfd (tcp : CoTCP) : tcp.reset.socketfd = -1 := rfl

theorem tcpClose_socketfd (tcp : CoTCP) (kernel : Kernel) :
    (tcp.tcpClose kernel).1.socketfd = if tcp.socketfd > 0 then -1 else tcp.socketfd := by
  unfold tcpClose
  split <;> rfl

theorem tcpClose_descriptors (tcp : CoTCP) (kernel : Kernel) :
    (tcp.tcpClose kernel).2.descriptors =
      if tcp.socketfd > 0 then kernel.descriptors.erase tcp.socketfd else kernel.descriptors := by
  unfold tcpClose
  split <;> rfl

/-- `init_ipport` keeps a descriptor that is already there, and otherwise holds
    what `socket` returned. -/
theorem initIpport_cases (tcp : CoTCP) (kernel : Kernel) (calls : OpenCalls) (ip : Bytes)
    (port : Nat) :
    (tcp.socketfd > 0 ∧ (tcp.initIpport kernel calls ip port).2.1.socketfd = tcp.socketfd ∧
      (tcp.initIpport kernel calls ip port).2.2 = kernel) ∨
    (¬ tcp.socketfd > 0 ∧ calls.socket = -1 ∧ (tcp.initIpport kernel calls ip port).1 = coError ∧
      (tcp.initIpport kernel calls ip port).2.1.socketfd = -1 ∧
      (tcp.initIpport kernel calls ip port).2.2 = kernel) ∨
    (¬ tcp.socketfd > 0 ∧ calls.socket ≠ -1 ∧
      (tcp.initIpport kernel calls ip port).2.1.socketfd = calls.socket ∧
      (tcp.initIpport kernel calls ip port).2.2 = kernel.open calls.socket) := by
  by_cases held : tcp.socketfd > 0
  · simp [initIpport, held]
  by_cases failed : calls.socket = -1
  · simp [initIpport, held, failed]
  · refine .inr (.inr ⟨held, failed, ?_⟩)
    simp only [initIpport, held, failed, if_false]
    split
    · exact ⟨rfl, rfl⟩
    · split <;> exact ⟨rfl, rfl⟩

theorem initClientSocketfd_socketfd (tcp : CoTCP) (kernel : Kernel) (calls : OpenCalls)
    (socketFd : Int) (getPeerInfo : Bool) :
    (tcp.initClientSocketfd kernel calls socketFd getPeerInfo).2.1.socketfd = socketFd := by
  unfold initClientSocketfd
  dsimp only
  split <;> rfl

theorem initClientSocketfd_descriptors (tcp : CoTCP) (kernel : Kernel) (calls : OpenCalls)
    (socketFd : Int) (getPeerInfo : Bool) :
    (tcp.initClientSocketfd kernel calls socketFd getPeerInfo).2.2.descriptors =
      if tcp.socketfd > 0 then kernel.descriptors.erase tcp.socketfd else kernel.descriptors := by
  have closed : (if tcp.socketfd ≠ -1 then tcp.tcpClose kernel else (tcp, kernel)).2.descriptors =
      if tcp.socketfd > 0 then kernel.descriptors.erase tcp.socketfd else kernel.descriptors := by
    by_cases unset : tcp.socketfd = -1
    · simp [unset]
    · simp [unset, tcpClose_descriptors]
  unfold initClientSocketfd
  dsimp only
  split <;> exact closed

/-- Without a descriptor of its own there is nothing to close. -/
theorem initClientSocketfd_unset {tcp : CoTCP} (kernel : Kernel) (calls : OpenCalls) (socketFd : Int)
    (getPeerInfo : Bool) (unset : tcp.socketfd = -1) :
    (tcp.initClientSocketfd kernel calls socketFd getPeerInfo).2.2 = kernel := by
  unfold initClientSocketfd
  rw [if_neg (not_not.2 unset)]
  dsimp only
  split <;> rfl

end CoTCP

end CoServer
