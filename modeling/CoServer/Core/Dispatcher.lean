import CoServer.Core.CallbackEvent

/-! # `CoDispatcher` and `CoEpoll::process_events`: who is dispatched

`epoll_wait` hands over an array; an entry of it names the connection and the
version that were registered, and has a read half and a write half.  Timers name
one of the three events of a connection. -/

namespace CoServer

/-- One entry of the array of `epoll_wait`. -/
structure EpollReport where
  events : EpollEvents
  connId : Nat
  version : Nat
deriving DecidableEq

/-- `revents`: an error alone is handed to both halves. -/
def EpollReport.revents (self : EpollReport) : EpollEvents :=
  if (self.events.epollerr || self.events.epollhup) &&
      !(self.events.epollin || self.events.epollout) then
    { self.events with epollin := true, epollout := true }
  else self.events

/-- `EVENT_TYPE_READ`, `EVENT_TYPE_WRITE` and `EVENT_TYPE_SLEEP` -/
inductive TimerKind where
  | read
  | write
  | sleep
deriving DecidableEq

namespace CoConnection

def timerEvent (self : CoConnection) : TimerKind → CoEvent
  | .read => self.readEvent
  | .write => self.writeEvent
  | .sleep => self.sleepEvent

/-- `add_timer` and `del_timer`; the times are not modelled. -/
def setTimer (self : CoConnection) (kind : TimerKind) (flagTimerSet : Bool) : CoConnection :=
  match kind with
  | .read => { self with readEvent := { self.readEvent with flagTimerSet } }
  | .write => { self with writeEvent := { self.writeEvent with flagTimerSet } }
  | .sleep => { self with sleepEvent := { self.sleepEvent with flagTimerSet } }

/-- What `process_timer` does to the connection of an expired event before it is
    dispatched; the pre-handler of a sleep takes the timeout back. -/
def timerExpired (self : CoConnection) (kind : TimerKind) : CoConnection :=
  match kind with
  | .read | .write => { self.setTimer kind false with flagTimedOut := true }
  | .sleep =>
    { self.setTimer kind false with flagTimedOut := false, flagThirdFuncBlocking := false }

end CoConnection

namespace CoCycle

/-- The read half of a report: the cycle in which the connection is dispatched, if it is. -/
def readHalf (self : CoCycle) (connection : Nat) (revents : EpollEvents) : Option CoCycle :=
  if (revents.epollin || revents.epollrdhup) && (self.objects connection).readEvent.flagActive then
    some (if revents.epollrdhup then
      self.modifyObject connection fun object => { object with flagPendingEof := true }
    else self)
  else none

/-- The write half dispatches the connection. -/
def writeHalf (self : CoCycle) (connection : Nat) (revents : EpollEvents) : Bool :=
  revents.epollout && (self.objects connection).writeEvent.flagActive

/-- `func_dispatcher` up to the coroutine; nothing is resumed after an exception. -/
def funcDispatcher (self : CoCycle) (connection : Nat) (timestamp : Nat) : Bool × CoCycle :=
  let (ret, self) := self.eventException connection timestamp
  (ret != coException, self)

end CoCycle

end CoServer
