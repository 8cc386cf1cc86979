import CoServer.Base.Common
import Mathlib.Data.List.Basic

/-! # Backends and the weighted round robin strategy

Clock readings are parameters: a function that reads the clock several times
takes the readings as a function of their number. -/

namespace CoServer

structure CoConfUpstreamServer where
  serverkey : Bytes
  weight : Int := 0
  host : Bytes := []
  port : Nat := 0

structure CoConfUpstream where
  failTimeout : Int := 5000
  failMaxnum : Int := 10

/-! ## One backend -/

structure CoBackend where
  confUpstreamServer : CoConfUpstreamServer
  confFailTime : Int := 0
  confFailNum : Int := 0
  fail : Bool := false
  failCheck : Bool := false
  errNum : Int := 0
  errFirstTimestamp : Nat := 0
  downTimestamp : Nat := 0

structure CoBackendWRR extends CoBackend where
  weight : Int := 0
  currentWeight : Int := 0
  effectiveWeight : Int := 0

def upstreamErrMaxNum : Int := 10
def upstreamErrMaxTime : Int := 5000

/-- `avaliable`: the answer, and the backend it may have brought back up. -/
def CoBackendWRR.avaliable (self : CoBackendWRR) (timestamp : Nat) : Bool × CoBackendWRR :=
  if !self.failCheck || !self.fail then (true, self)
  else if int32 (sizeSub timestamp self.downTimestamp) ≥ self.confFailTime then
    (true, { self with fail := false, errNum := 0 })
  else (false, self)

/-- `CoBackend::comm_failed` -/
def CoBackend.commFailed (self : CoBackend) (timestamp : Nat) : CoBackend :=
  if !self.failCheck then self
  else
    let self := if int32 (sizeSub timestamp self.errFirstTimestamp) > self.confFailTime then
      { self with errFirstTimestamp := timestamp, errNum := 0 } else self
    let self := { self with errNum := int32 (self.errNum + 1) }
    if self.errNum ≥ self.confFailNum then { self with fail := true, downTimestamp := timestamp }
    else self

/-- The weight of a backend that failed once more. -/
def CoBackendWRR.lowered (self : CoBackendWRR) : Int :=
  let effectiveWeight := int32 (self.effectiveWeight - self.weight.tdiv self.confFailNum)
  if effectiveWeight < 0 then 0 else effectiveWeight

/-- `CoBackendWRR::comm_failed` -/
def CoBackendWRR.commFailed (self : CoBackendWRR) (timestamp : Nat) : CoBackendWRR :=
  if !self.failCheck then self
  else
    let self := if self.confFailNum ≠ 0 then { self with effectiveWeight := self.lowered } else self
    { self with toCoBackend := self.toCoBackend.commFailed timestamp }

theorem CoBackendWRR.commFailed_server (self : CoBackendWRR) (timestamp : Nat) :
    (self.commFailed timestamp).confUpstreamServer = self.confUpstreamServer := by
  unfold commFailed CoBackend.commFailed
  dsimp only
  repeat' split
  all_goals rfl

/-! ## The strategy -/

structure CoBackendStrategyWRR where
  totalWeight : Int := 0
  weighted : Bool := false
  curBackendsIndex : Nat := 0
  backends : List CoBackendWRR := []

namespace CoBackendStrategyWRR

/-- The backend that `add_backend` creates. -/
def newBackend (confUpstream : CoConfUpstream) (confUpstreamServer : CoConfUpstreamServer) :
    CoBackendWRR :=
  let confUpstreamServer := if confUpstreamServer.weight ≤ 0 then
      { confUpstreamServer with weight := 1 } else confUpstreamServer
  { confUpstreamServer
    failCheck := !(confUpstream.failTimeout == 0 || confUpstream.failMaxnum == 0)
    confFailTime := if confUpstream.failTimeout < 0 then upstreamErrMaxTime else confUpstream.failTimeout
    confFailNum := if confUpstream.failMaxnum < 0 then upstreamErrMaxNum else confUpstream.failMaxnum
    -- `m_weight` is never assigned and keeps its initial zero
    effectiveWeight := confUpstreamServer.weight
    currentWeight := 0 }

def addBackend (self : CoBackendStrategyWRR) (confUpstream : CoConfUpstream)
    (confUpstreamServer : CoConfUpstreamServer) : CoBackendStrategyWRR :=
  { self with backends := self.backends ++ [newBackend confUpstream confUpstreamServer] }

def init (self : CoBackendStrategyWRR) : CoBackendStrategyWRR :=
  let backendSize := int32 self.backends.length
  let backendTotalWeight := self.backends.foldl (fun total backend => int32 (total + backend.weight)) 0
  { self with
    totalWeight := backendTotalWeight
    weighted := if backendSize = 1 then false else backendTotalWeight ≠ backendSize }

/-- `choose_one`, from its `i`-th turn on; `turns` of them are left. -/
def chooseOneFrom (now : Nat → Nat) : (turns i : Nat) → CoBackendStrategyWRR →
    Option Nat × CoBackendStrategyWRR
  | 0, _, self => (none, self)
  | turns + 1, i, self =>
    let index := sizeT (self.curBackendsIndex + 1) % self.backends.length
    match self.backends[index]? with
    | none => (none, self)
    | some backend =>
      let (up, backend) := backend.avaliable (now i)
      let self := { self with curBackendsIndex := index, backends := self.backends.set index backend }
      if up then (some index, self) else chooseOneFrom now turns (i + 1) self

def chooseOne (self : CoBackendStrategyWRR) (now : Nat → Nat) : Option Nat × CoBackendStrategyWRR :=
  chooseOneFrom now self.backends.length 0 self

/-- The locals of `choose_one_weight`: the backends the loop has passed, `total`,
    and the index and `m_currentWeight` of `bestBackend`. -/
structure Selection where
  passed : List CoBackendWRR := []
  total : Int := 0
  best : Option (Nat × Int) := none

/-- One iteration of the loop of `choose_one_weight`. -/
def Selection.visit (selection : Selection) (timestamp : Nat) (backend : CoBackendWRR) : Selection :=
  let (up, backend) := backend.avaliable timestamp
  if !up then { selection with passed := selection.passed ++ [backend] }
  else
    let current := int32 (backend.currentWeight + backend.effectiveWeight)
    let effective := if backend.effectiveWeight < backend.weight then
        int32 (backend.effectiveWeight + 1) else backend.effectiveWeight
    { passed := selection.passed ++
        [{ backend with currentWeight := current, effectiveWeight := effective }]
      total := int32 (selection.total + backend.effectiveWeight)
      best := match selection.best with
        | none => some (selection.passed.length, current)
        | some (index, bestCurrent) =>
          if current > bestCurrent then some (selection.passed.length, current)
          else some (index, bestCurrent) }

def select (now : Nat → Nat) (backends : List CoBackendWRR) : Selection :=
  backends.foldl (fun selection backend => selection.visit (now selection.passed.length) backend) {}

/-- `bestBackend->m_currentWeight -= total`. -/
def payTotal (total : Int) (backend : CoBackendWRR) : CoBackendWRR :=
  { backend with currentWeight := int32 (backend.currentWeight - total) }

def chooseOneWeight (self : CoBackendStrategyWRR) (now : Nat → Nat) :
    Option Nat × CoBackendStrategyWRR :=
  let selection := select now self.backends
  match selection.best with
  | none => (none, { self with backends := selection.passed })
  | some (index, _) =>
    (some index, { self with backends := selection.passed.modify index (payTotal selection.total) })

/-- The chosen backend is given by its index in `m_backends`. -/
def getBackend (self : CoBackendStrategyWRR) (now : Nat → Nat) : Option Nat × CoBackendStrategyWRR :=
  if self.backends.isEmpty then (none, self)
  else if self.weighted then self.chooseOneWeight now
  else self.chooseOne now

end CoBackendStrategyWRR

end CoServer
