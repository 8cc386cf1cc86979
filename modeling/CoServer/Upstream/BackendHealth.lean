import CoServer.Upstream.Backend
import Mathlib.Order.Basic

/-! # When a backend is down

`comm_failed` counts the failures since `m_errFirstTimestamp` and starts anew when
that moment is too long ago; `avaliable` brings a backend back after a while.  Both
compare the time that has passed as an `int32_t`.  As long as that comparison comes
out as it would on the exact difference, the failures that are counted are failures
of the last `m_confFailTime` milliseconds. -/

namespace CoServer

/-- A call on a backend, with the clock it reads. -/
inductive HealthCall where
  | commFailed (timestamp : Nat)
  | avaliable (timestamp : Nat)

def HealthCall.timestamp : HealthCall → Nat
  | commFailed timestamp | avaliable timestamp => timestamp

/-- A backend and the moments at which it failed. -/
structure Health where
  backend : CoBackendWRR
  failures : List Nat := []

namespace Health

def step (self : Health) : HealthCall → Health
  | .commFailed timestamp =>
    ⟨self.backend.commFailed timestamp, self.failures ++ [timestamp]⟩
  | .avaliable timestamp => { self with backend := (self.backend.avaliable timestamp).2 }

theorem step_avaliable (self : Health) (timestamp : Nat) : self.step (.avaliable timestamp) =
    { self with backend := (self.backend.avaliable timestamp).2 } := rfl

def run (self : Health) (calls : List HealthCall) : Health := calls.foldl step self

/-- The failures of the `m_confFailTime` milliseconds up to a moment. -/
def recent (self : Health) (timestamp : Nat) : List Nat :=
  self.failures.filter fun failure =>
    failure ≤ timestamp ∧ (timestamp : Int) - failure ≤ self.backend.confFailTime

/-- `comm_failed` marks the backend down only after enough recent failures, and
    `avaliable` answers for a backend that is down by the time that has passed. -/
def Exact (self : Health) : HealthCall → Prop
  | .commFailed timestamp =>
    (self.step (.commFailed timestamp)).backend.fail = true →
    (self.step (.commFailed timestamp)).backend.downTimestamp = timestamp →
    self.backend.confFailNum ≤ ((self.step (.commFailed timestamp)).recent timestamp).length
  | .avaliable timestamp => self.backend.fail = true →
    ((self.backend.avaliable timestamp).1 = true ↔
      self.backend.confFailTime ≤ (timestamp : Int) - self.backend.downTimestamp)

/-- The time that has passed is on the same side of `m_confFailTime` after it was
    narrowed to an `int32_t`. -/
def Agrees (self : Health) : HealthCall → Prop
  | .commFailed timestamp =>
    self.backend.confFailTime < (timestamp : Int) - self.backend.errFirstTimestamp →
    self.backend.confFailTime < int32 (sizeSub timestamp self.backend.errFirstTimestamp)
  | .avaliable timestamp => self.backend.fail = true →
    (self.backend.confFailTime ≤ (timestamp : Int) - self.backend.downTimestamp ↔
      self.backend.confFailTime ≤ int32 (sizeSub timestamp self.backend.downTimestamp))

instance (self : Health) (call : HealthCall) : Decidable (self.Agrees call) :=
  match call with
  | .commFailed _ => inferInstanceAs (Decidable (_ → _))
  | .avaliable _ => inferInstanceAs (Decidable (_ → (_ ↔ _)))

end Health

/-! ## What the calls do -/

section
variable {self : CoBackend} {timestamp : Nat}

/-- Too much time has passed since the first failure that is counted. -/
def CoBackend.Expired (self : CoBackend) (timestamp : Nat) : Prop :=
  self.confFailTime < int32 (sizeSub timestamp self.errFirstTimestamp)

/-- The end of `comm_failed`. -/
def CoBackend.marked (self : CoBackend) (timestamp : Nat) : CoBackend :=
  if self.errNum ≥ self.confFailNum then { self with fail := true, downTimestamp := timestamp } else self

theorem CoBackend.commFailed_expired (checked : self.failCheck = true) (expired : self.Expired timestamp) :
    self.commFailed timestamp =
      ({ self with errFirstTimestamp := timestamp, errNum := int32 1 } : CoBackend).marked timestamp := by
  have long : int32 (sizeSub timestamp self.errFirstTimestamp) > self.confFailTime := expired
  simp only [commFailed, checked, long, Bool.not_true, Bool.false_eq_true, if_false, if_true]
  rfl

theorem CoBackend.commFailed_counted (checked : self.failCheck = true) (current : ¬self.Expired timestamp) :
    self.commFailed timestamp =
      ({ self with errNum := int32 (self.errNum + 1) } : CoBackend).marked timestamp := by
  have short : ¬int32 (sizeSub timestamp self.errFirstTimestamp) > self.confFailTime := current
  simp only [commFailed, checked, short, Bool.not_true, Bool.false_eq_true, if_false]
  rfl

/-- The fields that the end of `comm_failed` leaves alone. -/
theorem CoBackend.marked_kept (self : CoBackend) (timestamp : Nat) :
    (self.marked timestamp).failCheck = self.failCheck ∧
    (self.marked timestamp).confFailTime = self.confFailTime ∧
    (self.marked timestamp).confFailNum = self.confFailNum ∧
    (self.marked timestamp).errFirstTimestamp = self.errFirstTimestamp ∧
    (self.marked timestamp).errNum = self.errNum := by
  unfold marked
  split <;> exact ⟨rfl, rfl, rfl, rfl, rfl⟩

theorem CoBackend.marked_cases (self : CoBackend) (timestamp : Nat) :
    (self.confFailNum ≤ self.errNum ∧ (self.marked timestamp).downTimestamp = timestamp) ∨
    (self.marked timestamp).fail = self.fail ∧
      (self.marked timestamp).downTimestamp = self.downTimestamp := by
  unfold marked
  split
  · rename_i enough
    exact .inl ⟨enough, rfl⟩
  · exact .inr ⟨rfl, rfl⟩

/-- `comm_failed` counts the failure, from anew or not, and marks the backend. -/
theorem CoBackend.commFailed_inv (checked : self.failCheck = true) (timestamp : Nat) :
    ∃ counting : CoBackend, self.commFailed timestamp = counting.marked timestamp ∧
      counting.failCheck = true ∧ counting.confFailTime = self.confFailTime ∧
      counting.confFailNum = self.confFailNum ∧ counting.fail = self.fail ∧
      counting.downTimestamp = self.downTimestamp ∧
      (self.Expired timestamp ∧ counting.errFirstTimestamp = timestamp ∧ counting.errNum = int32 1 ∨
        ¬self.Expired timestamp ∧ counting.errFirstTimestamp = self.errFirstTimestamp ∧
          counting.errNum = int32 (self.errNum + 1)) := by
  by_cases expired : self.Expired timestamp
  · exact ⟨_, commFailed_expired checked expired, checked, rfl, rfl, rfl, rfl, .inl ⟨expired, rfl, rfl⟩⟩
  · exact ⟨_, commFailed_counted checked expired, checked, rfl, rfl, rfl, rfl, .inr ⟨expired, rfl, rfl⟩⟩

theorem CoBackendWRR.commFailed_backend (self : CoBackendWRR) (timestamp : Nat) :
    (self.commFailed timestamp).toCoBackend = self.toCoBackend.commFailed timestamp := by
  unfold commFailed
  split
  · rename_i unchecked
    unfold CoBackend.commFailed
    rw [if_pos unchecked]
  · dsimp only
    split <;> rfl

/-- What `avaliable` leaves of a backend: the backend, or the backend brought back. -/
theorem CoBackendWRR.avaliable_cases (self : CoBackendWRR) (timestamp : Nat) :
    (self.avaliable timestamp).2 = self ∨
    (self.avaliable timestamp).2 = { self with fail := false, errNum := 0 } := by
  unfold avaliable
  split
  · exact .inl rfl
  · split
    · exact .inr rfl
    · exact .inl rfl

/-- The answer for a backend that is down. -/
theorem CoBackendWRR.avaliable_down {self : CoBackendWRR} (checked : self.failCheck = true)
    (down : self.fail = true) (timestamp : Nat) : (self.avaliable timestamp).1 = true ↔
      self.confFailTime ≤ int32 (sizeSub timestamp self.downTimestamp) := by
  unfold avaliable
  simp only [checked, down, Bool.not_true, Bool.or_self, Bool.false_eq_true, if_false]
  split
  · rename_i passed
    exact ⟨fun _ => passed, fun _ => rfl⟩
  · rename_i waiting
    exact ⟨nofun, fun passed => absurd passed waiting⟩

end

theorem int32_le_of_nat (n : Nat) : int32 n ≤ n := by
  obtain ⟨turns, same⟩ := int32_turns n
  have bounds := int32_bounds n
  omega

/-! ## Runs -/

namespace Health

/-- The failures that are counted are the last ones, none before the moment from
    which on they are counted; a backend is down because of enough of them. -/
structure Inv (health : Health) (now : Nat) : Prop where
  checked : health.backend.failCheck = true
  first : health.backend.errFirstTimestamp ≤ now
  past : ∀ failure ∈ health.failures, failure ≤ now
  counted : ∃ counted, counted <:+ health.failures ∧ health.backend.errNum = int32 counted.length ∧
    ∀ failure ∈ counted, health.backend.errFirstTimestamp ≤ failure
  down : health.backend.fail = true → health.backend.downTimestamp ≤ now ∧
    health.backend.confFailNum ≤ (health.recent health.backend.downTimestamp).length

section
variable {self : Health} {now timestamp : Nat}

theorem length_le_recent {counted : List Nat} (last : counted <:+ self.failures)
    (inside : ∀ failure ∈ counted, failure ≤ timestamp ∧
      (timestamp : Int) - failure ≤ self.backend.confFailTime) :
    counted.length ≤ (self.recent timestamp).length := by
  have kept : counted.filter (fun failure => failure ≤ timestamp ∧
      (timestamp : Int) - failure ≤ self.backend.confFailTime) = counted :=
    List.filter_eq_self.2 fun failure mem => decide_eq_true (inside failure mem)
  have shorter := (last.sublist.filter fun failure => failure ≤ timestamp ∧
    (timestamp : Int) - failure ≤ self.backend.confFailTime).length_le
  rw [kept] at shorter
  exact shorter

/-- Another failure takes nothing away from the recent ones. -/
theorem recent_commFailed (time : (self.backend.commFailed timestamp).confFailTime = self.backend.confFailTime)
    (moment : Nat) :
    (self.recent moment).length ≤ ((self.step (.commFailed timestamp)).recent moment).length := by
  unfold recent step
  simp only [time, List.filter_append, List.length_append]
  exact Nat.le_add_right _ _

theorem Inv.commFailed (inv : self.Inv now) (window : 0 ≤ self.backend.confFailTime)
    (later : now ≤ timestamp) (agrees : self.Agrees (.commFailed timestamp)) :
    (self.step (.commFailed timestamp)).Inv timestamp := by
  obtain ⟨counting, called, check, time, number, fail, down, turn⟩ :=
    CoBackend.commFailed_inv inv.checked timestamp
  rw [← CoBackendWRR.commFailed_backend] at called
  obtain ⟨checkKept, timeKept, numberKept, firstKept, errKept⟩ := counting.marked_kept timestamp
  rw [← called] at checkKept timeKept numberKept firstKept errKept
  have before := inv.first
  -- the failures that are counted now, all of them recent
  have counts : ∃ counted, counted <:+ self.failures ++ [timestamp] ∧ counting.errNum = int32 counted.length ∧
      ∀ failure ∈ counted, counting.errFirstTimestamp ≤ failure ∧ failure ≤ timestamp ∧
        (timestamp : Int) - failure ≤ self.backend.confFailTime := by
    obtain ⟨expired, first, errNum⟩ | ⟨current, first, errNum⟩ := turn
    · -- the window had expired: this failure is the first of a new one
      refine ⟨[timestamp], List.suffix_append _ _, errNum, ?_⟩
      intro failure mem
      rw [List.mem_singleton.1 mem, first]
      exact ⟨Nat.le_refl _, Nat.le_refl _, by omega⟩
    · -- it had not: this failure joins the ones counted so far
      obtain ⟨counted, ⟨earlier, whole⟩, counts, since⟩ := inv.counted
      have elapsed : (timestamp : Int) - self.backend.errFirstTimestamp ≤ self.backend.confFailTime := by
        by_contra longer
        exact current (agrees (by omega))
      refine ⟨counted ++ [timestamp], ⟨earlier, by rw [← whole, List.append_assoc]⟩, ?_, ?_⟩
      · rw [errNum, counts, int32_add, List.length_append, List.length_singleton]
        rfl
      · intro failure mem
        rw [first]
        rcases List.mem_append.1 mem with old | new
        · have := since failure old
          have := inv.past failure (whole ▸ List.mem_append_right _ old)
          omega
        · rw [List.mem_singleton.1 new]
          omega
  obtain ⟨counted, last, errNum, inside⟩ := counts
  refine ⟨checkKept.trans check, ?_, ?_, ⟨counted, last, errKept.trans errNum, ?_⟩, ?_⟩
  · refine firstKept.le.trans ?_
    obtain ⟨-, first, -⟩ | ⟨-, first, -⟩ := turn <;> omega
  · intro failure mem
    rcases List.mem_append.1 mem with old | new
    · exact (inv.past failure old).trans later
    · exact (List.mem_singleton.1 new).le
  · intro failure mem
    exact firstKept.le.trans (inside failure mem).1
  · intro failing
    change (self.backend.commFailed timestamp).downTimestamp ≤ timestamp ∧
      (self.backend.commFailed timestamp).confFailNum ≤ ((self.step (.commFailed timestamp)).recent
        (self.backend.commFailed timestamp).downTimestamp).length
    rw [numberKept, number]
    have marked := counting.marked_cases timestamp
    rw [← called] at marked
    obtain ⟨enough, moment⟩ | ⟨failKept, downKept⟩ := marked
    · rw [moment]
      refine ⟨Nat.le_refl _, ?_⟩
      have within : counted.length ≤ ((self.step (.commFailed timestamp)).recent timestamp).length := by
        refine length_le_recent last fun failure mem => ⟨(inside failure mem).2.1, ?_⟩
        have recent := (inside failure mem).2.2
        rw [← time, ← timeKept] at recent
        exact recent
      have small := int32_le_of_nat counted.length
      rw [errNum, number] at enough
      omega
    · -- the backend was down before, and what was recent then still is
      have old := inv.down (fail.symm.trans (failKept.symm.trans failing))
      rw [downKept, down]
      have more : (self.recent self.backend.downTimestamp).length ≤
          ((self.step (.commFailed timestamp)).recent self.backend.downTimestamp).length :=
        recent_commFailed (timeKept.trans time) _
      omega

theorem Inv.avaliable (inv : self.Inv now) (later : now ≤ timestamp) :
    (self.step (.avaliable timestamp)).Inv timestamp := by
  have before := inv.first
  have past : ∀ failure ∈ self.failures, failure ≤ timestamp := fun failure mem =>
    (inv.past failure mem).trans later
  obtain same | back := self.backend.avaliable_cases timestamp
  · have unchanged : self.step (.avaliable timestamp) = self := by
      rw [step_avaliable, same]
    rw [unchanged]
    exact ⟨inv.checked, before.trans later, past, inv.counted,
      fun failing => ⟨(inv.down failing).1.trans later, (inv.down failing).2⟩⟩
  · have recovered : self.step (.avaliable timestamp) =
        { self with backend := { self.backend with fail := false, errNum := 0 } } := by
      rw [step_avaliable, back]
    rw [recovered]
    have zero : int32 0 = 0 := int32_of_bounds (by decide) (by decide)
    exact ⟨inv.checked, before.trans later, past, ⟨[], List.nil_suffix, zero.symm, nofun⟩, nofun⟩

/-- A call whose narrowed time agrees keeps the invariant and is exact. -/
theorem Inv.step (inv : self.Inv now) (window : 0 ≤ self.backend.confFailTime) {call : HealthCall}
    (later : now ≤ call.timestamp) (agrees : self.Agrees call) :
    (self.step call).Inv call.timestamp ∧ self.Exact call ∧
      (self.step call).backend.confFailTime = self.backend.confFailTime := by
  cases call with
  | commFailed timestamp =>
    have after : (self.step (.commFailed timestamp)).Inv timestamp := inv.commFailed window later agrees
    obtain ⟨counting, called, -, time, number, -⟩ := CoBackend.commFailed_inv inv.checked timestamp
    rw [← CoBackendWRR.commFailed_backend] at called
    obtain ⟨-, timeKept, numberKept, -⟩ := counting.marked_kept timestamp
    rw [← called] at timeKept numberKept
    refine ⟨after, ?_, timeKept.trans time⟩
    intro failing moment
    have enough := (after.down failing).2
    rw [moment] at enough
    exact (numberKept.trans number) ▸ enough
  | avaliable timestamp =>
    refine ⟨inv.avaliable later, ?_, ?_⟩
    · intro down
      rw [CoBackendWRR.avaliable_down inv.checked down]
      exact (agrees down).symm
    · obtain same | back := self.backend.avaliable_cases timestamp
      · rw [step_avaliable, same]
      · rw [step_avaliable, back]

end

/-- A backend as `add_backend` makes it. -/
def added (confUpstream : CoConfUpstream) (confUpstreamServer : CoConfUpstreamServer) : Health :=
  { backend := CoBackendStrategyWRR.newBackend confUpstream confUpstreamServer }

theorem inv_added {confUpstream : CoConfUpstream} {confUpstreamServer : CoConfUpstreamServer}
    (checked : (added confUpstream confUpstreamServer).backend.failCheck = true) :
    (added confUpstream confUpstreamServer).Inv 0 where
  checked := checked
  first := Nat.le_refl _
  past := nofun
  counted := by
    have zero : int32 0 = 0 := int32_of_bounds (by decide) (by decide)
    exact ⟨[], List.nil_suffix, zero.symm, nofun⟩
  down := nofun

theorem window_added {confUpstream : CoConfUpstream} {confUpstreamServer : CoConfUpstreamServer} :
    0 ≤ (added confUpstream confUpstreamServer).backend.confFailTime := by
  unfold added CoBackendStrategyWRR.newBackend
  dsimp only
  split
  · decide
  · omega

/-- Every call of a run. -/
def Calls (self : Health) (calls : List HealthCall) (holds : Health → HealthCall → Prop) : Prop :=
  ∀ before call after, calls = before ++ call :: after → holds (self.run before) call

theorem calls_cons {self : Health} {call : HealthCall} {calls : List HealthCall}
    {holds : Health → HealthCall → Prop} :
    self.Calls (call :: calls) holds ↔ holds self call ∧ (self.step call).Calls calls holds := by
  constructor
  · intro all
    refine ⟨all [] call calls rfl, fun before other after split => ?_⟩
    exact all (call :: before) other after (by rw [split]; rfl)
  · rintro ⟨first, rest⟩ before other after split
    cases before with
    | nil =>
      cases split
      exact first
    | cons head before =>
      cases split
      exact rest before other after rfl

theorem Inv.calls {self : Health} {now : Nat} {calls : List HealthCall} (inv : self.Inv now)
    (window : 0 ≤ self.backend.confFailTime) (clock : (calls.map HealthCall.timestamp).Pairwise (· ≤ ·))
    (later : ∀ call ∈ calls, now ≤ call.timestamp) (agrees : self.Calls calls Agrees) :
    self.Calls calls Exact := by
  induction calls generalizing self now with
  | nil =>
    intro before call after split
    cases before <;> cases split
  | cons call calls ih =>
    rw [calls_cons] at agrees ⊢
    rw [List.map_cons, List.pairwise_cons] at clock
    obtain ⟨after, exact, time⟩ := inv.step window (later call List.mem_cons_self) agrees.1
    refine ⟨exact, ih after (time.symm ▸ window) clock.2 ?_ agrees.2⟩
    exact fun other mem => clock.1 _ (List.mem_map_of_mem mem)

/-- In a run whose narrowed times agree with the exact ones, a backend is marked down for
    enough recent failures only, and comes back when its time has passed. -/
theorem health_exact (confUpstream : CoConfUpstream) (confUpstreamServer : CoConfUpstreamServer)
    (checked : (added confUpstream confUpstreamServer).backend.failCheck = true)
    (calls : List HealthCall) (clock : (calls.map HealthCall.timestamp).Pairwise (· ≤ ·))
    (agrees : (added confUpstream confUpstreamServer).Calls calls Agrees) :
    (added confUpstream confUpstreamServer).Calls calls Exact :=
  (inv_added checked).calls window_added clock (fun _ _ => Nat.zero_le _) agrees

/-- Two failures in the same second, and an answer three seconds later. -/
theorem health_exact_two : (added { failMaxnum := 2 } { serverkey := [] }).Calls
    [.commFailed 1000, .commFailed 1200, .avaliable 4000] Exact :=
  health_exact { failMaxnum := 2 } { serverkey := [] } (by decide)
    [.commFailed 1000, .commFailed 1200, .avaliable 4000] (by decide)
    (calls_cons.2 ⟨by decide +kernel, calls_cons.2 ⟨by decide +kernel, calls_cons.2 ⟨by decide +kernel,
      fun before _ _ split => by cases before <;> cases split⟩⟩⟩)

/-- A failure is still counted after `2 ^ 32` milliseconds. -/
theorem health_narrowed : ¬ ∀ (confUpstream : CoConfUpstream) (confUpstreamServer : CoConfUpstreamServer),
    (added confUpstream confUpstreamServer).backend.failCheck = true →
    ∀ calls : List HealthCall, (calls.map HealthCall.timestamp).Pairwise (· ≤ ·) →
      (∀ call ∈ calls, call.timestamp < 2 ^ 64) →
      (added confUpstream confUpstreamServer).Calls calls Exact := by
  intro exact
  have second := exact { failMaxnum := 2 } { serverkey := [] } (by decide)
    [.commFailed 1000, .commFailed 4294968296] (by decide) (by decide) [.commFailed 1000]
    (.commFailed 4294968296) [] rfl
  have counted : ¬(added { failMaxnum := 2 } { serverkey := [] } |>.run [.commFailed 1000]).backend.confFailNum ≤
      (((added { failMaxnum := 2 } { serverkey := [] } |>.run [.commFailed 1000]).step
        (.commFailed 4294968296)).recent 4294968296).length := by decide +kernel
  exact counted (second (by decide +kernel) (by decide +kernel))

end Health

end CoServer
