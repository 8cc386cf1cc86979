import CoServer.Core.Dispatcher
import CoServer.Lib.Multimap
import CoServer.Lib.Run

/-! # `CoTimer`

The timers of a thread are a multimap from deadlines to events.  An event keeps
the iterator of its entry, and a flag that says whether it has one.  The loop of
`process_timer` runs handlers, which add and delete timers themselves. -/

namespace CoServer

/-- Conversion to `uint64_t`. -/
def uint64 (n : Nat) : Nat := n % 2 ^ 64

/-- A connection and which of its events. -/
abbrev TimerEvent := Nat × TimerKind

/-- An entry of `m_timers`; `node` tells apart entries that are equal otherwise. -/
structure TimerEntry where
  node : Nat
  timer : Nat
  event : TimerEvent
deriving DecidableEq

/-- Where the thread stands: `process_timer` keeps the time it has read. -/
inductive TimerPlace where
  | outside
  | loop (now : Nat)
  /-- the handler of an event that fired -/
  | handler (now : Nat)
deriving DecidableEq

/-- A call of `process_timer` that returned. -/
structure ProcessedTimers where
  now : Nat
  fired : List TimerEntry
  remain : List TimerEntry

/-- The call fired what was due when it started, in the order of the deadlines, and left
    nothing that was due. -/
structure ProcessedTimers.Sound (call : ProcessedTimers) : Prop where
  due : ∀ entry ∈ call.fired, entry.timer ≤ call.now
  sorted : Lib.SortedBy TimerEntry.timer call.fired
  remain : ∀ entry ∈ call.remain, call.now < entry.timer

/-- The timers with what they have done so far. -/
structure CoTimer where
  objects : Nat → CoConnection := fun _ => {}
  timers : List TimerEntry := []
  /-- `m_timerNode` -/
  timerNode : TimerEvent → Nat := fun _ => 0
  /-- the entries made so far -/
  nodes : Nat := 0
  /-- what `gettimeofday` reports -/
  clock : Nat
  place : TimerPlace := .outside
  deleted : List TimerEntry := []
  fired : List TimerEntry := []
  /-- what fired in the present call of `process_timer` -/
  firing : List TimerEntry := []
  calls : List ProcessedTimers := []

namespace CoTimer

def flagTimerSet (self : CoTimer) (event : TimerEvent) : Bool :=
  ((self.objects event.1).timerEvent event.2).flagTimerSet

def setFlag (self : CoTimer) (event : TimerEvent) (flagTimerSet : Bool) : Nat → CoConnection :=
  Function.update self.objects event.1 ((self.objects event.1).setTimer event.2 flagTimerSet)

def addTimer (self : CoTimer) (event : TimerEvent) (timerMs : Nat) : CoTimer :=
  if self.flagTimerSet event then self
  else
    let timer := uint64 (self.clock + timerMs)
    { self with
      timers := Lib.multimapInsert TimerEntry.timer ⟨self.nodes, timer, event⟩ self.timers
      nodes := self.nodes + 1
      timerNode := Function.update self.timerNode event self.nodes
      objects := self.setFlag event true }

/-- Without a defined result when the iterator of the event refers to no entry. -/
def delTimer (self : CoTimer) (event : TimerEvent) : Option CoTimer :=
  if !self.flagTimerSet event then some self
  else
    match self.timers.find? fun entry => entry.node = self.timerNode event with
    | none => none
    | some entry =>
      some { self with
        timers := self.timers.erase entry
        objects := self.setFlag event false
        deleted := self.deleted ++ [entry] }

/-- The body of the loop of `process_timer` up to the handler. -/
def fire (self : CoTimer) (now : Nat) : Option CoTimer :=
  match self.timers with
  | [] => none
  | entry :: timers =>
    if entry.timer ≤ now then
      some { self with
        timers
        objects := Function.update self.objects entry.event.1
          ((self.objects entry.event.1).timerExpired entry.event.2)
        place := .handler now
        fired := self.fired ++ [entry]
        firing := self.firing ++ [entry] }
    else none

/-- No entry is due any more. -/
def finished (self : CoTimer) (now : Nat) : Prop :=
  match self.timers with
  | [] => True
  | entry :: _ => now < entry.timer

instance (self : CoTimer) (now : Nat) : Decidable (self.finished now) := by
  unfold finished
  split <;> infer_instance

end CoTimer

/-- What happens on the thread, as far as its timers are concerned. -/
inductive TimerCall where
  /-- time passes: the clock shows milliseconds since 1970, and does not go back -/
  | clock (now : Nat)
  | addTimer (event : TimerEvent) (timerMs : Nat)
  | delTimer (event : TimerEvent)
  | processTimer
  /-- the loop of `process_timer` takes the first entry -/
  | fire
  /-- the handler of the event is done -/
  | handled
  /-- `process_timer` returns -/
  | returned

namespace CoTimer

/-- Code that adds or deletes timers runs outside of `process_timer` or as a handler. -/
def Running (self : CoTimer) : Prop :=
  match self.place with
  | .outside | .handler _ => True
  | .loop _ => False

instance (self : CoTimer) : Decidable self.Running := by
  unfold Running
  split <;> infer_instance

def step (self : CoTimer) : TimerCall → Option CoTimer
  | .clock now =>
    if self.clock ≤ now ∧ now + 2 ^ 32 ≤ 2 ^ 64 then some { self with clock := now } else none
  | .addTimer event timerMs =>
    if self.Running ∧ timerMs < 2 ^ 32 then some (self.addTimer event timerMs) else none
  | .delTimer event => if self.Running then self.delTimer event else none
  | .processTimer =>
    if self.place = .outside then some { self with place := .loop self.clock, firing := [] }
    else none
  | .fire =>
    match self.place with
    | .loop now => self.fire now
    | .outside | .handler _ => none
  | .handled =>
    match self.place with
    | .handler now => some { self with place := .loop now }
    | .outside | .loop _ => none
  | .returned =>
    match self.place with
    | .loop now =>
      if self.finished now then
        some { self with
          place := .outside
          calls := self.calls ++ [⟨now, self.firing, self.timers⟩] }
      else none
    | .outside | .handler _ => none

/-! ## The flags -/

section
variable (self : CoTimer) (event other : TimerEvent)

theorem setTimer_flag (connection : CoConnection) (kind another : TimerKind) (flagTimerSet : Bool) :
    ((connection.setTimer kind flagTimerSet).timerEvent another).flagTimerSet =
      if another = kind then flagTimerSet else (connection.timerEvent another).flagTimerSet := by
  cases kind <;> cases another <;> rfl

theorem timerExpired_flag (connection : CoConnection) (kind another : TimerKind) :
    ((connection.timerExpired kind).timerEvent another).flagTimerSet =
      if another = kind then false else (connection.timerEvent another).flagTimerSet := by
  cases kind <;> cases another <;> rfl

/-- A write to one connection that sets one of its flags sets the flag of one event. -/
theorem update_flag {objects : Nat → CoConnection} {connection : CoConnection} {flagTimerSet : Bool}
    (wrote : ∀ another, (connection.timerEvent another).flagTimerSet =
      if another = event.2 then flagTimerSet
      else ((objects event.1).timerEvent another).flagTimerSet) :
    (((Function.update objects event.1 connection) other.1).timerEvent other.2).flagTimerSet =
      if other = event then flagTimerSet else ((objects other.1).timerEvent other.2).flagTimerSet := by
  obtain ⟨place, kind⟩ := event
  obtain ⟨otherPlace, otherKind⟩ := other
  by_cases same : otherPlace = place
  · subst same
    simp [wrote, Prod.ext_iff]
  · simp [same, Prod.ext_iff]

end

/-! ## The invariant -/

/-- What `process_timer` has fired so far was due when it started, was fired in the order of
    the deadlines, and is not behind what is still set. -/
structure Firing (state : CoTimer) (now : Nat) : Prop where
  started : now ≤ state.clock
  due : ∀ entry ∈ state.firing, entry.timer ≤ now
  sorted : Lib.SortedBy TimerEntry.timer state.firing
  first : ∀ entry ∈ state.firing, ∀ later ∈ state.timers, entry.timer ≤ later.timer

def InPlace (self : CoTimer) : Prop :=
  match self.place with
  | .outside => True
  | .loop now | .handler now => self.Firing now

/-- The entries made so far are set, deleted or fired, and those that are set are the ones
    their events refer to. -/
structure TimerInv (state : CoTimer) : Prop where
  sorted : Lib.SortedBy TimerEntry.timer state.timers
  conserved : ((state.timers ++ state.deleted ++ state.fired).map TimerEntry.node).Perm
    (List.range state.nodes)
  owned : ∀ entry ∈ state.timers,
    state.flagTimerSet entry.event = true ∧ state.timerNode entry.event = entry.node
  held : ∀ event, state.flagTimerSet event = true → ∃ entry ∈ state.timers, entry.event = event
  fits : state.clock + 2 ^ 32 ≤ 2 ^ 64
  inPlace : state.InPlace
  calls : ∀ call ∈ state.calls, call.Sound

section
variable {self next : CoTimer}

theorem TimerInv.nodup (inv : TimerInv self) : (self.timers.map TimerEntry.node).Nodup := by
  have all := inv.conserved.nodup_iff.2 List.nodup_range
  rw [List.append_assoc, List.map_append] at all
  exact all.of_append_left

/-- An event has at most one entry. -/
theorem TimerInv.unique (inv : TimerInv self) {entry other : TimerEntry} (mem : entry ∈ self.timers)
    (otherMem : other ∈ self.timers) (same : entry.event = other.event) : entry = other := by
  have node : entry.node = other.node := by
    rw [← (inv.owned entry mem).2, ← (inv.owned other otherMem).2, same]
  exact List.inj_on_of_nodup_map inv.nodup mem otherMem node

/-- The entry that the iterator of a set event refers to is the entry of the event. -/
theorem TimerInv.find (inv : TimerInv self) {event : TimerEvent}
    (set : self.flagTimerSet event = true) : ∃ entry ∈ self.timers, entry.event = event ∧
      self.timers.find? (fun entry => entry.node = self.timerNode event) = some entry := by
  obtain ⟨entry, mem, rfl⟩ := inv.held event set
  have own := (inv.owned entry mem).2
  cases look : self.timers.find? fun other => other.node = self.timerNode entry.event with
  | none =>
    have missing := List.find?_eq_none.1 look entry mem
    simp [own] at missing
  | some found =>
    have foundMem := List.mem_of_find?_eq_some look
    have node : found.node = entry.node := by
      have matched := List.find?_some look
      simpa [own] using matched
    have same := List.inj_on_of_nodup_map inv.nodup foundMem mem node
    exact ⟨entry, mem, rfl, congrArg some same⟩

/-! ### One call -/

theorem setFlag_flag (self : CoTimer) (event other : TimerEvent) (flagTimerSet : Bool) :
    (((self.setFlag event flagTimerSet) other.1).timerEvent other.2).flagTimerSet =
      if other = event then flagTimerSet else self.flagTimerSet other :=
  update_flag event other fun another => setTimer_flag _ event.2 another flagTimerSet

/-- What is added while `process_timer` runs is not due before it started. -/
theorem InPlace.keep (inPlace : self.InPlace) (place : next.place = self.place)
    (firing : next.firing = self.firing) (clock : self.clock ≤ next.clock)
    (later : ∀ entry ∈ next.timers, entry ∈ self.timers ∨ self.clock ≤ entry.timer) :
    next.InPlace := by
  have keep : ∀ now, self.Firing now → next.Firing now := by
    intro now running
    constructor
    · exact running.started.trans clock
    · rw [firing]
      exact running.due
    · rw [firing]
      exact running.sorted
    · rw [firing]
      intro entry mem other otherMem
      obtain old | new := later other otherMem
      · exact running.first entry mem other old
      · exact ((running.due entry mem).trans running.started).trans new
  unfold InPlace at *
  rw [place]
  cases at_ : self.place with
  | outside => trivial
  | loop now | handler now =>
    rw [at_] at inPlace
    exact keep now inPlace

theorem TimerInv.add (inv : TimerInv self) (event : TimerEvent) {timerMs : Nat}
    (small : timerMs < 2 ^ 32) : TimerInv (self.addTimer event timerMs) := by
  unfold addTimer
  by_cases set : self.flagTimerSet event = true
  · rw [if_pos set]
    exact inv
  · rw [if_neg set]
    have deadline : uint64 (self.clock + timerMs) = self.clock + timerMs :=
      Nat.mod_eq_of_lt (by have := inv.fits; omega)
    rw [deadline]
    dsimp only
    constructor
    · exact inv.sorted.insert
    · have inserted := @Lib.perm_multimapInsert _ TimerEntry.timer
        ⟨self.nodes, self.clock + timerMs, event⟩ self.timers
      have all := (((inserted.append_right self.deleted).append_right self.fired).map
        TimerEntry.node)
      refine all.trans ?_
      rw [List.range_succ]
      refine List.Perm.trans ?_ (List.perm_append_singleton self.nodes _).symm
      exact inv.conserved.cons self.nodes
    · intro entry mem
      unfold CoTimer.flagTimerSet
      dsimp only
      rw [setFlag_flag]
      obtain rfl | old := Lib.mem_multimapInsert.1 mem
      · simp
      · have apart : entry.event ≠ event := by
          rintro rfl
          exact set (inv.owned entry old).1
        rw [if_neg apart, Function.update_of_ne apart]
        exact inv.owned entry old
    · intro other
      unfold CoTimer.flagTimerSet
      dsimp only
      rw [setFlag_flag]
      by_cases same : other = event
      · intro _
        exact ⟨_, Lib.mem_multimapInsert.2 (.inl rfl), same.symm⟩
      · rw [if_neg same]
        intro held
        obtain ⟨entry, mem, own⟩ := inv.held other held
        exact ⟨entry, Lib.mem_multimapInsert.2 (.inr mem), own⟩
    · exact inv.fits
    · refine inv.inPlace.keep rfl rfl le_rfl fun entry mem => ?_
      obtain rfl | old := Lib.mem_multimapInsert.1 mem
      · exact .inr (Nat.le_add_right _ _)
      · exact .inl old
    · exact inv.calls

/-- Only the entry of the event is deleted. -/
theorem TimerInv.erase_eq (inv : TimerInv self) {entry : TimerEntry} (mem : entry ∈ self.timers) :
    self.timers.erase entry = self.timers.filter fun other => other.event ≠ entry.event := by
  rw [(List.Nodup.of_map _ inv.nodup).erase_eq_filter]
  refine List.filter_congr fun other otherMem => ?_
  by_cases same : other.event = entry.event
  · simp [inv.unique otherMem mem same]
  · have apart : other ≠ entry := fun equal => same (congrArg TimerEntry.event equal)
    simp [same, apart]

theorem TimerInv.delete_cases (inv : TimerInv self) (event : TimerEvent) :
    (self.flagTimerSet event = false ∧ self.delTimer event = some self) ∨
    ∃ entry ∈ self.timers, entry.event = event ∧ self.delTimer event = some { self with
      timers := self.timers.erase entry
      objects := self.setFlag event false
      deleted := self.deleted ++ [entry] } := by
  unfold delTimer
  by_cases set : self.flagTimerSet event = true
  · obtain ⟨entry, mem, own, found⟩ := inv.find set
    refine .inr ⟨entry, mem, own, ?_⟩
    rw [found]
    simp [set]
  · refine .inl ⟨by simpa using set, ?_⟩
    simp [set]

theorem TimerInv.delete (inv : TimerInv self) {event : TimerEvent}
    (deleted : self.delTimer event = some next) : TimerInv next := by
  obtain ⟨-, same⟩ | ⟨entry, mem, own, same⟩ := inv.delete_cases event
  · cases deleted.symm.trans same
    exact inv
  · cases deleted.symm.trans same
    have rest : ∀ other ∈ self.timers.erase entry, other ∈ self.timers ∧ other.event ≠ event := by
      intro other otherMem
      rw [inv.erase_eq mem, own] at otherMem
      simpa using List.mem_filter.1 otherMem
    constructor
    · exact inv.sorted.sublist List.erase_sublist
    · refine (List.Perm.map _ ?_).trans inv.conserved
      dsimp only
      refine List.Perm.append_right _ ?_
      rw [← List.append_assoc]
      refine (List.perm_append_singleton entry _).trans ?_
      exact (List.perm_cons_erase mem).symm.append_right self.deleted
    · intro other otherMem
      obtain ⟨old, apart⟩ := rest other otherMem
      unfold CoTimer.flagTimerSet
      dsimp only
      rw [setFlag_flag, if_neg apart]
      exact inv.owned other old
    · intro other
      unfold CoTimer.flagTimerSet
      dsimp only
      rw [setFlag_flag]
      by_cases same : other = event
      · simp [same]
      · rw [if_neg same]
        intro held
        obtain ⟨found, old, foundOwn⟩ := inv.held other held
        refine ⟨found, ?_, foundOwn⟩
        rw [inv.erase_eq mem, own]
        exact List.mem_filter.2 ⟨old, by simpa [foundOwn] using same⟩
    · exact inv.fits
    · exact inv.inPlace.keep rfl rfl le_rfl fun other otherMem => .inl (rest other otherMem).1
    · exact inv.calls

/-- The loop fires the first entry, whose event is not set when its handler runs. -/
theorem TimerInv.fire (inv : TimerInv self) {now : Nat} (place : self.place = .loop now)
    (fired : self.fire now = some next) : TimerInv next ∧ ∃ entry, next.fired = self.fired ++ [entry] ∧
      next.firing = self.firing ++ [entry] ∧ entry.timer ≤ now ∧
      next.flagTimerSet entry.event = false := by
  unfold CoTimer.fire at fired
  cases timers : self.timers with
  | nil =>
    rw [timers] at fired
    cases fired
  | cons entry rest =>
    rw [timers] at fired
    obtain ⟨due, same⟩ := Option.ite_none_right_eq_some.1 fired
    cases same
    have mem : entry ∈ self.timers := timers ▸ List.mem_cons_self
    have restMem : ∀ other ∈ rest, other ∈ self.timers := fun other otherMem =>
      timers ▸ List.mem_cons_of_mem entry otherMem
    -- the expired event alone loses its flag
    have flags : ∀ other : TimerEvent, (((Function.update self.objects entry.event.1
        ((self.objects entry.event.1).timerExpired entry.event.2)) other.1).timerEvent
          other.2).flagTimerSet = if other = entry.event then false else self.flagTimerSet other :=
      fun other => update_flag entry.event other fun another => timerExpired_flag _ entry.event.2 another
    have sorted := inv.sorted
    rw [timers] at sorted
    obtain ⟨least, sortedRest⟩ := List.pairwise_cons.1 sorted
    have running : self.Firing now := by
      have inPlace := inv.inPlace
      unfold InPlace at inPlace
      rw [place] at inPlace
      exact inPlace
    refine ⟨?_, entry, rfl, rfl, due, ?_⟩
    · constructor
      · exact sortedRest
      · have conserved := inv.conserved
        rw [timers] at conserved
        refine (List.Perm.map _ ?_).trans conserved
        dsimp only
        rw [← List.append_assoc]
        exact List.perm_append_singleton entry _
      · intro other otherMem
        -- an event has one entry, so the entries that stay are of other events
        have apart : other.event ≠ entry.event := by
          intro same
          have equal := inv.unique (restMem other otherMem) mem same
          have nodup := List.Nodup.of_map _ inv.nodup
          rw [timers] at nodup
          exact (List.nodup_cons.1 nodup).1 (equal ▸ otherMem)
        unfold CoTimer.flagTimerSet
        dsimp only
        rw [flags, if_neg apart]
        exact inv.owned other (restMem other otherMem)
      · intro other
        unfold CoTimer.flagTimerSet
        dsimp only
        rw [flags]
        by_cases same : other = entry.event
        · simp [same]
        · rw [if_neg same]
          intro held
          obtain ⟨found, old, own⟩ := inv.held other held
          rw [timers] at old
          obtain rfl | old := List.mem_cons.1 old
          · exact absurd own.symm same
          · exact ⟨found, old, own⟩
      · exact inv.fits
      · constructor
        · exact running.started
        · intro other otherMem
          obtain old | new := List.mem_append.1 otherMem
          · exact running.due other old
          · cases List.mem_singleton.1 new
            exact due
        · refine List.pairwise_append.2 ⟨running.sorted, List.pairwise_singleton _ _, ?_⟩
          intro other otherMem last lastMem
          cases List.mem_singleton.1 lastMem
          -- what fired before came first
          exact running.first other otherMem entry mem
        · intro other otherMem later laterMem
          obtain old | new := List.mem_append.1 otherMem
          · exact running.first other old later (restMem later laterMem)
          · cases List.mem_singleton.1 new
            exact least later laterMem
      · exact inv.calls
    · unfold CoTimer.flagTimerSet
      dsimp only
      rw [flags, if_pos rfl]

/-- When the first entry is not due, none is. -/
theorem TimerInv.remain (inv : TimerInv self) {now : Nat} (done : self.finished now) :
    ∀ entry ∈ self.timers, now < entry.timer := by
  have sorted := inv.sorted
  unfold finished at done
  cases timers : self.timers with
  | nil => nofun
  | cons first rest =>
    rw [timers] at done sorted
    obtain ⟨least, -⟩ := List.pairwise_cons.1 sorted
    intro entry mem
    obtain rfl | mem := List.mem_cons.1 mem
    · exact done
    · exact lt_of_lt_of_le done (least entry mem)

theorem TimerInv.step (inv : TimerInv self) {call : TimerCall} (stepped : self.step call = some next) :
    TimerInv next := by
  cases call with
  | clock now =>
    obtain ⟨⟨later, fits⟩, same⟩ := Option.ite_none_right_eq_some.1 stepped
    cases same
    exact { inv with
      fits
      inPlace := inv.inPlace.keep rfl rfl later fun entry mem => .inl mem }
  | addTimer event timerMs =>
    obtain ⟨⟨-, small⟩, same⟩ := Option.ite_none_right_eq_some.1 stepped
    cases same
    exact inv.add event small
  | delTimer event =>
    obtain ⟨-, deleted⟩ := Option.ite_none_right_eq_some.1 stepped
    exact inv.delete deleted
  | processTimer =>
    obtain ⟨-, same⟩ := Option.ite_none_right_eq_some.1 stepped
    cases same
    exact { inv with inPlace := ⟨le_rfl, nofun, List.Pairwise.nil, nofun⟩ }
  | fire =>
    unfold CoTimer.step at stepped
    cases place : self.place with
    | loop now =>
      simp only [place] at stepped
      exact (inv.fire place stepped).1
    | outside | handler now =>
      simp only [place] at stepped
      cases stepped
  | handled =>
    unfold CoTimer.step at stepped
    have inPlace := inv.inPlace
    unfold InPlace at inPlace
    cases place : self.place with
    | handler now =>
      simp only [place] at stepped inPlace
      cases stepped
      exact { inv with inPlace := ⟨inPlace.started, inPlace.due, inPlace.sorted, inPlace.first⟩ }
    | outside | loop now =>
      simp only [place] at stepped
      cases stepped
  | returned =>
    unfold CoTimer.step at stepped
    have inPlace := inv.inPlace
    unfold InPlace at inPlace
    cases place : self.place with
    | loop now =>
      simp only [place] at stepped inPlace
      obtain ⟨finished, same⟩ := Option.ite_none_right_eq_some.1 stepped
      cases same
      refine { inv with inPlace := trivial, calls := fun call mem => ?_ }
      obtain old | new := List.mem_append.1 mem
      · exact inv.calls call old
      · cases List.mem_singleton.1 new
        exact ⟨inPlace.due, inPlace.sorted, inv.remain finished⟩
    | outside | handler now =>
      simp only [place] at stepped
      cases stepped

end

/-! ## Every run -/

/-- The flags and iterators of the events match the entries of the map, every entry made is
    set, deleted or fired, deleting and firing touch what they should, and every call of
    `process_timer` that returned fired what it should. -/
structure TimersSound (state : CoTimer) : Prop where
  one : ∀ event, (state.timers.filter fun entry => entry.event = event).length =
    if state.flagTimerSet event then 1 else 0
  node : ∀ event, state.flagTimerSet event = true →
    ∃ entry ∈ state.timers, entry.event = event ∧ entry.node = state.timerNode event
  conserved : ((state.timers ++ state.deleted ++ state.fired).map TimerEntry.node).Perm
    (List.range state.nodes)
  deletes : state.Running → ∀ event, ∃ next, state.step (.delTimer event) = some next ∧
    next.timers = state.timers.filter fun entry => entry.event ≠ event
  fires : ∀ next, state.step .fire = some next → ∃ entry now, state.place = .loop now ∧
    next.fired = state.fired ++ [entry] ∧ entry.timer ≤ now ∧ next.flagTimerSet entry.event = false
  calls : ∀ call ∈ state.calls, call.Sound

theorem TimerInv.count {state : CoTimer} (inv : TimerInv state) (event : TimerEvent) :
    (state.timers.filter fun entry => entry.event = event).length =
      if state.flagTimerSet event then 1 else 0 := by
  by_cases set : state.flagTimerSet event = true
  · obtain ⟨entry, mem, rfl⟩ := inv.held event set
    have only : (state.timers.filter fun other => other.event = entry.event) =
        state.timers.filter (· == entry) := by
      refine List.filter_congr fun other otherMem => ?_
      by_cases same : other.event = entry.event
      · simp [inv.unique otherMem mem same]
      · have apart : other ≠ entry := fun equal => same (congrArg TimerEntry.event equal)
        simp [same, apart]
    rw [only, if_pos set, ← List.countP_eq_length_filter]
    exact List.count_eq_one_of_mem (List.Nodup.of_map _ inv.nodup) mem
  · rw [if_neg set, List.length_eq_zero_iff, List.filter_eq_nil_iff]
    intro entry mem own
    rw [decide_eq_true_eq] at own
    exact set (own ▸ (inv.owned entry mem).1)

theorem TimerInv.sound {state : CoTimer} (inv : TimerInv state) : TimersSound state where
  one := inv.count
  node event set := by
    obtain ⟨entry, mem, rfl⟩ := inv.held event set
    exact ⟨entry, mem, rfl, (inv.owned entry mem).2.symm⟩
  conserved := inv.conserved
  deletes running event := by
    have stepped : state.step (.delTimer event) = state.delTimer event := if_pos running
    rw [stepped]
    obtain ⟨unset, same⟩ | ⟨entry, mem, rfl, same⟩ := inv.delete_cases event
    · refine ⟨state, same, (List.filter_eq_self.2 fun entry mem => ?_).symm⟩
      have set := (inv.owned entry mem).1
      refine decide_eq_true fun own => ?_
      rw [own, unset] at set
      cases set
    · exact ⟨_, same, inv.erase_eq mem⟩
  fires next stepped := by
    unfold CoTimer.step at stepped
    cases place : state.place with
    | loop now =>
      simp only [place] at stepped
      obtain ⟨-, entry, fired, -, due, unset⟩ := inv.fire place stepped
      exact ⟨entry, now, rfl, fired, due, unset⟩
    | outside | handler now =>
      simp only [place] at stepped
      cases stepped
  calls := inv.calls

/-- A thread that has no timers yet. -/
structure NoTimers (objects : Nat → CoConnection) (clock : Nat) : Prop where
  unset : ∀ connection kind, ((objects connection).timerEvent kind).flagTimerSet = false
  fits : clock + 2 ^ 32 ≤ 2 ^ 64

theorem NoTimers.inv {objects : Nat → CoConnection} {clock : Nat} (noTimers : NoTimers objects clock) :
    TimerInv { objects, clock } where
  sorted := List.Pairwise.nil
  conserved := List.Perm.nil
  owned := nofun
  held event set := by
    cases (noTimers.unset event.1 event.2).symm.trans set
  fits := noTimers.fits
  inPlace := trivial
  calls := nofun

end CoTimer

open CoTimer in
/-- In every state that adding, deleting and processing timers reach, whatever the handlers
    add and delete. -/
theorem timers_sound {objects : Nat → CoConnection} {clock : Nat} (noTimers : NoTimers objects clock)
    {calls : List TimerCall} {final : CoTimer}
    (ran : calls.foldlM CoTimer.step { objects, clock } = some final) : TimersSound final := by
  have inv : TimerInv final := Lib.run_keeps CoTimer.step TimerInv
    (fun _ _ _ inv stepped => inv.step stepped) noTimers.inv ran
  exact inv.sound

/-- A handler adds a timer that is due at once and deletes another one, whose event is set
    again afterwards. -/
def timersInHandler : List TimerCall := [
  .addTimer (0, .read) 50,
  .addTimer (2, .sleep) 10,
  .addTimer (0, .read) 5,
  .clock 1020,
  .processTimer,
  .fire,
  .addTimer (4, .write) 0,
  .delTimer (0, .read),
  .handled,
  .fire,
  .addTimer (0, .read) 7,
  .handled,
  .returned]

open CoTimer in
theorem timersInHandler_sound : ∃ final,
    timersInHandler.foldlM CoTimer.step { clock := 1000 } = some final ∧
    final.timers = [⟨3, 1027, (0, .read)⟩] ∧ final.deleted = [⟨0, 1050, (0, .read)⟩] ∧
    final.fired = [⟨1, 1010, (2, .sleep)⟩, ⟨2, 1020, (4, .write)⟩] ∧ TimersSound final := by
  have defined : (timersInHandler.foldlM CoTimer.step { clock := 1000 }).map (fun final =>
      (final.timers, final.deleted, final.fired)) = some ([⟨3, 1027, (0, .read)⟩],
        [⟨0, 1050, (0, .read)⟩], [⟨1, 1010, (2, .sleep)⟩, ⟨2, 1020, (4, .write)⟩]) := by
    decide +kernel
  have noTimers : CoTimer.NoTimers (fun _ => {}) 1000 := ⟨fun _ kind => by cases kind <;> rfl, by decide⟩
  obtain ⟨final, ran, shown⟩ := Option.map_eq_some_iff.1 defined
  obtain ⟨timers, deleted, fired⟩ : _ ∧ _ ∧ _ := by
    simpa only [Prod.mk.injEq] using shown
  exact ⟨final, ran, timers, deleted, fired, timers_sound noTimers ran⟩

end CoServer
