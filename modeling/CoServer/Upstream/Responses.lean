import CoServer.Core.KeptRequests
import CoServer.Upstream.ResponseRun

/-! # Responses that are lost

Every schedule of an attempt ends.  If nothing disturbs it, the attempt has then read
the whole response; otherwise it has failed where it was. -/

namespace CoServer

open ClientConnection (Recv)

namespace ResponseRun

section
variable {Protocol : Type} {calls : UpstreamCalls Protocol}
  {decode : Protocol → CoBuffer → Option (Int × Protocol × CoBuffer)}
  {first : Protocol} {start : CoBuffer} {response bytes : Bytes} {run next : ResponseRun Protocol} {memory : Block}
  {event : ResponseEvent}

/-! ## The end of `upstream_write` -/

/-- The connection of a request without sub-requests is registered for `events`. -/
structure Stands (events : EpollEvents) (run : ResponseRun Protocol) : Prop where
  serving : run.object.Serving run.request
  noUpstreams : (run.cycle.requests run.request).upstreamRequests = []
  mask : run.object.epollCurEvents = events
  registered : run.registration = some ⟨events, run.object.connId, run.object.version⟩

theorem object_setTimer (run : ResponseRun Protocol) (kind : TimerKind) (flagTimerSet : Bool) :
    (run.setTimer kind flagTimerSet).object = run.object.setTimer kind flagTimerSet := by
  simp [object, setTimer]

theorem Stands.setTimer {events : EpollEvents} (stands : run.Stands events) (kind : TimerKind) (flagTimerSet : Bool) :
    (run.setTimer kind flagTimerSet).Stands events := by
  have object := object_setTimer run kind flagTimerSet
  constructor
  · rw [object]
    exact stands.serving.setTimer kind flagTimerSet
  · exact stands.noUpstreams
  · rw [object]
    cases kind <;> exact stands.mask
  · rw [registration, object]
    cases kind <;> exact stands.registered

/-- `epoll` looks at the socket again when the registration changes. -/
theorem Stands.modify {events after : EpollEvents} {eventType : EventType} {eventOP : EpollEvents}
    (stands : run.Stands events) (kind : TimerKind) (flagTimerSet : Bool)
    (current : eventType.change events eventOP = after) (changed : after ≠ events) (nonzero : events ≠ .zero)
    (nonempty : after ≠ .zero) :
    ∃ cycle, (run.setTimer kind flagTimerSet).modifyConnection eventType eventOP =
        (coOk, { run with cycle, ready := run.socket.readable }) ∧
      ({ run with cycle, ready := run.socket.readable } : ResponseRun Protocol).Stands after ∧
      cycle.objects run.connection = CoCycle.registered after (run.object.setTimer kind flagTimerSet).version
        (after.meets coEventRead) (after.meets coEventOut) (run.object.setTimer kind flagTimerSet) := by
  have timed := stands.setTimer kind flagTimerSet
  obtain ⟨cycle, called, requests, object, interest⟩ :=
    CoCycle.modifyConnection_changed timed.mask timed.registered current changed nonzero nonempty
  have before := object_setTimer run kind flagTimerSet
  have same : ({ run with cycle, ready := run.socket.readable } : ResponseRun Protocol).object =
      CoCycle.registered after (run.setTimer kind flagTimerSet).object.version (after.meets coEventRead)
        (after.meets coEventOut) (run.setTimer kind flagTimerSet).object := object
  refine ⟨cycle, ?_, ⟨?_, ?_, ?_, ?_⟩, before ▸ object⟩
  · have new : ¬(eventType.change (run.setTimer kind flagTimerSet).object.epollCurEvents eventOP =
        (run.setTimer kind flagTimerSet).object.epollCurEvents ∧
        (run.setTimer kind flagTimerSet).object.epollCurVersion = (run.setTimer kind flagTimerSet).object.version) := by
      rw [timed.mask, current]
      exact fun both => changed both.1
    rw [modifyConnection, called]
    exact if_neg new
  · rw [same]
    exact timed.serving.registered _ _ _ _
  · rw [requests]
    exact timed.noUpstreams
  · rw [same]
    rfl
  · rw [registration, same]
    exact interest

theorem Stands.unmodified {events : EpollEvents} {eventType : EventType} {eventOP : EpollEvents}
    (stands : run.Stands events) (kind : TimerKind) (flagTimerSet : Bool)
    (same : eventType.change events eventOP = events) (current : run.object.epollCurVersion = run.object.version) :
    (run.setTimer kind flagTimerSet).modifyConnection eventType eventOP = (coOk, run.setTimer kind flagTimerSet) := by
  have unchanged : eventType.change (run.setTimer kind flagTimerSet).object.epollCurEvents eventOP =
      (run.setTimer kind flagTimerSet).object.epollCurEvents ∧
      (run.setTimer kind flagTimerSet).object.epollCurVersion = (run.setTimer kind flagTimerSet).object.version := by
    rw [(stands.setTimer kind flagTimerSet).mask, object_setTimer]
    exact ⟨same, by cases kind <;> exact current⟩
  have kept : (run.setTimer kind flagTimerSet).cycle.modifyConnection run.connection eventType eventOP =
      (coOk, (run.setTimer kind flagTimerSet).cycle) := if_pos unchanged
  have result : (run.setTimer kind flagTimerSet).modifyConnection eventType eventOP =
      (((run.setTimer kind flagTimerSet).cycle.modifyConnection run.connection eventType eventOP).1,
        { run.setTimer kind flagTimerSet with
          cycle := ((run.setTimer kind flagTimerSet).cycle.modifyConnection run.connection eventType eventOP).2 }) :=
    if_pos unchanged
  rw [result, kept]

/-- An attempt whose request is sent; what there is of the response waits in the socket. -/
structure Written (response : Bytes) (run : ResponseRun Protocol) : Prop where
  /-- for writing, and on a connection that is reused for reading too -/
  stands : run.Stands coEventWrite ∨ run.Stands (coEventWrite.union coEventRead)
  unfinished : run.finalized = none
  awake : run.waiting = none
  unreported : run.reported = none
  unread : run.reads = []
  sent : run.socket.received ++ run.unsent = response
  fin : run.socket.fin = true → run.unsent = []

/-- Registered for reading only, the connection waits for the response. -/
theorem Written.awaits (written : Written response run) :
    ∃ cycle ready, run.written = { run with cycle, ready } ∧ cycle.AwaitsResponse run.connection run.request ∧
      (cycle.objects run.connection).coBuffer = run.object.coBuffer := by
  rcases written.stands with fresh | reused
  · -- a connection of its own has not been registered for reading before
    obtain ⟨cleaned, deleted, stands, object⟩ := fresh.modify .write false
      (by decide : EventType.change .del coEventWrite coEventOut = { epollrdhup := true }) (by decide) (by decide) (by decide)
    obtain ⟨cycle, added, awaits, last⟩ := stands.modify .read true
      (by decide : EventType.change .add { epollrdhup := true } coEventIn = coEventRead) (by decide) (by decide) (by decide)
    have cleanup : run.writeCleanup = { run with cycle := cleaned, ready := run.socket.readable } := by
      rw [writeCleanup, deleted]
      rfl
    refine ⟨cycle, run.socket.readable, ?_, ⟨awaits.serving, awaits.noUpstreams, ?_, awaits.registered⟩, ?_⟩
    · rw [ResponseRun.written, cleanup, upstreamRead, added]
      rfl
    · exact congrArg (fun object => object.readEvent.flagActive) last
    · have buffer := congrArg CoConnection.coBuffer object
      rw [last]
      exact buffer
  · -- a reused one still is
    obtain ⟨cleaned, deleted, stands, object⟩ := reused.modify .write false
      (by decide : EventType.change .del (coEventWrite.union coEventRead) coEventOut = coEventRead) (by decide) (by decide)
      (by decide)
    have cleanup : run.writeCleanup = { run with cycle := cleaned, ready := run.socket.readable } := by
      rw [writeCleanup, deleted]
      rfl
    have current := (congrArg CoConnection.epollCurVersion object).trans (congrArg CoConnection.version object).symm
    have added := stands.unmodified .read true (by decide : EventType.change .add coEventRead coEventIn = coEventRead) current
    have awaits := stands.setTimer .read true
    have timed : (({ run with cycle := cleaned, ready := run.socket.readable } : ResponseRun Protocol).setTimer .read
        true).cycle.objects run.connection = (cleaned.objects run.connection).setTimer .read true :=
      object_setTimer { run with cycle := cleaned, ready := run.socket.readable } .read true
    refine ⟨_, run.socket.readable, ?_, ⟨awaits.serving, awaits.noUpstreams, ?_, awaits.registered⟩, ?_⟩
    · rw [ResponseRun.written, cleanup, upstreamRead, added]
      rfl
    · rw [timed]
      exact congrArg (fun object => object.readEvent.flagActive) object
    · have buffer := congrArg CoConnection.coBuffer object
      rw [timed]
      exact buffer

theorem Written.reading (written : Written response run) :
    Reading decode run.protocol run.object.coBuffer response run.written := by
  obtain ⟨cycle, ready, same, awaits, buffer⟩ := written.awaits
  rw [same]
  have sent := written.sent
  refine ⟨⟨awaits, written.unfinished, ?_, written.fin, ?_⟩, ⟨run.object.coBuffer, ?_, ?_⟩, ?_, ?_⟩
  · simpa [written.unread] using sent
  · rw [written.unread]
    exact fun _ mem => absurd mem List.not_mem_nil
  · rw [written.unread]
    exact .none
  · rw [Holds, written.awake]
    exact buffer
  · intro report mem
    exact absurd (written.unreported ▸ mem) (Option.not_mem_none _)
  · intro suspended
    rw [written.awake] at suspended
    cases suspended

/-! ## Runs -/

section
variable {expected : Protocol} {events : List ResponseEvent} {final : ResponseRun Protocol}

theorem Decided.congr (decided : Decided decode first start response run) (finalized : next.finalized = run.finalized)
    (reads : next.reads = run.reads) (protocol : next.protocol = run.protocol) :
    Decided decode first start response next := by
  cases decided with
  | decoded code recv completes whole =>
    exact .decoded (finalized.trans code) (reads ▸ recv) (by rw [reads, protocol]; exact completes)
      (by rw [reads]; exact whole)
  | refused code failed recv refuses =>
    exact .refused (finalized.trans code) failed (reads ▸ recv) (by rw [reads]; exact refuses)

/-- Reports behind the end of an attempt are not its own any more. -/
theorem Ended.stays (ended : run.Ended) (ran : events.foldlM (ResponseRun.step calls) run = some final) :
    Lib.Along (ResponseRun.step calls) Undisturbed run events ∧ final.Ended ∧ final.finalized = run.finalized ∧
      final.reads = run.reads ∧ final.protocol = run.protocol := by
  induction events generalizing run with
  | nil =>
    cases ran
    exact ⟨trivial, ended, rfl, rfl, rfl⟩
  | cons event rest ih =>
    obtain ⟨next, stepped, ran⟩ := Lib.run_cons.1 ran
    obtain ⟨nextEnded, finalized, reads, protocol⟩ := ended.step stepped
    obtain ⟨along, finalEnded, same, sameReads, sameProtocol⟩ := ih nextEnded ran
    refine ⟨⟨?_, fun other steppedToo => ?_⟩, finalEnded, same.trans finalized, sameReads.trans reads,
      sameProtocol.trans protocol⟩
    · cases event with
      | processReport timestamp errnoAgain =>
        obtain ⟨memory, report, waiting, -⟩ := processReport_cases stepped
        cases ended.waiting.symm.trans waiting
      | turn | arrive | fin | epollWait | others => trivial
    · cases stepped.symm.trans steppedToo
      exact along

/-- A run that is not disturbed comes to its end by what it has read, and any other one fails. -/
theorem Reading.outcome (succeeds : calls.Succeeds) (reading : Reading calls.decode first start response run)
    (ran : events.foldlM (ResponseRun.step calls) run = some final) :
    Lib.Along (ResponseRun.step calls) Undisturbed run events ∧
        Proceeds calls.decode first start response final ∨
      ¬Lib.Along (ResponseRun.step calls) Undisturbed run events ∧ final.Ended ∧ final.Failed := by
  induction events generalizing run with
  | nil =>
    cases ran
    exact .inl ⟨trivial, .inl reading⟩
  | cons event rest ih =>
    obtain ⟨next, stepped, ran⟩ := Lib.run_cons.1 ran
    have only {other : ResponseRun Protocol} (same : run.step calls event = some other) : other = next :=
      Option.some.inj (same.symm.trans stepped)
    by_cases undisturbed : Undisturbed run event
    · rcases reading.step succeeds undisturbed stepped with goesOn | ⟨ended, decided⟩
      · refine (ih goesOn ran).imp (fun along => ⟨⟨undisturbed, fun other same => ?_⟩, along.2⟩) fun lost =>
          ⟨fun along => lost.1 (along.2 next stepped), lost.2⟩
        rw [only same]
        exact along.1
      · obtain ⟨along, finalEnded, finalized, reads, protocol⟩ := ended.stays ran
        refine .inl ⟨⟨undisturbed, fun other same => ?_⟩, .inr ⟨finalEnded, decided.congr finalized reads protocol⟩⟩
        rw [only same]
        exact along
    · obtain ⟨ended, retCode, code, failed⟩ := reading.disturbed succeeds undisturbed stepped
      obtain ⟨-, finalEnded, finalized, -, -⟩ := ended.stays ran
      exact .inr ⟨fun along => undisturbed along.1, finalEnded, retCode, finalized.trans code, failed⟩

end

/-! ## Progress -/

/-- Nothing happens to the attempt any more. -/
def Rests (calls : UpstreamCalls Protocol) (run : ResponseRun Protocol) : Prop :=
  ∀ event : ResponseEvent, event.own = true → run.step calls event = none

section
variable {expected : Protocol}

/-- A response that is understood does not stop a turn. -/
theorem Turning.received_isSome (turning : Turning calls.decode first start response memory run)
    (understood : Understood calls.decode first start response expected run.reads) {socket : ThirdSocket}
    (took : run.socket.recv bufferSize4096 = some (bytes, socket)) :
    ({ run with socket }.received calls bytes memory).isSome := by
  obtain ⟨short, front, -, -⟩ := ThirdSocket.recv_some took (by decide)
  obtain ⟨held, pending, expanded⟩ := turning.space
  have whole : (run.reads.map Prod.fst).flatten ++ (bytes ++ (socket.received ++ run.unsent)) = response := by
    rw [← List.append_assoc bytes, front, ← List.append_assoc, turning.sent]
  have object : ({ run with socket } : ResponseRun Protocol).object = run.object := rfl
  unfold ResponseRun.received
  by_cases empty : bytes = []
  · rw [empty]
    rfl
  · obtain ⟨coBuffer, arrived, decodes⟩ := pending.understood_piece (bytes, memory) understood ⟨empty, short⟩ whole
    obtain ⟨⟨ret, protocol, behind⟩, decoded⟩ := Option.isSome_iff_exists.1 decodes
    rw [object, ← CoBuffer.receive_expanded expanded, arrived]
    simp only [ne_eq, not_true_eq_false, if_false, decoded]
    split <;> rfl

theorem Turning.recv_isSome (turning : Turning calls.decode first start response memory run)
    (understood : Understood calls.decode first start response expected run.reads) (errnoAgain : Bool) :
    (run.recv calls memory errnoAgain).isSome := by
  unfold ResponseRun.recv
  rw [object, turning.awaits.serving.dying, if_neg Bool.false_ne_true]
  split
  · rfl
  · rename_i bytes socket took
    exact turning.received_isSome understood took

theorem Turning.swapIn_isSome (turning : Turning calls.decode first start response memory run)
    (understood : Understood calls.decode first start response expected run.reads) (errnoAgain : Bool) :
    (run.swapIn calls memory errnoAgain).isSome := by
  unfold ResponseRun.swapIn
  rw [object, turning.awaits.serving.dying, if_neg Bool.false_ne_true]
  split
  · rfl
  · rename_i bytes socket took
    exact turning.received_isSome understood took

theorem step_turn {grown : CoBuffer} {errnoAgain : Bool} (awake : run.waiting = none) (unfinished : run.finalized = none)
    (expanded : run.object.coBuffer.bufferExpand bufferSize4096 (some memory) = some (coOk, grown)) :
    run.step calls (.turn memory errnoAgain) = (run.setBuffer grown).recv calls memory errnoAgain := by
  simp [ResponseRun.step, awake, unfinished, expanded]

/-- Whatever a report says, it does not stop the attempt. -/
theorem Reading.report_isSome (reading : Reading calls.decode first start response run)
    (understood : Understood calls.decode first start response expected run.reads) {report : EpollReport}
    (reported : run.reported = some report) (timestamp : Nat) (errnoAgain : Bool) :
    (run.step calls (.processReport timestamp errnoAgain)).isSome := by
  obtain ⟨reads, suspended, -⟩ := reading.reported report reported
  obtain ⟨memory, waiting⟩ := Option.isSome_iff_exists.1 suspended
  obtain ⟨held, pending, holds⟩ := reading.pending
  rw [Holds, waiting] at holds
  have readable := reads.readable
  rw [← reads.revents] at readable
  cases fin : report.revents.epollrdhup with
  | true =>
    obtain ⟨half, after, dispatched, resumed, dying⟩ := reading.awaits.marked fin timestamp
    rw [step_processReport waiting reported reads.current dispatched resumed, ResponseRun.swapIn, object, if_pos dying]
    rfl
  | false =>
    rw [fin, Bool.or_false] at readable
    obtain ⟨half, resumed⟩ := reading.awaits.resumed readable fin timestamp
    have turning : Turning calls.decode first start response memory { run with reported := none } :=
      ⟨⟨reading.awaits, reading.unfinished, reading.sent, reading.fin, reading.readable⟩,
        ⟨held, pending, holds⟩, rfl⟩
    rw [step_processReport waiting reported reads.current half resumed]
    exact turning.swapIn_isSome understood errnoAgain

/-- While the response is understood, something happens until the attempt is at its end. -/
theorem Reading.progress (reading : Reading calls.decode first start response run)
    (understood : Understood calls.decode first start response expected run.reads) : ¬run.Rests calls := by
  intro rests
  obtain ⟨held, pending, holds⟩ := reading.pending
  cases waiting : run.waiting with
  | none =>
    -- what is to come is not empty, since `decode` has asked for more, so there is space for it
    have sent := reading.sent
    rw [Holds, waiting] at holds
    obtain ⟨byte, back, later⟩ : ∃ byte back, run.socket.received ++ run.unsent = byte :: back := by
      refine List.exists_cons_of_ne_nil fun drained => ?_
      rw [List.append_assoc, drained, List.append_nil] at sent
      exact (pending.refuses_end sent).not_understood understood
    rw [List.append_assoc, later] at sent
    obtain ⟨received, arrived, -⟩ := pending.understood_piece ([byte], ⟨0, []⟩) understood
      ⟨List.cons_ne_nil _ _, by simp⟩ sent
    obtain ⟨grown, expanded⟩ := CoBuffer.receive_space arrived
    have turning : Turning calls.decode first start response ⟨0, []⟩ (run.setBuffer grown) :=
      ⟨⟨reading.awaits.setBuffer grown, reading.unfinished, reading.sent, reading.fin, reading.readable⟩,
        ⟨held, pending, by rw [object_setBuffer]; exact expanded⟩, reading.unreported waiting⟩
    have goesOn := turning.recv_isSome understood false
    rw [← step_turn waiting reading.unfinished (holds ▸ expanded), rests _ rfl] at goesOn
    cases goesOn
  | some memory =>
    cases reported : run.reported with
    | some report =>
      have goesOn := reading.report_isSome understood reported 0 false
      rw [rests _ rfl] at goesOn
      cases goesOn
    | none =>
      cases fin : run.socket.fin with
      | false =>
        -- the peer goes on
        cases unsent : run.unsent with
        | nil =>
          have stuck := rests .fin rfl
          simp [ResponseRun.step, fin, unsent] at stuck
        | cons byte back =>
          have stuck := rests (.arrive 1) rfl
          simp [ResponseRun.step, fin, unsent] at stuck
      | true =>
        -- `epoll` has noticed the FIN
        have readable : run.socket.readable = true := by rw [ThirdSocket.readable, fin, Bool.or_true]
        have ready : run.ready = true := by
          rcases reading.noticed (by rw [waiting]; rfl) readable with ready | held
          · exact ready
          · rw [reported] at held
            cases held
        have stuck := rests .epollWait rfl
        simp [ResponseRun.step, waiting, reading.registered, reported, ready, EpollEvents.meets, ThirdSocket.events,
          coEventRead, readable] at stuck

end

/-- Nothing follows the end but the rest of the response and the FIN. -/
theorem Ended.rests (ended : run.Ended) (closed : run.socket.fin = true) : run.Rests calls := by
  intro event own
  cases event with
  | turn memory errnoAgain => exact if_pos (by simp [ended.finalized])
  | arrive count => exact if_pos (by simp [closed])
  | fin => exact if_pos (by simp [closed])
  | epollWait => simp [ResponseRun.step, ended.waiting]
  | processReport timestamp errnoAgain => simp [ResponseRun.step, ended.waiting]
  | others cycle => cases own

/-! ## Every schedule ends -/

/-- What can still happen: every byte may arrive on its own and be noticed, reported and read. -/
def remaining (run : ResponseRun Protocol) : Nat :=
  5 * run.unsent.length + 4 * (!run.socket.fin).toNat + run.socket.received.length +
    3 * (run.ready && (run.waiting.isSome || run.finalized.isNone)).toNat + 2 * run.reported.isSome.toNat +
    run.waiting.isNone.toNat + run.finalized.isNone.toNat

/-- What the end of a turn leaves alone: all but the buffer, `epoll` and the end itself. -/
structure TurnEnds (run next : ResponseRun Protocol) : Prop where
  unsent : next.unsent = run.unsent
  socket : next.socket = run.socket
  reported : next.reported = run.reported
  waiting : next.waiting = none
  finalized : next.finalized.isSome ∨ next.finalized = run.finalized ∧ next.ready = run.ready

theorem leave_ends (calls : UpstreamCalls Protocol) (run : ResponseRun Protocol) (ret : Int) :
    run.TurnEnds (run.leave calls ret) ∧ (run.leave calls ret).finalized.isSome := by
  obtain ⟨cycle, ready, cleaned⟩ :=
    modifyConnection_frame ({ run with waiting := none }.setTimer .read false) .del coEventIn
  unfold leave readCleanup
  dsimp only
  rw [cleaned]
  split
  · unfold upstreamProcess
    split
    · exact ⟨⟨rfl, rfl, rfl, rfl, .inl rfl⟩, rfl⟩
    · exact ⟨⟨rfl, rfl, rfl, rfl, .inl rfl⟩, rfl⟩
  · exact ⟨⟨rfl, rfl, rfl, rfl, .inl rfl⟩, rfl⟩

theorem received_ends (ran : run.received calls bytes memory = some next) :
    run.TurnEnds next ∧ (bytes = [] → next.finalized.isSome) := by
  unfold ResponseRun.received at ran
  split at ran
  · cases ran
  · rename_i ret coBuffer filled
    split at ran
    · cases ran
      obtain ⟨ends, finalized⟩ := leave_ends calls (run.setBuffer coBuffer) ret
      exact ⟨⟨ends.unsent, ends.socket, ends.reported, ends.waiting, .inl finalized⟩, fun _ => finalized⟩
    · rename_i ok
      have read : bytes ≠ [] := by
        rintro rfl
        cases filled
        exact ok (by decide)
      split at ran
      · cases ran
      · dsimp only at ran
        split at ran
        · cases ran
          exact ⟨⟨rfl, rfl, rfl, rfl, .inr ⟨rfl, rfl⟩⟩, fun empty => absurd empty read⟩
        · rename_i code protocol behind decoded again
          cases ran
          obtain ⟨ends, finalized⟩ := leave_ends calls { run.setBuffer behind with
            protocol, waiting := none, reads := run.reads ++ [(bytes, memory)] } code
          exact ⟨⟨ends.unsent, ends.socket, ends.reported, ends.waiting, .inl finalized⟩,
            fun empty => absurd empty read⟩

/-- An attempt at its end has the peer and the reports of before still to come. -/
def atEnd (run : ResponseRun Protocol) : ResponseRun Protocol := { run with waiting := none, finalized := some coOk }

theorem TurnEnds.remaining_eq (ends : run.TurnEnds next) (finalized : next.finalized.isSome) :
    next.remaining = run.atEnd.remaining := by
  obtain ⟨retCode, code⟩ := Option.isSome_iff_exists.1 finalized
  simp [remaining, atEnd, ends.unsent, ends.socket, ends.reported, ends.waiting, code]

/-- A turn that has read something is followed by the next one, or by the end. -/
theorem received_remaining {socket : ThirdSocket} (took : run.socket.recv bufferSize4096 = some (bytes, socket))
    (ran : { run with socket }.received calls bytes memory = some next) :
    next.remaining ≤ run.atEnd.remaining ∨
      next.remaining < ({ run with waiting := none } : ResponseRun Protocol).remaining := by
  obtain ⟨-, front, fin, -⟩ := ThirdSocket.recv_some took (by decide)
  obtain ⟨ends, closed⟩ := received_ends ran
  have shorter := congrArg List.length front
  rw [List.length_append] at shorter
  by_cases finalized : next.finalized.isSome
  · left
    rw [ends.remaining_eq finalized]
    simp only [remaining, atEnd, fin]
    omega
  · right
    obtain ⟨same, ready⟩ := ends.finalized.resolve_left finalized
    have read := List.length_pos_iff.2 fun empty => finalized (closed empty)
    simp only [remaining, ends.unsent, ends.socket, ends.reported, ends.waiting, same, ready, fin]
    omega

/-- The hook suspends the coroutine, or the turn comes to its end. -/
theorem recv_remaining {errnoAgain : Bool} (ran : run.recv calls memory errnoAgain = some next) :
    next = { run with waiting := some memory } ∨ next.remaining ≤ run.atEnd.remaining ∨
      next.remaining < ({ run with waiting := none } : ResponseRun Protocol).remaining := by
  unfold ResponseRun.recv at ran
  split at ran
  · cases ran
    obtain ⟨ends, finalized⟩ := leave_ends calls run (tcpReadFailed errnoAgain)
    exact .inr (.inl (ends.remaining_eq finalized).le)
  · split at ran
    · cases ran
      exact .inl rfl
    · rename_i bytes socket took
      exact .inr (received_remaining took ran)

theorem swapIn_remaining {errnoAgain : Bool} (ran : run.swapIn calls memory errnoAgain = some next) :
    next.remaining ≤ run.atEnd.remaining ∨
      next.remaining < ({ run with waiting := none } : ResponseRun Protocol).remaining := by
  unfold ResponseRun.swapIn at ran
  split at ran
  · cases ran
    obtain ⟨ends, finalized⟩ := leave_ends calls run (tcpReadFailed errnoAgain)
    exact .inl (ends.remaining_eq finalized).le
  · split at ran
    · cases ran
      obtain ⟨ends, finalized⟩ := leave_ends calls run coTimeout
      exact .inl (ends.remaining_eq finalized).le
    · rename_i bytes socket took
      exact received_remaining took ran

theorem atEnd_remaining (unfinished : run.finalized = none) (awake : run.waiting = none) :
    run.atEnd.remaining < run.remaining := by
  simp only [remaining, atEnd, unfinished, awake, Option.isNone_none, Option.isNone_some, Option.isSome_none, Bool.toNat_true,
    Bool.toNat_false, Bool.or_false, Bool.and_false]
  omega

theorem turn_remaining {errnoAgain : Bool} (stepped : run.step calls (.turn memory errnoAgain) = some next) :
    next.remaining < run.remaining := by
  simp only [ResponseRun.step] at stepped
  split at stepped
  · cases stepped
  · rename_i idle
    obtain ⟨awake, unfinished⟩ : run.waiting = none ∧ run.finalized = none := by simpa using idle
    have ends := atEnd_remaining unfinished awake
    split at stepped
    · cases stepped
    · rename_i ret coBuffer expanded
      have same : ({ run.setBuffer coBuffer with waiting := none } : ResponseRun Protocol).remaining = run.remaining := by
        simp only [remaining, setBuffer, awake]
      split at stepped
      · cases stepped
        obtain ⟨turnEnds, finalized⟩ := leave_ends calls (run.setBuffer coBuffer) coError
        exact (turnEnds.remaining_eq finalized).trans_lt ends
      · rcases recv_remaining stepped with rfl | ended | less
        · -- the coroutine waits, which it did not before
          simp [remaining, setBuffer, awake, unfinished]
        · exact ended.trans_lt ends
        · exact less.trans_eq same

theorem report_remaining {timestamp : Nat} {errnoAgain : Bool}
    (stepped : run.step calls (.processReport timestamp errnoAgain) = some next) : next.remaining < run.remaining := by
  obtain ⟨memory, report, waiting, reported, cycle, rfl | ran⟩ := processReport_cases stepped
  · simp [remaining, waiting, reported]
  · -- the report is gone, which pays for the turn that is not suspended any more
    rcases swapIn_remaining ran with ended | less
    · refine ended.trans_lt ?_
      simp only [remaining, ResponseRun.atEnd, waiting, reported]
      cases run.ready <;> cases run.finalized <;> simp
    · refine less.trans ?_
      simp only [remaining, waiting, reported]
      cases run.ready <;> cases run.finalized <;> simp

/-- Every step of the attempt uses up some of it, and nothing else does. -/
theorem step_remaining (stepped : run.step calls event = some next) :
    event.own = false ∧ next.remaining = run.remaining ∨ event.own = true ∧ next.remaining < run.remaining := by
  cases event with
  | others cycle =>
    cases stepped
    exact .inl ⟨rfl, rfl⟩
  | turn memory errnoAgain =>
    exact .inr ⟨rfl, turn_remaining stepped⟩
  | arrive count =>
    refine .inr ⟨rfl, ?_⟩
    simp only [ResponseRun.step] at stepped
    split at stepped
    · cases stepped
    · rename_i behind
      cases stepped
      simp only [Bool.or_eq_true, decide_eq_true_eq, not_or, Nat.not_lt] at behind
      have noticed := Bool.toNat_le ((run.ready || run.registration.isSome) && (run.waiting.isSome || run.finalized.isNone))
      simp only [remaining, List.length_append, List.length_take, List.length_drop]
      omega
  | fin =>
    refine .inr ⟨rfl, ?_⟩
    simp only [ResponseRun.step] at stepped
    split at stepped
    · cases stepped
    · rename_i behind
      cases stepped
      simp only [Bool.or_eq_true, not_or, Bool.not_eq_true] at behind
      have noticed := Bool.toNat_le ((run.ready || run.registration.isSome) && (run.waiting.isSome || run.finalized.isNone))
      simp only [remaining, behind.1, Bool.not_true, Bool.not_false, Bool.toNat_true, Bool.toNat_false]
      omega
  | epollWait =>
    refine .inr ⟨rfl, ?_⟩
    simp only [ResponseRun.step] at stepped
    split at stepped
    · rename_i memory registration waiting registered unreported
      split at stepped
      · rename_i met
        cases stepped
        have ready := (Bool.and_eq_true_iff.1 met).1
        simp [remaining, waiting, unreported, ready]
      · cases stepped
    · cases stepped
  | processReport timestamp errnoAgain =>
    exact .inr ⟨rfl, report_remaining stepped⟩

/-- No schedule goes on for ever. -/
theorem run_bounded {events : List ResponseEvent} {final : ResponseRun Protocol}
    (ran : events.foldlM (ResponseRun.step calls) run = some final) :
    events.countP ResponseEvent.own + final.remaining ≤ run.remaining := by
  induction events generalizing run with
  | nil =>
    cases ran
    simp
  | cons event rest ih =>
    obtain ⟨next, stepped, ran⟩ := Lib.run_cons.1 ran
    have later := ih ran
    rcases step_remaining stepped with ⟨other, same⟩ | ⟨own, less⟩
    · rw [List.countP_cons_of_neg (by rw [other]; exact Bool.false_ne_true)]
      omega
    · rw [List.countP_cons_of_pos own]
      omega

/-! ## The response -/

/-- `decode` has made of the whole response what is expected, and `upstream_finalize` was called
    with CO_OK. -/
structure Answered (response : Bytes) (expected : Protocol) (run : ResponseRun Protocol) : Prop where
  finalized : run.finalized = some coOk
  decoded : run.protocol = expected
  read : (run.reads.map Prod.fst).flatten = response

section
variable {expected : Protocol}

theorem Decided.answered_iff (decided : Decided decode first start response run) :
    run.Answered response expected ↔ Understood decode first start response expected run.reads := by
  cases decided with
  | @decoded left rest finalized _ completes whole =>
    constructor
    · rintro ⟨-, rfl, read⟩ more recv all
      -- behind the response there is nothing to read
      have empty : more = [] := by
        rw [List.map_append, List.flatten_append, read, List.append_right_eq_self, List.flatten_eq_nil_iff] at all
        refine List.eq_nil_iff_forall_not_mem.2 fun piece mem => ?_
        exact (recv piece mem).1 (all _ (List.mem_map_of_mem mem))
      rw [empty, List.append_nil]
      exact ⟨left, completes⟩
    · intro understood
      obtain ⟨pieces, recv, cut⟩ := exists_pieces rest
      obtain ⟨behind, longer⟩ := understood pieces recv (by
        rw [List.map_append, List.flatten_append, cut, whole])
      obtain ⟨empty, same⟩ := completes.unique longer
      rw [empty, List.map_nil, List.flatten_nil] at cut
      rw [← cut, List.append_nil] at whole
      exact ⟨finalized, same.symm, whole⟩
  | refused finalized failed _ refuses =>
    refine iff_of_false (fun answered => ?_) refuses.not_understood
    rw [answered.finalized] at finalized
    exact failed (Option.some.inj finalized).symm

end

/-- What is read is what the socket can return. -/
theorem Reading.readable_final (succeeds : calls.Succeeds) (reading : Reading calls.decode first start response run)
    {events : List ResponseEvent} {final : ResponseRun Protocol}
    (ran : events.foldlM (ResponseRun.step calls) run = some final)
    (along : Lib.Along (ResponseRun.step calls) Undisturbed run events) : Recv final.reads := by
  rcases reading.outcome succeeds ran with ⟨-, goesOn | ⟨-, decided⟩⟩ | ⟨disturbed, -⟩
  · exact goesOn.readable
  · cases decided with
    | decoded _ recv => exact recv
    | refused _ _ recv => exact recv
  · exact absurd along disturbed

end

end ResponseRun

open ResponseRun

/-- Where nothing more can happen, the response was decoded and `upstream_finalize` called with
    CO_OK exactly if no report that resumed the read carried the FIN, and `decode` makes of the
    response what is expected, in the pieces that were read and any others. -/
theorem response_answered_iff {Protocol : Type} {calls : UpstreamCalls Protocol} (succeeds : calls.Succeeds)
    {start final : ResponseRun Protocol} {response : Bytes} {expected : Protocol} (sent : start.Written response)
    {events : List ResponseEvent} (ran : events.foldlM (step calls) start.written = some final)
    (rests : final.Rests calls) :
    final.Answered response expected ↔ Lib.Along (step calls) Undisturbed start.written events ∧
      Understood calls.decode start.protocol start.object.coBuffer response expected final.reads := by
  have reading : start.written.Reading calls.decode start.protocol start.object.coBuffer response := sent.reading
  rcases reading.outcome succeeds ran with ⟨along, goesOn | ⟨-, decided⟩⟩ | ⟨disturbed, -, retCode, finalized, failed⟩
  · -- an attempt that still reads does not rest while the response is understood
    refine iff_of_false (fun answered => ?_) fun both => goesOn.progress both.2 rests
    cases goesOn.unfinished.symm.trans answered.finalized
  · exact decided.answered_iff.trans ⟨fun understood => ⟨along, understood⟩, And.right⟩
  · refine iff_of_false (fun answered => ?_) fun both => disturbed both.1
    exact failed (Option.some.inj (finalized.symm.trans answered.finalized))

/-! ## TCP upstreams -/

/-- `PROTOCOL_TCP_CLIENT` -/
def protocolTcpClient : Int := 101

/-- What an attempt of a TCP upstream calls; the user has set no function. -/
def tcpUpstream : UpstreamCalls CoProtocolTcp := { decode := CoProtocolTcp.decode }

theorem tcpUpstream_succeeds : tcpUpstream.Succeeds := fun _ set _ => absurd set (Option.not_mem_none _)

/-- A frame is understood in any pieces. -/
theorem tcp_understood {body : Bytes} {coBuffer : CoBuffer} {reads : List (Bytes × Block)} (protocol : CoProtocolTcp)
    (valid : coBuffer.Valid) (total : coBuffer.totalSize < 2 ^ 63) (empty : coBuffer.region = []) (nonempty : body ≠ [])
    (small : (frame body).length < 2 ^ 31) (recv : Recv reads) :
    Understood CoProtocolTcp.decode protocol coBuffer (frame body) (protocol.setDecodedBody body) reads := by
  intro more recvMore whole
  obtain ⟨left, completes, -⟩ := tcp_completes protocol (List.forall_mem_append.2 ⟨recv, recvMore⟩) valid total (by
    intro empty
    rw [empty, List.map_nil, List.flatten_nil] at whole
    exact frame_ne_nil body whole.symm) nonempty small (by rw [empty, List.nil_append, whole])
  exact ⟨left, completes⟩

/-- So a framed response is lost exactly where a report that resumes the read carries the FIN. -/
theorem tcp_answered_iff {start final : ResponseRun CoProtocolTcp} {body : Bytes} (sent : start.Written (frame body))
    (valid : start.object.coBuffer.Valid) (total : start.object.coBuffer.totalSize < 2 ^ 63)
    (empty : start.object.coBuffer.region = []) (nonempty : body ≠ []) (small : (frame body).length < 2 ^ 31)
    {events : List ResponseEvent} (ran : events.foldlM (step tcpUpstream) start.written = some final)
    (rests : final.Rests tcpUpstream) :
    final.Answered (frame body) (start.protocol.setDecodedBody body) ↔
      Lib.Along (step tcpUpstream) Undisturbed start.written events := by
  refine (response_answered_iff tcpUpstream_succeeds sent ran rests).trans ⟨And.left, fun along => ⟨along, ?_⟩⟩
  exact tcp_understood _ valid total empty nonempty small
    (Reading.readable_final tcpUpstream_succeeds sent.reading ran along)

/-- An attempt on a connection of its own, to a peer that will answer with one byte. -/
def sentRequest : ResponseRun CoProtocolTcp where
  cycle := {
    objects := fun _ => {
      connId := 7, version := 1, epollCurEvents := coEventWrite, epollCurVersion := 1,
      writeEvent := { flagActive := true }, coTcp := { socketfd := 9 }, request := some 0 }
    kernel := { interest := fun fd => if fd = 9 then some ⟨coEventWrite, 7, 1⟩ else none } }
  connection := 0
  request := 0
  protocol := { type := protocolTcpClient }
  unsent := frame [7]

theorem sentRequest_written : sentRequest.Written (frame [7]) where
  stands := .inl ⟨⟨⟨rfl, rfl, rfl, rfl⟩, rfl, rfl, rfl⟩, rfl, rfl, rfl⟩
  unfinished := rfl
  awake := rfl
  unreported := rfl
  unread := rfl
  sent := rfl
  fin := fun closed => by cases closed

/-- The response comes in two pieces, and the FIN behind the second of them. -/
theorem response_answered_pieces : ∃ final, [.turn ⟨4096, []⟩ false, .arrive 5, .epollWait, .processReport 0 false,
      .turn ⟨4096, []⟩ false, .arrive 4, .epollWait, .processReport 0 false, .fin].foldlM (step tcpUpstream)
        sentRequest.written = some final ∧
    final.Answered (frame [7]) (sentRequest.protocol.setDecodedBody [7]) := by
  have along : Lib.Along (step tcpUpstream) Undisturbed sentRequest.written [.turn ⟨4096, []⟩ false, .arrive 5, .epollWait,
      .processReport 0 false, .turn ⟨4096, []⟩ false, .arrive 4, .epollWait, .processReport 0 false, .fin] := by
    decide +kernel
  have ends : ([.turn ⟨4096, []⟩ false, .arrive 5, .epollWait, .processReport 0 false, .turn ⟨4096, []⟩ false,
      .arrive 4, .epollWait, .processReport 0 false, .fin].foldlM (step tcpUpstream) sentRequest.written).map (fun final =>
        (final.finalized.isSome, final.waiting.isNone, final.socket.fin)) = some (true, true, true) := by
    decide +kernel
  obtain ⟨final, ran, shown⟩ := Option.map_eq_some_iff.1 ends
  simp only [Prod.mk.injEq, Option.isNone_iff_eq_none] at shown
  have recv := Reading.readable_final tcpUpstream_succeeds sentRequest_written.reading ran along
  exact ⟨final, ran, (response_answered_iff tcpUpstream_succeeds sentRequest_written ran
    (Ended.rests ⟨shown.1, shown.2.1⟩ shown.2.2)).2 ⟨along,
      tcp_understood _ CoBuffer.valid_fresh (by decide) rfl (by decide)
      (by decide) recv⟩⟩

/-- The response and the FIN in one report, while the read waits: the attempt fails with the
    whole response in its socket. -/
theorem response_lost : sentRequest.Written (frame [7]) ∧
    ∃ (events : List ResponseEvent) (final : ResponseRun CoProtocolTcp),
    events.foldlM (step tcpUpstream) sentRequest.written = some final ∧ final.Rests tcpUpstream ∧
      final.socket.received = frame [7] ∧ final.finalized = some coError ∧
        ¬final.Answered (frame [7]) (sentRequest.protocol.setDecodedBody [7]) := by
  have ends : ([.turn ⟨4096, []⟩ false, .arrive 9, .fin, .epollWait, .processReport 0 false].foldlM (step tcpUpstream)
      sentRequest.written).map (fun final => (final.finalized, final.waiting.isNone, final.socket.fin,
        final.socket.received)) = some (some coError, true, true, frame [7]) := by
    decide +kernel
  obtain ⟨final, ran, shown⟩ := Option.map_eq_some_iff.1 ends
  simp only [Prod.mk.injEq, Option.isNone_iff_eq_none] at shown
  obtain ⟨finalized, waiting, closed, received⟩ := shown
  refine ⟨sentRequest_written, _, final, ran, Ended.rests ⟨by rw [finalized]; rfl, waiting⟩ closed, received, finalized,
    fun answered => ?_⟩
  cases finalized.symm.trans answered.finalized

end CoServer
