import CoServer.Core.KeepAlive

/-! # The reads of a message

A message is read in pieces, and after each of them `decode` is called: it asks for
more, has the whole message, or fails.  What it does with the rest of a message only
depends on what it has made of the pieces so far. -/

namespace CoServer

open ClientConnection (Recv)

/-- After each of these reads `decode` has asked for more. -/
inductive Pending {Protocol : Type} (decode : Protocol → CoBuffer → Option (Int × Protocol × CoBuffer)) :
    Protocol → CoBuffer → List (Bytes × Block) → Protocol → CoBuffer → Prop
  | none {protocol : Protocol} {coBuffer : CoBuffer} : Pending decode protocol coBuffer [] protocol coBuffer
  | more {protocol after last : Protocol} {coBuffer received behind left : CoBuffer} {arrival : Bytes × Block}
      {rest : List (Bytes × Block)} :
      coBuffer.receive arrival = some (coOk, received) → decode protocol received = some (coAgain, after, behind) →
        Pending decode after behind rest last left → Pending decode protocol coBuffer (arrival :: rest) last left

section
variable {Protocol : Type} {decode : Protocol → CoBuffer → Option (Int × Protocol × CoBuffer)}
  {first protocol after last other : Protocol} {coBuffer held received left behind : CoBuffer}
  {reads more : List (Bytes × Block)} {arrival : Bytes × Block}

theorem Pending.again (pending : Pending decode first coBuffer reads protocol held)
    (arrived : held.receive arrival = some (coOk, received))
    (decoded : decode protocol received = some (coAgain, after, left)) :
    Pending decode first coBuffer (reads ++ [arrival]) after left := by
  induction pending with
  | none => exact .more arrived decoded .none
  | more before asked _ ih => exact .more before asked (ih arrived decoded)

theorem Pending.completes (pending : Pending decode first coBuffer reads protocol held)
    (arrived : held.receive arrival = some (coOk, received))
    (decoded : decode protocol received = some (coOk, last, left)) :
    Completes decode first coBuffer (reads ++ [arrival]) last left := by
  induction pending with
  | none => exact .last arrived decoded
  | more before asked _ ih => exact .more before asked (ih arrived decoded)

/-- The first read of a message is its last one, or asks for more. -/
theorem Completes.head {rest : List (Bytes × Block)}
    (completes : Completes decode first coBuffer (arrival :: rest) last left) :
    ∃ received, coBuffer.receive arrival = some (coOk, received) ∧
      (rest = [] ∧ decode first received = some (coOk, last, left) ∨
        ∃ after behind, decode first received = some (coAgain, after, behind) ∧
          Completes decode after behind rest last left) := by
  generalize all : arrival :: rest = reads at completes
  cases completes with
  | last arrived decoded =>
    cases all
    exact ⟨_, arrived, .inl ⟨rfl, decoded⟩⟩
  | more arrived asked later =>
    cases all
    exact ⟨_, arrived, .inr ⟨_, _, asked, later⟩⟩

theorem Completes.done (completes : Completes decode first coBuffer (arrival :: more) other left)
    (arrived : coBuffer.receive arrival = some (coOk, received))
    (decoded : decode first received = some (coOk, last, behind)) : more = [] ∧ other = last := by
  obtain ⟨bytes, again, ⟨nothing, done⟩ | ⟨asking, waiting, asks, -⟩⟩ := completes.head
  · cases arrived.symm.trans again
    cases decoded.symm.trans done
    exact ⟨nothing, rfl⟩
  · cases arrived.symm.trans again
    cases decoded.symm.trans asks

theorem Completes.later (completes : Completes decode first coBuffer (arrival :: more) last left)
    (arrived : coBuffer.receive arrival = some (coOk, received))
    (asked : decode first received = some (coAgain, after, behind)) : Completes decode after behind more last left := by
  obtain ⟨bytes, again, ⟨-, done⟩ | ⟨asking, waiting, asks, later⟩⟩ := completes.head
  · cases arrived.symm.trans again
    cases asked.symm.trans done
  · cases arrived.symm.trans again
    cases asked.symm.trans asks
    exact later

/-- A message that is completed later is completed from where the reads are. -/
theorem Pending.rest (pending : Pending decode first coBuffer reads protocol held)
    (completes : Completes decode first coBuffer (reads ++ more) last left) :
    Completes decode protocol held more last left := by
  induction pending with
  | none => exact completes
  | more before asked _ ih => exact ih (completes.later before asked)

theorem Completes.ne_nil (completes : Completes decode first coBuffer reads last left) : reads ≠ [] := by
  cases completes <;> exact List.cons_ne_nil _ _

/-- A message is completed once, and by the last of its reads. -/
theorem Completes.unique (completes : Completes decode first coBuffer reads last left)
    (longer : Completes decode first coBuffer (reads ++ more) other behind) : more = [] ∧ other = last := by
  -- both derivations take the same reads, so they ask for more at the same ones
  induction completes with
  | last arrived decoded => exact longer.done arrived decoded
  | more arrived asked _ ih => exact ih (longer.later arrived asked)

/-- A message that is not completed yet is not complete without another read. -/
theorem Pending.not_completes (pending : Pending decode first coBuffer reads protocol held) :
    ¬Completes decode first coBuffer reads last left := by
  intro completes
  rw [← List.append_nil reads] at completes
  exact (pending.rest completes).ne_nil rfl

/-- `recv` can return these bytes in some pieces. -/
theorem exists_pieces (bytes : Bytes) : ∃ pieces, Recv pieces ∧ (pieces.map Prod.fst).flatten = bytes := by
  refine ⟨bytes.map fun byte => ([byte], ⟨0, []⟩), fun piece mem => ?_, ?_⟩
  · obtain ⟨byte, -, rfl⟩ := List.mem_map.1 mem
    exact ⟨List.cons_ne_nil _ _, by simp⟩
  · induction bytes with
    | nil => rfl
    | cons byte bytes ih =>
      rw [List.map_cons, List.map_cons, List.flatten_cons, ih]
      rfl

/-- The reads so far can be followed by ones that complete no message. -/
def Refuses (decode : Protocol → CoBuffer → Option (Int × Protocol × CoBuffer)) (first : Protocol) (coBuffer : CoBuffer)
    (response : Bytes) (reads : List (Bytes × Block)) : Prop :=
  ∃ more, Recv more ∧ ((reads ++ more).map Prod.fst).flatten = response ∧
    ∀ last left, ¬Completes decode first coBuffer (reads ++ more) last left

/-- Whatever pieces the rest of the response is read in, `decode` makes of it what is expected. -/
def Understood (decode : Protocol → CoBuffer → Option (Int × Protocol × CoBuffer)) (first : Protocol)
    (coBuffer : CoBuffer) (response : Bytes) (expected : Protocol) (reads : List (Bytes × Block)) : Prop :=
  ∀ more, Recv more → ((reads ++ more).map Prod.fst).flatten = response →
    ∃ left, Completes decode first coBuffer (reads ++ more) expected left

section
variable {response rest back : Bytes} {expected : Protocol}

theorem Refuses.not_understood (refuses : Refuses decode first coBuffer response reads) :
    ¬Understood decode first coBuffer response expected reads := by
  obtain ⟨more, recv, whole, never⟩ := refuses
  intro understood
  obtain ⟨left, completes⟩ := understood more recv whole
  exact never _ _ completes

/-- Nothing is left to be read, and `decode` has asked for more. -/
theorem Pending.refuses_end (pending : Pending decode first coBuffer reads protocol held)
    (whole : (reads.map Prod.fst).flatten = response) : Refuses decode first coBuffer response reads := by
  refine ⟨[], fun _ mem => absurd mem List.not_mem_nil, ?_, fun last left completes => ?_⟩
  · rw [List.append_nil, whole]
  · rw [List.append_nil] at completes
    exact pending.not_completes completes

/-- A piece of the rest that completes no message, whatever follows it. -/
theorem Pending.refuses_piece (arrival : Bytes × Block) (pending : Pending decode first coBuffer reads protocol held)
    (readable : arrival.1 ≠ [] ∧ arrival.1.length ≤ 4096)
    (whole : (reads.map Prod.fst).flatten ++ (arrival.1 ++ back) = response)
    (never : ∀ more last left, ¬Completes decode protocol held (arrival :: more) last left) :
    Refuses decode first coBuffer response reads := by
  obtain ⟨pieces, recv, cut⟩ := exists_pieces back
  refine ⟨arrival :: pieces, ?_, ?_, fun last left completes => never _ _ _ (pending.rest completes)⟩
  · exact List.forall_mem_cons.2 ⟨readable, recv⟩
  · rw [List.map_append, List.flatten_append, List.map_cons, List.flatten_cons, cut, whole]

/-- A read that was not understood. -/
theorem Pending.refuses_after (pending : Pending decode first coBuffer reads protocol held) {ret : Int}
    (arrived : held.receive arrival = some (coOk, received)) (decoded : decode protocol received = some (ret, after, left))
    (notOk : ret ≠ coOk) (notAgain : ret ≠ coAgain)
    (whole : (reads.map Prod.fst).flatten ++ (arrival.1 ++ back) = response) :
    Refuses decode first coBuffer response (reads ++ [arrival]) := by
  obtain ⟨pieces, recv, cut⟩ := exists_pieces back
  refine ⟨pieces, recv, ?_, fun last left completes => ?_⟩
  · rw [List.append_assoc, List.singleton_append, List.map_append, List.flatten_append, List.map_cons,
      List.flatten_cons, cut, whole]
  · rw [List.append_assoc, List.singleton_append] at completes
    -- a message goes on behind this read only if `decode` has taken it or asked for more
    obtain ⟨other, again, ⟨-, done⟩ | ⟨later, behind, asked, -⟩⟩ := (pending.rest completes).head
    · cases arrived.symm.trans again
      cases decoded.symm.trans done
      exact notOk rfl
    · cases arrived.symm.trans again
      cases decoded.symm.trans asked
      exact notAgain rfl

/-- The next piece of a response that is understood can be received and decoded. -/
theorem Pending.understood_piece (arrival : Bytes × Block) (pending : Pending decode first coBuffer reads protocol held)
    (understood : Understood decode first coBuffer response expected reads)
    (readable : arrival.1 ≠ [] ∧ arrival.1.length ≤ 4096)
    (whole : (reads.map Prod.fst).flatten ++ (arrival.1 ++ back) = response) :
    ∃ received, held.receive arrival = some (coOk, received) ∧ (decode protocol received).isSome := by
  by_contra never
  refine (pending.refuses_piece arrival readable whole fun more last left completes => never ?_).not_understood understood
  obtain ⟨received, arrived, ⟨-, decoded⟩ | ⟨after, behind, decoded, -⟩⟩ := completes.head
  · exact ⟨received, arrived, by rw [decoded]; rfl⟩
  · exact ⟨received, arrived, by rw [decoded]; rfl⟩

end

theorem CoBuffer.receive_space {memory : Block} {bytes : Bytes}
    (arrived : held.receive (bytes, memory) = some (coOk, received)) :
    ∃ grown, held.bufferExpand bufferSize4096 (some memory) = some (coOk, grown) := by
  unfold CoBuffer.receive at arrived
  split at arrived
  · cases arrived
  · rename_i ret grown expanded
    split at arrived
    · rename_i failed
      cases arrived
      exact absurd rfl failed
    · rename_i ok
      exact ⟨grown, not_not.1 ok ▸ expanded⟩

/-- Without space nothing can be read. -/
theorem Pending.refuses_space {memory : Block} {response rest : Bytes} {ret : Int} {grown : CoBuffer}
    (pending : Pending decode first coBuffer reads protocol held)
    (expanded : held.bufferExpand bufferSize4096 (some memory) = some (ret, grown)) (failed : ret ≠ coOk)
    (whole : (reads.map Prod.fst).flatten ++ rest = response) : Refuses decode first coBuffer response reads := by
  cases rest with
  | nil =>
    rw [List.append_nil] at whole
    exact pending.refuses_end whole
  | cons byte back =>
    -- one byte of the rest is enough, since `realloc` does not look at it
    refine pending.refuses_piece ([byte], memory) ⟨List.cons_ne_nil _ _, by simp⟩ whole fun more last left completes => ?_
    obtain ⟨received, arrived, -⟩ := completes.head
    obtain ⟨space, made⟩ := CoBuffer.receive_space arrived
    cases expanded.symm.trans made
    exact failed rfl

end

end CoServer
