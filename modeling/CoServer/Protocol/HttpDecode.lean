import CoServer.Protocol.HttpReader

/-! # One call of `decode`

`HttpSide.Lawful` lists what the decoder relies on in a side, and gives the side
its reader.  `Lawful.decode_reads` is the only lemma about `decode` that later
proofs use: unless the reader meets a failure, `decode` reads what has arrived,
or it has stopped `AtBlank` and gone on to the body too early. -/

namespace CoServer

open Lib (memchr Reader)

namespace HttpSide

variable {Message : Type}

structure Lawful (side : HttpSide Message) (chunks : Bool) : Prop where
  base_withBase (message : Message) (base : CoProtocolHttp) : side.base (side.withBase message base) = base
  withBase_base (message : Message) : side.withBase message (side.base message) = message
  withBase_withBase (message : Message) (first second : CoProtocolHttp) :
    side.withBase (side.withBase message first) second = side.withBase message second
  startline_wait (message : Message) {buffer : Bytes} :
    lf ∉ buffer → side.parseStartline message buffer = some (0, message)
  startline_line (message : Message) {front back : Bytes} :
    lf ∉ front → side.parseStartline message (front ++ lf :: back) = side.parseStartline message (front ++ [lf])
  startline_length {message after : Message} {front : Bytes} {parsedLen : Int} :
    lf ∉ front → side.parseStartline message (front ++ [lf]) = some (parsedLen, after) →
      parsedLen = -1 ∨ parsedLen = front.length + 1
  endHeader_status {base after : CoProtocolHttp} :
    side.endHeader base = some after → after.parseStatus = base.parseStatus
  parseBody_reads {base : CoProtocolHttp} {pending : Bytes} :
    base.parseStatus = .eContent → base.Sized → pending.length < 2 ^ 31 →
      (∃ rest, (bodyReader chunks).Reads (some base) pending none rest) ∨
      ∃ taken after, side.parseBody base pending pending.length = some (.ok (taken : Nat), after) ∧
        taken ≤ pending.length ∧ (bodyReader chunks).Reads (some base) pending (some after) (pending.drop taken) ∧
        (bodyReader chunks).Waits (some after) (pending.drop taken) ∧ after.InBody

/-- The next item of a message; `none` is a failure. -/
def itemNext (side : HttpSide Message) (chunks : Bool) :
    Option Message → Bytes → Option (Option Message × Nat)
  | none, _ => none
  | some message, pending =>
    match (side.base message).parseStatus with
    | .eStartLine =>
      if lf ∉ pending then none
      else
        match side.parseStartline message pending with
        | none => some (none, 0)
        | some (parsedLen, message) =>
          if parsedLen ≤ 0 then some (none, 0)
          else some (some (side.withBase message { side.base message with parseStatus := .eHeader }),
            parsedLen.toNat)
    | .eHeader =>
      if lf ∉ pending then none
      else
        let (headerLen, base) := parseHeader (side.base message) pending
        let ended := if pending.head? = some cr ∨ pending.head? = some lf then
            side.endHeader { base with parseStatus := .eContent }
          else some base
        some (ended.map (side.withBase message), headerLen)
    | .eContent =>
      (bodyNext chunks (some (side.base message)) pending).map fun (base, count) =>
        (base.map (side.withBase message), count)
    | .eCompleted | .eError => none

section
variable {side : HttpSide Message} {chunks : Bool}

theorem Lawful.itemNext_bounded (law : side.Lawful chunks) {state after : Option Message} {pending : Bytes}
    {count : Nat} (hnext : side.itemNext chunks state pending = some (after, count)) : count ≤ pending.length := by
  cases state with
  | none => cases hnext
  | some message =>
    simp only [itemNext] at hnext
    split at hnext
    · split at hnext
      · cases hnext
      · rename_i hmem
        obtain ⟨front, back, rfl, habsent⟩ := split_line (not_not.mp hmem)
        rw [law.startline_line message habsent] at hnext
        split at hnext
        · cases hnext
          exact Nat.zero_le _
        · rename_i parsedLen next hparse
          split at hnext
          · cases hnext
            exact Nat.zero_le _
          · cases hnext
            have hlength := law.startline_length habsent hparse
            simp only [List.length_append, List.length_cons]
            omega
    · split at hnext
      · cases hnext
      · rename_i hmem
        obtain ⟨front, back, rfl, habsent⟩ := split_line (not_not.mp hmem)
        cases hnext
        rw [parseHeader_length _ habsent]
        simp only [List.length_append, List.length_cons]
        omega
    · cases hbody : bodyNext chunks (some (side.base message)) pending with
      | none =>
        rw [hbody] at hnext
        cases hnext
      | some result =>
        obtain ⟨base, taken⟩ := result
        have hread : (bodyReader chunks).next (some (side.base message)) pending = some (base, taken) := hbody
        rw [hbody] at hnext
        cases hnext
        exact (bodyReader chunks).bounded hread
    · cases hnext
    · cases hnext

theorem Lawful.itemNext_stable (law : side.Lawful chunks) {state after : Option Message} {pending : Bytes}
    {count : Nat} (hnext : side.itemNext chunks state pending = some (after, count)) (more : Bytes) :
    side.itemNext chunks state (pending ++ more) = some (after, count) := by
  cases state with
  | none => cases hnext
  | some message =>
    simp only [itemNext] at hnext ⊢
    split at hnext
    · rename_i hstatus
      split at hnext
      · cases hnext
      · rename_i hmem
        have hmem' : ¬lf ∉ pending ++ more := not_not.mpr (List.mem_append_left _ (not_not.mp hmem))
        obtain ⟨front, back, rfl, habsent⟩ := split_line (not_not.mp hmem)
        rw [law.startline_line message habsent] at hnext
        rw [if_neg hmem', List.append_assoc, List.cons_append, law.startline_line message habsent]
        exact hnext
    · rename_i hstatus
      split at hnext
      · cases hnext
      · rename_i hmem
        have hmem' : ¬lf ∉ pending ++ more := not_not.mpr (List.mem_append_left _ (not_not.mp hmem))
        obtain ⟨front, back, rfl, habsent⟩ := split_line (not_not.mp hmem)
        have hhead : (front ++ lf :: back ++ more).head? = (front ++ lf :: back).head? := by
          rw [List.head?_append_of_ne_nil _ (by simp)]
        rw [parseHeader_line _ habsent] at hnext
        rw [if_neg hmem', hhead, List.append_assoc, List.cons_append, parseHeader_line _ habsent]
        exact hnext
    · rename_i hstatus
      cases hbody : bodyNext chunks (some (side.base message)) pending with
      | none =>
        rw [hbody] at hnext
        cases hnext
      | some result =>
        obtain ⟨base, taken⟩ := result
        have hread : (bodyReader chunks).next (some (side.base message)) pending = some (base, taken) := hbody
        have hmore : bodyNext chunks (some (side.base message)) (pending ++ more) = some (base, taken) :=
          (bodyReader chunks).stable hread more
        rw [hbody] at hnext
        rw [hmore]
        exact hnext
    · cases hnext
    · cases hnext

def Lawful.reader (law : side.Lawful chunks) : Reader (Option Message) UInt8 where
  next := side.itemNext chunks
  bounded := law.itemNext_bounded
  stable := law.itemNext_stable

theorem Lawful.final_failed (law : side.Lawful chunks) : law.reader.Final none := fun _ => rfl

theorem Lawful.final_completed (law : side.Lawful chunks) {message : Message}
    (hstatus : (side.base message).parseStatus = .eCompleted) : law.reader.Final (some message) := by
  intro pending
  simp only [Reader.Waits, Lawful.reader, itemNext, hstatus]

/-- What is read of a body is read of its message. -/
theorem Lawful.reads_body (law : side.Lawful chunks) (message : Message) {state after : Option CoProtocolHttp}
    {pending rest : Bytes} (hreads : (bodyReader chunks).Reads state pending after rest) :
    law.reader.Reads (state.map (side.withBase message)) pending (after.map (side.withBase message)) rest := by
  induction hreads with
  | done => exact .done
  | @take state mid final pending rest count hnext _ ih =>
    apply Reader.Reads.take _ ih
    cases state with
    | none => cases hnext
    | some base =>
      have hstatus : base.parseStatus = .eContent := by
        by_contra hother
        have hfinal : bodyNext chunks (some base) pending = none := if_pos hother
        exact absurd (hnext.symm.trans hfinal) nofun
      have hbody : bodyNext chunks (some base) pending = some (mid, count) := hnext
      have hagain : side.withBase (side.withBase message base) = side.withBase message :=
        funext fun other => law.withBase_withBase message base other
      simp only [Lawful.reader, Option.map_some, itemNext, law.base_withBase, hstatus, hbody, hagain]

theorem Lawful.waits_body (law : side.Lawful chunks) {message : Message} {rest : Bytes}
    (hwaits : (bodyReader chunks).Waits (some (side.base message)) rest)
    (hinBody : (side.base message).InBody) : law.reader.Waits (some message) rest := by
  have hbody : bodyNext chunks (some (side.base message)) rest = none := hwaits
  cases hinBody with
  | inl hcontent => simp only [Reader.Waits, Lawful.reader, itemNext, hcontent, hbody, Option.map_none]
  | inr hcompleted => exact law.final_completed hcompleted rest

/-- Once in its body, a message stays there. -/
theorem Lawful.reads_inBody (law : side.Lawful chunks) {state final : Option Message} {pending rest : Bytes}
    (hreads : law.reader.Reads state pending final rest)
    (hbody : ∀ message, state = some message → (side.base message).InBody) :
    ∀ message, final = some message → (side.base message).InBody := by
  induction hreads with
  | done => exact hbody
  | @take state mid final pending rest count hnext _ ih =>
    apply ih
    intro message hmid
    subst hmid
    cases state with
    | none => cases hnext
    | some before =>
      have hbefore := hbody before rfl
      cases hbefore with
      | inl hcontent =>
        simp only [Lawful.reader, itemNext, hcontent] at hnext
        obtain ⟨⟨base, taken⟩, hitem, hsome⟩ := Option.map_eq_some_iff.mp hnext
        cases base with
        | none => cases hsome
        | some base =>
          cases hsome
          rw [law.base_withBase]
          exact bodyNext_inBody (.inl hcontent) hitem
      | inr hcompleted => cases hnext.symm.trans (law.final_completed hcompleted pending)

theorem not_header_of_inBody {message : Message} (hbody : (side.base message).InBody) :
    ¬((side.base message).parseStatus = .eHeader) := by
  intro hheader
  cases hbody with
  | inl hcontent => exact absurd (hcontent.symm.trans hheader) nofun
  | inr hcompleted => exact absurd (hcompleted.symm.trans hheader) nofun

/-- The headers have not ended, and a CR is the first of what has arrived of the
    next line. -/
def AtBlank (side : HttpSide Message) (message : Message) (rest : Bytes) : Prop :=
  (side.base message).parseStatus = .eHeader ∧ lf ∉ rest ∧ rest.head? = some cr

/-- What the loop over the headers does at the end of what has arrived. -/
inductive HeaderStop (side : HttpSide Message) (base : CoProtocolHttp) (rest : Bytes) (parsedLen : Nat) :
    Option (Nat × CoProtocolHttp) → Prop
  | ended (hstatus : base.parseStatus = .eContent) : HeaderStop side base rest parsedLen (some (parsedLen, base))
  | waiting (hstatus : base.parseStatus = .eHeader) (habsent : lf ∉ rest) (hhead : rest.head? ≠ some cr) :
      HeaderStop side base rest parsedLen (some (parsedLen, base))
  | blank (hstatus : base.parseStatus = .eHeader) (habsent : lf ∉ rest) (hhead : rest.head? = some cr) :
      HeaderStop side base rest parsedLen
        ((side.endHeader { base with parseStatus := .eContent }).map fun base => (parsedLen, base))

/-- After the last header the loop stops. -/
theorem parseHeaders_stop {endHeader : CoProtocolHttp → Option CoProtocolHttp} {turns parsedLen : Nat}
    {base : CoProtocolHttp} (pending : Bytes) (hstatus : base.parseStatus ≠ .eHeader) :
    parseHeaders endHeader (turns + 1) base pending parsedLen = some (parsedLen, base) := by
  cases pending with
  | nil => rfl
  | cons ch pending =>
    simp only [parseHeaders]
    rw [if_pos hstatus]

/-- The loop reads the header lines that have arrived. -/
theorem Lawful.parseHeaders_reads (law : side.Lawful chunks) (message : Message) {turns : Nat}
    {base : CoProtocolHttp} {pending : Bytes} (hstatus : base.parseStatus = .eHeader)
    (hturns : pending.length < turns) (parsedLen : Nat) :
    ((∃ rest, law.reader.Reads (some (side.withBase message base)) pending none rest) ∧
      parseHeaders side.endHeader turns base pending parsedLen = none) ∨
    ∃ taken after, taken ≤ pending.length ∧
      law.reader.Reads (some (side.withBase message base)) pending (some (side.withBase message after))
        (pending.drop taken) ∧
      HeaderStop side after (pending.drop taken) (parsedLen + taken)
        (parseHeaders side.endHeader turns base pending parsedLen) := by
  induction turns generalizing base pending parsedLen with
  | zero => exact absurd hturns (Nat.not_lt_zero _)
  | succ turns ih =>
    cases hpending : pending with
    | nil => exact .inr ⟨0, base, Nat.le_refl _, .done, .waiting hstatus List.not_mem_nil (Option.some_ne_none cr).symm⟩
    | cons ch tail =>
      simp only [parseHeaders]
      rw [if_neg (not_not.mpr hstatus), ← hpending]
      have hhead : pending.head? = some ch := by rw [hpending]; rfl
      by_cases hmem : lf ∈ pending
      · -- a whole line has arrived: one item of the reader
        obtain ⟨front, back, hline, habsent⟩ := split_line hmem
        have hlen : (parseHeader base pending).1 = front.length + 1 := by
          rw [hline]
          exact parseHeader_length base habsent
        have hfits : front.length + 1 ≤ pending.length := by
          rw [hline, List.length_append, List.length_cons]
          omega
        have hitem : law.reader.next (some (side.withBase message base)) pending =
            some ((if ch = cr ∨ ch = lf then
                side.endHeader { (parseHeader base pending).2 with parseStatus := .eContent }
              else some (parseHeader base pending).2).map (side.withBase message), front.length + 1) := by
          have hagain : side.withBase (side.withBase message base) = side.withBase message :=
            funext fun other => law.withBase_withBase message base other
          simp only [Lawful.reader, itemNext, law.base_withBase, hstatus, hhead, Option.some.injEq, hlen, hagain]
          rw [if_neg (not_not.mpr hmem)]
        have hdrop : (pending.drop (front.length + 1)).length < turns := by
          rw [List.length_drop]
          omega
        simp only [hlen]
        by_cases hend : ch = cr ∨ ch = lf
        · rw [if_pos hend] at hitem ⊢
          cases hended : side.endHeader { (parseHeader base pending).2 with parseStatus := .eContent } with
          | none =>
            rw [hended] at hitem
            exact .inl ⟨⟨_, .one hitem⟩, rfl⟩
          | some after =>
            rw [hended] at hitem
            have hafter : after.parseStatus = .eContent := law.endHeader_status hended
            -- the status ends the loop in its next turn
            obtain ⟨more, rfl⟩ : ∃ more, turns = more + 1 := ⟨turns - 1, by omega⟩
            refine .inr ⟨front.length + 1, after, hfits, .one hitem, ?_⟩
            simp only
            rw [if_neg (Nat.succ_ne_zero _), parseHeaders_stop _ (by rw [hafter]; decide)]
            exact .ended hafter
        · rw [if_neg hend] at hitem ⊢
          simp only
          rw [if_neg (Nat.succ_ne_zero _)]
          rcases @ih (parseHeader base pending).2 (pending.drop (front.length + 1))
              (by rw [parseHeader_status]; exact hstatus) hdrop (parsedLen + (front.length + 1)) with
            ⟨⟨rest, hfailed⟩, hnone⟩ | ⟨taken, after, htaken, hreads, hstop⟩
          · exact .inl ⟨⟨rest, .take hitem hfailed⟩, hnone⟩
          · rw [List.drop_drop] at hreads hstop
            rw [List.length_drop] at htaken
            rw [Nat.add_assoc parsedLen] at hstop
            exact .inr ⟨front.length + 1 + taken, after, by omega, .take hitem hreads, hstop⟩
      · -- the last line has not arrived, but its first byte may end the head already
        rw [parseHeader_wait base hmem]
        simp only
        by_cases hend : ch = cr ∨ ch = lf
        · rw [if_pos hend]
          have hcr : pending.head? = some cr := by
            cases hend with
            | inl hcr => rw [hhead, hcr]
            | inr hlf =>
              rw [hpending, hlf] at hmem
              exact absurd List.mem_cons_self hmem
          refine .inr ⟨0, base, Nat.zero_le _, .done, ?_⟩
          have hstop : HeaderStop side base pending parsedLen
              ((side.endHeader { base with parseStatus := .eContent }).map fun base => (parsedLen, base)) :=
            .blank hstatus hmem hcr
          cases hended : side.endHeader { base with parseStatus := .eContent } with
          | none =>
            rw [hended] at hstop
            exact hstop
          | some after =>
            rw [hended] at hstop
            exact hstop
        · rw [if_neg hend]
          simp only
          rw [if_pos trivial]
          refine .inr ⟨0, base, Nat.zero_le _, .done, .waiting hstatus hmem ?_⟩
          rw [List.drop_zero, hhead]
          exact fun hcr => hend (.inl (Option.some.inj hcr))

/-! ## The whole call -/

/-- What `decode` returns once all that has arrived was read. -/
def code (side : HttpSide Message) (message : Message) : Int :=
  if (side.base message).parseStatus = .eCompleted then coOk else coAgain

/-- `decode` from the end of the headers on, `rest` being what was not read. -/
def enterBody (side : HttpSide Message) (message : Message) (coBuffer : CoBuffer) (rest : Bytes) :
    Option (Int × Message × CoBuffer) :=
  match side.endHeader { side.base message with parseStatus := .eContent } with
  | none => none
  | some base =>
    match side.parseBody base rest rest.length with
    | none => none
    | some (.error ret, base) => some (ret, side.withBase message base, coBuffer)
    | some (.ok bodyLen, base) =>
      some (side.code (side.withBase message base), side.withBase message base,
        (coBuffer.bufferErase (coBuffer.region.length - rest.length + bodyLen.toNat)).2)

/-- Where a call of `decode` stops, and what it returns there. -/
inductive DecodeStop (law : side.Lawful chunks) (coBuffer : CoBuffer) (message : Message) (rest : Bytes) :
    Option (Int × Message × CoBuffer) → Prop
  | read (after : CoBuffer) (hwaits : law.reader.Waits (some message) rest) (hblank : ¬side.AtBlank message rest)
      (hvalid : after.Valid) (hregion : after.region = rest) (htotal : after.totalSize = coBuffer.totalSize) :
      DecodeStop law coBuffer message rest (some (side.code message, message, after))
  | blank (hblank : side.AtBlank message rest) :
      DecodeStop law coBuffer message rest (side.enterBody message coBuffer rest)

/-- The reader meets a failure.  One in the head is reported at once. -/
inductive DecodeFail (law : side.Lawful chunks) (message : Message) (pending : Bytes) :
    Option (Int × Message × CoBuffer) → Prop
  | head {result : Option (Int × Message × CoBuffer)} {rest : Bytes}
      (hfailed : law.reader.Reads (some message) pending none rest)
      (hcode : ∀ ret after coBuffer, result = some (ret, after, coBuffer) → ret = eErrorCode) :
      DecodeFail law message pending result
  | body {result : Option (Int × Message × CoBuffer)} {after : Message} {rest final : Bytes}
      (hreads : law.reader.Reads (some message) pending (some after) rest)
      (hbody : (side.base after).InBody) (hfailed : law.reader.Reads (some after) rest none final) :
      DecodeFail law message pending result

theorem DecodeFail.reads {law : side.Lawful chunks} {message : Message} {pending : Bytes}
    {result : Option (Int × Message × CoBuffer)} (hfail : DecodeFail law message pending result) :
    ∃ rest, law.reader.Reads (some message) pending none rest := by
  cases hfail with
  | head hfailed _ => exact ⟨_, hfailed⟩
  | body hreads _ hfailed => exact ⟨_, hreads.trans hfailed⟩

/-- A failure after a first item is a failure of the whole. -/
theorem DecodeFail.take {law : side.Lawful chunks} {message next : Message} {pending : Bytes} {count : Nat}
    {result : Option (Int × Message × CoBuffer)} (hnext : law.reader.next (some message) pending = some (some next, count))
    (hfail : DecodeFail law next (pending.drop count) result) : DecodeFail law message pending result := by
  cases hfail with
  | head hfailed hcode => exact .head (.take hnext hfailed) hcode
  | body hreads hbody hfailed => exact .body (.take hnext hreads) hbody hfailed

theorem Lawful.code_withBase (law : side.Lawful chunks) (message : Message) (base : CoProtocolHttp) :
    side.code (side.withBase message base) = if base.parseStatus = .eCompleted then coOk else coAgain := by
  rw [code, law.base_withBase]

theorem Lawful.waits_header (law : side.Lawful chunks) {message : Message} {rest : Bytes}
    (hstatus : (side.base message).parseStatus = .eStartLine ∨ (side.base message).parseStatus = .eHeader)
    (habsent : lf ∉ rest) : law.reader.Waits (some message) rest := by
  cases hstatus with
  | inl hstart =>
    simp only [Reader.Waits, Lawful.reader, itemNext, hstart]
    rw [if_pos habsent]
  | inr hheader =>
    simp only [Reader.Waits, Lawful.reader, itemNext, hheader]
    rw [if_pos habsent]

theorem bufferErase_read {coBuffer : CoBuffer} {rest : Bytes} {count : Nat} (hvalid : coBuffer.Valid)
    (hrest : coBuffer.region.drop count = rest) :
    (coBuffer.bufferErase count).2.Valid ∧ (coBuffer.bufferErase count).2.region = rest ∧
      (coBuffer.bufferErase count).2.totalSize = coBuffer.totalSize :=
  ⟨hvalid.bufferErase count, (hvalid.region_bufferErase count).trans hrest, coBuffer.bufferErase_totalSize count⟩

/-- From the header stage on. -/
theorem Lawful.decodeRest_reads (law : side.Lawful chunks) (message : Message) {coBuffer : CoBuffer}
    (hvalid : coBuffer.Valid) (hsmall : coBuffer.region.length < 2 ^ 31) {parsedLen : Nat}
    (hparsed : parsedLen ≤ coBuffer.region.length)
    (hstatus : (side.base message).parseStatus = .eHeader ∨ (side.base message).parseStatus = .eContent) :
    DecodeFail law message (coBuffer.region.drop parsedLen)
      (side.decodeRest message coBuffer coBuffer.region coBuffer.region.length parsedLen) ∨
    ∃ after rest, law.reader.Reads (some message) (coBuffer.region.drop parsedLen) (some after) rest ∧
      DecodeStop law coBuffer after rest
        (side.decodeRest message coBuffer coBuffer.region coBuffer.region.length parsedLen) := by
  -- the loop over the headers, which does nothing when they have been read before
  have hheaders : ((∃ rest, law.reader.Reads (some message) (coBuffer.region.drop parsedLen) none rest) ∧
        parseHeaders side.endHeader (coBuffer.region.length + 1) (side.base message)
          (coBuffer.region.drop parsedLen) parsedLen = none) ∨
      ∃ taken after, taken ≤ (coBuffer.region.drop parsedLen).length ∧
        law.reader.Reads (some message) (coBuffer.region.drop parsedLen) (some (side.withBase message after))
          (coBuffer.region.drop (parsedLen + taken)) ∧
        HeaderStop side after (coBuffer.region.drop (parsedLen + taken)) (parsedLen + taken)
          (parseHeaders side.endHeader (coBuffer.region.length + 1) (side.base message)
            (coBuffer.region.drop parsedLen) parsedLen) := by
    cases hstatus with
    | inl hheader =>
      have hturns : (coBuffer.region.drop parsedLen).length < coBuffer.region.length + 1 := by
        rw [List.length_drop]
        omega
      have hreads := law.parseHeaders_reads message hheader hturns parsedLen
      simp only [law.withBase_base, List.drop_drop] at hreads
      exact hreads
    | inr hcontent =>
      refine .inr ⟨0, side.base message, Nat.zero_le _, ?_, ?_⟩
      · rw [law.withBase_base]
        exact .done
      · rw [parseHeaders_stop _ (by rw [hcontent]; exact nofun)]
        exact .ended hcontent
  rcases hheaders with ⟨⟨rest, hfailed⟩, hnone⟩ | ⟨taken, base, htaken, hreads, hstop⟩
  · refine .inl (.head hfailed ?_)
    simp only [decodeRest, hnone]
    exact nofun
  rw [List.length_drop] at htaken
  have hlength : (coBuffer.region.drop (parsedLen + taken)).length = coBuffer.region.length - (parsedLen + taken) :=
    List.length_drop
  have hlen : (coBuffer.region.length : Int) - ((parsedLen + taken : Nat) : Int) =
      (coBuffer.region.drop (parsedLen + taken)).length := by
    rw [hlength]
    omega
  simp only [decodeRest]
  generalize parseHeaders side.endHeader (coBuffer.region.length + 1) (side.base message)
    (coBuffer.region.drop parsedLen) parsedLen = loop at hstop ⊢
  cases hstop with
  -- the head is complete, and the body is read in the same call
  | ended hcontent =>
    simp only [decodeBody]
    rw [if_pos hcontent, hlen]
    have hpending : (coBuffer.region.drop (parsedLen + taken)).length < 2 ^ 31 := by omega
    have hinBody : (side.base (side.withBase message base)).InBody := by
      rw [law.base_withBase]
      exact .inl hcontent
    by_cases hsized : base.Sized
    · rcases law.parseBody_reads hcontent hsized hpending with
        ⟨rest, hfailed⟩ | ⟨count, after, hparse, hcount, hbody, hwaits, hafter⟩
      · exact .inl (.body hreads hinBody (law.reads_body message hfailed))
      · rw [hparse]
        refine .inr ⟨side.withBase message after, coBuffer.region.drop (parsedLen + taken + count), ?_, ?_⟩
        · rw [List.drop_drop] at hbody
          exact hreads.trans (law.reads_body message hbody)
        · simp only [Int.toNat_natCast, ← law.code_withBase message]
          obtain ⟨herased, hregion, htotal⟩ := bufferErase_read hvalid (Eq.refl (coBuffer.region.drop _))
          rw [List.drop_drop] at hwaits
          refine .read _ (law.waits_body ?_ ?_) ?_ herased hregion htotal
          · rw [law.base_withBase]
            exact hwaits
          · rw [law.base_withBase]
            exact hafter
          · exact fun hblank => not_header_of_inBody (by rw [law.base_withBase]; exact hafter) hblank.1
    · exact .inl (.body hreads hinBody (law.reads_body message (bodyReader_unsized hcontent hsized)))
  | waiting hheader habsent hhead =>
    simp only [decodeBody]
    rw [if_neg (by rw [hheader]; exact nofun)]
    refine .inr ⟨side.withBase message base, coBuffer.region.drop (parsedLen + taken), hreads, ?_⟩
    obtain ⟨herased, hregion, htotal⟩ := bufferErase_read hvalid (Eq.refl (coBuffer.region.drop _))
    have hcode : coAgain = side.code (side.withBase message base) := by
      rw [law.code_withBase, hheader]
      rfl
    rw [hcode]
    refine .read _ (law.waits_header (.inr ?_) habsent) ?_ herased hregion htotal
    · rw [law.base_withBase, hheader]
    · exact fun hblank => hhead hblank.2.2
  -- the carriage return of the blank line has arrived, and its newline is still to come
  | blank hheader habsent hhead =>
    refine .inr ⟨side.withBase message base, coBuffer.region.drop (parsedLen + taken), hreads, ?_⟩
    have hblank : DecodeStop law coBuffer (side.withBase message base) (coBuffer.region.drop (parsedLen + taken)) _ :=
      .blank ⟨by rw [law.base_withBase, hheader], habsent, hhead⟩
    have hagain : side.withBase (side.withBase message base) = side.withBase message :=
      funext fun other => law.withBase_withBase message base other
    simp only [enterBody, law.base_withBase, hagain] at hblank
    cases hended : side.endHeader { base with parseStatus := .eContent } with
    | none =>
      simp only [hended] at hblank
      exact hblank
    | some after =>
      have hcontent : after.parseStatus = .eContent := law.endHeader_status hended
      have hcount : coBuffer.region.length - (coBuffer.region.length - (parsedLen + taken)) = parsedLen + taken := by
        omega
      simp only [hended, hlength, hcount, law.code_withBase] at hblank
      simp only [Option.map_some, decodeBody]
      rw [if_pos hcontent, hlen, hlength]
      exact hblank

/-- One call of `decode` on a message that is not complete: the reader meets a
    failure, or `decode` reads what has arrived, or stops at a blank line. -/
theorem Lawful.decode_reads (law : side.Lawful chunks) (message : Message) {coBuffer : CoBuffer}
    (hvalid : coBuffer.Valid) (hsmall : coBuffer.region.length < 2 ^ 31)
    (hlimit : (side.base message).parseStatus ≠ .eContent → coBuffer.region.length ≤ 8192)
    (hopen : (side.base message).parseStatus ≠ .eCompleted ∧ (side.base message).parseStatus ≠ .eError) :
    DecodeFail law message coBuffer.region (side.decode message coBuffer) ∨
    ∃ after rest, law.reader.Reads (some message) coBuffer.region (some after) rest ∧
      DecodeStop law coBuffer after rest (side.decode message coBuffer) := by
  have hsize := hvalid.region_length
  have hlen : int32 coBuffer.bufferSize = coBuffer.region.length := by
    rw [← hsize, int32_of_bounds (by omega) (by omega)]
  have hraw : coBuffer.region.take (coBuffer.region.length : Int).toNat = coBuffer.region := by
    rw [Int.toNat_natCast, List.take_length]
  simp only [decode, hlen, hraw]
  cases hstatus : (side.base message).parseStatus with
  | eStartLine =>
    have hroom : ¬((coBuffer.region.length : Int) > httpMaxHeaderLen) := by
      have := hlimit (by rw [hstatus]; exact nofun)
      simp only [httpMaxHeaderLen]
      omega
    simp only
    rw [if_neg hroom, if_neg (by omega)]
    by_cases hmem : lf ∈ coBuffer.region
    · obtain ⟨front, back, hline, habsent⟩ := split_line hmem
      have hitem : law.reader.next (some message) coBuffer.region =
          match side.parseStartline message coBuffer.region with
          | none => some (none, 0)
          | some (parsedLen, message) =>
            if parsedLen ≤ 0 then some (none, 0)
            else some (some (side.withBase message { side.base message with parseStatus := .eHeader }),
              parsedLen.toNat) := by
        simp only [Lawful.reader, itemNext, hstatus]
        rw [if_neg (not_not.mpr hmem)]
      cases hparse : side.parseStartline message coBuffer.region with
      | none =>
        simp only [hparse] at hitem ⊢
        exact .inl (.head (.one hitem) nofun)
      | some result =>
        obtain ⟨parsedLen, next⟩ := result
        simp only [hparse] at hitem ⊢
        by_cases hbad : parsedLen ≤ 0
        · rw [if_pos hbad] at hitem
          -- the only length a line is refused with
          have hrejected : parsedLen = -1 := by
            rw [hline, law.startline_line message habsent] at hparse
            have := law.startline_length habsent hparse
            omega
          rw [if_pos hrejected]
          refine .inl (.head (.one hitem) ?_)
          intro ret after coBuffer hresult
          cases hresult
          rfl
        · rw [if_neg hbad] at hitem
          rw [if_neg (by omega), if_neg hbad]
          have hfits : parsedLen.toNat ≤ coBuffer.region.length := law.reader.bounded hitem
          rcases law.decodeRest_reads (side.withBase next { side.base next with parseStatus := .eHeader }) hvalid
              hsmall hfits (.inl (by rw [law.base_withBase])) with hfail | ⟨after, rest, hreads, hstop⟩
          · exact .inl (hfail.take hitem)
          · exact .inr ⟨after, rest, .take hitem hreads, hstop⟩
    · -- without a newline nothing is taken
      rw [law.startline_wait message hmem]
      refine .inr ⟨message, coBuffer.region, .done, ?_⟩
      have hcode : coAgain = side.code message := by
        rw [code, hstatus]
        rfl
      simp only [hcode]
      exact .read coBuffer (law.waits_header (.inl hstatus) hmem)
        (fun hblank => absurd (hstatus.symm.trans hblank.1) nofun) hvalid rfl rfl
  | eHeader =>
    have hroom : ¬((coBuffer.region.length : Int) > httpMaxHeaderLen) := by
      have := hlimit (by rw [hstatus]; exact nofun)
      simp only [httpMaxHeaderLen]
      omega
    simp only
    rw [if_neg hroom]
    exact law.decodeRest_reads message hvalid hsmall (Nat.zero_le _) (.inl hstatus)
  | eContent => exact law.decodeRest_reads message hvalid hsmall (Nat.zero_le _) (.inr hstatus)
  | eCompleted => exact absurd hstatus hopen.1
  | eError => exact absurd hstatus hopen.2

/-- A message all of which has arrived is decoded at once. -/
theorem Lawful.decode_complete (law : side.Lawful chunks) {message final : Message} {coBuffer : CoBuffer} {tail : Bytes}
    (hvalid : coBuffer.Valid) (hlimit : coBuffer.region.length ≤ 8192)
    (hopen : (side.base message).parseStatus ≠ .eCompleted ∧ (side.base message).parseStatus ≠ .eError)
    (hreads : law.reader.Reads (some message) coBuffer.region (some final) tail)
    (hcompleted : (side.base final).parseStatus = .eCompleted) :
    ∃ left, side.decode message coBuffer = some (coOk, final, left) ∧ left.Valid ∧ left.region = tail := by
  have hfinal := law.final_completed hcompleted
  rcases law.decode_reads message hvalid (by omega) (fun _ => hlimit) hopen with hfail | ⟨after, rest, hread, hstop⟩
  · obtain ⟨rest, hfailed⟩ := hfail.reads
    cases (hreads.unique hfailed (hfinal _) (law.final_failed _)).1
  · generalize side.decode message coBuffer = result at hstop
    cases hstop with
    | read left hwaits _ hleft hregion _ =>
      obtain ⟨hstate, hrest⟩ := hreads.unique hread (hfinal _) hwaits
      cases hstate
      have hcode : side.code final = coOk := if_pos hcompleted
      exact ⟨left, by rw [hcode], hleft, hregion.trans hrest⟩
    | blank hblank =>
      obtain ⟨hstate, _⟩ := hreads.unique hread (hfinal _) (law.waits_header (.inr hblank.1) hblank.2.1)
      cases hstate
      exact absurd (hcompleted.symm.trans hblank.1) nofun

end

end HttpSide

/-! ## The two sides -/

theorem parseStartlineRequest_wait (message : CoHTTPRequest) {buffer : Bytes} (habsent : lf ∉ buffer) :
    parseStartlineRequest message buffer = some (0, message) := by
  simp only [parseStartlineRequest, Lib.memchr_none habsent]

theorem parseStartlineResponse_wait (message : CoHTTPResponse) {buffer : Bytes} (habsent : lf ∉ buffer) :
    parseStartlineResponse message buffer = some (0, message) := by
  simp only [parseStartlineResponse, Lib.memchr_none habsent]

theorem reserveContentlength_eq {message after : CoProtocolHttp} {contentLength : Int}
    (hreserve : message.reserveContentlength contentLength = some after) : after = message := by
  simp only [CoProtocolHttp.reserveContentlength] at hreserve
  split at hreserve
  · cases hreserve
  · exact (Option.some.inj hreserve).symm

namespace CoProtocolHttpServer

theorem endHeader_status {base after : CoProtocolHttp} (hend : endHeader base = some after) :
    after.parseStatus = base.parseStatus := by
  simp only [endHeader] at hend
  split at hend
  · rw [← Option.some.inj hend]
  · rw [reserveContentlength_eq hend]

theorem lawful : side.Lawful false where
  base_withBase _ _ := rfl
  withBase_base _ := rfl
  withBase_withBase _ _ _ := rfl
  startline_wait := parseStartlineRequest_wait
  startline_line message := parseStartlineRequest_line message
  startline_length habsent hparse := .inr (parseStartlineRequest_length habsent hparse)
  endHeader_status := endHeader_status
  parseBody_reads := by
    intro base pending hstatus hsized hsmall
    have hplain : (false && base.contentChunked) = false := rfl
    obtain ⟨taken, after, hparse, htaken, hreads⟩ := parseContent_reads hstatus hsized hplain hsmall
    refine .inr ⟨taken, after, ?_, htaken, hreads⟩
    simp only [side, hparse, Option.map_some]

end CoProtocolHttpServer

namespace CoProtocolHttpClient

theorem endHeader_status {base after : CoProtocolHttp} (hend : endHeader base = some after) :
    after.parseStatus = base.parseStatus := by
  simp only [endHeader] at hend
  split at hend
  · split at hend
    · rw [← Option.some.inj hend]
    · rw [← Option.some.inj hend]
  · rw [reserveContentlength_eq hend]

theorem lawful : side.Lawful true where
  base_withBase _ _ := rfl
  withBase_base _ := rfl
  withBase_withBase _ _ _ := rfl
  startline_wait := parseStartlineResponse_wait
  startline_line message := parseStartlineResponse_line message
  startline_length := parseStartlineResponse_length
  endHeader_status := endHeader_status
  parseBody_reads := by
    intro base pending hstatus hsized hsmall
    cases hchunked : base.contentChunked with
    | false =>
      have hplain : (true && base.contentChunked) = false := hchunked
      obtain ⟨taken, after, hparse, htaken, hreads⟩ := parseContent_reads hstatus hsized hplain hsmall
      refine .inr ⟨taken, after, ?_, htaken, hreads⟩
      simp only [side, parseBody, hchunked, Bool.not_false, if_true, hparse, Option.map_some]
    | true =>
      have hchunks : (true && base.contentChunked) = true := hchunked
      have hfits : 0 + pending.length < 2 ^ 31 := by omega
      rcases parseChunks_reads hstatus hsized hchunks (Nat.lt_succ_self _) 0 hfits with
        hfailed | ⟨taken, after, hparse, htaken, hreads⟩
      · exact .inl hfailed
      · refine .inr ⟨taken, after, ?_, htaken, hreads⟩
        rw [Nat.zero_add] at hparse
        simp only [Nat.cast_zero] at hparse
        simp only [side, parseBody, hchunked, parseContentChunked]
        rw [if_neg (by simp), if_neg (by omega), hparse, Option.map_some]
        simp only
        rw [if_neg (by omega)]

end CoProtocolHttpClient

end CoServer
