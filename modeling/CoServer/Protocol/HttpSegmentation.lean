import CoServer.Protocol.HttpRun
import CoServer.Protocol.HttpFraming

/-! # A message cut anywhere

The reader's way through a complete message: the start line, the header lines one
by one, the blank line, the body.  `Path` names these stages together with the
bytes that are still to come, and is the course along which a run of reads is
followed.  What is left is the cut that the decoder does not survive, the one in
the middle of the blank line. -/

namespace CoServer

open Lib (ascii Reader)

variable {Message : Type}

/-! ## Bodies -/

/-- A body of a known length, or one that waits for chunks that do not come. -/
structure BodyPath (chunks : Bool) (base : CoProtocolHttp) (pending : Bytes) : Prop where
  inBody : base.InBody
  sized : base.Sized
  plain : (chunks && base.contentChunked) = false ∨ base.parseStatus = .eContent ∧ (pending = [] ∨ pending = crlf)

section
variable {chunks : Bool} {base : CoProtocolHttp} {pending : Bytes}

theorem chunkNext_blank (base : CoProtocolHttp) {rest : Bytes} (hrest : rest = [] ∨ rest = crlf) :
    chunkNext base rest = none := by
  cases hrest with
  | inl hnil => rw [hnil]; rfl
  | inr hblank => rw [hblank]; rfl

/-- The body goes on, and does not fail. -/
theorem BodyPath.step (hpath : BodyPath chunks base pending) {next : Option CoProtocolHttp} {count : Nat}
    (hnext : (bodyReader chunks).next (some base) pending = some (next, count)) :
    ∃ after, next = some after ∧ BodyPath chunks after (pending.drop count) := by
  have hstatus : base.parseStatus = .eContent := by
    by_contra hother
    rw [bodyReader_status hother pending] at hnext
    cases hnext
  cases hplain : chunks && base.contentChunked with
  | true =>
    rw [bodyReader_chunk hstatus hpath.sized hplain] at hnext
    cases hpath.plain with
    | inl hfalse => exact absurd (hplain.symm.trans hfalse) nofun
    | inr hrest =>
      rw [chunkNext_blank base hrest.2] at hnext
      cases hnext
  | false =>
    rw [bodyReader_content hstatus hpath.sized hplain] at hnext
    simp only [contentNext] at hnext
    split at hnext
    · rename_i hremain
      cases pending with
      | nil => cases hnext
      | cons byte pending =>
        cases hnext
        refine ⟨_, rfl, takeContent_inBody hpath.inBody _, hpath.sized.takeContent ?_, .inl ?_⟩
        · rw [List.length_singleton]
          omega
        · rw [CoProtocolHttp.takeContent]
          split
          · exact hplain
          · exact hplain
    · cases hnext
      exact ⟨_, rfl, .inr rfl, hpath.sized, .inl hplain⟩

/-- Little waits for the body. -/
theorem BodyPath.limit {rest later : Bytes} (hpath : BodyPath chunks base (rest ++ later))
    (hwaits : (bodyReader chunks).Waits (some base) rest) (hopen : base.parseStatus ≠ .eCompleted) : rest.length ≤ 2 := by
  have hstatus : base.parseStatus = .eContent := hpath.inBody.resolve_right hopen
  cases hpath.plain with
  | inl hplain =>
    rw [Reader.Waits, bodyReader_content hstatus hpath.sized hplain] at hwaits
    simp only [contentNext] at hwaits
    split at hwaits
    · cases rest with
      | nil => exact Nat.zero_le _
      | cons byte rest => cases hwaits
    · cases hwaits
  | inr hrest =>
    have hlength : (rest ++ later).length ≤ 2 := by
      cases hrest.2 with
      | inl hnil => rw [hnil]; exact Nat.zero_le _
      | inr hblank => rw [hblank]; exact Nat.le_refl _
    rw [List.length_append] at hlength
    omega

end

section
variable {side : HttpSide Message} {chunks : Bool} {law : side.Lawful chunks}

/-- What is read of the body of a message, seen from the message. -/
theorem HttpSide.Lawful.next_inBody (law : side.Lawful chunks) {message : Message} {next : Option Message}
    {pending : Bytes} {count : Nat} (hbody : (side.base message).InBody)
    (hnext : law.reader.next (some message) pending = some (next, count)) :
    ∃ base, (bodyReader chunks).next (some (side.base message)) pending = some (base, count) ∧
      next = base.map (side.withBase message) := by
  cases hbody with
  | inl hcontent =>
    simp only [HttpSide.Lawful.reader, HttpSide.itemNext, hcontent] at hnext
    obtain ⟨⟨base, taken⟩, hbase, hsome⟩ := Option.map_eq_some_iff.mp hnext
    cases hsome
    exact ⟨base, hbase, rfl⟩
  | inr hcompleted => cases hnext.symm.trans (law.final_completed hcompleted pending)

theorem HttpSide.Lawful.waits_inBody (law : side.Lawful chunks) {message : Message} {rest : Bytes}
    (hbody : (side.base message).InBody) (hwaits : law.reader.Waits (some message) rest) :
    (bodyReader chunks).Waits (some (side.base message)) rest := by
  cases hbody with
  | inl hcontent =>
    simp only [Reader.Waits, HttpSide.Lawful.reader, HttpSide.itemNext, hcontent] at hwaits
    exact Option.map_eq_none_iff.mp hwaits
  | inr hcompleted => exact bodyReader_status (by rw [hcompleted]; decide) rest

/-- A message in its body is on its course. -/
def OnBody (side : HttpSide Message) (chunks : Bool) (state : Option Message) (pending : Bytes) : Prop :=
  ∃ message, state = some message ∧ BodyPath chunks (side.base message) pending

theorem onBody_step (law : side.Lawful chunks) {message : Message} {next : Option Message} {pending : Bytes}
    {count : Nat} (hpath : BodyPath chunks (side.base message) pending)
    (hnext : law.reader.next (some message) pending = some (next, count)) :
    OnBody side chunks next (pending.drop count) := by
  obtain ⟨base, hbase, rfl⟩ := law.next_inBody hpath.inBody hnext
  obtain ⟨after, rfl, hafter⟩ := hpath.step hbase
  exact ⟨_, rfl, by rwa [law.base_withBase]⟩

theorem course_onBody (law : side.Lawful chunks) : Course law (OnBody side chunks) where
  step := by
    rintro state next pending count ⟨message, rfl, hpath⟩ hnext
    exact onBody_step law hpath hnext
  limit := by
    rintro message rest later ⟨_, hsome, hpath⟩ hwaits hopen
    cases hsome
    have hlength := hpath.limit (law.waits_inBody hpath.inBody hwaits) hopen
    refine ⟨?_, fun _ => by omega⟩
    rw [hpath.inBody.resolve_right hopen]
    exact nofun
  sound := by
    rintro message next pending count ⟨_, hsome, hpath⟩ _ hnext
    cases hsome
    obtain ⟨after, rfl, _⟩ := onBody_step law hpath hnext
    exact nofun

theorem roomy_onBody (law : side.Lawful chunks) (self : HttpReceiver Message) (arrivals : List (Bytes × Block)) :
    Roomy law (OnBody side chunks) self arrivals := by
  rintro front arrival back state - - - - ⟨_, hsome, hpath⟩ houtside
  cases hsome
  exact absurd hpath.inBody houtside

theorem blankSpoils_onBody : BlankSpoils side (OnBody side chunks) := by
  rintro message rest arrivals appended ⟨_, hsome, hpath⟩ hblank
  cases hsome
  exact absurd hblank.1 (HttpSide.not_header_of_inBody hpath.inBody)

end

/-! ## The way through a message -/

/-- No line is longer than one read. -/
structure RawMessage.Bounded (raw : RawMessage) : Prop where
  startLine : raw.startLine.length ≤ 4096
  headers : ∀ header ∈ raw.headers, (headerRow header).length ≤ 4096

/-- The fields of a message behind some of its header lines. -/
def behindRows (base : CoProtocolHttp) (done : List (Bytes × Bytes)) : CoProtocolHttp :=
  CoProtocolHttp.addRows { base with parseStatus := .eHeader } done

/-- The stages of a message, each with the bytes that are still to come. -/
inductive Path (raw : RawMessage) (side : HttpSide Message) (chunks : Bool) (start : Message) (line : Option Message) :
    Option Message → Bytes → Prop
  | start : Path raw side chunks start line (some start) raw.bytes
  | header (message : Message) (done todo : List (Bytes × Bytes)) (hline : line = some message)
      (hheaders : raw.headers = done ++ todo) :
      Path raw side chunks start line (some (side.withBase message (behindRows (side.base message) done)))
        (headerRows todo ++ (crlf ++ raw.body))
  | body (message : Message) (pending : Bytes) (hpath : BodyPath chunks (side.base message) pending)
      (hlength : pending.length ≤ raw.body.length) : Path raw side chunks start line (some message) pending
  | failed (pending : Bytes) : Path raw side chunks start line none pending

/-- A part of a line that does not hold its end is shorter than the line. -/
theorem length_lt_line {front back rest later : Bytes} (hsplit : rest ++ later = front ++ lf :: back) (habsent : lf ∉ rest) :
    rest.length ≤ front.length := by
  by_contra hlong
  have hmem : lf ∈ (rest ++ later).take rest.length := by
    rw [hsplit, List.take_append]
    apply List.mem_append_right
    obtain ⟨count, hcount⟩ : ∃ count, rest.length - front.length = count + 1 := ⟨rest.length - front.length - 1, by omega⟩
    rw [hcount, List.take_succ_cons]
    exact List.mem_cons_self
  rw [List.take_left] at hmem
  exact habsent hmem

theorem headerRow_line (header : Bytes × Bytes) (rest : Bytes) : ∃ front, headerRow header ++ rest = front ++ lf :: rest ∧
    front.length < (headerRow header).length := by
  refine ⟨header.1 ++ colon :: header.2 ++ [cr], ?_, ?_⟩
  · rw [headerRow_eq, List.append_assoc, List.singleton_append]
  · rw [headerRow_eq]
    simp

section
variable {raw : RawMessage} {side : HttpSide Message} {chunks : Bool} {start : Message} {line : Option Message}
  {chunked : Prop} {law : side.Lawful chunks}

/-- The rest of a line whose end has not arrived is all that waits. -/
theorem HttpSide.Lawful.absent_of_waits (law : side.Lawful chunks) {message : Message} {rest : Bytes}
    (hstatus : (side.base message).parseStatus = .eStartLine ∨ (side.base message).parseStatus = .eHeader)
    (hwaits : law.reader.Waits (some message) rest) : lf ∉ rest := by
  intro hmem
  cases hstatus with
  | inl hstart =>
    simp only [Reader.Waits, HttpSide.Lawful.reader, HttpSide.itemNext, hstart] at hwaits
    rw [if_neg (not_not.mpr hmem)] at hwaits
    split at hwaits
    · cases hwaits
    · split at hwaits
      · cases hwaits
      · cases hwaits
  | inr hheader =>
    simp only [Reader.Waits, HttpSide.Lawful.reader, HttpSide.itemNext, hheader] at hwaits
    rw [if_neg (not_not.mpr hmem)] at hwaits
    cases hwaits

/-- Behind the blank line the body is on its course, even if it were to begin with
    the blank line. -/
theorem bodyPath_ended (hread : raw.HeadRead side chunks start line chunked) {message : Message} {ended : CoProtocolHttp}
    (hline : line = some message) (hended : side.endHeader (raw.entered (side.base message)) = some ended) :
    ended.parseStatus = .eContent ∧ BodyPath chunks ended raw.body ∧ BodyPath chunks ended (crlf ++ raw.body) := by
  subst hline
  by_cases hchunked : chunked
  · obtain ⟨_, hnil, hchunks⟩ := hread.chunks rfl hchunked
    rw [hchunks] at hended
    cases hended
    rw [hnil]
    exact ⟨rfl, ⟨.inl rfl, hread.unread.2.1, .inr ⟨rfl, .inl rfl⟩⟩, ⟨.inl rfl, hread.unread.2.1, .inr ⟨rfl, .inr rfl⟩⟩⟩
  · rw [hread.content rfl hchunked] at hended
    split at hended
    · cases hended
    · cases hended
      exact ⟨rfl, ⟨.inl rfl, hread.unread.1, .inl hread.unread.2.2⟩, ⟨.inl rfl, hread.unread.1, .inl hread.unread.2.2⟩⟩

theorem path_blank (hread : raw.HeadRead side chunks start line chunked) {message : Message} (hline : line = some message)
    (law : side.Lawful chunks) : Path raw side chunks start line
      ((side.endHeader (raw.entered (side.base message))).map (side.withBase message)) raw.body := by
  cases hended : side.endHeader (raw.entered (side.base message)) with
  | none => exact .failed _
  | some ended =>
    refine .body _ _ ?_ (Nat.le_refl _)
    rw [law.base_withBase]
    exact (bodyPath_ended hread hline hended).2.1

theorem path_step (hread : raw.HeadRead side chunks start line chunked) (law : side.Lawful chunks)
    {state next : Option Message} {pending : Bytes} {count : Nat} (hpath : Path raw side chunks start line state pending)
    (hnext : law.reader.next state pending = some (next, count)) :
    Path raw side chunks start line next (pending.drop count) := by
  cases hpath with
  | start =>
    have hall := raw.bytes_eq []
    rw [List.append_nil, List.append_nil, RawMessage.head, List.append_assoc] at hall
    rw [hall] at hnext ⊢
    cases hline : line with
    | none =>
      rw [hline] at hread
      rw [hread.refused law] at hnext
      cases hnext
      exact .failed _
    | some message =>
      rw [hline] at hread
      rw [hread.next_startLine law] at hnext
      cases hnext
      rw [List.drop_left]
      exact .header message [] raw.headers rfl rfl
  | header message done todo hline hheaders =>
    cases todo with
    | nil =>
      have hdone : raw.headers = done := by rw [hheaders, List.append_nil]
      have hblank := @HttpSide.Lawful.next_blank _ _ _ (behindRows (side.base message) done) law message rfl raw.body
      rw [headerRows_nil, List.nil_append] at hnext ⊢
      rw [hblank] at hnext
      cases hnext
      rw [← hdone]
      exact path_blank hread hline law
    | cons header todo =>
      have hmem : header ∈ raw.headers := by
        rw [hheaders]
        exact List.mem_append_right _ List.mem_cons_self
      have hrow := @HttpSide.Lawful.next_row _ _ _ (behindRows (side.base message) done) header law message rfl
        (raw.namesInline header hmem) (raw.valuesInline header hmem) (headerRows todo ++ (crlf ++ raw.body))
      rw [headerRows_cons, List.append_assoc] at hnext ⊢
      rw [hrow] at hnext
      cases hnext
      rw [List.drop_left]
      have hadded : (behindRows (side.base message) done).addRows [header] =
          behindRows (side.base message) (done ++ [header]) := by
        simp only [behindRows, CoProtocolHttp.addRows, List.foldl_append]
      rw [hadded]
      exact .header message (done ++ [header]) todo hline (by rw [hheaders, List.append_assoc]; rfl)
  | body message _ hbody hlength =>
    obtain ⟨after, rfl, hafter⟩ := onBody_step law hbody hnext
    exact .body after _ hafter (by rw [List.length_drop]; omega)
  | failed => cases hnext.symm.trans (law.final_failed _)

theorem course_path (hread : raw.HeadRead side chunks start line chunked) (law : side.Lawful chunks) :
    Course law (Path raw side chunks start line) where
  step := path_step hread law
  limit := by
    intro message rest later hpath hwaits hopen
    generalize hpending : rest ++ later = pending at hpath
    generalize hstate : some message = state at hpath
    cases hpath with
    | start =>
      cases hstate
      refine ⟨by rw [hread.fresh]; exact nofun, fun hbody => ?_⟩
      rw [CoProtocolHttp.InBody, hread.fresh] at hbody
      exact absurd hbody (by simp)
    | header before done todo hline hheaders =>
      cases hstate
      have hstatus : (side.base (side.withBase before (behindRows (side.base before) done))).parseStatus = .eHeader := by
        rw [law.base_withBase]
        rfl
      exact ⟨by rw [hstatus]; exact nofun, fun hbody => absurd hstatus (HttpSide.not_header_of_inBody hbody)⟩
    | body other _ hbody _ =>
      cases hstate
      rw [← hpending] at hbody
      have hlength := hbody.limit (law.waits_inBody hbody.inBody hwaits) hopen
      refine ⟨?_, fun _ => by omega⟩
      rw [hbody.inBody.resolve_right hopen]
      exact nofun
    | failed => cases hstate
  sound := by
    intro message next pending count hpath hbody hnext
    generalize hstate : some message = state at hpath
    cases hpath with
    | start =>
      cases hstate
      rw [CoProtocolHttp.InBody, hread.fresh] at hbody
      exact absurd hbody (by simp)
    | header before done todo hline hheaders =>
      cases hstate
      refine absurd ?_ (HttpSide.not_header_of_inBody hbody)
      rw [law.base_withBase]
      rfl
    | body other _ hpath _ =>
      cases hstate
      obtain ⟨after, rfl, _⟩ := onBody_step law hpath hnext
      exact nofun
    | failed => cases hstate

/-- A part of a line waits for the rest of the line, which is no longer than one read. -/
theorem roomy_path (hread : raw.HeadRead side chunks start line chunked) (hbounded : raw.Bounded)
    (law : side.Lawful chunks) {self : HttpReceiver Message} {arrivals : List (Bytes × Block)}
    (hreadable : Readable arrivals) : Roomy law (Path raw side chunks start line) self arrivals := by
  intro front arrival back state hsplit _ _ hwaits hpath houtside
  have harrival := (hreadable arrival (by rw [hsplit]; simp)).2
  suffices hshort : state.coBuffer.region.length ≤ 4096 by omega
  generalize hpending : state.coBuffer.region ++ HttpReceiver.bytes (arrival :: back) = pending at hpath
  generalize hstate : some state.message = message at hpath hwaits
  cases hpath with
  | start =>
    have habsent := law.absent_of_waits (.inl hread.fresh) hwaits
    have hline : raw.bytes = (raw.first ++ space :: (raw.second ++ space :: (raw.third ++ [cr]))) ++
        lf :: (headerRows raw.headers ++ (crlf ++ raw.body)) := by
      rw [RawMessage.bytes, RawMessage.head, raw.startLine_eq]
      simp
    have hlength := length_lt_line (hpending.trans hline) habsent
    have hbound := hbounded.startLine
    rw [raw.startLine_eq, List.length_append, List.length_singleton] at hbound
    omega
  | header before done todo hline hheaders =>
    have habsent := law.absent_of_waits (.inr (by rw [law.base_withBase]; rfl)) hwaits
    cases todo with
    | nil =>
      have hlength := @length_lt_line [cr] raw.body _ _ hpending habsent
      rw [List.length_singleton] at hlength
      omega
    | cons header todo =>
      obtain ⟨front, hfront, hshort⟩ := headerRow_line header (headerRows todo ++ (crlf ++ raw.body))
      rw [headerRows_cons, List.append_assoc, hfront] at hpending
      have hlength := length_lt_line hpending habsent
      have hbound := hbounded.headers header (by rw [hheaders]; exact List.mem_append_right _ List.mem_cons_self)
      omega
  | body other _ hbody _ =>
    cases hstate
    exact absurd hbody.inBody houtside
  | failed => cases hstate

/-! ## The cut in the blank line -/

/-- A read that stops at a blank line stops in the middle of it. -/
theorem path_atBlank (hread : raw.HeadRead side chunks start line chunked) {message : Message} {rest later : Bytes}
    (hpath : Path raw side chunks start line (some message) (rest ++ later))
    (hblank : side.AtBlank message rest) : rest = [cr] ∧ later = lf :: raw.body ∧
      ∃ before, line = some before ∧ message = side.withBase before (behindRows (side.base before) raw.headers) := by
  generalize hpending : rest ++ later = pending at hpath
  generalize hstate : some message = state at hpath
  obtain ⟨hstatus, habsent, hhead⟩ := hblank
  obtain ⟨tail, rfl⟩ : ∃ tail, rest = cr :: tail := by
    cases rest with
    | nil => cases hhead
    | cons byte tail =>
      cases hhead
      exact ⟨tail, rfl⟩
  cases hpath with
  | start =>
    cases hstate
    rw [hread.fresh] at hstatus
    cases hstatus
  | header before done todo hline hheaders =>
    cases hstate
    cases todo with
    | nil =>
      have hbytes : cr :: (tail ++ later) = cr :: lf :: raw.body := hpending
      have htail := (List.cons.inj hbytes).2
      cases tail with
      | nil =>
        rw [List.append_nil] at hheaders
        rw [hheaders]
        exact ⟨rfl, htail, before, hline, rfl⟩
      | cons byte tail =>
        rw [(List.cons.inj htail).1] at habsent
        exact absurd (List.mem_cons_of_mem _ List.mem_cons_self) habsent
    | cons header todo =>
      have hmem : header ∈ raw.headers := by
        rw [hheaders]
        exact List.mem_append_right _ List.mem_cons_self
      have hother := headerRow_head (raw.namesInline header hmem).1 (headerRows todo ++ (crlf ++ raw.body))
      rw [← List.append_assoc, ← headerRows_cons, ← hpending] at hother
      exact absurd (.inl rfl) hother
  | body other _ hpath _ =>
    cases hstate
    exact absurd hstatus (HttpSide.not_header_of_inBody hpath.inBody)
  | failed => cases hstate

/-- The call of `decode` that stops there makes the CR the first byte of the body. -/
theorem enterBody_cr (law : side.Lawful chunks) {message : Message} {ended : CoProtocolHttp} {appended : CoBuffer}
    {result : Int × Message × CoBuffer}
    (hended : side.endHeader { side.base message with parseStatus := .eContent } = some ended)
    (hstatus : ended.parseStatus = .eContent) (hpath : BodyPath chunks ended (crlf ++ raw.body))
    (hvalid : appended.Valid) (htotal : appended.totalSize < 2 ^ 63)
    (hrest : ∃ taken, appended.region = taken ++ [cr]) (henter : side.enterBody message appended [cr] = some result) :
    result.1 = side.code result.2.1 ∧
      HttpReceiver.Follows law (side.withBase message ended) [cr] ⟨result.2.1, result.2.2, []⟩ := by
  simp only [HttpSide.enterBody, hended] at henter
  obtain ⟨before, hbefore⟩ := hrest
  have hsound : ∀ rest, ¬(bodyReader chunks).Reads (some ended) [cr] none rest := by
    intro rest hfailed
    have hstart : OnBody side chunks (some (side.withBase message ended)) ([cr] ++ (lf :: raw.body)) :=
      ⟨_, rfl, by rw [law.base_withBase]; exact hpath⟩
    apply (course_onBody law).body_sound hstart
    · rw [law.base_withBase]
      exact hpath.inBody
    · exact law.reads_body message hfailed
  rcases law.parseBody_reads hstatus hpath.sized (show [cr].length < 2 ^ 31 by decide) with
    ⟨rest, hfailed⟩ | ⟨taken, after, hparse, htaken, hreads, hwaits, hafter⟩
  · exact absurd hfailed (hsound rest)
  · rw [hparse] at henter
    cases henter
    have hregion : (appended.bufferErase (appended.region.length - [cr].length + (taken : Int).toNat)).2.region =
        [cr].drop taken := by
      rw [hvalid.region_bufferErase, hbefore, List.length_append, Nat.add_sub_cancel, Int.toNat_natCast,
        ← List.drop_drop, List.drop_left]
    refine ⟨rfl, ?_, ?_, ?_, ?_⟩
    · exact hvalid.bufferErase _
    · simp only [CoBuffer.bufferErase_totalSize]
      exact htotal
    · simp only [hregion]
      exact law.reads_body message hreads
    · simp only [hregion]
      apply law.waits_body
      · rw [law.base_withBase]
        exact hwaits
      · rw [law.base_withBase]
        exact hafter

/-- The blank line and the body are not the body. -/
theorem not_complete_from_blank (hread : raw.HeadRead side chunks start line chunked) (law : side.Lawful chunks)
    {before expected : Message} {ended : CoProtocolHttp} (hline : line = some before)
    (hended : side.endHeader (raw.entered (side.base before)) = some ended)
    (hcompleted : (side.base expected).parseStatus = .eCompleted) :
    ¬law.reader.Reads (some (side.withBase before ended)) (crlf ++ raw.body) (some expected) [] := by
  intro hreads
  subst hline
  by_cases hchunked : chunked
  · obtain ⟨hchunks, hnil, hchunksEnded⟩ := hread.chunks rfl hchunked
    rw [hchunksEnded] at hended
    cases hended
    rw [hnil, List.append_nil] at hreads
    have hwaits := hread.waits_chunks law hchunks (.inr (.inr rfl))
    exact absurd (hreads.of_waits hwaits).2 nofun
  · rw [hread.content rfl hchunked] at hended
    split at hended
    · cases hended
    · cases hended
      have hle := @RawMessage.remain_le raw (by omega)
      have hlength : (crlf ++ raw.body).length = raw.body.length + 2 := by
        rw [List.length_append]
        exact Nat.add_comm _ _
      obtain ⟨final, hbody, hstatus, _⟩ := @RawMessage.HeadRead.reads_content _ _ _ _ _ _ _ hread (by omega)
        (crlf ++ raw.body) (by omega)
      have hall := law.reads_body before hbody
      have hwaits : law.reader.Waits (some (side.withBase before final)) ((crlf ++ raw.body).drop raw.remain.toNat) :=
        law.final_completed (by rw [law.base_withBase, hstatus]) _
      have hrest := (hreads.unique hall (law.final_completed hcompleted _) hwaits).2
      have hcount := congrArg List.length hrest
      rw [List.length_drop, hlength, List.length_nil] at hcount
      omega

theorem blankSpoils_path (hread : raw.HeadRead side chunks start line chunked) (law : side.Lawful chunks) :
    BlankSpoils side (Path raw side chunks start line) := by
  intro message rest arrivals appended hpath hblank hvalid _ htotal hrest hreadable
  obtain ⟨rfl, hlater, before, hline, rfl⟩ := path_atBlank hread hpath hblank
  have hmore : arrivals ≠ [] := by
    rintro rfl
    cases hlater
  refine ⟨hmore, ?_⟩
  intro after coBuffer codes expected henter hcompletes
  have hagain : side.withBase (side.withBase before (behindRows (side.base before) raw.headers)) = side.withBase before :=
    funext fun other => law.withBase_withBase before _ other
  have hfields : { side.base (side.withBase before (behindRows (side.base before) raw.headers)) with
      parseStatus := .eContent } = raw.entered (side.base before) := by
    rw [law.base_withBase]
    rfl
  cases hended : side.endHeader (raw.entered (side.base before)) with
  | none =>
    simp only [HttpSide.enterBody, hfields, hended] at henter
    cases henter
  | some ended =>
    obtain ⟨hstatus, _, hpathBlank⟩ := bodyPath_ended hread hline hended
    obtain ⟨hcode, hfollows⟩ := enterBody_cr law (hfields ▸ hended) hstatus hpathBlank hvalid htotal hrest henter
    rw [hagain] at hfollows
    have hopen : (side.base after).parseStatus ≠ .eCompleted := by
      intro hcompleted
      simp only [HttpSide.code] at hcode
      rw [if_pos hcompleted] at hcode
      exact absurd hcode (by decide)
    -- the rest of the run is followed from the end of the headers, the CR being read as body
    have hstart : OnBody side chunks (some (side.withBase before ended)) ([cr] ++ HttpReceiver.bytes arrivals) :=
      ⟨_, rfl, by rw [law.base_withBase, hlater]; exact hpathBlank⟩
    have hon := hfollows.reads.invariant (course_onBody law).step hstart
    have hfollowsCodes : HttpReceiver.Follows law (side.withBase before ended) [cr] ⟨after, coBuffer, codes⟩ :=
      ⟨hfollows.valid, hfollows.totalLt, hfollows.reads, hfollows.waits⟩
    obtain ⟨_, hreads, hcompleted⟩ := ((course_onBody law).completes_iff blankSpoils_onBody hfollowsCodes hon hopen
      hreadable (roomy_onBody law _ _) hmore).mp hcompletes
    rw [hlater] at hreads
    exact not_complete_from_blank hread law hline hended hcompleted hreads

/-! ## All cuts -/

/-- No read ends between the CR and the LF of the blank line. -/
def RawMessage.Uncut (raw : RawMessage) (arrivals : List (Bytes × Block)) : Prop :=
  ∀ front ∈ arrivals.inits, (HttpReceiver.bytes front).length ≠ raw.head.length + 1

instance (raw : RawMessage) (arrivals : List (Bytes × Block)) : Decidable (raw.Uncut arrivals) :=
  inferInstanceAs (Decidable (∀ front ∈ arrivals.inits, _))

variable {arrivals : List (Bytes × Block)} {expected : Message}

theorem unblanked_of_uncut (hread : raw.HeadRead side chunks start line chunked) (law : side.Lawful chunks)
    (hbytes : HttpReceiver.bytes arrivals = raw.bytes) (huncut : raw.Uncut arrivals) :
    Unblanked law start [] arrivals := by
  intro front back hsplit _ message rest hreads hblank
  have htotal : HttpReceiver.bytes front ++ HttpReceiver.bytes back = raw.bytes := by
    rw [← HttpReceiver.bytes_append, ← hsplit, hbytes]
  rw [List.nil_append] at hreads
  have hstart : Path raw side chunks start line (some start) (HttpReceiver.bytes front ++ HttpReceiver.bytes back) := by
    rw [htotal]
    exact .start
  have hpath := hreads.invariant (path_step hread law) hstart
  obtain ⟨_, hlater, _⟩ := path_atBlank hread hpath hblank
  apply huncut front ((List.mem_inits _ _).mpr ⟨back, hsplit.symm⟩)
  have hlength := congrArg List.length htotal
  rw [hlater] at hlength
  simp only [RawMessage.bytes, crlf, List.length_append, List.length_cons, List.length_nil] at hlength
  omega

theorem uncut_of_unblanked {message : Message} (hread : raw.HeadRead side chunks start (some message) chunked)
    (law : side.Lawful chunks) (hbytes : HttpReceiver.bytes arrivals = raw.bytes)
    (hunblanked : Unblanked law start [] arrivals) : raw.Uncut arrivals := by
  intro front hfront hlength
  obtain ⟨back, hsplit⟩ := (List.mem_inits _ _).mp hfront
  have hprefix : HttpReceiver.bytes front = raw.head ++ [cr] := by
    have htotal : HttpReceiver.bytes front ++ HttpReceiver.bytes back = (raw.head ++ [cr]) ++ (lf :: raw.body) := by
      rw [← HttpReceiver.bytes_append, hsplit, hbytes, RawMessage.bytes]
      simp [crlf]
    apply List.append_inj_left htotal
    rw [hlength, List.length_append, List.length_singleton]
  have hnonempty : front ≠ [] := by
    rintro rfl
    rw [HttpReceiver.bytes_nil, List.length_nil] at hlength
    omega
  have hreads := hread.reads_head law [cr]
  rw [← hprefix, ← List.nil_append (HttpReceiver.bytes front)] at hreads
  apply hunblanked front back hsplit.symm hnonempty _ [cr] hreads
  refine ⟨?_, by decide, rfl⟩
  rw [law.base_withBase]
  rfl

/-- A complete message is received well if and only if no read ends in the middle
    of its blank line and its head and its length are understood. -/
theorem completes_roomy_iff (hread : raw.HeadRead side chunks start line chunked) (law : side.Lawful chunks)
    (hbytes : HttpReceiver.bytes arrivals = raw.bytes) (hreadable : Readable arrivals)
    (hroomy : Roomy law (Path raw side chunks start line) { message := start } arrivals) :
    HttpReceiver.Completes side { message := start } arrivals expected ↔ raw.Uncut arrivals ∧
      raw.body.length < 2 ^ 31 ∧ ¬chunked ∧
      ∃ message, line = some message ∧ expected = side.withBase message (raw.finish (side.base message)) := by
  have hmore : arrivals ≠ [] := by
    rintro rfl
    have hlength := congrArg List.length hbytes
    simp [RawMessage.bytes, crlf] at hlength
  have hopen : (side.base start).parseStatus ≠ .eCompleted := by
    rw [hread.fresh]
    decide
  have hfollows := HttpReceiver.follows_fresh law start [] (law.waits_header (.inl hread.fresh) List.not_mem_nil)
  have hon : Path raw side chunks start line (some start) (({} : CoBuffer).region ++ HttpReceiver.bytes arrivals) := by
    rw [hbytes]
    exact .start
  rw [(course_path hread law).completes_iff (blankSpoils_path hread law) hfollows hon hopen hreadable hroomy hmore,
    hbytes, List.nil_append]
  constructor
  · rintro ⟨hunblanked, hreads, hcompleted⟩
    obtain ⟨hline, hchunked, hsmall⟩ := hread.complete law hreads hcompleted
    obtain ⟨message, rfl⟩ := Option.ne_none_iff_exists'.mp hline
    have hall := hread.reads_complete law hchunked hsmall []
    rw [List.append_nil] at hall
    have hfinal := (hall.unique hreads (law.final_completed (by rw [law.base_withBase]; rfl) _)
      (law.final_completed hcompleted _)).1
    exact ⟨uncut_of_unblanked hread law hbytes hunblanked, hsmall, hchunked, message, rfl, Option.some.inj hfinal⟩
  · rintro ⟨huncut, hsmall, hchunked, message, rfl, rfl⟩
    have hall := hread.reads_complete law hchunked hsmall []
    rw [List.append_nil] at hall
    exact ⟨unblanked_of_uncut hread law hbytes huncut, hall, by rw [law.base_withBase]; rfl⟩

theorem completes_raw_iff (hread : raw.HeadRead side chunks start line chunked) (hbounded : raw.Bounded)
    (law : side.Lawful chunks) (hbytes : HttpReceiver.bytes arrivals = raw.bytes) (hreadable : Readable arrivals) :
    HttpReceiver.Completes side { message := start } arrivals expected ↔ raw.Uncut arrivals ∧
      raw.body.length < 2 ^ 31 ∧ ¬chunked ∧
      ∃ message, line = some message ∧ expected = side.withBase message (raw.finish (side.base message)) :=
  completes_roomy_iff hread law hbytes hreadable (roomy_path hread hbounded law hreadable)

end

/-- A complete message is decoded in the same way however it is cut, if and only if
    no read ends in the middle of the blank line and the length of the body fits in
    an `int32_t`; a response must also begin with "HTTP" and not ask for chunks. -/
theorem decode_cut_iff (raw : RawMessage) (hframed : raw.Framed) (hbounded : raw.Bounded)
    (arrivals : List (Bytes × Block)) (hbytes : HttpReceiver.bytes arrivals = raw.bytes)
    (hreadable : Readable arrivals) :
    (HttpReceiver.Completes CoProtocolHttpServer.side { message := {} } arrivals raw.request ↔
      raw.Uncut arrivals ∧ raw.body.length < 2 ^ 31) ∧
    (HttpReceiver.Completes CoProtocolHttpClient.side { message := {} } arrivals raw.response ↔
      raw.Uncut arrivals ∧ raw.body.length < 2 ^ 31 ∧ raw.IsResponse ∧ ¬raw.IsChunked) := by
  constructor
  · rw [completes_raw_iff hframed.serverRead hbounded CoProtocolHttpServer.lawful hbytes hreadable]
    constructor
    · rintro ⟨huncut, hsmall, _⟩
      exact ⟨huncut, hsmall⟩
    · rintro ⟨huncut, hsmall⟩
      exact ⟨huncut, hsmall, not_false, _, rfl, rfl⟩
  · rw [completes_raw_iff hframed.clientRead hbounded CoProtocolHttpClient.lawful hbytes hreadable]
    constructor
    · rintro ⟨huncut, hsmall, hchunked, message, hline, _⟩
      refine ⟨huncut, hsmall, ?_, hchunked⟩
      by_contra hother
      rw [RawMessage.responseStart, if_neg hother] at hline
      cases hline
    · rintro ⟨huncut, hsmall, hresponse, hchunked⟩
      exact ⟨huncut, hsmall, hchunked, _, if_pos hresponse, rfl⟩

/-- A request with a parameter and a body of two bytes. -/
def postRequest : RawMessage where
  first := ascii "POST"
  second := ascii "/a?b=c"
  third := ascii "HTTP/1.1"
  headers := [(headerContentLength, ascii " 2")]
  body := ascii "ok"
  firstInline := by decide
  firstWord := by decide
  secondInline := by decide
  secondWord := by decide
  thirdInline := by decide
  thirdNonempty := by decide
  namesInline := by decide
  valuesInline := by decide

theorem postRequest_framed : postRequest.Framed where
  length := by
    intro header hmem _
    rw [List.mem_singleton.mp hmem]
    refine ⟨[space], [50], [], rfl, fun _ hmem => .inl (List.mem_singleton.mp hmem), nofun, List.cons_ne_nil _ _, ?_, rfl⟩
    intro byte hdigit
    rw [List.mem_singleton.mp hdigit]
    rfl
  bodiless := by
    intro hnone
    exact absurd rfl (hnone _ List.mem_cons_self)

theorem postRequest_bounded : postRequest.Bounded where
  startLine := by decide
  headers := by decide

/-- Cuts inside the start line, behind the CR of a header line and in the body. -/
theorem decode_cut_iff_post : HttpReceiver.Completes CoProtocolHttpServer.side { message := {} }
    [(ascii "POST /a?", ⟨4096, []⟩), (ascii "b=c HTTP/1.1\r\nContent-Length: 2\r", ⟨4096, []⟩),
      (ascii "\n\r\no", ⟨4096, []⟩), (ascii "k", ⟨4096, []⟩)] postRequest.request :=
  (decode_cut_iff postRequest postRequest_framed postRequest_bounded
    [(ascii "POST /a?", ⟨4096, []⟩), (ascii "b=c HTTP/1.1\r\nContent-Length: 2\r", ⟨4096, []⟩),
      (ascii "\n\r\no", ⟨4096, []⟩), (ascii "k", ⟨4096, []⟩)] (by decide) (by decide)).1.mpr ⟨by decide, by decide⟩

/-- Cut in the middle of the blank line, the same request ends with that line for a
    body, and its own body is left in the buffer. -/
theorem decode_cut_blank : HttpReceiver.bytes
      [(ascii "POST /a?b=c HTTP/1.1\r\nContent-Length: 2\r\n\r", ⟨4096, []⟩), (ascii "\nok", ⟨4096, []⟩)] =
      postRequest.bytes ∧
    ¬∃ message, HttpReceiver.Completes CoProtocolHttpServer.side { message := {} }
      [(ascii "POST /a?b=c HTTP/1.1\r\nContent-Length: 2\r\n\r", ⟨4096, []⟩), (ascii "\nok", ⟨4096, []⟩)] message := by
  refine ⟨by decide, ?_⟩
  rintro ⟨message, final, hrun, _, hregion, _⟩
  have hleft : ([(ascii "POST /a?b=c HTTP/1.1\r\nContent-Length: 2\r\n\r", ⟨4096, []⟩), (ascii "\nok", ⟨4096, []⟩)].foldlM
      (HttpReceiver.receive CoProtocolHttpServer.side) { message := {} }).map (fun final => final.coBuffer.region) =
      some (ascii "ok") := by decide +kernel
  rw [hrun, Option.map_some, hregion] at hleft
  cases hleft

end CoServer
