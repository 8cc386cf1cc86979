import CoServer.Protocol.HttpDecode

/-! # `Content-Length`

The value of the header goes through `atoi` into an `int32_t`, from there into
`reserve`, and is then counted down by the calls that read the body.  It is the
length of the body if and only if it is a number that fits. -/

namespace CoServer

open Lib (ascii strtol cstr isSpace isDigit decimalValue)

/-! ## Numbers -/

/-- The text is a decimal number, with white space around it and a sign before it. -/
inductive Numeral : Bytes → Int → Prop
  | plain {before digits after : Bytes} (leading : ∀ ch ∈ before, isSpace ch = true)
      (numeral : ∀ ch ∈ digits, isDigit ch = true) (nonempty : digits ≠ [])
      (trailing : ∀ ch ∈ after, isSpace ch = true) :
      Numeral (before ++ digits ++ after) (decimalValue digits)
  | plus {before digits after : Bytes} (leading : ∀ ch ∈ before, isSpace ch = true)
      (numeral : ∀ ch ∈ digits, isDigit ch = true) (nonempty : digits ≠ [])
      (trailing : ∀ ch ∈ after, isSpace ch = true) :
      Numeral (before ++ 43 :: digits ++ after) (decimalValue digits)
  | minus {before digits after : Bytes} (leading : ∀ ch ∈ before, isSpace ch = true)
      (numeral : ∀ ch ∈ digits, isDigit ch = true) (nonempty : digits ≠ [])
      (trailing : ∀ ch ∈ after, isSpace ch = true) :
      Numeral (before ++ 45 :: digits ++ after) (-decimalValue digits)

section
variable {before digits after text : Bytes} {n : Int}

theorem isSpace_not_isDigit {ch : UInt8} (isSpace_ : isSpace ch = true) : isDigit ch = false := by
  by_contra digit
  rw [Bool.not_eq_false] at digit
  rw [Lib.isDigit_not_isSpace digit] at isSpace_
  cases isSpace_

theorem takeWhile_digits (numeral : ∀ ch ∈ digits, isDigit ch = true)
    (trailing : ∀ ch ∈ after, isSpace ch = true) : (digits ++ after).takeWhile isDigit = digits := by
  rw [List.takeWhile_append_of_pos numeral]
  cases after with
  | nil => simp
  | cons ch after => simp [isSpace_not_isDigit (trailing ch List.mem_cons_self)]

/-- `strtol` reads the number, unless it is out of the range of a `long`. -/
theorem Numeral.strtol (written : Numeral text n) :
    strtol text = if n < 0 then max (-2 ^ 63) n else min (2 ^ 63 - 1) n := by
  cases written with
  | @plain before digits after leading numeral nonempty trailing =>
    rw [Lib.strtol_numeral leading numeral nonempty, if_neg (by omega)]
    intro ch head
    cases after with
    | nil => cases head
    | cons first after =>
      cases head
      exact isSpace_not_isDigit (trailing ch List.mem_cons_self)
  | @plus before digits after leading numeral nonempty trailing =>
    have dropped : (before ++ 43 :: digits ++ after).dropWhile isSpace = 43 :: (digits ++ after) := by
      rw [List.append_assoc, List.dropWhile_append_of_pos leading]
      rfl
    simp only [Lib.strtol, dropped, takeWhile_digits numeral trailing]
    rw [if_neg (by omega)]
  | @minus before digits after leading numeral nonempty trailing =>
    have dropped : (before ++ 45 :: digits ++ after).dropWhile isSpace = 45 :: (digits ++ after) := by
      rw [List.append_assoc, List.dropWhile_append_of_pos leading]
      rfl
    simp only [Lib.strtol, dropped, takeWhile_digits numeral trailing]
    split <;> omega

theorem Numeral.nonempty (written : Numeral text n) : text ≠ [] := by
  cases written with
  | plain _ _ nonempty => simp [nonempty]
  | plus => simp
  | minus => simp

/-- A number has no NUL in it. -/
theorem Numeral.cstr (written : Numeral text n) : cstr text = text := by
  have spaces : ∀ ch : UInt8, isSpace ch = true → ch ≠ 0 := by
    rintro ch space rfl
    exact absurd space (by decide)
  have digits : ∀ ch : UInt8, isDigit ch = true → ch ≠ 0 := by
    rintro ch digit rfl
    exact absurd digit (by decide)
  refine Lib.cstr_self fun mem => ?_
  cases written with
  | plain leading numeral _ trailing =>
    simp only [List.mem_append] at mem
    obtain (mem | mem) | mem := mem
    · exact spaces 0 (leading 0 mem) rfl
    · exact digits 0 (numeral 0 mem) rfl
    · exact spaces 0 (trailing 0 mem) rfl
  | plus leading numeral _ trailing | minus leading numeral _ trailing =>
    simp only [List.mem_append, List.mem_cons] at mem
    obtain (mem | mem | mem) | mem := mem
    · exact spaces 0 (leading 0 mem) rfl
    · cases mem
    · exact digits 0 (numeral 0 mem) rfl
    · exact spaces 0 (trailing 0 mem) rfl

/-- A number that fits goes through `atoi` unchanged. -/
theorem Numeral.atoi (written : Numeral text n) (nonneg : 0 ≤ n) (small : n < 2 ^ 31) :
    CoServer.atoi (Lib.cstr text) = n := by
  rw [written.cstr, CoServer.atoi, written.strtol, if_neg (Int.not_lt.2 nonneg),
    min_eq_right (by omega), int32_of_bounds (by omega) small]

end

/-! ## The end of the headers -/

/-- Nothing of a body has been read. -/
def CoProtocolHttp.Fresh (base : CoProtocolHttp) : Prop :=
  base.contentRemain = 0 ∧ base.content = [] ∧ base.contentChunked = false

theorem parseStartlineRequest_keeps {message after : CoHTTPRequest} {buffer : Bytes} {parsedLen : Int}
    (parsed : parseStartlineRequest message buffer = some (parsedLen, after)) :
    (message.Fresh → after.Fresh) ∧ after.parseStatus = message.parseStatus := by
  simp only [parseStartlineRequest] at parsed
  split at parsed
  · cases parsed
    exact ⟨id, rfl⟩
  · split at parsed
    · cases parsed
    · cases parsed
      simp only [Option.elim]
      split <;> split <;> split <;> exact ⟨id, rfl⟩
    · cases parsed
      simp only [Option.elim]
      split <;> split <;> split <;> exact ⟨id, rfl⟩

theorem parseStartlineResponse_keeps {message after : CoHTTPResponse} {buffer : Bytes} {parsedLen : Int}
    (parsed : parseStartlineResponse message buffer = some (parsedLen, after)) :
    (message.Fresh → after.Fresh) ∧ after.parseStatus = message.parseStatus := by
  simp only [parseStartlineResponse] at parsed
  split at parsed
  · cases parsed
    exact ⟨id, rfl⟩
  · split at parsed
    · cases parsed
      exact ⟨id, rfl⟩
    · split at parsed
      · cases parsed
      · cases parsed
        simp only [Option.elim]
        split <;> split <;> exact ⟨id, rfl⟩
      · cases parsed
        simp only [Option.elim]
        split <;> split <;> exact ⟨id, rfl⟩

theorem parseContent_status {base after : CoProtocolHttp} {buffer : Bytes} {len parsedLen : Int}
    (parsed : parseContent base buffer len = some (parsedLen, after)) :
    after.parseStatus = base.parseStatus ∨ after.parseStatus = .eCompleted := by
  unfold parseContent at parsed
  split at parsed
  · generalize (if len > base.contentRemain then base.contentRemain else len) = taken at parsed
    simp only at parsed
    split at parsed
    · cases parsed
    · cases parsed
      split
      · exact .inr rfl
      · exact .inl rfl
  · cases parsed
    exact .inr rfl

theorem parseChunks_status {turns : Nat} {base after : CoProtocolHttp} {buffer : Bytes}
    {parsedLen taken : Int} (parsed : parseChunks turns base buffer parsedLen = some (taken, after)) :
    after.parseStatus = base.parseStatus ∨ after.parseStatus = .eCompleted := by
  induction turns generalizing base buffer parsedLen with
  | zero => cases parsed
  | succ turns ih =>
    simp only [parseChunks] at parsed
    split at parsed
    · cases parsed
      exact .inl rfl
    · split at parsed
      · cases parsed
        exact .inl rfl
      · split at parsed
        · cases parsed
          exact .inl rfl
        · split at parsed
          · cases parsed
            exact .inl rfl
          · split at parsed
            · cases parsed
              exact .inr rfl
            · split at parsed
              · cases parsed
              · have rest := ih parsed
                exact rest

/-- What the two sides do with a `Content-Length`, and with a body that is not chunked. -/
structure HttpSide.Counts {Message : Type} (side : HttpSide Message) : Prop where
  base_withBase (message : Message) (base : CoProtocolHttp) :
    side.base (side.withBase message base) = base
  parseStartline_keeps {message after : Message} {buffer : Bytes} {parsedLen : Int} :
    side.parseStartline message buffer = some (parsedLen, after) →
      ((side.base message).Fresh → (side.base after).Fresh) ∧
      (side.base after).parseStatus = (side.base message).parseStatus
  endHeader_status {base after : CoProtocolHttp} :
    side.endHeader base = some after → after.parseStatus = base.parseStatus
  endHeader_length {base : CoProtocolHttp} :
    base.getHeadervalue headerContentLength ≠ [] →
      side.endHeader base = CoProtocolHttp.reserveContentlength
        { base with contentRemain := atoi (cstr (base.getHeadervalue headerContentLength)) }
        (atoi (cstr (base.getHeadervalue headerContentLength)))
  parseBody_plain {base : CoProtocolHttp} (buffer : Bytes) (len : Int) :
    base.contentChunked = false →
      side.parseBody base buffer len = (parseContent base buffer len).map fun (parsedLen, message) =>
        (.ok parsedLen, message)
  parseBody_status {base after : CoProtocolHttp} {buffer : Bytes} {len : Int} {result : Except Int Int} :
    side.parseBody base buffer len = some (result, after) →
      after.parseStatus = base.parseStatus ∨ after.parseStatus = .eCompleted
  parseBody_nil {base after : CoProtocolHttp} {ret : Int} :
    side.parseBody base [] 0 ≠ some (.error ret, after)

theorem CoProtocolHttpServer.counts : CoProtocolHttpServer.side.Counts where
  base_withBase _ _ := rfl
  parseStartline_keeps := parseStartlineRequest_keeps
  endHeader_status := CoProtocolHttpServer.endHeader_status
  endHeader_length := by
    intro base present
    simp [CoProtocolHttpServer.side, CoProtocolHttpServer.endHeader, present]
  parseBody_plain _ _ _ := rfl
  parseBody_status parsed := by
    obtain ⟨taken, body, same⟩ := Option.map_eq_some_iff.1 parsed
    cases same
    exact parseContent_status body
  parseBody_nil := by
    intro base after ret failed
    obtain ⟨result, -, same⟩ := Option.map_eq_some_iff.1 failed
    cases same

theorem CoProtocolHttpClient.counts : CoProtocolHttpClient.side.Counts where
  base_withBase _ _ := rfl
  parseStartline_keeps := parseStartlineResponse_keeps
  endHeader_status := CoProtocolHttpClient.endHeader_status
  endHeader_length := by
    intro base present
    simp [CoProtocolHttpClient.side, CoProtocolHttpClient.endHeader, present]
  parseBody_plain buffer len plain := by
    simp [CoProtocolHttpClient.side, CoProtocolHttpClient.parseBody, plain]
  parseBody_status parsed := by
    simp only [CoProtocolHttpClient.side, CoProtocolHttpClient.parseBody, parseContentChunked] at parsed
    split at parsed
    · obtain ⟨taken, body, same⟩ := Option.map_eq_some_iff.1 parsed
      cases same
      exact parseContent_status body
    · obtain ⟨taken, body, same⟩ := Option.map_eq_some_iff.1 parsed
      cases same
      split at body
      · cases body
      · exact parseChunks_status body
  parseBody_nil := by
    intro base after ret failed
    simp only [CoProtocolHttpClient.side, CoProtocolHttpClient.parseBody] at failed
    split at failed
    · obtain ⟨result, -, same⟩ := Option.map_eq_some_iff.1 failed
      cases same
    · have waits : parseContentChunked base [] 0 = some (0, base) := rfl
      simp [waits] at failed

namespace HttpSide

variable {Message : Type} {side : HttpSide Message}

/-- The header stage before the body is framed: the bytes taken, and the message with its
    headers. -/
def readHeaders (base : CoProtocolHttp) (rawBuffer : Bytes) (parsedLen : Nat) :
    Option (Nat × CoProtocolHttp) :=
  parseHeaders some (rawBuffer.length + 1) base (rawBuffer.drop parsedLen) parsedLen

/-- What a call of `decode` looks at. -/
def rawBuffer (coBuffer : CoBuffer) : Bytes := coBuffer.region.take (int32 coBuffer.bufferSize).toNat

/-- A call of `decode` comes to the end of the headers, `taken` bytes into the buffer; `base`
    is the message there. -/
def EndsHeader (side : HttpSide Message) (message : Message) (coBuffer : CoBuffer) (taken : Nat)
    (base : CoProtocolHttp) : Prop :=
  int32 coBuffer.bufferSize ≤ httpMaxHeaderLen ∧ base.parseStatus = .eContent ∧
    (((side.base message).parseStatus = .eHeader ∧
      readHeaders (side.base message) (rawBuffer coBuffer) 0 = some (taken, base)) ∨
    ((side.base message).parseStatus = .eStartLine ∧ ∃ parsedLen started, 0 < parsedLen ∧
      side.parseStartline message (rawBuffer coBuffer) = some (parsedLen, started) ∧
      readHeaders { side.base started with parseStatus := .eHeader } (rawBuffer coBuffer)
        parsedLen.toNat = some (taken, base)))

theorem parseHeader_fresh (message : CoProtocolHttp) (buffer : Bytes) (fresh : message.Fresh) :
    (parseHeader message buffer).2.Fresh := by
  simp only [parseHeader]
  split
  · exact fresh
  · split
    · exact fresh
    · exact fresh

/-- As long as the headers go on, and where they end, nothing of a body has been read. -/
theorem parseHeaders_fresh {endHeader : CoProtocolHttp → Option CoProtocolHttp}
    (keeps : ∀ base after, endHeader base = some after → after.parseStatus = base.parseStatus)
    {turns : Nat} {message after : CoProtocolHttp} {buffer : Bytes} {parsedLen taken : Nat}
    (inHeader : message.parseStatus = .eHeader) (fresh : message.Fresh)
    (read : parseHeaders endHeader turns message buffer parsedLen = some (taken, after)) :
    after.parseStatus = .eHeader ∧ after.Fresh ∨
    after.parseStatus = .eContent ∧ ∃ base, base.Fresh ∧ endHeader base = some after := by
  induction turns generalizing message buffer parsedLen with
  | zero => cases read
  | succ turns ih =>
    unfold parseHeaders at read
    cases buffer with
    | nil =>
      cases read
      exact .inl ⟨inHeader, fresh⟩
    | cons ch rest =>
      have status := parseHeader_status message (ch :: rest)
      have header := parseHeader_fresh message (ch :: rest) fresh
      generalize parseHeader message (ch :: rest) = parsed at status header read
      obtain ⟨headerLen, header_⟩ := parsed
      simp only [inHeader, ne_eq, not_true_eq_false, if_false] at status header read
      by_cases blank : ch = cr ∨ ch = lf
      · simp only [if_pos blank] at read
        cases framed : endHeader { header_ with parseStatus := .eContent } with
        | none => simp [framed] at read
        | some next =>
          have ended := keeps _ _ framed
          have result : after = next := by
            rw [framed] at read
            simp only at read
            split at read
            · cases read
              rfl
            · cases turns with
              | zero => cases read
              | succ turns =>
                rw [parseHeaders_stop _ (ended.trans_ne (by simp))] at read
                cases read
                rfl
          subst result
          exact .inr ⟨ended, { header_ with parseStatus := .eContent }, header, framed⟩
      · simp only [if_neg blank] at read
        split at read
        · cases read
          exact .inl ⟨status, header⟩
        · exact ih status header read

theorem EndsHeader.fresh (counts : side.Counts) {message : Message} {coBuffer : CoBuffer} {taken : Nat}
    {base : CoProtocolHttp} (ends : side.EndsHeader message coBuffer taken base)
    (fresh : (side.base message).Fresh) : base.Fresh := by
  obtain ⟨-, ended, stage⟩ := ends
  have framed : ∀ {message : CoProtocolHttp} {parsedLen : Nat}, message.parseStatus = .eHeader →
      message.Fresh → readHeaders message (rawBuffer coBuffer) parsedLen = some (taken, base) →
      base.Fresh := by
    intro message parsedLen inHeader fresh read
    have keeps : ∀ base after : CoProtocolHttp, some base = some after →
        after.parseStatus = base.parseStatus := by
      intro base after same
      cases same
      rfl
    cases parseHeaders_fresh keeps inHeader fresh read with
    | inl header => exact header.2
    | inr content =>
      obtain ⟨-, base, fresh, same⟩ := content
      cases same
      exact fresh
  cases stage with
  | inl header => exact framed header.1 fresh header.2
  | inr startline =>
    obtain ⟨-, parsedLen, started, -, line, read⟩ := startline
    exact @framed { side.base started with parseStatus := .eHeader } _ rfl
      ((counts.parseStartline_keeps line).1 fresh) read

/-- The body is framed once, at the line that ends the headers. -/
theorem parseHeaders_framed (counts : side.Counts) {turns : Nat} {message base : CoProtocolHttp}
    {buffer : Bytes} {parsedLen taken : Nat} (inHeader : message.parseStatus = .eHeader)
    (ended : base.parseStatus = .eContent)
    (read : parseHeaders some turns message buffer parsedLen = some (taken, base)) :
    parseHeaders side.endHeader turns message buffer parsedLen =
      (side.endHeader base).map fun framed => (taken, framed) := by
  induction turns generalizing message buffer parsedLen with
  | zero => cases read
  | succ turns ih =>
    unfold parseHeaders at read ⊢
    cases buffer with
    | nil =>
      cases read
      cases inHeader.symm.trans ended
    | cons ch rest =>
      have keeps := parseHeader_status message (ch :: rest)
      generalize parseHeader message (ch :: rest) = parsed at keeps read ⊢
      obtain ⟨headerLen, header⟩ := parsed
      simp only [inHeader, ne_eq, not_true_eq_false, if_false] at keeps read ⊢
      by_cases blank : ch = cr ∨ ch = lf
      · simp only [if_pos blank] at read ⊢
        by_cases waits : headerLen = 0
        · simp only [if_pos waits, Option.some.injEq, Prod.mk.injEq] at read
          obtain ⟨rfl, rfl⟩ := read
          cases side.endHeader { header with parseStatus := .eContent } <;> simp [waits]
        · simp only [if_neg waits] at read ⊢
          -- the next turn of the loop sees that the headers have ended
          cases turns with
          | zero => cases read
          | succ turns =>
            rw [parseHeaders_stop _ (by simp)] at read
            simp only [Option.some.injEq, Prod.mk.injEq] at read
            obtain ⟨rfl, rfl⟩ := read
            cases framed : side.endHeader { header with parseStatus := .eContent } with
            | none => simp
            | some after =>
              have status := counts.endHeader_status framed
              simp [parseHeaders_stop _ (status.trans_ne (by simp))]
      · simp only [if_neg blank] at read ⊢
        by_cases waits : headerLen = 0
        · simp only [if_pos waits, Option.some.injEq, Prod.mk.injEq] at read
          obtain ⟨-, rfl⟩ := read
          cases keeps.symm.trans ended
        · simp only [if_neg waits] at read ⊢
          exact ih keeps read

theorem parseHeader_within (message : CoProtocolHttp) (buffer : Bytes) :
    (parseHeader message buffer).1 ≤ buffer.length := by
  by_cases arrived : lf ∈ buffer
  · obtain ⟨front, back, rfl, absent⟩ := split_line arrived
    rw [parseHeader_length message absent]
    simp only [List.length_append, List.length_cons]
    omega
  · rw [parseHeader_wait message arrived]
    exact Nat.zero_le _

/-- The loop takes no more than what is there. -/
theorem parseHeaders_within {turns : Nat} {message base : CoProtocolHttp} {buffer : Bytes}
    {parsedLen taken : Nat}
    (read : parseHeaders some turns message buffer parsedLen = some (taken, base)) :
    taken ≤ parsedLen + buffer.length := by
  induction turns generalizing message buffer parsedLen with
  | zero => cases read
  | succ turns ih =>
    unfold parseHeaders at read
    cases buffer with
    | nil =>
      cases read
      exact Nat.le_refl _
    | cons ch rest =>
      have within := parseHeader_within message (ch :: rest)
      generalize parseHeader message (ch :: rest) = parsed at within read
      obtain ⟨headerLen, header⟩ := parsed
      simp only [ne_eq] at within read
      split at read
      · cases read
        omega
      · split at read
        · cases read
        · split at read
          · cases read
            omega
          · have later := ih read
            rw [List.length_drop] at later
            omega

end HttpSide

/-! ## The countdown -/

/-- A body of `n` bytes is counted down. -/
structure CoProtocolHttp.Counting (base : CoProtocolHttp) (n : Nat) : Prop where
  plain : base.contentChunked = false
  remain_nonneg : 0 ≤ base.contentRemain
  counted : base.contentRemain + base.content.length = n
  status : base.parseStatus = .eContent ∨ base.parseStatus = .eCompleted ∧ base.contentRemain = 0

/-- The message is completed by exactly `n` bytes. -/
structure CoProtocolHttp.ExactBody (base : CoProtocolHttp) (n : Nat) : Prop extends base.Counting n where
  completed_iff : base.parseStatus = .eCompleted ↔ base.content.length = n

section
variable {base : CoProtocolHttp} {buffer : Bytes} {n : Nat}

/-- A call takes what has arrived, and no more than what remains. -/
theorem parseContent_takes (more : base.contentRemain > 0) (small : base.contentRemain < 2 ^ 31) :
    parseContent base buffer buffer.length = some (min base.contentRemain buffer.length,
      { base.appendContent (buffer.take base.contentRemain.toNat) with
        contentRemain := base.contentRemain - min base.contentRemain buffer.length
        parseStatus := if base.contentRemain ≤ buffer.length then .eCompleted else base.parseStatus }) := by
  by_cases whole : (buffer.length : Int) > base.contentRemain
  · have taken : min base.contentRemain buffer.length = base.contentRemain := by omega
    have nothing : int32 0 = 0 := int32_of_bounds (by decide) (by decide)
    simp only [parseContent, if_pos more, if_pos whole, if_neg (show ¬base.contentRemain < 0 by omega),
      appendContent_contentRemain, taken, Int.sub_self, nothing, Int.le_refl, if_true, if_pos (Int.le_of_lt whole)]
  · have taken : min base.contentRemain buffer.length = (buffer.length : Int) := by omega
    have left : int32 (base.contentRemain - buffer.length) = base.contentRemain - buffer.length :=
      int32_of_bounds (by omega) (by omega)
    have all : buffer.take base.contentRemain.toNat = buffer := by
      rw [List.take_of_length_le]
      omega
    have last : base.contentRemain - (buffer.length : Int) ≤ 0 ↔ base.contentRemain ≤ buffer.length := by
      omega
    simp only [parseContent, if_pos more, if_neg whole,
      if_neg (show ¬(buffer.length : Int) < 0 by omega), Int.toNat_natCast, List.take_length,
      appendContent_contentRemain, left, taken, all, last]
    split <;> rfl

theorem parseContent_negative {len : Int} (more : base.contentRemain > 0) (negative : len < 0) :
    parseContent base buffer len = none := by
  have shorter : ¬len > base.contentRemain := by omega
  simp only [parseContent, if_pos more, if_neg shorter, if_pos negative]

/-- A call counts what it appends. -/
theorem parseContent_counts (counting : base.Counting n) (inContent : base.parseStatus = .eContent)
    (small : n < 2 ^ 31) : ∃ taken after, parseContent base buffer buffer.length = some (taken, after) ∧
      after.ExactBody n ∧ after.content = base.content ++ buffer.take base.contentRemain.toNat := by
  have remain := counting.remain_nonneg
  have counted := counting.counted
  by_cases more : base.contentRemain > 0
  · refine ⟨_, _, parseContent_takes more (by omega), ?_, rfl⟩
    have length : (base.appendContent (buffer.take base.contentRemain.toNat)).content.length =
        base.content.length + min base.contentRemain.toNat buffer.length := by
      simp [CoProtocolHttp.appendContent]
    by_cases last : base.contentRemain ≤ buffer.length
    · refine ⟨⟨counting.plain, by simp only; omega, by simp only [length]; omega, .inr ?_⟩, ?_⟩
      · simp only [if_pos last, true_and]
        omega
      · simp only [if_pos last, length, true_iff]
        omega
    · refine ⟨⟨counting.plain, by simp only; omega, by simp only [length]; omega, .inl ?_⟩, ?_⟩
      · simp only [if_neg last, inContent]
      · simp only [if_neg last, inContent, length, reduceCtorEq, false_iff]
        omega
  · -- an empty body
    have zero : base.contentRemain = 0 := by omega
    refine ⟨0, { base with parseStatus := .eCompleted }, by simp only [parseContent, if_neg more],
      ⟨⟨counting.plain, remain, counted, .inr ⟨rfl, zero⟩⟩, ?_⟩, by simp [zero]⟩
    simp only [true_iff]
    omega

end

namespace HttpSide

variable {Message : Type} {side : HttpSide Message}

/-! ## What is promised -/

/-- The message is handed to `decode` again, any number of times. -/
inductive Later (side : HttpSide Message) : Message → Message → Prop
  | refl (message : Message) : Later side message message
  | call {message middle later : Message} {coBuffer left : CoBuffer} {ret : Int}
      (before : Later side message middle) (valid : coBuffer.Valid)
      (decoded : side.decode middle coBuffer = some (ret, later, left)) : Later side message later

/-- What `decode` returns says whether the message is completed. -/
def Returns (side : HttpSide Message) (ret : Int) (message : Message) : Prop :=
  ret = if (side.base message).parseStatus = .eCompleted then coOk else coAgain

/-- `n` is written, it goes into `m_contentRemain` and into `reserve`, and it is what the body
    is counted down from. -/
structure LengthKept (side : HttpSide Message) (value : Bytes) (message : Message) (coBuffer : CoBuffer)
    (taken : Nat) (base : CoProtocolHttp) (n : Nat) : Prop where
  written : Numeral value n
  framed : side.endHeader base =
    CoProtocolHttp.reserveContentlength { base with contentRemain := n } n
  decoded : ∃ ret after left, side.decode message coBuffer = some (ret, after, left) ∧
    side.Returns ret after ∧
    (side.base after).content = ((rawBuffer coBuffer).drop taken).take n
  counted : ∀ ret after left, side.decode message coBuffer = some (ret, after, left) →
    ∀ later, side.Later after later → (side.base later).ExactBody n
  taken : ∀ ret after left, side.decode message coBuffer = some (ret, after, left) →
    ∀ later, side.Later after later → ∀ coBuffer : CoBuffer, coBuffer.Valid →
      coBuffer.bufferSize < 2 ^ 31 → ∃ ret next left,
        side.decode later coBuffer = some (ret, next, left) ∧ side.Returns ret next ∧
        (side.base next).content = (side.base later).content ++
          coBuffer.region.take (side.base later).contentRemain.toNat

/-- Wherever a call comes to the end of these headers, it returns an error, or the length
    that is written is kept. -/
def LengthHonoured (side : HttpSide Message) (value : Bytes) (base : CoProtocolHttp) : Prop :=
  ∀ message coBuffer taken, coBuffer.Valid → side.EndsHeader message coBuffer taken base →
    (∃ ret after left, side.decode message coBuffer = some (ret, after, left) ∧
      ret ≠ coOk ∧ ret ≠ coAgain) ∨
    ∃ n : Nat, side.LengthKept value message coBuffer taken base n

/-! ## One call -/

section
variable {message : Message} {coBuffer : CoBuffer} {base framed : CoProtocolHttp} {taken n : Nat}

theorem rawBuffer_length (valid : coBuffer.Valid) (nonneg : 0 ≤ int32 coBuffer.bufferSize) :
    ((rawBuffer coBuffer).length : Int) = int32 coBuffer.bufferSize := by
  obtain ⟨turns, wraps⟩ := int32_turns (coBuffer.bufferSize : Int)
  have bounds := int32_bounds (coBuffer.bufferSize : Int)
  rw [rawBuffer, List.length_take, valid.region_length]
  omega

/-- Behind the headers it goes on to the body. -/
theorem decodeRest_framed {rawBuffer : Bytes} {len : Int} {parsedLen : Nat}
    (parsed : parseHeaders side.endHeader (rawBuffer.length + 1) (side.base message) (rawBuffer.drop parsedLen) parsedLen =
      (side.endHeader base).map fun framed => (taken, framed)) :
    side.decodeRest message coBuffer rawBuffer len parsedLen =
      (side.endHeader base).bind fun framed => side.decodeBody message coBuffer rawBuffer len taken framed := by
  rw [decodeRest, parsed]
  cases side.endHeader base <;> rfl

/-- A call that ends the headers has something to read, and goes on to the body. -/
theorem EndsHeader.decode_eq (counts : side.Counts) (ends : side.EndsHeader message coBuffer taken base) :
    taken ≤ (rawBuffer coBuffer).length ∧
      0 ≤ int32 coBuffer.bufferSize ∧
      ∃ started, side.decode message coBuffer = (side.endHeader base).bind fun framed =>
        side.decodeBody started coBuffer (rawBuffer coBuffer) (int32 coBuffer.bufferSize) taken framed := by
  obtain ⟨short, ended, stage⟩ := ends
  have nonempty : ∀ {message : CoProtocolHttp} {parsedLen : Nat}, message.parseStatus = .eHeader →
      readHeaders message (rawBuffer coBuffer) parsedLen = some (taken, base) →
      parsedLen < (rawBuffer coBuffer).length := by
    intro message parsedLen inHeader read
    by_contra beyond
    rw [readHeaders, List.drop_eq_nil_of_le (Nat.le_of_not_lt beyond)] at read
    simp only [parseHeaders, Option.some.injEq, Prod.mk.injEq] at read
    cases inHeader.symm.trans (read.2 ▸ ended)
  have within : ∀ {message : CoProtocolHttp} {parsedLen : Nat}, message.parseStatus = .eHeader →
      readHeaders message (rawBuffer coBuffer) parsedLen = some (taken, base) →
      taken ≤ (rawBuffer coBuffer).length ∧ 0 ≤ int32 coBuffer.bufferSize := by
    intro message parsedLen inHeader read
    have some_ := nonempty inHeader read
    have bound := parseHeaders_within read
    rw [List.length_drop] at bound
    refine ⟨by omega, ?_⟩
    by_contra negative
    rw [rawBuffer, Int.toNat_of_nonpos (by omega)] at some_
    simp at some_
  cases stage with
  | inl header =>
    obtain ⟨inHeader, read⟩ := header
    obtain ⟨fits, nonneg⟩ := within inHeader read
    have parsed := parseHeaders_framed counts inHeader ended read
    refine ⟨fits, nonneg, message, ?_⟩
    simp only [decode, inHeader]
    rw [if_neg (Int.not_lt.2 short)]
    exact decodeRest_framed parsed
  | inr startline =>
    obtain ⟨inStart, parsedLen, started, positive, line, read⟩ := startline
    obtain ⟨fits, nonneg⟩ := within (by rfl) read
    have parsed := parseHeaders_framed counts (by rfl) ended read
    refine ⟨fits, nonneg, side.withBase started { side.base started with parseStatus := .eHeader }, ?_⟩
    simp only [decode, inStart]
    rw [if_neg (Int.not_lt.2 short), if_neg (Int.not_lt.2 nonneg)]
    rw [rawBuffer] at line
    rw [line]
    simp only
    rw [if_neg (by omega), if_neg (by omega)]
    rw [← counts.base_withBase started { side.base started with parseStatus := .eHeader }] at parsed
    exact decodeRest_framed parsed

/-- The body stage counts what it takes. -/
theorem decodeBody_counts (counts : side.Counts) (counting : framed.Counting n)
    (inContent : framed.parseStatus = .eContent) (small : n < 2 ^ 31) {rawBuffer : Bytes}
    (fits : taken ≤ rawBuffer.length) : ∃ ret after left,
      side.decodeBody message coBuffer rawBuffer rawBuffer.length taken framed =
        some (ret, after, left) ∧
      side.Returns ret after ∧ (side.base after).ExactBody n ∧
      (side.base after).content =
        framed.content ++ (rawBuffer.drop taken).take framed.contentRemain.toNat := by
  have length : (rawBuffer.length : Int) - taken = ((rawBuffer.drop taken).length : Int) := by
    rw [List.length_drop]
    omega
  obtain ⟨bodyLen, after, parsed, counted, content⟩ :=
    @parseContent_counts framed (rawBuffer.drop taken) n counting inContent small
  simp only [decodeBody, if_pos inContent, length, counts.parseBody_plain _ _ counting.plain, parsed,
    Option.map_some]
  refine ⟨_, _, _, rfl, ?_, ?_, ?_⟩
  · simp only [Returns, counts.base_withBase]
  · rw [counts.base_withBase]
    exact counted
  · rw [counts.base_withBase, content]

/-- A call on a message that is in its body. -/
theorem decode_counted (counts : side.Counts) (counted : (side.base message).ExactBody n)
    (small : n < 2 ^ 31) (valid : coBuffer.Valid) (nonneg : 0 ≤ int32 coBuffer.bufferSize) :
    ∃ ret after left, side.decode message coBuffer = some (ret, after, left) ∧
      side.Returns ret after ∧ (side.base after).ExactBody n ∧
      (side.base after).content = (side.base message).content ++
        (rawBuffer coBuffer).take (side.base message).contentRemain.toNat := by
  cases counted.status with
  | inl inContent =>
    obtain ⟨ret, after, left, decoded, kept⟩ := @decodeBody_counts Message side message coBuffer
      (side.base message) 0 n counts counted.toCounting inContent small (rawBuffer coBuffer)
      (Nat.zero_le _)
    refine ⟨ret, after, left, ?_, kept⟩
    rw [rawBuffer_length valid nonneg] at decoded
    simp only [decode, inContent, decodeRest]
    rw [parseHeaders_stop _ (by simp [inContent])]
    exact decoded
  | inr completed =>
    obtain ⟨completed, zero⟩ := completed
    refine ⟨coOk, message, coBuffer, by simp only [decode, completed], ?_, counted, ?_⟩
    · simp [Returns, completed]
    · simp [zero]

/-- Every later call keeps to the count. -/
theorem Later.counted (counts : side.Counts) {later : Message} (run : side.Later message later)
    (counted : (side.base message).ExactBody n) (small : n < 2 ^ 31) : (side.base later).ExactBody n := by
  induction run with
  | refl => exact counted
  | @call middle later coBuffer left ret _ valid decoded ih =>
    by_cases nonneg : 0 ≤ int32 coBuffer.bufferSize
    · obtain ⟨_, after, _, again, -, counted, -⟩ := decode_counted counts ih small valid nonneg
      rw [decoded] at again
      cases again
      exact counted
    · -- a negative length: only a completed message gets through
      cases ih.status with
      | inl inContent =>
        have remains : (side.base middle).contentRemain > 0 := by
          have incomplete : ¬(side.base middle).content.length = n := fun whole =>
            absurd ((ih.completed_iff.2 whole).symm.trans inContent) (by simp)
          have := ih.counted
          have := ih.remain_nonneg
          omega
        have throws : side.decode middle coBuffer = none := by
          simp only [decode, inContent, decodeRest]
          rw [parseHeaders_stop _ (by simp [inContent])]
          simp only [decodeBody, if_pos inContent, counts.parseBody_plain _ _ ih.plain]
          rw [parseContent_negative remains (by omega)]
          rfl
        rw [throws] at decoded
        cases decoded
      | inr completed =>
        simp only [decode, completed.1, Option.some.injEq, Prod.mk.injEq] at decoded
        rw [← decoded.2.1]
        exact ih

end

/-! ## Messages before their bodies -/

/-- The body has not been started, or the message does not go back to its headers. -/
def BeforeBody (side : HttpSide Message) (message : Message) : Prop :=
  (side.base message).parseStatus = .eStartLine ∨ (side.base message).parseStatus = .eHeader →
    (side.base message).Fresh

section
variable {message after : Message} {coBuffer left : CoBuffer} {ret : Int}

theorem decodeBody_beforeBody (counts : side.Counts) {base : CoProtocolHttp} {buffer : Bytes}
    {len : Int} {parsedLen : Nat}
    (fresh : base.parseStatus = .eStartLine ∨ base.parseStatus = .eHeader → base.Fresh)
    (decoded : side.decodeBody message coBuffer buffer len parsedLen base = some (ret, after, left)) :
    side.BeforeBody after := by
  simp only [decodeBody] at decoded
  split at decoded
  · rename_i inContent
    have inBody : ∀ {result : Except Int Int} {next : CoProtocolHttp},
        side.parseBody base (buffer.drop parsedLen) (len - parsedLen) = some (result, next) →
        side.BeforeBody (side.withBase message next) := by
      intro result next parsed back
      rw [counts.base_withBase] at back
      cases counts.parseBody_status parsed with
      | inl same =>
        rw [same, inContent] at back
        simp at back
      | inr completed =>
        rw [completed] at back
        simp at back
    split at decoded
    · cases decoded
    · rename_i parsed
      cases decoded
      exact inBody parsed
    · rename_i parsed
      cases decoded
      exact inBody parsed
  · cases decoded
    intro back
    rw [counts.base_withBase] at back ⊢
    exact fresh back

theorem decodeRest_beforeBody (counts : side.Counts) {buffer : Bytes} {len : Int} {parsedLen : Nat}
    (before : side.BeforeBody message)
    (decoded : side.decodeRest message coBuffer buffer len parsedLen = some (ret, after, left)) :
    side.BeforeBody after := by
  simp only [decodeRest] at decoded
  split at decoded
  · cases decoded
  · rename_i taken base parsed
    apply decodeBody_beforeBody counts _ decoded
    intro back
    by_cases inHeader : (side.base message).parseStatus = .eHeader
    · cases parseHeaders_fresh (fun _ _ => counts.endHeader_status) inHeader (before (.inr inHeader))
        parsed with
      | inl header => exact header.2
      | inr content =>
        rw [content.1] at back
        simp at back
    · rw [parseHeaders_stop _ inHeader] at parsed
      cases parsed
      exact before back

theorem decode_beforeBody (counts : side.Counts) (before : side.BeforeBody message)
    (decoded : side.decode message coBuffer = some (ret, after, left)) : side.BeforeBody after := by
  simp only [decode] at decoded
  split at decoded
  · cases decoded
    exact before
  · rename_i inStart
    split at decoded
    · cases decoded
      exact before
    · split at decoded
      · cases decoded
      · split at decoded
        · cases decoded
        · rename_i parsedLen started line
          have fresh := (counts.parseStartline_keeps line).1 (before (.inl inStart))
          split at decoded
          · cases decoded
            exact fun _ => fresh
          · split at decoded
            · cases decoded
              exact fun _ => fresh
            · apply decodeRest_beforeBody counts _ decoded
              intro _
              rw [counts.base_withBase]
              exact fresh
  · rename_i inHeader
    split at decoded
    · cases decoded
      exact before
    · exact decodeRest_beforeBody counts before decoded
  · exact decodeRest_beforeBody counts before decoded
  · exact decodeRest_beforeBody counts before decoded

/-- Until its body starts, a message that was new is fresh. -/
theorem Later.beforeBody (counts : side.Counts) {later : Message} (run : side.Later message later)
    (fresh : (side.base message).Fresh) : side.BeforeBody later := by
  induction run with
  | refl => exact fun _ => fresh
  | call _ _ decoded ih => exact decode_beforeBody counts ih decoded

theorem EndsHeader.base_fresh (counts : side.Counts) {later : Message} {taken : Nat} {base : CoProtocolHttp}
    (run : side.Later message later) (fresh : (side.base message).Fresh)
    (ends : side.EndsHeader later coBuffer taken base) : base.Fresh := by
  apply ends.fresh counts
  apply run.beforeBody counts fresh
  cases ends.2.2 with
  | inl header => exact .inr header.1
  | inr startline => exact .inl startline.1

end

/-! ## When the length is honoured -/

section
variable {base : CoProtocolHttp} {value : Bytes}

theorem getHeadervalue_of_lookup (present : base.headers.lookup headerContentLength = some value) :
    base.getHeadervalue headerContentLength = value := by
  simp [CoProtocolHttp.getHeadervalue, present]

theorem lengthKept (counts : side.Counts) {message : Message} {coBuffer : CoBuffer} {taken n : Nat}
    (fresh : base.Fresh)
    (present : base.headers.lookup headerContentLength = some value) (written : Numeral value n)
    (small : n < 2 ^ 31) (valid : coBuffer.Valid) (ends : side.EndsHeader message coBuffer taken base) :
    side.LengthKept value message coBuffer taken base n := by
  obtain ⟨-, empty, plain⟩ := fresh
  have framed : side.endHeader base =
      CoProtocolHttp.reserveContentlength { base with contentRemain := n } n := by
    rw [counts.endHeader_length (by rw [getHeadervalue_of_lookup present]; exact written.nonempty),
      getHeadervalue_of_lookup present, written.atoi (by omega) (by omega)]
  have reserved : CoProtocolHttp.reserveContentlength { base with contentRemain := n } n =
      some { base with contentRemain := n } := if_neg (by omega)
  have inContent : base.parseStatus = .eContent := ends.2.1
  have counting : CoProtocolHttp.Counting { base with contentRemain := n } n :=
    ⟨plain, by simp, by simp [empty], .inl inContent⟩
  obtain ⟨fits, nonneg, started, through⟩ := ends.decode_eq counts
  obtain ⟨ret, after, left, body, returns, counted, content⟩ := @decodeBody_counts Message side started
    coBuffer _ taken n counts counting inContent small (rawBuffer coBuffer) fits
  have decoded : side.decode message coBuffer = some (ret, after, left) := by
    rw [through, framed, reserved, Option.bind_some, ← rawBuffer_length valid nonneg]
    exact body
  refine ⟨written, framed, ⟨ret, after, left, decoded, returns, by simpa [empty] using content⟩, ?_, ?_⟩
  · intro ret' after' left' again later run
    rw [decoded] at again
    cases again
    exact run.counted counts counted small
  · intro ret' after' left' again later run coBuffer validLater shortLater
    rw [decoded] at again
    cases again
    have length : int32 coBuffer.bufferSize = coBuffer.bufferSize :=
      int32_of_bounds (by omega) (by omega)
    obtain ⟨ret, next, left, called, returned, -, appended⟩ := decode_counted counts
      (run.counted counts counted small) small validLater (by omega)
    have whole : rawBuffer coBuffer = coBuffer.region := by
      rw [rawBuffer, length, Int.toNat_natCast, ← validLater.region_length, List.take_length]
    exact ⟨ret, next, left, called, returned, whole ▸ appended⟩

/-- A buffer that holds a blank line. -/
def blankLine : CoBuffer := { originBuffer := 1, block := crlf, totalSize := 2, buffer := 1, bufferSize := 2 }

theorem blankLine_valid : blankLine.Valid := by
  constructor <;> decide

theorem size_blankLine : int32 (blankLine.bufferSize : Nat) = 2 := int32_of_bounds (by decide) (by decide)

theorem rawBuffer_blankLine : rawBuffer blankLine = crlf := by
  rw [rawBuffer, size_blankLine]
  rfl

/-- The headers may end with nothing behind them. -/
theorem endsHeader_blankLine (counts : side.Counts) (message : Message)
    (ended : base.parseStatus = .eContent) : side.EndsHeader
      (side.withBase message { base with parseStatus := .eHeader }) blankLine 2 base := by
  refine ⟨?_, ended, .inl ⟨by rw [counts.base_withBase], ?_⟩⟩
  · rw [size_blankLine]
    decide
  · rw [counts.base_withBase, rawBuffer_blankLine]
    have restored : { base with parseStatus := .eContent } = base := by
      rw [← ended]
    have parsed : parseHeader { base with parseStatus := .eHeader } crlf =
        (2, { base with parseStatus := .eHeader }) := rfl
    change parseHeaders some 3 _ (13 :: [10]) 0 = _
    simp only [parseHeaders, ne_eq, not_true_eq_false, if_false, show (13 :: [10] : Bytes) = crlf from rfl,
      parsed]
    simp [crlf, cr, restored]

/-- With nothing behind the headers there is no error in the body. -/
theorem decode_blankLine (counts : side.Counts) (message : Message) (ended : base.parseStatus = .eContent)
    {ret : Int} {after : Message} {left : CoBuffer}
    (decoded : side.decode (side.withBase message { base with parseStatus := .eHeader }) blankLine =
      some (ret, after, left)) : ret = coOk ∨ ret = coAgain := by
  obtain ⟨-, -, started, through⟩ := (endsHeader_blankLine counts message ended).decode_eq counts
  rw [through] at decoded
  obtain ⟨framed, -, body⟩ := Option.bind_eq_some_iff.1 decoded
  rw [rawBuffer_blankLine, size_blankLine] at body
  simp only [decodeBody] at body
  split at body
  · split at body
    · cases body
    · rename_i failed
      cases counts.parseBody_nil failed
    · cases body
      split <;> simp
  · cases body
    exact .inr rfl

/-- The length is honoured if and only if it is a number of fewer than thirty-two bits. -/
theorem lengthHonoured_iff (counts : side.Counts) (anyMessage : Message)
    (fresh : base.Fresh)
    (ended : base.parseStatus = .eContent)
    (present : base.headers.lookup headerContentLength = some value) :
    side.LengthHonoured value base ↔ ∃ n : Nat, Numeral value n ∧ n < 2 ^ 31 := by
  constructor
  · intro honoured
    have ends := endsHeader_blankLine counts anyMessage ended
    cases honoured _ _ _ blankLine_valid ends with
    | inl failed =>
      obtain ⟨ret, after, left, decoded, notOk, notAgain⟩ := failed
      cases decode_blankLine counts anyMessage ended decoded with
      | inl ok => exact absurd ok notOk
      | inr again => exact absurd again notAgain
    | inr kept =>
      obtain ⟨n, kept⟩ := kept
      refine ⟨n, kept.written, ?_⟩
      have nonempty : base.getHeadervalue headerContentLength ≠ [] := by
        rw [getHeadervalue_of_lookup present]
        exact kept.written.nonempty
      have framed := (counts.endHeader_length nonempty).symm.trans kept.framed
      simp only [CoProtocolHttp.reserveContentlength] at framed
      rw [if_neg (show ¬(n : Int) < 0 by omega)] at framed
      split at framed
      · cases framed
      · have same := congrArg CoProtocolHttp.contentRemain (Option.some.inj framed)
        have bounds := int32_bounds (Lib.strtol (cstr (base.getHeadervalue headerContentLength)))
        simp only [CoServer.atoi] at same
        omega
  · intro fits
    obtain ⟨n, written, small⟩ := fits
    intro message coBuffer taken valid ends
    exact .inr ⟨n, lengthKept counts fresh present written small valid ends⟩

end

end HttpSide

/-- For the headers of any message and any value of `Content-Length` in them, both sides honour
    the value if and only if it is a number from zero to `2 ^ 31 - 1`. -/
theorem content_length_honoured_iff {base : CoProtocolHttp} {value : Bytes}
    (present : base.headers.lookup headerContentLength = some value) :
    (∀ message coBuffer taken, CoProtocolHttpServer.side.Later {} message →
      CoProtocolHttpServer.side.EndsHeader message coBuffer taken base →
      (CoProtocolHttpServer.side.LengthHonoured value base ↔ ∃ n : Nat, Numeral value n ∧ n < 2 ^ 31)) ∧
    (∀ message coBuffer taken, CoProtocolHttpClient.side.Later {} message →
      CoProtocolHttpClient.side.EndsHeader message coBuffer taken base →
      (CoProtocolHttpClient.side.LengthHonoured value base ↔ ∃ n : Nat, Numeral value n ∧ n < 2 ^ 31)) := by
  constructor
  · intro message coBuffer taken run ends
    have fresh := ends.base_fresh CoProtocolHttpServer.counts run ⟨rfl, rfl, rfl⟩
    exact HttpSide.lengthHonoured_iff CoProtocolHttpServer.counts {} fresh ends.2.1 present
  · intro message coBuffer taken run ends
    have fresh := ends.base_fresh CoProtocolHttpClient.counts run ⟨rfl, rfl, rfl⟩
    exact HttpSide.lengthHonoured_iff CoProtocolHttpClient.counts {} fresh ends.2.1 present

/-- A request with a body of five bytes, and the given value of `Content-Length`. -/
def lengthRequest (value : Bytes) : CoBuffer :=
  let bytes := ascii "POST / HTTP/1.1" ++ crlf ++ headerContentLength ++ ascii ": " ++ value ++ crlf ++ crlf ++
    ascii "hello"
  { originBuffer := 1, block := bytes, totalSize := bytes.length, buffer := 1, bufferSize := bytes.length }

/-- Where the headers of such a request end. -/
theorem lengthRequest_ends {value : Bytes}
    (short : int32 (lengthRequest value).bufferSize ≤ httpMaxHeaderLen)
    (parsed : ((parseStartlineRequest {} (HttpSide.rawBuffer (lengthRequest value))).bind fun started =>
      (HttpSide.readHeaders { started.2.toCoProtocolHttp with parseStatus := .eHeader }
        (HttpSide.rawBuffer (lengthRequest value)) started.1.toNat).map fun result =>
      (decide (0 < started.1), result.2.parseStatus, result.2.headers.lookup headerContentLength)) =
        some (true, .eContent, some value)) :
    ∃ taken base, CoProtocolHttpServer.side.EndsHeader {} (lengthRequest value) taken base ∧
      base.headers.lookup headerContentLength = some value := by
  obtain ⟨⟨parsedLen, started⟩, line, rest⟩ := Option.bind_eq_some_iff.1 parsed
  obtain ⟨⟨taken, base⟩, read, same⟩ := Option.map_eq_some_iff.1 rest
  simp only [Prod.mk.injEq, decide_eq_true_eq] at same
  exact ⟨taken, base, ⟨short, same.2.1, .inr ⟨rfl, parsedLen, started, same.1, line, read⟩⟩, same.2.2⟩

/-- A length of five is honoured. -/
theorem five_honoured : ∃ taken base,
    CoProtocolHttpServer.side.EndsHeader {} (lengthRequest (ascii "5")) taken base ∧
    CoProtocolHttpServer.side.LengthHonoured (ascii "5") base := by
  obtain ⟨taken, base, ends, present⟩ := @lengthRequest_ends (ascii "5") (by decide +kernel) (by decide +kernel)
  refine ⟨taken, base, ends, ?_⟩
  apply ((content_length_honoured_iff present).1 _ _ _ (.refl _) ends).2
  have digit : ∀ ch ∈ ([53] : Bytes), isDigit ch = true := by simp [isDigit]
  exact ⟨5, @Numeral.plain [] [53] [] (by simp) digit (by simp) (by simp), by decide⟩

/-- A length of `2 ^ 32 + 5` wraps: the message is completed by five bytes. -/
theorem wrapped_length :
    (∃ reqMsg left, CoProtocolHttpServer.side.decode {} (lengthRequest (ascii "4294967301")) =
      some (coOk, reqMsg, left) ∧ reqMsg.content = ascii "hello") ∧
    ¬∀ message coBuffer taken base value, CoProtocolHttpServer.side.Later {} message →
      CoProtocolHttpServer.side.EndsHeader message coBuffer taken base →
      base.headers.lookup headerContentLength = some value →
      CoProtocolHttpServer.side.LengthHonoured value base := by
  constructor
  · have decoded : (CoProtocolHttpServer.side.decode {} (lengthRequest (ascii "4294967301"))).map
        (fun result => (result.1, result.2.1.content)) = some (coOk, ascii "hello") := by decide +kernel
    obtain ⟨⟨ret, reqMsg, left⟩, decoded, same⟩ := Option.map_eq_some_iff.1 decoded
    simp only [Prod.mk.injEq] at same
    exact ⟨reqMsg, left, same.1 ▸ decoded, same.2⟩
  · intro honoured
    obtain ⟨taken, base, ends, present⟩ :=
      @lengthRequest_ends (ascii "4294967301") (by decide +kernel) (by decide +kernel)
    have fresh := ends.base_fresh CoProtocolHttpServer.counts (.refl _) ⟨rfl, rfl, rfl⟩
    obtain ⟨n, written, small⟩ := (HttpSide.lengthHonoured_iff CoProtocolHttpServer.counts {} fresh
      ends.2.1 present).1 (honoured _ _ _ _ _ (.refl _) ends present)
    have read := written.strtol
    rw [if_neg (by omega), min_eq_right (by omega)] at read
    have large : strtol (ascii "4294967301") = 4294967301 := by decide +kernel
    omega

end CoServer
