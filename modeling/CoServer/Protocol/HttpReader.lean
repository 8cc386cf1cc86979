import CoServer.Protocol.HttpServer
import CoServer.Protocol.HttpClient
import CoServer.Base.BufferQueue
import CoServer.Lib.Reader

/-! # The HTTP decoder as an incremental reader

`HttpSide.reader` reads a message item by item: the start line, a header line, a
byte or a chunk of the body.  `decode_reads` says that one call of `decode` reads
all items that have arrived.

There is one exception.  At a CR that ends what has arrived of the headers, the
decoder does not wait for the LF behind it: it goes on to the body at once.  The
reader waits, and `AtBlank` names the states in which the two differ. -/

namespace CoServer

open Lib (memchr cstr Reader)

/-! ## Lines -/

section
variable {front back : Bytes}

theorem memchr_line (habsent : lf ∉ front) : memchr (front ++ lf :: back) lf = some front.length :=
  Lib.memchr_found habsent

theorem take_line (front back : Bytes) : (front ++ lf :: back).take (front.length + 1) = front ++ [lf] := by
  rw [List.append_cons, List.take_left']
  simp

theorem split_line {buffer : Bytes} (hmem : lf ∈ buffer) :
    ∃ front back, buffer = front ++ lf :: back ∧ lf ∉ front :=
  List.eq_append_cons_of_mem hmem

theorem parseHeader_wait (message : CoProtocolHttp) {buffer : Bytes} (habsent : lf ∉ buffer) :
    parseHeader message buffer = (0, message) := by
  simp only [parseHeader, Lib.memchr_none habsent]

/-- A header line is all that `parse_header` looks at. -/
theorem parseHeader_line (message : CoProtocolHttp) (habsent : lf ∉ front) :
    parseHeader message (front ++ lf :: back) = parseHeader message (front ++ [lf]) := by
  simp only [parseHeader, memchr_line habsent, take_line]

theorem parseHeader_length (message : CoProtocolHttp) (habsent : lf ∉ front) :
    (parseHeader message (front ++ lf :: back)).1 = front.length + 1 := by
  simp only [parseHeader, memchr_line habsent]
  split <;> rfl

@[simp] theorem parseHeader_status (message : CoProtocolHttp) (buffer : Bytes) :
    (parseHeader message buffer).2.parseStatus = message.parseStatus := by
  simp only [parseHeader]
  split
  · rfl
  · split <;> rfl

theorem parseStartlineRequest_line (message : CoHTTPRequest) (habsent : lf ∉ front) :
    parseStartlineRequest message (front ++ lf :: back) = parseStartlineRequest message (front ++ [lf]) := by
  simp only [parseStartlineRequest, memchr_line habsent, take_line]

theorem parseStartlineResponse_line (message : CoHTTPResponse) (habsent : lf ∉ front) :
    parseStartlineResponse message (front ++ lf :: back) = parseStartlineResponse message (front ++ [lf]) := by
  simp only [parseStartlineResponse, memchr_line habsent, take_line]

theorem parseStartlineRequest_length {message after : CoHTTPRequest} {parsedLen : Int} (habsent : lf ∉ front)
    (hparse : parseStartlineRequest message (front ++ [lf]) = some (parsedLen, after)) :
    parsedLen = front.length + 1 := by
  simp only [parseStartlineRequest, memchr_line habsent] at hparse
  split at hparse
  · cases hparse
  · cases hparse
    push_cast
    rfl
  · cases hparse
    push_cast
    rfl

theorem parseStartlineResponse_length {message after : CoHTTPResponse} {parsedLen : Int} (habsent : lf ∉ front)
    (hparse : parseStartlineResponse message (front ++ [lf]) = some (parsedLen, after)) :
    parsedLen = -1 ∨ parsedLen = front.length + 1 := by
  simp only [parseStartlineResponse, memchr_line habsent] at hparse
  split at hparse
  · cases hparse
    exact .inl rfl
  · split at hparse
    · cases hparse
    · cases hparse
      exact .inr (by push_cast; rfl)
    · cases hparse
      exact .inr (by push_cast; rfl)

end

/-! ## Bodies -/

/-- The counters hold values of their type. -/
def CoProtocolHttp.Sized (message : CoProtocolHttp) : Prop :=
  int32 message.contentRemain = message.contentRemain ∧ int32 message.contentLength = message.contentLength

instance (message : CoProtocolHttp) : Decidable message.Sized :=
  inferInstanceAs (Decidable (_ ∧ _))

/-- The message after its last byte. -/
def CoProtocolHttp.completed (message : CoProtocolHttp) : CoProtocolHttp :=
  { message with parseStatus := .eCompleted }

/-- The message after more bytes of a body of a known length. -/
def CoProtocolHttp.takeContent (message : CoProtocolHttp) (content : Bytes) : CoProtocolHttp :=
  let message := { message.appendContent content with contentRemain := message.contentRemain - content.length }
  if message.contentRemain ≤ 0 then message.completed else message

/-- A body of a known length, byte by byte. -/
def contentNext (message : CoProtocolHttp) (pending : Bytes) : Option (Option CoProtocolHttp × Nat) :=
  if message.contentRemain > 0 then
    match pending with
    | [] => none
    | byte :: _ => some (some (message.takeContent [byte]), 1)
  else some (some message.completed, 0)

/-- A chunked body, chunk by chunk.  A size that does not fit with its header in
    an `int32_t` is a failure here. -/
def chunkNext (message : CoProtocolHttp) (pending : Bytes) : Option (Option CoProtocolHttp × Nat) :=
  match memchr pending lf with
  | none => none
  | some pos =>
    if pos = 0 ∨ pending[pos - 1]? ≠ some cr then some (none, 0)
    else
      match chunkedDigits (pending.take (pos - 1)) with
      | none => some (none, 0)
      | some size =>
        if size < 0 ∨ 2 ^ 31 ≤ pos + 3 + size then some (none, 0)
        else if pending.length < pos + 3 + size.toNat then none
        else if size = 0 then some (some message.completed, pos + 3)
        else some (some (message.appendContent ((pending.drop (pos + 1)).take size.toNat)), pos + 3 + size.toNat)

/-- The body of either kind, should there be `chunks`; `none` is a failure. -/
def bodyNext (chunks : Bool) : Option CoProtocolHttp → Bytes → Option (Option CoProtocolHttp × Nat)
  | none, _ => none
  | some message, pending =>
    if message.parseStatus ≠ .eContent then none
    else if ¬message.Sized then some (none, 0)
    else if chunks && message.contentChunked then chunkNext message pending
    else contentNext message pending

theorem contentNext_bounded {message : CoProtocolHttp} {pending : Bytes} {after : Option CoProtocolHttp}
    {count : Nat} (hnext : contentNext message pending = some (after, count)) : count ≤ pending.length := by
  simp only [contentNext] at hnext
  split at hnext
  · cases pending with
    | nil => cases hnext
    | cons byte pending =>
      cases hnext
      simp
  · cases hnext
    exact Nat.zero_le _

theorem contentNext_stable {message : CoProtocolHttp} {pending : Bytes} {after : Option CoProtocolHttp}
    {count : Nat} (hnext : contentNext message pending = some (after, count)) (more : Bytes) :
    contentNext message (pending ++ more) = some (after, count) := by
  simp only [contentNext] at hnext ⊢
  split at hnext
  · rename_i hremain
    rw [if_pos hremain]
    cases pending with
    | nil => cases hnext
    | cons byte pending => exact hnext
  · rename_i hremain
    rw [if_neg hremain]
    exact hnext

theorem chunkNext_bounded {message : CoProtocolHttp} {pending : Bytes} {after : Option CoProtocolHttp}
    {count : Nat} (hnext : chunkNext message pending = some (after, count)) : count ≤ pending.length := by
  simp only [chunkNext] at hnext
  split at hnext
  · cases hnext
  · split at hnext
    · cases hnext
      exact Nat.zero_le _
    · split at hnext
      · cases hnext
        exact Nat.zero_le _
      · split at hnext
        · cases hnext
          exact Nat.zero_le _
        · split at hnext
          · cases hnext
          · split at hnext <;> cases hnext <;> omega

theorem chunkNext_stable {message : CoProtocolHttp} {pending : Bytes} {after : Option CoProtocolHttp}
    {count : Nat} (hnext : chunkNext message pending = some (after, count)) (more : Bytes) :
    chunkNext message (pending ++ more) = some (after, count) := by
  by_cases hmem : lf ∈ pending
  · obtain ⟨front, back, rfl, habsent⟩ := split_line hmem
    have hlength : (front ++ lf :: back).length = front.length + 1 + back.length := by
      simp only [List.length_append, List.length_cons]
      omega
    rw [List.append_assoc, List.cons_append]
    simp only [chunkNext, memchr_line habsent] at hnext ⊢
    by_cases hzero : front.length = 0
    · simp only [hzero, true_or, if_true] at hnext ⊢
      exact hnext
    · have hinside : front.length - 1 < front.length := by omega
      simp only [List.getElem?_append_left hinside, List.take_append_of_le_length (Nat.le_of_lt hinside)] at hnext ⊢
      split at hnext
      · rename_i hbad
        rw [if_pos hbad]
        exact hnext
      · rename_i hgood
        rw [if_neg hgood]
        cases hdigits : chunkedDigits (front.take (front.length - 1)) with
        | none =>
          simp only [hdigits] at hnext ⊢
          exact hnext
        | some size =>
          simp only [hdigits] at hnext ⊢
          split at hnext
          · rename_i hhuge
            rw [if_pos hhuge]
            exact hnext
          · rename_i hfits
            rw [if_neg hfits]
            split at hnext
            · cases hnext
            · rename_i hall
              have hall' : ¬(front ++ lf :: (back ++ more)).length < front.length + 3 + size.toNat := by
                simp only [List.length_append, List.length_cons] at hall ⊢
                omega
              have hdata : ((front ++ lf :: (back ++ more)).drop (front.length + 1)).take size.toNat =
                  ((front ++ lf :: back).drop (front.length + 1)).take size.toNat := by
                rw [List.append_cons, List.drop_left' (by simp), List.append_cons, List.drop_left' (by simp),
                  List.take_append_of_le_length (by omega)]
              rw [if_neg hall', hdata]
              exact hnext
  · simp only [chunkNext, Lib.memchr_none hmem] at hnext
    cases hnext

def bodyReader (chunks : Bool) : Reader (Option CoProtocolHttp) UInt8 where
  next := bodyNext chunks
  bounded := by
    intro state after pending count hnext
    cases state with
    | none => cases hnext
    | some message =>
      simp only [bodyNext] at hnext
      split at hnext
      · cases hnext
      · split at hnext
        · cases hnext
          exact Nat.zero_le _
        · split at hnext
          · exact chunkNext_bounded hnext
          · exact contentNext_bounded hnext
  stable := by
    intro state after pending count hnext more
    cases state with
    | none => cases hnext
    | some message =>
      simp only [bodyNext] at hnext ⊢
      split at hnext
      · cases hnext
      · rename_i hstatus
        rw [if_neg hstatus]
        split at hnext
        · rename_i hsized
          rw [if_pos hsized]
          exact hnext
        · rename_i hsized
          rw [if_neg hsized]
          split at hnext
          · rename_i hchunked
            rw [if_pos hchunked]
            exact chunkNext_stable hnext more
          · rename_i hchunked
            rw [if_neg hchunked]
            exact contentNext_stable hnext more

theorem bodyReader_status {chunks : Bool} {message : CoProtocolHttp} (hstatus : message.parseStatus ≠ .eContent) :
    (bodyReader chunks).Final (some message) := fun _ => if_pos hstatus

theorem bodyReader_unsized {chunks : Bool} {message : CoProtocolHttp} {pending : Bytes}
    (hstatus : message.parseStatus = .eContent) (hunsized : ¬message.Sized) :
    (bodyReader chunks).Reads (some message) pending none pending := by
  have hnext : (bodyReader chunks).next (some message) pending = some (none, 0) := by
    simp only [bodyReader, bodyNext]
    rw [if_neg (by simp [hstatus]), if_pos hunsized]
  exact .one hnext

theorem bodyReader_content {chunks : Bool} {message : CoProtocolHttp} {pending : Bytes}
    (hstatus : message.parseStatus = .eContent) (hsized : message.Sized)
    (hplain : (chunks && message.contentChunked) = false) :
    (bodyReader chunks).next (some message) pending = contentNext message pending := by
  simp only [bodyReader, bodyNext]
  rw [if_neg (by simp [hstatus]), if_neg (by simp [hsized]), hplain]
  rfl

theorem bodyReader_chunk {chunks : Bool} {message : CoProtocolHttp} {pending : Bytes}
    (hstatus : message.parseStatus = .eContent) (hsized : message.Sized)
    (hchunked : (chunks && message.contentChunked) = true) :
    (bodyReader chunks).next (some message) pending = chunkNext message pending := by
  simp only [bodyReader, bodyNext]
  rw [if_neg (by simp [hstatus]), if_neg (by simp [hsized]), hchunked]
  rfl

/-- The body has been entered. -/
def CoProtocolHttp.InBody (message : CoProtocolHttp) : Prop :=
  message.parseStatus = .eContent ∨ message.parseStatus = .eCompleted

theorem takeContent_inBody {message : CoProtocolHttp} (hbody : message.InBody) (content : Bytes) :
    (message.takeContent content).InBody := by
  simp only [CoProtocolHttp.takeContent]
  split
  · exact .inr rfl
  · exact hbody

/-- No item of a body leads back to the headers. -/
theorem bodyNext_inBody {chunks : Bool} {message after : CoProtocolHttp} {pending : Bytes} {count : Nat}
    (hbody : message.InBody) (hnext : bodyNext chunks (some message) pending = some (some after, count)) :
    after.InBody := by
  simp only [bodyNext] at hnext
  split at hnext
  · cases hnext
  · split at hnext
    · cases hnext
    · split at hnext
      · simp only [chunkNext] at hnext
        split at hnext
        · cases hnext
        · split at hnext
          · cases hnext
          · split at hnext
            · cases hnext
            · split at hnext
              · cases hnext
              · split at hnext
                · cases hnext
                · split at hnext
                  · cases hnext
                    exact .inr rfl
                  · cases hnext
                    exact hbody
      · simp only [contentNext] at hnext
        split at hnext
        · cases pending with
          | nil => cases hnext
          | cons byte pending =>
            cases hnext
            exact takeContent_inBody hbody [byte]
        · cases hnext
          exact .inr rfl

/-! ### `parse_content` -/

section
variable {message : CoProtocolHttp} {pending rest : Bytes} {chunks : Bool}

theorem CoProtocolHttp.Sized.remain_lt (hsized : message.Sized) : message.contentRemain < 2 ^ 31 :=
  hsized.1 ▸ (int32_bounds message.contentRemain).2

theorem CoProtocolHttp.Sized.appendContent (hsized : message.Sized) (content : Bytes) :
    (message.appendContent content).Sized :=
  ⟨hsized.1, int32_int32 _⟩

theorem CoProtocolHttp.Sized.takeContent (hsized : message.Sized) {content : Bytes}
    (hfits : (content.length : Int) ≤ message.contentRemain) : (message.takeContent content).Sized := by
  have hlt := hsized.remain_lt
  have hremain : int32 (message.contentRemain - content.length) = message.contentRemain - content.length :=
    int32_of_bounds (by omega) (by omega)
  simp only [CoProtocolHttp.takeContent]
  split
  · exact ⟨hremain, int32_int32 _⟩
  · exact ⟨hremain, int32_int32 _⟩

@[simp] theorem appendContent_contentRemain (message : CoProtocolHttp) (content : Bytes) :
    (message.appendContent content).contentRemain = message.contentRemain := rfl

theorem appendContent_append (message : CoProtocolHttp) (first second : Bytes) :
    (message.appendContent first).appendContent second = message.appendContent (first ++ second) := by
  simp only [CoProtocolHttp.appendContent, List.append_assoc, List.length_append, int32_add]
  congr 2
  push_cast
  omega

theorem appendContent_nil (hsized : message.Sized) : message.appendContent [] = message := by
  simp only [CoProtocolHttp.appendContent, List.append_nil, List.length_nil, Nat.cast_zero, Int.add_zero, hsized.2]

theorem takeContent_of_lt {content : Bytes} (hlt : (content.length : Int) < message.contentRemain) :
    message.takeContent content =
      { message.appendContent content with contentRemain := message.contentRemain - content.length } := by
  simp only [CoProtocolHttp.takeContent]
  rw [if_neg (by omega)]

theorem takeContent_append {first second : Bytes} (hlt : (first.length : Int) < message.contentRemain) :
    (message.takeContent first).takeContent second = message.takeContent (first ++ second) := by
  have hsame := appendContent_append message first second
  rw [takeContent_of_lt hlt]
  simp only [CoProtocolHttp.takeContent]
  rw [← hsame]
  simp only [CoProtocolHttp.appendContent, List.length_append, CoProtocolHttp.completed]
  rw [show message.contentRemain - (first.length : Int) - second.length =
    message.contentRemain - ((first.length + second.length : Nat) : Int) by push_cast; omega]

/-- The bytes of a body are read one after the other. -/
theorem reads_content {content : Bytes} (hstatus : message.parseStatus = .eContent) (hsized : message.Sized)
    (hplain : (chunks && message.contentChunked) = false) (hnonempty : content ≠ [])
    (hfits : (content.length : Int) ≤ message.contentRemain) (rest : Bytes) :
    (bodyReader chunks).Reads (some message) (content ++ rest) (some (message.takeContent content)) rest := by
  induction content generalizing message with
  | nil => exact absurd rfl hnonempty
  | cons byte content ih =>
    have hpositive : message.contentRemain > 0 := by
      rw [List.length_cons] at hfits
      omega
    have hnext : (bodyReader chunks).next (some message) (byte :: content ++ rest) =
        some (some (message.takeContent [byte]), 1) := by
      rw [bodyReader_content hstatus hsized hplain]
      simp only [contentNext]
      rw [if_pos hpositive]
      rfl
    cases content with
    | nil => exact .take hnext .done
    | cons second content =>
      have hlt : ([byte].length : Int) < message.contentRemain := by
        simp only [List.length_cons, List.length_nil] at hfits ⊢
        omega
      have happend : (message.takeContent [byte]).takeContent (second :: content) =
          message.takeContent (byte :: second :: content) := takeContent_append hlt
      rw [← happend]
      apply Reader.Reads.take hnext
      have hshort := takeContent_of_lt hlt
      apply ih
      · rw [hshort]
        exact hstatus
      · exact hsized.takeContent (Int.le_of_lt hlt)
      · rw [hshort]
        exact hplain
      · exact List.cons_ne_nil _ _
      · rw [hshort]
        simp only [List.length_cons, List.length_nil] at hfits ⊢
        omega

/-- `parse_content` reads what has arrived of the body. -/
theorem parseContent_reads (hstatus : message.parseStatus = .eContent) (hsized : message.Sized)
    (hplain : (chunks && message.contentChunked) = false) (hsmall : pending.length < 2 ^ 31) :
    ∃ taken after, parseContent message pending pending.length = some (((taken : Nat) : Int), after) ∧
      taken ≤ pending.length ∧ (bodyReader chunks).Reads (some message) pending (some after) (pending.drop taken) ∧
      (bodyReader chunks).Waits (some after) (pending.drop taken) ∧ after.InBody := by
  by_cases hremain : message.contentRemain > 0
  · cases hpending : pending with
    | nil =>
      -- nothing has arrived, so nothing is appended
      refine ⟨0, message, ?_, Nat.le_refl _, .done, ?_, .inl hstatus⟩
      · simp only [parseContent]
        rw [if_pos hremain]
        have hlen : ¬((([] : Bytes).length : Int) > message.contentRemain) := by
          simp only [List.length_nil]
          omega
        rw [if_neg hlen]
        simp only [List.length_nil, Nat.cast_zero, Int.lt_irrefl, if_false, Int.toNat_zero, List.take_zero,
          appendContent_nil hsized, Int.sub_zero, hsized.1]
        rw [if_neg (by omega)]
      · rw [Reader.Waits, bodyReader_content hstatus hsized hplain]
        simp only [contentNext]
        rw [if_pos hremain]
        rfl
    | cons byte tail =>
      rw [← hpending]
      have hpositive : 0 < pending.length := by
        rw [hpending]
        exact Nat.succ_pos _
      have hlt := hsized.remain_lt
      -- what is there, up to the announced length
      let taken := min pending.length message.contentRemain.toNat
      have htaken : (pending.take taken).length = taken := List.length_take_of_le (Nat.min_le_left _ _)
      have hlen : (if (pending.length : Int) > message.contentRemain then message.contentRemain
          else (pending.length : Int)) = (taken : Nat) := by
        split <;> omega
      have hreads := reads_content hstatus hsized hplain
        (show pending.take taken ≠ [] from fun hnil => by rw [hnil, List.length_nil] at htaken; omega)
        (by rw [htaken]; omega) (pending.drop taken)
      rw [List.take_append_drop] at hreads
      have hexact : int32 (message.contentRemain - (taken : Nat)) = message.contentRemain - (taken : Nat) :=
        int32_of_bounds (by omega) (by omega)
      refine ⟨taken, message.takeContent (pending.take taken), ?_, Nat.min_le_left _ _, hreads, ?_⟩
      · simp only [parseContent]
        rw [if_pos hremain, hlen, if_neg (by omega)]
        simp only [Int.toNat_natCast, appendContent_contentRemain, hexact, CoProtocolHttp.takeContent, htaken,
          CoProtocolHttp.completed]
      · by_cases hdone : message.contentRemain - (taken : Nat) ≤ 0
        · have hcompleted : (message.takeContent (pending.take taken)).parseStatus = .eCompleted := by
            simp only [CoProtocolHttp.takeContent, htaken]
            rw [if_pos hdone]
            rfl
          exact ⟨bodyReader_status (by rw [hcompleted]; exact nofun) _, .inr hcompleted⟩
        · -- all that was pending is taken, and more is to come
          have hrest : pending.drop taken = [] := List.drop_eq_nil_of_le (by omega)
          have hshort : message.takeContent (pending.take taken) = _ :=
            takeContent_of_lt (by rw [htaken]; omega)
          have hcontent : (message.takeContent (pending.take taken)).parseStatus = .eContent := by
            rw [hshort]
            exact hstatus
          refine ⟨?_, .inl hcontent⟩
          rw [hrest, Reader.Waits, bodyReader_content hcontent (hsized.takeContent (by rw [htaken]; omega))
            (by rw [hshort]; exact hplain)]
          simp only [contentNext]
          rw [if_pos]
          rw [hshort]
          simp only [htaken]
          omega
  · refine ⟨0, message.completed, ?_, Nat.zero_le _, ?_, ?_, .inr rfl⟩
    · simp only [parseContent]
      rw [if_neg hremain]
      rfl
    · have hnext : (bodyReader chunks).next (some message) pending = some (some message.completed, 0) := by
        rw [bodyReader_content hstatus hsized hplain]
        simp only [contentNext]
        rw [if_neg hremain]
      exact .one hnext
    · exact bodyReader_status (by simp [CoProtocolHttp.completed]) _

/-! ### `parse_content_chunked` -/

/-- The loop reads the chunks that have arrived, unless it meets a failure. -/
theorem parseChunks_reads {turns : Nat} (hstatus : message.parseStatus = .eContent) (hsized : message.Sized)
    (hchunked : (chunks && message.contentChunked) = true) (hturns : pending.length < turns) (parsedLen : Nat)
    (hsmall : parsedLen + pending.length < 2 ^ 31) :
    (∃ rest, (bodyReader chunks).Reads (some message) pending none rest) ∨
    ∃ taken after, parseChunks turns message pending parsedLen = some (((parsedLen + taken : Nat) : Int), after) ∧
      taken ≤ pending.length ∧ (bodyReader chunks).Reads (some message) pending (some after) (pending.drop taken) ∧
      (bodyReader chunks).Waits (some after) (pending.drop taken) ∧ after.InBody := by
  induction turns generalizing message pending parsedLen with
  | zero => exact absurd hturns (Nat.not_lt_zero _)
  | succ turns ih =>
    have hreader := @bodyReader_chunk chunks message pending hstatus hsized hchunked
    have hfail : chunkNext message pending = some (none, 0) →
        ∃ rest, (bodyReader chunks).Reads (some message) pending none rest :=
      fun hnext => ⟨pending, .one (hreader.trans hnext)⟩
    simp only [parseChunks]
    simp only [chunkNext] at hreader hfail
    cases hpos : memchr pending lf with
    | none =>
      simp only [hpos] at hreader ⊢
      exact .inr ⟨0, message, rfl, Nat.zero_le _, .done, hreader, .inl hstatus⟩
    | some pos =>
      simp only [hpos] at hreader hfail ⊢
      by_cases hbad : pos = 0 ∨ pending[pos - 1]? ≠ some cr
      · rw [if_pos hbad] at hfail
        exact .inl (hfail rfl)
      rw [if_neg hbad] at hreader hfail ⊢
      cases hdigits : chunkedDigits (pending.take (pos - 1)) with
      | none =>
        simp only [hdigits] at hfail
        exact .inl (hfail trivial)
      | some size =>
        simp only [hdigits] at hreader hfail ⊢
        by_cases hhuge : size < 0 ∨ 2 ^ 31 ≤ pos + 3 + size
        · rw [if_pos hhuge] at hfail
          exact .inl (hfail rfl)
        rw [if_neg hhuge] at hreader
        have hsize : int32 (size + 2) = size + 2 := int32_of_bounds (by omega) (by omega)
        have htotal : int32 (((pos + 1 : Nat) : Int) + (size + 2)) = pos + 3 + size := by
          rw [int32_of_bounds] <;> push_cast <;> omega
        simp only [hsize, htotal]
        by_cases hpart : pending.length < pos + 3 + size.toNat
        · -- the chunk has not arrived as a whole
          rw [if_pos hpart] at hreader
          rw [if_pos (by omega)]
          exact .inr ⟨0, message, rfl, Nat.zero_le _, .done, hreader, .inl hstatus⟩
        rw [if_neg hpart] at hreader
        rw [if_neg (by omega)]
        -- inside of the bound every `int32_t` is exact
        have hsum : int32 ((parsedLen : Int) + (pos + 3 + size)) = ((parsedLen + (pos + 3 + size.toNat) : Nat) : Int) := by
          rw [int32_of_bounds] <;> push_cast <;> omega
        rw [hsum]
        by_cases hlast : size = 0
        · rw [if_pos hlast] at hreader
          rw [if_pos (by omega)]
          refine .inr ⟨pos + 3, message.completed, ?_, by omega, .one hreader, ?_, .inr rfl⟩
          · rw [hlast]
            rfl
          · exact bodyReader_status (by simp [CoProtocolHttp.completed]) _
        · rw [if_neg hlast] at hreader
          rw [if_neg (by omega), if_neg (by push_cast; omega)]
          have hdata : (size + 2 - 2).toNat = size.toNat := by omega
          have hcount : pos + 1 + (size + 2).toNat = pos + 3 + size.toNat := by omega
          rw [hdata, hcount]
          have hlength : (pending.drop (pos + 3 + size.toNat)).length = pending.length - (pos + 3 + size.toNat) :=
            List.length_drop
          -- one chunk is an item of the reader; the rest is shorter
          have hrest := @ih (message.appendContent ((pending.drop (pos + 1)).take size.toNat))
            (pending.drop (pos + 3 + size.toNat)) hstatus (hsized.appendContent _) hchunked (by omega)
            (parsedLen + (pos + 3 + size.toNat)) (by omega)
          rcases hrest with ⟨rest, hfailed⟩ | ⟨taken, after, hparse, htaken, hreads, hwaits, hafter⟩
          · exact .inl ⟨rest, .take hreader hfailed⟩
          · rw [List.drop_drop] at hreads hwaits
            refine .inr ⟨pos + 3 + size.toNat + taken, after, ?_, by omega, .take hreader hreads, hwaits, hafter⟩
            rw [hparse, Nat.add_assoc]

end

end CoServer
