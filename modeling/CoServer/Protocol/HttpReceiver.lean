import CoServer.Protocol.HttpDecode

/-! # Receiving a message in pieces

A connection appends each read to its buffer and calls `decode` once.  `Follows`
is the invariant of that loop: the message and what is left in the buffer are
what the reader makes of all bytes received so far. -/

namespace CoServer

open Lib (Reader)

variable {Message : Type}

structure HttpReceiver (Message : Type) where
  message : Message
  coBuffer : CoBuffer := {}
  codes : List Int := []

namespace HttpReceiver

/-- One read: its bytes, and the block that `realloc` returns if it is called. -/
def receive (side : HttpSide Message) (self : HttpReceiver Message) (arrival : Bytes × Block) :
    Option (HttpReceiver Message) :=
  match self.coBuffer.bufferAppend arrival.1 (some arrival.2) with
  | none => none
  | some (ret, coBuffer) =>
    if ret ≠ coOk then none
    else (side.decode self.message coBuffer).map fun (ret, message, coBuffer) =>
      { message, coBuffer, codes := self.codes ++ [ret] }

/-- The bytes of a list of reads. -/
def bytes (arrivals : List (Bytes × Block)) : Bytes := (arrivals.map Prod.fst).flatten

@[simp] theorem bytes_nil : bytes [] = [] := rfl

@[simp] theorem bytes_cons (arrival : Bytes × Block) (arrivals : List (Bytes × Block)) :
    bytes (arrival :: arrivals) = arrival.1 ++ bytes arrivals := rfl

@[simp] theorem bytes_append (front back : List (Bytes × Block)) : bytes (front ++ back) = bytes front ++ bytes back := by
  simp [bytes]

structure Follows {side : HttpSide Message} {chunks : Bool} (law : side.Lawful chunks) (start : Message)
    (received : Bytes) (receiver : HttpReceiver Message) : Prop where
  valid : receiver.coBuffer.Valid
  totalLt : receiver.coBuffer.totalSize < 2 ^ 63
  reads : law.reader.Reads (some start) received (some receiver.message) receiver.coBuffer.region
  waits : law.reader.Waits (some receiver.message) receiver.coBuffer.region

section
variable {side : HttpSide Message} {chunks : Bool} {law : side.Lawful chunks} {start final : Message}
  {received later tail : Bytes} {self : HttpReceiver Message} {arrival : Bytes × Block}

/-- A receiver with an empty buffer whose message waits for the first byte. -/
theorem follows_fresh (law : side.Lawful chunks) (start : Message) (codes : List Int)
    (hwaits : law.reader.Waits (some start) []) : Follows law start [] { message := start, codes := codes } :=
  ⟨CoBuffer.valid_fresh, show 0 < 2 ^ 63 by decide, .done, hwaits⟩

/-- What follows the same bytes is the same. -/
theorem Follows.unique (hfollows : Follows law start received self) {state : Option Message} {rest : Bytes}
    (hreads : law.reader.Reads (some start) received state rest) (hwaits : law.reader.Waits state rest) :
    state = some self.message ∧ rest = self.coBuffer.region :=
  hfollows.reads.unique hreads hfollows.waits hwaits

/-- A message that can be read to its end meets no failure on the way. -/
theorem not_failed (hread : law.reader.Reads (some start) (received ++ later) (some final) tail)
    (hfinal : law.reader.Waits (some final) tail) (rest : Bytes) :
    ¬law.reader.Reads (some start) received none rest := by
  intro hfailed
  cases (hfailed.final_early law.final_failed hread hfinal).1

/-- The state after a read that arrives before the message is complete. -/
inductive Received (law : side.Lawful chunks) (start : Message) (received : Bytes) (self : HttpReceiver Message) :
    Option (HttpReceiver Message) → Prop
  | read (next : HttpReceiver Message) (hfollows : Follows law start received next)
      (hblank : ¬side.AtBlank next.message next.coBuffer.region)
      (hcodes : next.codes = self.codes ++ [side.code next.message]) : Received law start received self (some next)
  | blank (after : Message) (rest : Bytes) (appended : CoBuffer)
      (hreads : law.reader.Reads (some start) received (some after) rest) (hblank : side.AtBlank after rest)
      (hvalid : appended.Valid) (hregion : appended.region.length < 2 ^ 31) (htotal : appended.totalSize < 2 ^ 63)
      (hrest : ∃ taken, appended.region = taken ++ rest) :
      Received law start received self ((side.enterBody after appended rest).map fun (ret, message, coBuffer) =>
        { message, coBuffer, codes := self.codes ++ [ret] })
  | failed (result : Option (HttpReceiver Message))
      (hfailed : ∃ rest, law.reader.Reads (some start) received none rest)
      (hcode : ∀ next, result = some next → next.codes = self.codes ++ [eErrorCode]) :
      Received law start received self result

/-- A read that arrives before the message is complete, if the body does not fail. -/
theorem Follows.receive (hfollows : Follows law start received self)
    (hopen : (side.base self.message).parseStatus ≠ .eCompleted ∧ (side.base self.message).parseStatus ≠ .eError)
    (hsmall : self.coBuffer.region.length + arrival.1.length < 2 ^ 31)
    (hlimit : (side.base self.message).parseStatus ≠ .eContent →
      self.coBuffer.region.length + arrival.1.length ≤ 8192)
    (hwell : ∀ {after : Message} {rest final : Bytes},
      law.reader.Reads (some self.message) (self.coBuffer.region ++ arrival.1) (some after) rest →
      (side.base after).InBody →
        ¬law.reader.Reads (some after) rest none final) :
    Received law start (received ++ arrival.1) self (self.receive side arrival) := by
  have hlength := hfollows.valid.region_length
  have hroom : self.coBuffer.bufferSize + arrival.1.length < 2 ^ 62 := by omega
  obtain ⟨appended, happend, hvalid, hregion, htotal⟩ :=
    hfollows.valid.bufferAppend_some arrival.2 hfollows.totalLt hroom
  have happendedLength : appended.region.length = self.coBuffer.region.length + arrival.1.length := by
    rw [hregion, List.length_append]
  have hreads := hfollows.reads.append arrival.1
  rw [← hregion] at hreads
  have hreceive : self.receive side arrival = (side.decode self.message appended).map fun (ret, message, coBuffer) =>
      { message, coBuffer, codes := self.codes ++ [ret] } := by
    simp only [HttpReceiver.receive, happend]
    rw [if_neg (not_not.mpr rfl)]
  rw [hreceive]
  have hdecode := law.decode_reads self.message hvalid (by omega)
    (fun hstatus => by have := hlimit hstatus; omega) hopen
  generalize side.decode self.message appended = result at hdecode
  cases hdecode with
  | inl hfail =>
    cases hfail with
    | head hfailed hcode =>
      refine .failed _ ⟨_, hreads.trans hfailed⟩ ?_
      intro next hnext
      obtain ⟨⟨ret, after, coBuffer⟩, hresult, rfl⟩ := Option.map_eq_some_iff.mp hnext
      rw [hcode ret after coBuffer hresult]
    | body hmore hbody hfailed => exact absurd hfailed (hwell (hregion ▸ hmore) hbody)
  | inr hread =>
    obtain ⟨after, rest, hmore, hstop⟩ := hread
    cases hstop with
    | read coBuffer hwaits hblank hkept hrest htotalKept =>
      subst hrest
      exact .read _ ⟨hkept, by rw [htotalKept]; exact htotal, hreads.trans hmore, hwaits⟩ hblank rfl
    | blank hblank =>
      exact .blank after rest appended (hreads.trans hmore) hblank hvalid (by omega) htotal hmore.suffix

/-- A read that arrives after the message is complete stays in the buffer. -/
theorem Follows.receive_completed (hfollows : Follows law start received self)
    (hstatus : (side.base self.message).parseStatus = .eCompleted)
    (hsmall : self.coBuffer.region.length + arrival.1.length < 2 ^ 31) :
    ∃ next, self.receive side arrival = some next ∧ Follows law start (received ++ arrival.1) next ∧
      next.message = self.message ∧ next.codes = self.codes ++ [coOk] := by
  have hlength := hfollows.valid.region_length
  have hroom : self.coBuffer.bufferSize + arrival.1.length < 2 ^ 62 := by omega
  obtain ⟨appended, happend, hvalid, hregion, htotal⟩ :=
    hfollows.valid.bufferAppend_some arrival.2 hfollows.totalLt hroom
  refine ⟨{ message := self.message, coBuffer := appended, codes := self.codes ++ [coOk] }, ?_, ?_, rfl, rfl⟩
  · simp only [HttpReceiver.receive, happend]
    rw [if_neg (not_not.mpr rfl)]
    simp only [HttpSide.decode, hstatus, Option.map_some]
  · refine ⟨hvalid, htotal, ?_, law.final_completed hstatus _⟩
    simp only [hregion]
    exact hfollows.reads.append arrival.1

end

end HttpReceiver

end CoServer
