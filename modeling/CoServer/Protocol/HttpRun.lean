import CoServer.Protocol.HttpReceiver

/-! # A message received read by read

`Completes` says that a run of reads ends well: every `decode` before the last one
returns CO_AGAIN, the last one returns CO_OK, and the buffer is empty.  A `Course`
is an invariant of the message and all bytes still to come, strong enough to keep
what waits in the buffer short and the body sound.  Along a course the run ends
well exactly if the reader ends well and no read stops at a blank line. -/

namespace CoServer

open Lib (Reader)

variable {Message : Type}

namespace HttpReceiver

variable {side : HttpSide Message} {self next final : HttpReceiver Message} {arrival : Bytes × Block}
  {arrivals : List (Bytes × Block)} {expected : Message}

/-! ## Codes -/

theorem receive_codes (hreceive : self.receive side arrival = some next) :
    ∃ code, next.codes = self.codes ++ [code] := by
  simp only [receive] at hreceive
  split at hreceive
  · cases hreceive
  · split at hreceive
    · cases hreceive
    · obtain ⟨⟨ret, message, coBuffer⟩, _, rfl⟩ := Option.map_eq_some_iff.mp hreceive
      exact ⟨ret, rfl⟩

theorem run_codes (hrun : arrivals.foldlM (receive side) self = some final) :
    ∃ codes, final.codes = self.codes ++ codes ∧ codes.length = arrivals.length := by
  induction arrivals generalizing self with
  | nil =>
    cases hrun
    exact ⟨[], (List.append_nil _).symm, rfl⟩
  | cons arrival arrivals ih =>
    rw [List.foldlM_cons] at hrun
    obtain ⟨next, hreceive, hrest⟩ := Option.bind_eq_some_iff.mp hrun
    obtain ⟨code, hcode⟩ := receive_codes hreceive
    obtain ⟨codes, hcodes, hlength⟩ := ih hrest
    refine ⟨code :: codes, ?_, by rw [List.length_cons, List.length_cons, hlength]⟩
    rw [hcodes, hcode, List.append_assoc, List.singleton_append]

/-- The run ends with the expected message and an empty buffer, and not earlier. -/
def Completes (side : HttpSide Message) (self : HttpReceiver Message) (arrivals : List (Bytes × Block))
    (expected : Message) : Prop :=
  ∃ final, arrivals.foldlM (receive side) self = some final ∧ final.message = expected ∧
    final.coBuffer.region = [] ∧ final.codes = self.codes ++ List.replicate (arrivals.length - 1) coAgain ++ [coOk]

theorem completes_one : Completes side self [arrival] expected ↔
    ∃ next, self.receive side arrival = some next ∧ next.message = expected ∧ next.coBuffer.region = [] ∧
      next.codes = self.codes ++ [coOk] := by
  have hrun : [arrival].foldlM (receive side) self = self.receive side arrival := by
    rw [List.foldlM_cons]
    exact bind_pure _
  simp only [Completes, hrun, List.length_singleton, Nat.sub_self, List.replicate_zero, List.append_nil]

theorem completes_cons (hmore : arrivals ≠ []) : Completes side self (arrival :: arrivals) expected ↔
    ∃ next, self.receive side arrival = some next ∧ next.codes = self.codes ++ [coAgain] ∧
      Completes side next arrivals expected := by
  obtain ⟨count, hcount⟩ : ∃ count, arrivals.length = count + 1 :=
    Nat.exists_eq_succ_of_ne_zero fun hzero => hmore (List.eq_nil_of_length_eq_zero hzero)
  have hcodes : self.codes ++ List.replicate ((arrival :: arrivals).length - 1) coAgain ++ [coOk] =
      (self.codes ++ [coAgain]) ++ List.replicate (arrivals.length - 1) coAgain ++ [coOk] := by
    rw [List.length_cons, Nat.add_sub_cancel, hcount, Nat.add_sub_cancel, List.replicate_succ]
    simp
  constructor
  · rintro ⟨final, hrun, hmessage, hregion, hfinal⟩
    rw [List.foldlM_cons] at hrun
    obtain ⟨next, hreceive, hrest⟩ := Option.bind_eq_some_iff.mp hrun
    obtain ⟨code, hcode⟩ := receive_codes hreceive
    obtain ⟨codes, hmoreCodes, _⟩ := run_codes hrest
    have hnext : next.codes = self.codes ++ [coAgain] := by
      rw [hmoreCodes, hcode, hcodes] at hfinal
      simp only [List.append_assoc] at hfinal
      rw [hcode, List.head_eq_of_cons_eq (List.append_cancel_left hfinal)]
    refine ⟨next, hreceive, hnext, final, hrest, hmessage, hregion, ?_⟩
    rw [hfinal, hcodes, hnext]
  · rintro ⟨next, hreceive, hnext, final, hrest, hmessage, hregion, hfinal⟩
    refine ⟨final, ?_, hmessage, hregion, ?_⟩
    · rw [List.foldlM_cons, hreceive]
      exact hrest
    · rw [hfinal, hnext, hcodes]

/-- A run whose first code is neither of the two does not end well. -/
theorem not_completes_of_code {code : Int} (hagain : code ≠ coAgain) (hok : code ≠ coOk)
    (hcode : ∀ next, self.receive side arrival = some next → next.codes = self.codes ++ [code]) :
    ¬Completes side self (arrival :: arrivals) expected := by
  intro hcompletes
  by_cases hmore : arrivals = []
  · subst hmore
    obtain ⟨next, hreceive, _, _, hnext⟩ := completes_one.mp hcompletes
    rw [hcode next hreceive] at hnext
    exact hok (List.singleton_injective (List.append_cancel_left hnext))
  · obtain ⟨next, hreceive, hnext, _⟩ := (completes_cons hmore).mp hcompletes
    rw [hcode next hreceive] at hnext
    exact hagain (List.singleton_injective (List.append_cancel_left hnext))

end HttpReceiver

/-! ## Courses -/

/-- An invariant of the state and of all bytes that are still to be read. -/
structure Course {side : HttpSide Message} {chunks : Bool} (law : side.Lawful chunks)
    (on : Option Message → Bytes → Prop) : Prop where
  step {state next : Option Message} {pending : Bytes} {count : Nat} :
    on state pending → law.reader.next state pending = some (next, count) → on next (pending.drop count)
  limit {message : Message} {rest later : Bytes} : on (some message) (rest ++ later) →
    law.reader.Waits (some message) rest → (side.base message).parseStatus ≠ .eCompleted →
      (side.base message).parseStatus ≠ .eError ∧ ((side.base message).InBody → rest.length ≤ 4096)
  sound {message : Message} {next : Option Message} {pending : Bytes} {count : Nat} :
    on (some message) pending → (side.base message).InBody →
      law.reader.next (some message) pending = some (next, count) → next ≠ none

/-- Reads as a connection makes them. -/
def Readable (arrivals : List (Bytes × Block)) : Prop :=
  ∀ arrival ∈ arrivals, arrival.1 ≠ [] ∧ arrival.1.length ≤ 4096

instance (arrivals : List (Bytes × Block)) : Decidable (Readable arrivals) :=
  inferInstanceAs (Decidable (∀ arrival ∈ arrivals, _ ∧ _))

section
variable {side : HttpSide Message} {chunks : Bool} {law : side.Lawful chunks} {on : Option Message → Bytes → Prop}
  {start expected : Message} {received : Bytes} {self : HttpReceiver Message} {arrivals : List (Bytes × Block)}

/-- The body does not fail on a course. -/
theorem Course.body_sound (course : Course law on) {message : Message} {front back rest : Bytes}
    (hon : on (some message) (front ++ back)) (hbody : (side.base message).InBody) :
    ¬law.reader.Reads (some message) front none rest := by
  intro hfailed
  have hholds := @Reader.Reads.invariant _ _ law.reader _ _ _ _ back
    (fun state pending => ∃ message, state = some message ∧ (side.base message).InBody ∧ on (some message) pending)
    (by
      rintro state next pending count ⟨message, rfl, hbody, hon⟩ hnext
      cases next with
      | none => exact absurd rfl (course.sound hon hbody hnext)
      | some next =>
        have hnextBody := law.reads_inBody (.one hnext) (fun other hother => by cases hother; exact hbody) next rfl
        exact ⟨next, rfl, hnextBody, course.step hon hnext⟩) hfailed ⟨message, rfl, hbody, hon⟩
  obtain ⟨_, hnone, _⟩ := hholds
  cases hnone

/-- No read stops in front of the LF of a blank line. -/
def Unblanked (law : side.Lawful chunks) (start : Message) (received : Bytes) (arrivals : List (Bytes × Block)) : Prop :=
  ∀ front back, arrivals = front ++ back → front ≠ [] → ∀ message rest,
    law.reader.Reads (some start) (received ++ HttpReceiver.bytes front) (some message) rest →
      ¬side.AtBlank message rest

theorem unblanked_cons {arrival : Bytes × Block} : Unblanked law start received (arrival :: arrivals) ↔
    (∀ message rest, law.reader.Reads (some start) (received ++ arrival.1) (some message) rest →
      ¬side.AtBlank message rest) ∧ Unblanked law start (received ++ arrival.1) arrivals := by
  constructor
  · intro hall
    refine ⟨?_, ?_⟩
    · have hfirst := hall [arrival] arrivals rfl (List.cons_ne_nil _ _)
      rwa [HttpReceiver.bytes_cons, HttpReceiver.bytes_nil, List.append_nil] at hfirst
    · intro front back hsplit _
      have hlater := hall (arrival :: front) back (by rw [hsplit]; rfl) (List.cons_ne_nil _ _)
      rwa [HttpReceiver.bytes_cons, ← List.append_assoc] at hlater
  · rintro ⟨hfirst, hlater⟩ front back hsplit hnonempty
    cases front with
    | nil => exact absurd rfl hnonempty
    | cons head front =>
      cases hsplit
      rw [HttpReceiver.bytes_cons, ← List.append_assoc]
      by_cases hnil : front = []
      · subst hnil
        rwa [HttpReceiver.bytes_nil, List.append_nil]
      · exact hlater front back rfl hnil

/-- What waits in front of the body and the read behind it are within the limit of a head. -/
def Roomy (law : side.Lawful chunks) (on : Option Message → Bytes → Prop) (self : HttpReceiver Message)
    (arrivals : List (Bytes × Block)) : Prop :=
  ∀ front arrival back state, arrivals = front ++ arrival :: back →
    front.foldlM (HttpReceiver.receive side) self = some state →
    (∀ code ∈ state.codes, code ∈ self.codes ∨ code = coAgain) →
    law.reader.Waits (some state.message) state.coBuffer.region →
    on (some state.message) (state.coBuffer.region ++ HttpReceiver.bytes (arrival :: back)) →
    ¬(side.base state.message).InBody → state.coBuffer.region.length + arrival.1.length ≤ 8192

theorem Roomy.tail {arrival : Bytes × Block} {next : HttpReceiver Message}
    (hroomy : Roomy law on self (arrival :: arrivals)) (hreceive : self.receive side arrival = some next)
    (hcodes : next.codes = self.codes ++ [coAgain]) : Roomy law on next arrivals := by
  intro front other back state hsplit hrun hagain
  refine hroomy (arrival :: front) other back state (by rw [hsplit, List.cons_append]) ?_ ?_
  · rw [List.foldlM_cons, hreceive]
    exact hrun
  · intro code hmem
    refine (hagain code hmem).elim (fun hbefore => ?_) .inr
    rw [hcodes, List.mem_append, List.mem_singleton] at hbefore
    exact hbefore

/-- A read that stops at a blank line does not end well. -/
def BlankSpoils (side : HttpSide Message) (on : Option Message → Bytes → Prop) : Prop :=
  ∀ {message : Message} {rest : Bytes} {arrivals : List (Bytes × Block)} {appended : CoBuffer},
    on (some message) (rest ++ HttpReceiver.bytes arrivals) → side.AtBlank message rest → appended.Valid →
    appended.region.length < 2 ^ 31 → appended.totalSize < 2 ^ 63 → (∃ taken, appended.region = taken ++ rest) →
    Readable arrivals → arrivals ≠ [] ∧ ∀ after coBuffer codes expected,
      side.enterBody message appended rest = some (coAgain, after, coBuffer) →
        ¬HttpReceiver.Completes side ⟨after, coBuffer, codes⟩ arrivals expected

/-- What the reader has made of everything is what the run ends with. -/
theorem completes_last {arrival : Bytes × Block} {next : HttpReceiver Message}
    (hreceive : self.receive side arrival = some next)
    (hfollows : HttpReceiver.Follows law start (received ++ arrival.1) next)
    (hnotBlank : ¬side.AtBlank next.message next.coBuffer.region)
    (hcodes : next.codes = self.codes ++ [side.code next.message]) :
    HttpReceiver.Completes side self [arrival] expected ↔ Unblanked law start received [arrival] ∧
      law.reader.Reads (some start) (received ++ arrival.1) (some expected) [] ∧
      (side.base expected).parseStatus = .eCompleted := by
  rw [HttpReceiver.completes_one]
  constructor
  · rintro ⟨other, hother, hmessage, hregion, hcode⟩
    rw [hreceive] at hother
    cases hother
    have hcompleted : (side.base next.message).parseStatus = .eCompleted := by
      rw [hcodes] at hcode
      have hok := List.singleton_injective (List.append_cancel_left hcode)
      simp only [HttpSide.code] at hok
      by_contra hopen
      rw [if_neg hopen] at hok
      exact absurd hok (by decide)
    refine ⟨unblanked_cons.mpr ⟨?_, ?_⟩, ?_, ?_⟩
    · intro message rest hreads hblank
      have hwaits := law.waits_header (.inr hblank.1) hblank.2.1
      obtain ⟨hstate, hrest⟩ := hfollows.unique hreads hwaits
      rw [Option.some.inj hstate, hrest] at hblank
      exact hnotBlank hblank
    · intro front back hsplit hnonempty
      cases List.append_eq_nil_iff.mp hsplit.symm with
      | intro hfront _ => exact absurd hfront hnonempty
    · rw [← hmessage, ← hregion]
      exact hfollows.reads
    · rw [← hmessage]
      exact hcompleted
  · rintro ⟨_, hreads, hcompleted⟩
    obtain ⟨hstate, hrest⟩ := hfollows.unique hreads (law.final_completed hcompleted _)
    cases hstate
    refine ⟨next, hreceive, rfl, hrest.symm, ?_⟩
    rw [hcodes, HttpSide.code, if_pos hcompleted]

/-- Along a course a run of reads ends well if and only if the reader ends well and
    no read stops in front of the LF of the blank line. -/
theorem Course.completes_iff (course : Course law on) (hblankSpoils : BlankSpoils side on)
    (hfollows : HttpReceiver.Follows law start received self)
    (hon : on (some self.message) (self.coBuffer.region ++ HttpReceiver.bytes arrivals))
    (hopen : (side.base self.message).parseStatus ≠ .eCompleted) (hreadable : Readable arrivals)
    (hroomy : Roomy law on self arrivals) (hnonempty : arrivals ≠ []) :
    HttpReceiver.Completes side self arrivals expected ↔ Unblanked law start received arrivals ∧
      law.reader.Reads (some start) (received ++ HttpReceiver.bytes arrivals) (some expected) [] ∧
      (side.base expected).parseStatus = .eCompleted := by
  induction arrivals generalizing self received with
  | nil => exact absurd rfl hnonempty
  | cons arrival arrivals ih =>
    rw [HttpReceiver.bytes_cons] at hon ⊢
    obtain ⟨herror, hbodyRoom⟩ := course.limit hon hfollows.waits hopen
    have hheadRoom := hroomy [] arrival arrivals self rfl rfl (fun _ => .inl) hfollows.waits hon
    have harrival := hreadable arrival List.mem_cons_self
    have hmoreReadable : Readable arrivals := fun other hmem => hreadable other (List.mem_cons_of_mem _ hmem)
    have hkeeps : ∀ {after : Option Message} {rest : Bytes},
        law.reader.Reads (some self.message) (self.coBuffer.region ++ arrival.1) after rest →
          on after (rest ++ HttpReceiver.bytes arrivals) := by
      intro after rest hreads
      apply hreads.invariant course.step
      rwa [List.append_assoc]
    have hsmall : self.coBuffer.region.length + arrival.1.length ≤ 8192 := by
      by_cases hbody : (side.base self.message).InBody
      · have hpending := hbodyRoom hbody
        omega
      · exact hheadRoom hbody
    have hreceived := hfollows.receive ⟨hopen, herror⟩ (by omega) (fun _ => hsmall)
      fun hreads hbody hfailed => course.body_sound (hkeeps hreads) hbody hfailed
    -- one read: it is followed, it stops at a blank line without its newline, or it fails
    generalize hresult : self.receive side arrival = result at hreceived
    cases hreceived with
    | read next hnext hnotBlank hcodes =>
      by_cases hmore : arrivals = []
      · subst hmore
        rw [HttpReceiver.bytes_nil, List.append_nil]
        exact completes_last hresult hnext hnotBlank hcodes
      rw [HttpReceiver.completes_cons hmore, unblanked_cons, ← List.append_assoc]
      have hunblanked : ∀ message rest, law.reader.Reads (some start) (received ++ arrival.1) (some message) rest →
          ¬side.AtBlank message rest := by
        intro message rest hreads hblank
        obtain ⟨hstate, hrest⟩ := hnext.unique hreads (law.waits_header (.inr hblank.1) hblank.2.1)
        rw [Option.some.inj hstate, hrest] at hblank
        exact hnotBlank hblank
      by_cases hcompleted : (side.base next.message).parseStatus = .eCompleted
      · -- complete too early
        constructor
        · rintro ⟨other, hother, hcode, _⟩
          rw [hresult] at hother
          cases hother
          rw [hcodes, HttpSide.code, if_pos hcompleted] at hcode
          exact absurd (List.singleton_injective (List.append_cancel_left hcode)) (by decide)
        · rintro ⟨_, hreads, hdone⟩
          have hrest := (hnext.reads.final_early (law.final_completed hcompleted) hreads (law.final_completed hdone _)).2
          obtain ⟨first, others, rfl⟩ := List.exists_cons_of_ne_nil hmore
          have hfirst := (hmoreReadable first List.mem_cons_self).1
          simp only [HttpReceiver.bytes_cons] at hrest
          exact absurd (List.append_eq_nil_iff.mp (List.append_eq_nil_iff.mp hrest.symm).2).1 hfirst
      · have hagain : next.codes = self.codes ++ [coAgain] := by
          rw [hcodes, HttpSide.code, if_neg hcompleted]
        have hrest := @ih (received ++ arrival.1) next hnext (by
          have hjoin := hfollows.reads.append arrival.1
          exact hkeeps (hjoin.join hnext.reads hnext.waits)) hcompleted hmoreReadable (hroomy.tail hresult hagain) hmore
        constructor
        · rintro ⟨other, hother, _, hcompletes⟩
          rw [hresult] at hother
          cases hother
          obtain ⟨hlater, hreads⟩ := hrest.mp hcompletes
          exact ⟨⟨hunblanked, hlater⟩, hreads⟩
        · rintro ⟨⟨_, hlater⟩, hreads⟩
          exact ⟨next, hresult, hagain, hrest.mpr ⟨hlater, hreads⟩⟩
    -- the receiver goes into the body too early, which spoils the run
    | blank after rest appended hreads hblank hvalid hregion htotal hrest =>
      have hwaits := law.waits_header (.inr hblank.1) hblank.2.1
      have honAfter := hkeeps ((hfollows.reads.append arrival.1).join hreads hwaits)
      obtain ⟨hmore, hspoils⟩ := hblankSpoils honAfter hblank hvalid hregion htotal hrest hmoreReadable
      constructor
      · intro hcompletes
        obtain ⟨next, hnext, hcode, hlater⟩ := (HttpReceiver.completes_cons hmore).mp hcompletes
        rw [hresult] at hnext
        obtain ⟨⟨ret, entered, coBuffer⟩, henter, rfl⟩ := Option.map_eq_some_iff.mp hnext
        have hret : ret = coAgain := List.singleton_injective (List.append_cancel_left hcode)
        rw [hret] at henter
        exact absurd hlater (hspoils _ _ _ _ henter)
      · rintro ⟨hunblanked, _⟩
        exact absurd hblank ((unblanked_cons.mp hunblanked).1 after rest hreads)
    | failed _ hfailed hcode =>
      constructor
      · intro hcompletes
        refine absurd hcompletes (HttpReceiver.not_completes_of_code (show eErrorCode ≠ coAgain by decide)
          (show eErrorCode ≠ coOk by decide) ?_)
        intro next hnext
        rw [hresult] at hnext
        exact hcode next hnext
      · rintro ⟨_, hreads, hcompleted⟩
        obtain ⟨rest, hfailed⟩ := hfailed
        rw [← List.append_assoc] at hreads
        exact absurd hfailed (HttpReceiver.not_failed hreads (law.final_completed hcompleted _) rest)

end

end CoServer
