import CoServer.Protocol.HttpChunked
import Mathlib.Logic.Relation

/-! # Chunk sizes that fit

The loop of `parse_content_chunked` turn by turn.  The size of a chunk is summed up as an
`int32_t`, and an empty size line counts as the line of the last chunk; the turns are
safe if and only if the sizes fit and no complete chunk has an empty line. -/

namespace CoServer

open Lib (ascii memchr)

/-! ## Size lines -/

/-- The bytes in front of the first CRLF, if the first LF belongs to one. -/
def sizeLine (buffer : Bytes) : Option Bytes :=
  match memchr buffer lf with
  | none => none
  | some pos => if pos = 0 ∨ buffer[pos - 1]? ≠ some cr then none else some (buffer.take (pos - 1))

/-- The value of the digits at the start of a line. -/
def leadingValue (line : Bytes) : Nat :=
  (line.takeWhile fun ch => (hexValueOf ch).isSome).foldl (fun value ch => value * 16 + (hexValueOf ch).getD 0) 0

/-- What a buffer must be like for the sums to be exact: the sizes on its lines are
    small, and a chunk that is there as a whole has a size. -/
inductive ChunksFit : Bytes → Prop where
  | noLine {buffer : Bytes} (none : sizeLine buffer = none) : ChunksFit buffer
  | noSize {buffer line : Bytes} (found : sizeLine buffer = some line) (bad : line.foldlM hexValue 0 = none)
      (small : leadingValue line < 2 ^ 31) : ChunksFit buffer
  | waits {buffer line : Bytes} {size : Nat} (found : sizeLine buffer = some line)
      (spelled : line.foldlM hexValue 0 = some size) (small : line.length + 2 + (size + 2) < 2 ^ 31)
      (short : buffer.length < line.length + 2 + (size + 2)) : ChunksFit buffer
  | last {buffer line : Bytes} (found : sizeLine buffer = some line) (spelled : line.foldlM hexValue 0 = some 0)
      (small : line.length + 4 < 2 ^ 31) (nonempty : line ≠ []) : ChunksFit buffer
  | chunk {buffer line : Bytes} {size : Nat} (found : sizeLine buffer = some line)
      (spelled : line.foldlM hexValue 0 = some size) (small : line.length + 2 + (size + 2) < 2 ^ 31)
      (some : size ≠ 0) (rest : ChunksFit (buffer.drop (line.length + 2 + (size + 2)))) : ChunksFit buffer

/-! ## Turns -/

/-- The locals of the loop. -/
structure ChunkLoop where
  message : CoProtocolHttp
  buffer : Bytes
  parsedLen : Int := 0

namespace ChunkLoop

/-- One turn: what the function returns, or the locals of the next turn. -/
def turn (loop : ChunkLoop) : Option (Int × CoProtocolHttp) ⊕ ChunkLoop :=
  match memchr loop.buffer lf with
  | none => .inl (some (loop.parsedLen, loop.message))
  | some pos =>
    if pos = 0 ∨ loop.buffer[pos - 1]? ≠ some cr then .inl (some (-1, loop.message))
    else
      match chunkedDigits (loop.buffer.take (pos - 1)) with
      | none => .inl (some (-1, loop.message))
      | some size =>
        let chunkedSize := int32 (size + 2)
        let chunkedHeaderLen := pos + 1
        if loop.buffer.length < int32 (chunkedHeaderLen + chunkedSize) then
          .inl (some (loop.parsedLen, loop.message))
        else
          let parsedLen := int32 (loop.parsedLen + int32 (chunkedHeaderLen + chunkedSize))
          if 2 = chunkedSize then .inl (some (parsedLen, { loop.message with parseStatus := .eCompleted }))
          else if chunkedSize < 2 ∨ loop.buffer.length < chunkedHeaderLen + (chunkedSize - 2) then .inl none
          else .inr {
            message := loop.message.appendContent
              ((loop.buffer.drop chunkedHeaderLen).take (chunkedSize - 2).toNat)
            buffer := loop.buffer.drop (chunkedHeaderLen + chunkedSize.toNat)
            parsedLen }

/-- The loop of the function is made of these turns. -/
theorem parseChunks_turn (turns : Nat) (loop : ChunkLoop) :
    parseChunks (turns + 1) loop.message loop.buffer loop.parsedLen =
      match loop.turn with
      | .inl result => result
      | .inr next => parseChunks turns next.message next.buffer next.parsedLen := by
  rw [parseChunks, turn]
  cases memchr loop.buffer lf with
  | none => rfl
  | some pos =>
    dsimp only
    split
    · rfl
    · cases chunkedDigits (loop.buffer.take (pos - 1)) with
      | none => rfl
      | some size =>
        dsimp only
        by_cases short : (loop.buffer.length : Int) < int32 (↑(pos + 1) + int32 (size + 2))
        · rw [if_pos short, if_pos short]
        · rw [if_neg short, if_neg short]
          by_cases last : 2 = int32 (size + 2)
          · rw [if_pos last, if_pos last]
          · rw [if_neg last, if_neg last]
            split <;> rfl

/-- A turn whose sums are exact, which stays inside of the input, and which takes only a
    chunk of size zero for the last one. -/
structure Safe (input : Bytes) (loop : ChunkLoop) : Prop where
  digits : ∀ line front size, sizeLine loop.buffer = some line → front <+: line →
    front.foldlM hexValue 0 = some size → size < 2 ^ 31
  sums : ∀ line size, sizeLine loop.buffer = some line → line.foldlM hexValue 0 = some size →
    size + 2 < 2 ^ 31 ∧ line.length + 2 + (size + 2) < 2 ^ 31
  result : match loop.turn with
    | .inl none => False
    | .inl (some (ret, after)) =>
      (ret = -1 ∨ 0 ≤ ret ∧ loop.parsedLen ≤ ret ∧ ret ≤ input.length) ∧
      (after.parseStatus = .eCompleted →
        ∃ line, sizeLine loop.buffer = some line ∧ line ≠ [] ∧ ∀ ch ∈ line, ch = 48)
    | .inr next => loop.parsedLen ≤ next.parsedLen ∧ ∃ start count, start + count ≤ input.length ∧
      next.message = loop.message.appendContent ((input.drop start).take count)

/-- The turns of a call. -/
def Reaches : ChunkLoop → ChunkLoop → Prop := Relation.ReflTransGen fun loop next => loop.turn = .inr next

end ChunkLoop

/-- All arithmetic of a call on chunk sizes is safe. -/
structure SafeChunks (message : CoProtocolHttp) (input : Bytes) : Prop where
  returns : ∃ ret after, parseContentChunked message input input.length = some (ret, after) ∧
    (ret = -1 ∨ 0 ≤ ret ∧ ret ≤ input.length)
  turns : ∀ loop, ChunkLoop.Reaches { message, buffer := input } loop → loop.Safe input

/-! ## What a turn does -/

section
variable {digits front line : Bytes}

theorem hexValue_none {ch : UInt8} (bad : hexValueOf ch = none) (value : Nat) : hexValue value ch = none := by
  rw [hexValue, bad, Option.map_none]

/-- A line is no number for the code if and only if it is none. -/
theorem chunkedDigits_none (value : Nat) (size : Int) (bad : digits.foldlM hexValue value = none) :
    digits.foldlM chunkedDigit size = none := by
  induction digits generalizing value size with
  | nil => cases bad
  | cons ch digits ih =>
    rw [List.foldlM_cons] at bad ⊢
    cases digit : hexValueOf ch with
    | none =>
      rw [chunkedDigit, hexDigit_eq, digit]
      rfl
    | some n =>
      rw [hexValue, digit] at bad
      rw [chunkedDigit, hexDigit_eq, digit]
      exact ih _ _ bad

/-- Every number at the start of a line is at most the number that is there. -/
theorem foldlM_le (start : Nat) {size : Nat} (value : digits.foldlM hexValue start = some size) :
    start ≤ size ∧ digits.foldl (fun value ch => value * 16 + (hexValueOf ch).getD 0) start = size ∧
      ∀ ch ∈ digits, (hexValueOf ch).isSome := by
  induction digits generalizing start with
  | nil =>
    cases value
    exact ⟨Nat.le_refl _, rfl, nofun⟩
  | cons ch digits ih =>
    rw [List.foldlM_cons] at value
    cases digit : hexValueOf ch with
    | none =>
      rw [hexValue_none digit] at value
      cases value
    | some n =>
      rw [hexValue, digit] at value
      obtain ⟨le, same, all⟩ := ih (start * 16 + n) value
      refine ⟨by omega, by rw [List.foldl_cons, digit]; exact same, ?_⟩
      intro other member
      rcases List.mem_cons.1 member with rfl | later
      · rw [digit]
        rfl
      · exact all other later

/-- Digits that go on only add to the value. -/
theorem foldl_append_le (start : Nat) (front back : Bytes) :
    front.foldl (fun value ch => value * 16 + (hexValueOf ch).getD 0) start ≤
      (front ++ back).foldl (fun value ch => value * 16 + (hexValueOf ch).getD 0) start := by
  have grows : ∀ (digits : Bytes) (start : Nat),
      start ≤ digits.foldl (fun value ch => value * 16 + (hexValueOf ch).getD 0) start := by
    intro digits
    induction digits with
    | nil => exact fun start => Nat.le_refl start
    | cons ch digits ih =>
      intro start
      rw [List.foldl_cons]
      exact (by omega : start ≤ start * 16 + (hexValueOf ch).getD 0).trans (ih _)
  rw [List.foldl_append]
  exact grows back _

theorem value_le_leadingValue {size : Nat} (start : front <+: line) (value : front.foldlM hexValue 0 = some size) :
    size ≤ leadingValue line := by
  obtain ⟨back, rfl⟩ := start
  obtain ⟨-, same, all⟩ := foldlM_le 0 value
  rw [← same, leadingValue, List.takeWhile_append_of_pos all]
  exact foldl_append_le 0 front _

/-- The digits at the start of a line are a number. -/
theorem exists_leading (line : Bytes) : ∃ front, front <+: line ∧ front.foldlM hexValue 0 = some (leadingValue line) := by
  refine ⟨line.takeWhile fun ch => (hexValueOf ch).isSome, List.takeWhile_prefix _, ?_⟩
  have all : ∀ (digits : Bytes) (start : Nat), (∀ ch ∈ digits, (hexValueOf ch).isSome) →
      digits.foldlM hexValue start =
        some (digits.foldl (fun value ch => value * 16 + (hexValueOf ch).getD 0) start) := by
    intro digits
    induction digits with
    | nil => exact fun start _ => rfl
    | cons ch digits ih =>
      intro start hex
      obtain ⟨n, digit⟩ := Option.isSome_iff_exists.1 (hex ch List.mem_cons_self)
      rw [List.foldlM_cons, List.foldl_cons, hexValue, digit]
      exact ih _ fun other member => hex other (List.mem_cons_of_mem _ member)
  exact all _ 0 fun _ member => List.mem_takeWhile_imp (p := fun ch => (hexValueOf ch).isSome) member

theorem leadingValue_of_spelled {size : Nat} (value : line.foldlM hexValue 0 = some size) :
    leadingValue line = size := by
  obtain ⟨-, same, all⟩ := foldlM_le 0 value
  have whole : line.takeWhile (fun ch => (hexValueOf ch).isSome) = line := List.takeWhile_eq_self_iff.2 all
  rw [leadingValue, whole, same]

end

/-- Where a size line ends. -/
theorem sizeLine_some {buffer line : Bytes} (found : sizeLine buffer = some line) :
    ∃ pos, memchr buffer lf = some pos ∧ ¬(pos = 0 ∨ buffer[pos - 1]? ≠ some cr) ∧
      line = buffer.take (pos - 1) ∧ pos + 1 = line.length + 2 ∧ pos + 1 ≤ buffer.length := by
  unfold sizeLine at found
  cases position : memchr buffer lf with
  | none =>
    rw [position] at found
    cases found
  | some pos =>
    rw [position] at found
    dsimp only at found
    split at found
    · cases found
    · rename_i ended
      have inside : pos < buffer.length := (List.findIdx?_eq_some_iff_getElem.1 position).1
      have nonzero : pos ≠ 0 := fun zero => ended (.inl zero)
      have line := Option.some.inj found
      refine ⟨pos, rfl, ended, line.symm, ?_, inside⟩
      rw [← line, List.length_take]
      omega

namespace ChunkLoop

variable {loop : ChunkLoop} {line : Bytes} {size : Nat}

theorem turn_noLine (missing : sizeLine loop.buffer = none) :
    loop.turn = .inl (some (loop.parsedLen, loop.message)) ∨ loop.turn = .inl (some (-1, loop.message)) := by
  unfold sizeLine at missing
  unfold turn
  cases position : memchr loop.buffer lf with
  | none => exact .inl rfl
  | some pos =>
    rw [position] at missing
    dsimp only at missing ⊢
    split at missing
    · rename_i ended
      rw [if_pos ended]
      exact .inr rfl
    · cases missing

theorem turn_noSize (found : sizeLine loop.buffer = some line) (bad : line.foldlM hexValue 0 = none) :
    loop.turn = .inl (some (-1, loop.message)) := by
  obtain ⟨pos, position, ended, rfl, -⟩ := sizeLine_some found
  have none : chunkedDigits (loop.buffer.take (pos - 1)) = none := chunkedDigits_none 0 0 bad
  unfold turn
  rw [position]
  dsimp only
  rw [if_neg ended, none]

/-- The next turn has fewer bytes. -/
theorem turn_shorter {next : ChunkLoop} (step : loop.turn = .inr next) : next.buffer.length < loop.buffer.length := by
  unfold turn at step
  cases position : memchr loop.buffer lf with
  | none =>
    rw [position] at step
    cases step
  | some pos =>
    have inside : pos < loop.buffer.length := (List.findIdx?_eq_some_iff_getElem.1 position).1
    rw [position] at step
    dsimp only at step
    split at step
    · cases step
    · split at step
      · cases step
      · repeat' split at step
        all_goals cases step
        rw [List.length_drop]
        omega

/-- The next turn, after a chunk with a size line of `header` bytes. -/
def taken (loop : ChunkLoop) (header size : Nat) : ChunkLoop where
  message := loop.message.appendContent ((loop.buffer.drop header).take size)
  buffer := loop.buffer.drop (header + (size + 2))
  parsedLen := int32 (loop.parsedLen + ↑(header + (size + 2)))

/-- A size that fits is handled exactly. -/
theorem turn_size (found : sizeLine loop.buffer = some line) (spelled : line.foldlM hexValue 0 = some size)
    (small : line.length + 2 + (size + 2) < 2 ^ 31) :
    loop.turn =
      if loop.buffer.length < line.length + 2 + (size + 2) then .inl (some (loop.parsedLen, loop.message))
      else if size = 0 then .inl (some (int32 (loop.parsedLen + ↑(line.length + 2 + (size + 2))),
        { loop.message with parseStatus := .eCompleted }))
      else .inr (loop.taken (line.length + 2) size) := by
  obtain ⟨pos, position, ended, same, length, -⟩ := sizeLine_some found
  have digits : chunkedDigits (loop.buffer.take (pos - 1)) = some (size : Int) := by
    rw [← same]
    exact (chunkedDigits_from (by omega) spelled).2.2
  have chunkedSize : int32 ((size : Int) + 2) = (size : Int) + 2 := int32_of_bounds (by omega) (by omega)
  have sum : int32 (((line.length + 2 : Nat) : Int) + ((size : Int) + 2)) =
      ((line.length + 2 + (size + 2) : Nat) : Int) := by
    rw [int32_of_bounds (by omega) (by omega)]
    push_cast
    ring
  unfold turn
  rw [position]
  dsimp only
  rw [if_neg ended, digits]
  dsimp only
  rw [length, chunkedSize, sum]
  by_cases short : loop.buffer.length < line.length + 2 + (size + 2)
  · rw [if_pos (by exact_mod_cast short), if_pos short]
  · rw [if_neg (by exact_mod_cast short), if_neg short]
    by_cases zero : size = 0
    · rw [if_pos (by omega), if_pos zero]
    · rw [if_neg (by omega), if_neg zero, if_neg (by omega)]
      have count : ((size : Int) + 2 - 2).toNat = size := by omega
      have all : ((size : Int) + 2).toNat = size + 2 := by omega
      rw [count, all]
      rfl

/-! ## Turns on the input -/

/-- The locals are those of the input behind the bytes that were parsed. -/
structure At (input : Bytes) (loop : ChunkLoop) : Prop where
  inside : ∃ parsed : Nat, loop.parsedLen = parsed ∧ parsed ≤ input.length ∧ loop.buffer = input.drop parsed
  going : loop.message.parseStatus ≠ .eCompleted

section
variable {input : Bytes} {next : ChunkLoop}

/-- A line that spells zero has zeros only. -/
theorem zeros_of_spelled (start : Nat) {line : Bytes} (spelled : line.foldlM hexValue start = some 0) :
    ∀ ch ∈ line, ch = 48 := by
  induction line generalizing start with
  | nil => exact nofun
  | cons ch line ih =>
    have whole := spelled
    rw [List.foldlM_cons] at spelled
    cases digit : hexValueOf ch with
    | none =>
      rw [hexValue_none digit] at spelled
      cases spelled
    | some n =>
      rw [hexValue, digit] at spelled
      have zero := (foldlM_le (start * 16 + n) spelled).1
      have isZero : ch = 48 := by
        have all : ∀ k : Fin 256, hexValueOf (UInt8.ofNat k) = some 0 → UInt8.ofNat k = 48 := by decide +kernel
        have here := all ⟨ch.toNat, ch.toNat_lt⟩
        rw [UInt8.ofNat_toNat] at here
        exact here (by rw [digit]; exact congrArg some (by omega))
      intro other member
      rcases List.mem_cons.1 member with rfl | later
      · exact isZero
      · exact ih _ spelled other later

theorem At.length (here : At input loop) : loop.parsedLen + loop.buffer.length = input.length := by
  obtain ⟨parsed, same, bound, rest⟩ := here.inside
  rw [same, rest, List.length_drop]
  omega

/-- A sum with what lies in the buffer is exact. -/
theorem At.sum (here : At input loop) (small : input.length < 2 ^ 31) {total : Nat} (whole : total ≤ loop.buffer.length) :
    int32 (loop.parsedLen + total) = loop.parsedLen + total := by
  have length := here.length
  obtain ⟨parsed, same, -, -⟩ := here.inside
  exact int32_of_bounds (by omega) (by omega)

/-- A chunk that is there as a whole is part of the input. -/
theorem At.taken (here : At input loop) (small : input.length < 2 ^ 31) {header : Nat}
    (whole : header + (size + 2) ≤ loop.buffer.length) :
    At input (loop.taken header size) ∧ loop.parsedLen ≤ (loop.taken header size).parsedLen ∧
      ∃ start count, start + count ≤ input.length ∧
        (loop.taken header size).message = loop.message.appendContent ((input.drop start).take count) := by
  have sum := here.sum small whole
  have length := here.length
  obtain ⟨parsed, same, bound, rest⟩ := here.inside
  refine ⟨⟨⟨parsed + (header + (size + 2)), ?_, by omega, ?_⟩, here.going⟩, ?_, parsed + header, size, by omega, ?_⟩
  · change int32 _ = _
    rw [sum, same]
    push_cast
    ring
  · change loop.buffer.drop _ = _
    rw [rest, List.drop_drop]
  · change _ ≤ int32 _
    omega
  · change loop.message.appendContent _ = _
    rw [rest, List.drop_drop]

/-- A line whose size fits makes exact sums. -/
theorem exact_sums (found : sizeLine loop.buffer = some line) (spelled : line.foldlM hexValue 0 = some size)
    (fits : line.length + 2 + (size + 2) < 2 ^ 31) :
    (∀ line front size, sizeLine loop.buffer = some line → front <+: line →
      front.foldlM hexValue 0 = some size → size < 2 ^ 31) ∧
    ∀ line size, sizeLine loop.buffer = some line → line.foldlM hexValue 0 = some size →
      size + 2 < 2 ^ 31 ∧ line.length + 2 + (size + 2) < 2 ^ 31 := by
  have value := leadingValue_of_spelled spelled
  refine ⟨fun other front part found' start partValue => ?_, fun other whole found' wholeValue => ?_⟩
  · cases found.symm.trans found'
    have le := value_le_leadingValue start partValue
    omega
  · cases found.symm.trans found'
    cases spelled.symm.trans wholeValue
    omega

/-- A turn that returns. -/
theorem safe_of_ends {ret : Int} {after : CoProtocolHttp} (ends : loop.turn = .inl (some (ret, after)))
    (digits : ∀ line front size, sizeLine loop.buffer = some line → front <+: line →
      front.foldlM hexValue 0 = some size → size < 2 ^ 31)
    (sums : ∀ line size, sizeLine loop.buffer = some line → line.foldlM hexValue 0 = some size →
      size + 2 < 2 ^ 31 ∧ line.length + 2 + (size + 2) < 2 ^ 31)
    (bounds : ret = -1 ∨ 0 ≤ ret ∧ loop.parsedLen ≤ ret ∧ ret ≤ input.length)
    (completes : after.parseStatus = .eCompleted →
      ∃ line, sizeLine loop.buffer = some line ∧ line ≠ [] ∧ ∀ ch ∈ line, ch = 48) :
    loop.Safe input ∧ ∀ next, loop.turn = .inr next → ChunksFit next.buffer ∧ At input next := by
  refine ⟨⟨digits, sums, ?_⟩, fun next step => ?_⟩
  · rw [ends]
    exact ⟨bounds, completes⟩
  · rw [ends] at step
    cases step

/-- Bytes are missing, and what was parsed before is returned. -/
theorem At.safe_short (here : At input loop) (found : sizeLine loop.buffer = some line)
    (spelled : line.foldlM hexValue 0 = some size) (fits : line.length + 2 + (size + 2) < 2 ^ 31)
    (short : loop.buffer.length < line.length + 2 + (size + 2)) :
    loop.Safe input ∧ ∀ next, loop.turn = .inr next → ChunksFit next.buffer ∧ At input next := by
  have ends := turn_size found spelled fits
  rw [if_pos short] at ends
  obtain ⟨digits, sums⟩ := exact_sums found spelled fits
  have length := here.length
  obtain ⟨parsed, same, -, -⟩ := here.inside
  exact safe_of_ends ends digits sums (.inr (by omega)) fun done => absurd done here.going

/-- A turn on a buffer whose sizes fit is safe, and the sizes of the next turn fit. -/
theorem At.safe (here : At input loop) (small : input.length < 2 ^ 31) (fit : ChunksFit loop.buffer) :
    loop.Safe input ∧ ∀ next, loop.turn = .inr next → ChunksFit next.buffer ∧ At input next := by
  have length := here.length
  obtain ⟨parsed, same, bound, -⟩ := here.inside
  cases fit with
  | noLine missing =>
    have digits : ∀ line front size, sizeLine loop.buffer = some line → front <+: line →
        front.foldlM hexValue 0 = some size → size < 2 ^ 31 :=
      fun line front size found => nomatch missing.symm.trans found
    have sums : ∀ line size, sizeLine loop.buffer = some line → line.foldlM hexValue 0 = some size →
        size + 2 < 2 ^ 31 ∧ line.length + 2 + (size + 2) < 2 ^ 31 :=
      fun line size found => nomatch missing.symm.trans found
    obtain ends | ends := turn_noLine missing
    · exact safe_of_ends ends digits sums (.inr (by omega)) fun done => absurd done here.going
    · exact safe_of_ends ends digits sums (.inl rfl) fun done => absurd done here.going
  | noSize found bad fits =>
    refine safe_of_ends (turn_noSize found bad) (fun line front size found' start value => ?_)
      (fun line size found' value => ?_) (.inl rfl) fun done => absurd done here.going
    · cases found.symm.trans found'
      exact (value_le_leadingValue start value).trans_lt fits
    · cases found.symm.trans found'
      rw [bad] at value
      cases value
  | waits found spelled fits short => exact here.safe_short found spelled fits short
  | @last _ line found spelled fits nonempty =>
    by_cases short : loop.buffer.length < line.length + 2 + (0 + 2)
    · exact here.safe_short found spelled fits short
    · have ends := turn_size found spelled fits
      rw [if_neg short, if_pos rfl, here.sum small (Nat.not_lt.1 short)] at ends
      obtain ⟨digits, sums⟩ := exact_sums found spelled fits
      exact safe_of_ends ends digits sums (.inr (by omega)) fun _ =>
        ⟨line, found, nonempty, zeros_of_spelled 0 spelled⟩
  | @chunk _ line size found spelled fits some rest =>
    by_cases short : loop.buffer.length < line.length + 2 + (size + 2)
    · exact here.safe_short found spelled fits short
    · -- the only turn behind which the loop goes on
      have ends := turn_size found spelled fits
      rw [if_neg short, if_neg some] at ends
      obtain ⟨digits, sums⟩ := exact_sums found spelled fits
      obtain ⟨after, grows, appended⟩ := here.taken small (Nat.not_lt.1 short)
      refine ⟨⟨digits, sums, ?_⟩, fun next step => ?_⟩
      · rw [ends]
        exact ⟨grows, appended⟩
      · rw [ends] at step
        cases step
        exact ⟨rest, after⟩

/-- The loop ends with a result when the sizes fit. -/
theorem At.returns (here : At input loop) (small : input.length < 2 ^ 31) (fit : ChunksFit loop.buffer)
    (turns : Nat) (enough : loop.buffer.length < turns) :
    ∃ ret after, parseChunks turns loop.message loop.buffer loop.parsedLen = some (ret, after) ∧
      (ret = -1 ∨ 0 ≤ ret ∧ ret ≤ input.length) := by
  induction turns generalizing loop with
  | zero => omega
  | succ turns ih =>
    obtain ⟨safe, goesOn⟩ := here.safe small fit
    have result := safe.result
    rw [parseChunks_turn]
    cases ends : loop.turn with
    | inl last =>
      rw [ends] at result
      cases last with
      | none => exact result.elim
      | some pair =>
        obtain ⟨ret, after⟩ := pair
        refine ⟨ret, after, rfl, ?_⟩
        obtain failed | ⟨nonneg, -, bound⟩ := result.1
        · exact .inl failed
        · exact .inr ⟨nonneg, bound⟩
    | inr next =>
      obtain ⟨fitNext, hereNext⟩ := goesOn next ends
      have shorter := turn_shorter ends
      exact ih hereNext fitNext (by omega)

/-- Safe turns show that the sizes fit. -/
theorem At.fits {start : ChunkLoop} (safe : ∀ loop, Reaches start loop → loop.Safe input)
    (here : At input loop) (small : input.length < 2 ^ 31) (reached : Reaches start loop) : ChunksFit loop.buffer := by
  induction length : loop.buffer.length using Nat.strong_induction_on generalizing loop with
  | _ count ih =>
    obtain ⟨digits, sums, result⟩ := safe loop reached
    cases found : sizeLine loop.buffer with
    | none => exact .noLine found
    | some line =>
      cases spelled : line.foldlM hexValue 0 with
      | none =>
        obtain ⟨front, begins, value⟩ := exists_leading line
        exact .noSize found spelled (digits line front _ found begins value)
      | some size =>
        have fits := (sums line size found spelled).2
        have ends := turn_size found spelled fits
        by_cases short : loop.buffer.length < line.length + 2 + (size + 2)
        · exact .waits found spelled fits short
        · rw [if_neg short] at ends
          by_cases zero : size = 0
          · rw [if_pos zero] at ends
            rw [ends] at result
            obtain ⟨other, found', nonempty, -⟩ := result.2 rfl
            cases found.symm.trans found'
            rw [zero] at spelled fits
            exact .last found spelled fits nonempty
          · rw [if_neg zero] at ends
            have shorter := turn_shorter ends
            refine .chunk found spelled fits zero ?_
            exact ih _ (length ▸ shorter) (here.taken small (Nat.not_lt.1 short)).1 (reached.tail ends) rfl

end

end ChunkLoop

/-- The arithmetic of `parse_content_chunked` is safe if and only if the chunk sizes fit into
    an `int32_t` with their lines, and every complete chunk has a size. -/
theorem safeChunks_iff (message : CoProtocolHttp) (input : Bytes) (small : input.length < 2 ^ 31)
    (going : message.parseStatus ≠ .eCompleted) : SafeChunks message input ↔ ChunksFit input := by
  have start : ChunkLoop.At input { message, buffer := input } := ⟨⟨0, rfl, Nat.zero_le _, rfl⟩, going⟩
  constructor
  · intro safe
    exact start.fits safe.turns small .refl
  · intro fit
    constructor
    · obtain ⟨ret, after, result, bounds⟩ := start.returns small fit (input.length + 1) (Nat.lt_succ_self _)
      refine ⟨ret, after, ?_, bounds⟩
      rw [parseContentChunked, if_neg (by omega)]
      exact result
    · intro loop reached
      have kept : ChunksFit loop.buffer ∧ ChunkLoop.At input loop := by
        induction reached with
        | refl => exact ⟨fit, start⟩
        | tail _ step ih => exact (ih.2.safe small ih.1).2 _ step
      exact (kept.2.safe small kept.1).1

/-- A chunk of three bytes and the last one. -/
theorem safeChunks_three : SafeChunks {} (ascii "3\r\nabc\r\n00\r\n\r\n") :=
  (safeChunks_iff {} (ascii "3\r\nabc\r\n00\r\n\r\n") (by decide) (by decide)).2
    (@ChunksFit.chunk _ (ascii "3") 3 (by decide) (by decide) (by decide) (by decide)
      (@ChunksFit.last _ (ascii "00") (by decide) (by decide) (by decide) (by decide)))

/-- A size of `0xfffffffd` is minus three for the code, which then appends as many bytes. -/
theorem safeChunks_fails : ¬ ∀ (message : CoProtocolHttp) (input : Bytes), input.length < 2 ^ 31 →
    message.parseStatus ≠ .eCompleted → SafeChunks message input := by
  intro safe
  have overflow := safe {} (ascii "fffffffd\r\n") (by decide) (by decide)
  have exact := (overflow.turns _ .refl).digits (ascii "fffffffd") (ascii "fffffffd") 4294967293 (by decide)
    (List.prefix_refl _) (by decide)
  omega

end CoServer
