import CoServer.Protocol.HttpFraming

/-! # Encoded messages

What the encoders append is the text of a message: `encoded_text` puts the rows
together, `insertRows_sent` and `Lists.lookup_iff` read the headers back whatever
the order in which the map was walked. -/

namespace CoServer

open Lib (ascii cstr decimal decimalInt snprintf isDigit decimalValue)

/-! ## Maps as lists -/

section
variable {order : List (Bytes × Bytes)} {map : StringMap} {name value : Bytes}

theorem mapOf_append_singleton (order : List (Bytes × Bytes)) (pair : Bytes × Bytes) :
    mapOf (order ++ [pair]) = (mapOf order).insert pair.1 pair.2 := by
  simp only [mapOf, List.foldl_append, List.foldl_cons, List.foldl_nil]

theorem mem_of_lookup_mapOf (hlookup : (mapOf order).lookup name = some value) : (name, value) ∈ order := by
  induction order using List.reverseRecOn with
  | nil =>
    rw [mapOf, List.foldl_nil, Finmap.lookup_empty] at hlookup
    cases hlookup
  | append_singleton order pair ih =>
    rw [mapOf_append_singleton] at hlookup
    by_cases hname : name = pair.1
    · subst hname
      rw [Finmap.lookup_insert] at hlookup
      cases hlookup
      exact List.mem_append_right _ List.mem_cons_self
    · rw [Finmap.lookup_insert_of_ne _ hname] at hlookup
      exact List.mem_append_left _ (ih hlookup)

theorem lookup_mapOf_of_mem (hdistinct : (order.map Prod.fst).Nodup) (hmem : (name, value) ∈ order) :
    (mapOf order).lookup name = some value := by
  induction order using List.reverseRecOn with
  | nil => cases hmem
  | append_singleton order pair ih =>
    rw [List.map_append, List.nodup_append] at hdistinct
    obtain ⟨hfront, _, hother⟩ := hdistinct
    rw [mapOf_append_singleton]
    cases List.mem_append.mp hmem with
    | inl hmem =>
      have hne : name ≠ pair.1 := hother name (List.mem_map.mpr ⟨_, hmem, rfl⟩) pair.1 List.mem_cons_self
      rw [Finmap.lookup_insert_of_ne _ hne]
      exact ih hfront hmem
    | inr hmem =>
      rw [← List.mem_singleton.mp hmem]
      exact Finmap.lookup_insert _

/-- An iterator comes by the pairs of its map and by no others. -/
theorem Lists.lookup_iff (hlists : Lists order map) : map.lookup name = some value ↔ (name, value) ∈ order := by
  rw [← hlists.complete]
  exact ⟨mem_of_lookup_mapOf, lookup_mapOf_of_mem hlists.distinct⟩

end

/-! ## Header lines -/

/-- What a header must be like to be read back. -/
structure HeaderField (name value : Bytes) : Prop where
  nameInline : Inline name
  noColon : colon ∉ name
  valueInline : Inline value
  noSpace : value.head? ≠ some space

/-- The header as it stands on its line. -/
def spaced (header : Bytes × Bytes) : Bytes × Bytes := (header.1, space :: header.2)

theorem dropWhile_spaced {value : Bytes} (hspace : value.head? ≠ some space) :
    (space :: value).dropWhile (· ∈ [space]) = value := by
  rw [List.dropWhile_cons, if_pos (by simp)]
  cases value with
  | nil => rfl
  | cons byte value =>
    rw [List.dropWhile_cons, if_neg]
    simpa using hspace

/-- The header lines give the map back. -/
theorem insertRows_sent {order : List (Bytes × Bytes)} (hspaces : ∀ header ∈ order, header.2.head? ≠ some space) :
    (order.map spaced).foldl insertRow ∅ = mapOf order := by
  induction order using List.reverseRecOn with
  | nil => rfl
  | append_singleton order header ih =>
    have hlast := hspaces header (List.mem_append_right _ List.mem_cons_self)
    rw [List.map_append, List.foldl_append, ih fun other hmem => hspaces other (List.mem_append_left _ hmem),
      mapOf_append_singleton]
    simp only [List.map_cons, List.map_nil, List.foldl_cons, List.foldl_nil, spaced, insertRow, dropWhile_spaced hlast]
    rfl

/-- A header that fits in the line buffer is printed whole. -/
theorem headerLine_fits {header : Bytes × Bytes} (hname : 0 ∉ header.1) (hvalue : 0 ∉ header.2)
    (hfits : (headerRow (spaced header)).length < lineBufferSize) : headerLine header = headerRow (spaced header) := by
  have htext : cstr header.1 ++ ascii ": " ++ cstr header.2 ++ crlf = headerRow (spaced header) := by
    rw [Lib.cstr_self hname, Lib.cstr_self hvalue, headerRow, List.append_assoc header.1]
    rfl
  rw [headerLine, htext, Lib.snprintf_fits hfits]

/-- Something holds of all headers of a map. -/
def Everywhere (holds : Bytes → Bytes → Prop) (map : StringMap) : Prop :=
  ∀ name value, map.lookup name = some value → holds name value

section
variable {holds : Bytes → Bytes → Prop} {map : StringMap} {name value : Bytes}

theorem Everywhere.insert (everywhere : Everywhere holds map) (here : holds name value) :
    Everywhere holds (map.insert name value) := by
  intro other found hlookup
  by_cases hname : other = name
  · subst hname
    rw [Finmap.lookup_insert] at hlookup
    cases hlookup
    exact here
  · rw [Finmap.lookup_insert_of_ne _ hname] at hlookup
    exact everywhere other found hlookup

theorem Everywhere.erase (everywhere : Everywhere holds map) : Everywhere holds (map.erase name) := by
  intro other found hlookup
  by_cases hname : other = name
  · subst hname
    rw [Finmap.lookup_erase] at hlookup
    cases hlookup
  · rw [Finmap.lookup_erase_ne hname] at hlookup
    exact everywhere other found hlookup

end

/-- All headers of a map can be read back. -/
def HeaderFields (map : StringMap) : Prop := ∀ name value, map.lookup name = some value → HeaderField name value

theorem everywhere_empty {holds : Bytes → Bytes → Prop} : Everywhere holds ∅ := by
  intro name value hlookup
  rw [Finmap.lookup_empty] at hlookup
  cases hlookup

theorem headerFields_empty : HeaderFields ∅ := everywhere_empty

/-! ## Numbers -/

theorem decimalInt_inline (n : Int) : Inline (decimalInt n) ∧ space ∉ decimalInt n := by
  have hdigits : ∀ byte ∈ decimalInt n, byte = 45 ∨ isDigit byte = true := by
    intro byte hmem
    rw [decimalInt] at hmem
    split at hmem
    · cases List.mem_cons.mp hmem with
      | inl hminus => exact .inl hminus
      | inr hmem => exact .inr (Lib.isDigit_decimal hmem)
    · exact .inr (Lib.isDigit_decimal hmem)
  refine ⟨⟨?_, ?_, ?_⟩, ?_⟩ <;> intro hmem <;> exact absurd (hdigits _ hmem) (by decide)

theorem decimalInt_field (n : Int) : HeaderField headerContentLength (decimalInt n) where
  nameInline := by decide
  noColon := by decide
  valueInline := (decimalInt_inline n).1
  noSpace := fun hhead => (decimalInt_inline n).2 (List.mem_of_mem_head? hhead)

/-- A length that is printed is read back. -/
theorem spellsLength_decimalInt {n : Nat} {length : Int} (hlength : length = n) :
    SpellsLength (space :: decimalInt length) n := by
  subst hlength
  have hdecimal : decimalInt (n : Int) = decimal n := by
    rw [decimalInt, if_neg (by omega), Int.natAbs_natCast]
  refine ⟨[space], decimal n, [], ?_, ?_, fun _ none => absurd none List.not_mem_nil, Lib.decimal_ne_nil n, ?_,
    Lib.decimalValue_decimal n⟩
  · rw [hdecimal, List.append_nil, List.singleton_append]
  · exact fun _ hmem => .inl (List.mem_singleton.mp hmem)
  · exact fun _ hmem => Lib.isDigit_decimal hmem

/-! ## Appending the rows -/

/-- With memory to be had all rows are appended. -/
theorem appendAll_region {rows : List Bytes} {coBuffer : CoBuffer} (memory : Nat → Block) (call : Nat)
    (hvalid : coBuffer.Valid) (htotal : coBuffer.totalSize < 2 ^ 63)
    (hroom : coBuffer.region.length + rows.flatten.length < 2 ^ 62) :
    ∃ out, appendAll (fun call => some (memory call)) call rows coBuffer = some out ∧ out.Valid ∧
      out.region = coBuffer.region ++ rows.flatten ∧ out.totalSize < 2 ^ 63 := by
  induction rows generalizing coBuffer call with
  | nil => exact ⟨coBuffer, rfl, hvalid, (List.append_nil _).symm, htotal⟩
  | cons row rows ih =>
    rw [List.flatten_cons, List.length_append] at hroom
    have hlength := hvalid.region_length
    obtain ⟨next, happend, hnext, hregion, hnextTotal⟩ := @CoBuffer.Valid.bufferAppend_some _ row hvalid (memory call) htotal
      (by omega)
    have hnextRoom : next.region.length + rows.flatten.length < 2 ^ 62 := by
      rw [hregion, List.length_append]
      omega
    obtain ⟨out, hrest, hout, houtRegion, houtTotal⟩ := ih (call + 1) hnext hnextTotal hnextRoom
    refine ⟨out, ?_, hout, ?_, houtTotal⟩
    · simp only [appendAll, happend]
      exact hrest
    · rw [houtRegion, hregion, List.append_assoc, List.flatten_cons]

/-- Any bytes can be in a buffer. -/
theorem exists_buffer {data : Bytes} (hlength : data.length < 2 ^ 62) :
    ∃ coBuffer : CoBuffer, coBuffer.Valid ∧ coBuffer.region = data := by
  have hroom : ({} : CoBuffer).bufferSize + data.length < 2 ^ 62 := by
    rw [show ({} : CoBuffer).bufferSize = 0 from rfl, Nat.zero_add]
    exact hlength
  obtain ⟨coBuffer, _, hvalid, hregion, _⟩ :=
    CoBuffer.valid_fresh.bufferAppend_some ⟨0, []⟩ (show 0 < 2 ^ 63 by decide) hroom
  rw [CoBuffer.region_fresh, List.nil_append] at hregion
  exact ⟨coBuffer, hvalid, hregion⟩

/-! ## The body -/

namespace CoProtocolHttp

/-- The length of a message is the one that `set_msgbody` and `append_content` give it. -/
def Counted (message : CoProtocolHttp) : Prop := message.contentLength = int32 message.content.length

theorem Counted.appendContent {message : CoProtocolHttp} (hcounted : message.Counted) (content : Bytes) :
    (message.appendContent content).Counted := by
  rw [Counted] at hcounted
  simp only [Counted, CoProtocolHttp.appendContent, hcounted, int32_add, List.length_append]
  push_cast
  rfl

/-- The body that the encoders send. -/
def sentBody (message : CoProtocolHttp) : Bytes := if message.contentLength > 0 then message.content else []

theorem Counted.length {message : CoProtocolHttp} (hcounted : message.Counted)
    (hsmall : message.sentBody.length < 2 ^ 31) (hpositive : message.contentLength > 0) :
    message.contentLength = message.sentBody.length := by
  rw [sentBody, if_pos hpositive] at hsmall ⊢
  rw [hcounted, int32_of_bounds] <;> omega

/-- A body of 2^31 bytes has a negative length, and is not sent. -/
theorem Counted.sentBody_huge {message : CoProtocolHttp} (hcounted : message.Counted)
    (hcount : message.content.length = 2 ^ 31) : ¬message.contentLength > 0 := by
  obtain ⟨turns, hturns⟩ := int32_turns message.content.length
  have hbound := (int32_bounds message.content.length).2
  rw [hcounted]
  omega

/-- A body is sent unless its length does not fit. -/
theorem Counted.sentBody_eq {message : CoProtocolHttp} (hcounted : message.Counted)
    (hsmall : message.content.length < 2 ^ 31) : message.sentBody = message.content := by
  have hlength : message.contentLength = message.content.length := by
    rw [hcounted, int32_of_bounds] <;> omega
  rw [sentBody]
  split
  · rfl
  · have hnil : message.content = [] := List.eq_nil_of_length_eq_zero (by omega)
    exact hnil.symm

end CoProtocolHttp

end CoServer
