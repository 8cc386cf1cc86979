import CoServer.Base.Config

/-! # The numbers of a configuration

Some directives check that their value has only digits, the others take what
`atoi` makes of it.  A number is stored as it was written when its text is a
decimal integer in the range of the field. -/

namespace CoServer.CoConfigParser

open Lib (ascii isDigit isSpace decimalValue strtol)

/-! ## Decimal integers -/

/-- The number of a text that has digits and no other characters. -/
def digitsInteger (text : Bytes) : Option Int :=
  if text ≠ [] ∧ checkNumber text then some (decimalValue text) else none

/-- The integer that digits spell, with or without a sign before them. -/
def decimalInteger : Bytes → Option Int
  | 45 :: text => (digitsInteger text).map Neg.neg
  | 43 :: text => digitsInteger text
  | text => digitsInteger text

section
variable {text : Bytes} {n : Int}

theorem digitsInteger_eq_some : digitsInteger text = some n ↔
    text ≠ [] ∧ checkNumber text = true ∧ n = decimalValue text := by
  unfold digitsInteger
  split
  · rename_i digits
    simp [digits, eq_comm]
  · rename_i noDigits
    simp only [reduceCtorEq, false_iff]
    exact fun digits => noDigits ⟨digits.1, digits.2.1⟩

/-- Digits alone are read without a sign. -/
theorem decimalInteger_digits (digits : checkNumber text = true) :
    decimalInteger text = digitsInteger text := by
  unfold decimalInteger
  split
  · revert digits
    simp [checkNumber, isDigit]
  · revert digits
    simp [checkNumber, isDigit]
  · rfl

theorem strtol_digits (nonempty : text ≠ []) (digits : checkNumber text = true) :
    strtol text = min (2 ^ 63 - 1) (decimalValue text : Int) := by
  have read := @Lib.strtol_numeral [] text [] nofun (by simpa [checkNumber] using digits) nonempty nofun
  simpa using read

/-- A sign is taken before the digits. -/
theorem strtol_signed (digits : checkNumber text = true) :
    strtol (45 :: text) = max (-2 ^ 63) (-(decimalValue text : Int)) ∧
      strtol (43 :: text) = min (2 ^ 63 - 1) (decimalValue text : Int) := by
  have all : text.takeWhile isDigit = text := by
    rw [List.takeWhile_eq_self_iff]
    simpa [checkNumber] using digits
  have minus : (45 :: text).dropWhile isSpace = 45 :: text := by simp [isSpace]
  have plus : (43 :: text).dropWhile isSpace = 43 :: text := by simp [isSpace]
  constructor
  · simp only [strtol, minus, all]
  · simp only [strtol, plus, all]

/-- `atoi` reads a decimal integer that an `int32_t` holds. -/
theorem atoi_decimalInteger (written : decimalInteger text = some n) (low : -2 ^ 31 ≤ n)
    (high : n < 2 ^ 31) : atoi text = n := by
  have read : strtol text = n := by
    unfold decimalInteger at written
    split at written
    · rename_i digits
      obtain ⟨value, spelled, rfl⟩ := Option.map_eq_some_iff.1 written
      obtain ⟨_, all, rfl⟩ := digitsInteger_eq_some.1 spelled
      rw [(strtol_signed all).1]
      omega
    · rename_i digits
      obtain ⟨_, all, rfl⟩ := digitsInteger_eq_some.1 written
      rw [(strtol_signed all).2]
      omega
    · obtain ⟨nonempty, all, rfl⟩ := digitsInteger_eq_some.1 written
      rw [strtol_digits nonempty all]
      omega
  rw [atoi, read, int32_of_bounds low high]

end

/-! ## Directives that store a number -/

/-- A directive with a number: whether its text is checked, and the field it is stored in. -/
structure NumberField (σ : Type) where
  key : Bytes
  stored : σ → Int
  checked : Bool
  low : Int := -2 ^ 31
  high : Int := 2 ^ 31 - 1
  convert : Int → Int := id

def serverFields : List (NumberField CoConfServer) :=
  [{ key := ascii "listen_port", stored := fun server => server.listenPort, checked := true
     low := 0, high := 2 ^ 16 - 1, convert := fun n => uint16 n },
   { key := ascii "max_connections", stored := CoConfServer.maxConnections, checked := true },
   { key := ascii "keepalive_timeout", stored := CoConfServer.keepaliveTimeout, checked := true },
   { key := ascii "read_timeout", stored := CoConfServer.readTimeout, checked := true },
   { key := ascii "write_timeout", stored := CoConfServer.writeTimeout, checked := true },
   { key := ascii "server_type", stored := CoConfServer.serverType, checked := true }]

def upstreamFields : List (NumberField CoConfUpstream) :=
  [{ key := ascii "max_connections", stored := CoConfUpstream.maxConnections, checked := true },
   { key := ascii "load_balance", stored := CoConfUpstream.loadBalance, checked := false },
   { key := ascii "connect_timeout", stored := CoConfUpstream.connTimeout, checked := false },
   { key := ascii "read_timeout", stored := CoConfUpstream.readTimeout, checked := false },
   { key := ascii "write_timeout", stored := CoConfUpstream.writeTimeout, checked := false },
   { key := ascii "keepalive_timeout", stored := CoConfUpstream.keepaliveTimeout, checked := false },
   { key := ascii "connection_maxrequest", stored := CoConfUpstream.connectionMaxRequest
     checked := false },
   { key := ascii "connection_maxtime", stored := CoConfUpstream.connectionMaxTime, checked := false },
   { key := ascii "fail_timeout", stored := CoConfUpstream.failTimeout, checked := false },
   { key := ascii "fail_maxnum", stored := CoConfUpstream.failMaxnum, checked := false },
   { key := ascii "retry_maxnum", stored := CoConfUpstream.retryMaxnum, checked := false }]

/-- What a directive does to the fields: its own takes the number, the others stay. -/
def Sets {σ : Type} (fields : List (NumberField σ)) (conf : σ) (configKey : Bytes)
    (lineArgs : CoLineArgs) (after : σ) : Prop :=
  ∀ field ∈ fields,
    if configKey = field.key then
      ∃ value, argument lineArgs = .ok value ∧ (field.checked = true → checkNumber value = true) ∧
        field.stored after = field.convert (atoi value)
    else field.stored after = field.stored conf

section
variable {lineArgs : CoLineArgs}

theorem map_ok {α β : Type} {result : Except ParseError α} {f : α → β} {after : β}
    (mapped : result.map f = .ok after) : ∃ before, result = .ok before ∧ after = f before := by
  cases result with
  | error error => cases mapped
  | ok before => exact ⟨before, rfl, (Except.ok.inj mapped).symm⟩

theorem number_ok {n : Int} (read : number lineArgs = .ok n) :
    ∃ value, argument lineArgs = .ok value ∧ n = atoi value := by
  unfold number at read
  split at read
  · cases read
  · rename_i value one
    cases read
    exact ⟨value, one, rfl⟩

theorem checkedNumber_ok {n : Int} (read : checkedNumber lineArgs = .ok n) :
    ∃ value, argument lineArgs = .ok value ∧ checkNumber value = true ∧ n = atoi value := by
  unfold checkedNumber at read
  split at read
  · cases read
  · rename_i value one
    split at read
    · rename_i digits
      cases read
      exact ⟨value, one, digits, rfl⟩
    · cases read

theorem serverTypeNumber_ok {n : Int} (read : serverTypeNumber lineArgs = .ok n) :
    ∃ value, argument lineArgs = .ok value ∧ checkNumber value = true ∧ n = atoi value := by
  unfold serverTypeNumber at read
  split at read
  · cases read
  · rename_i value one
    split at read
    · rename_i digits
      split at read
      · cases read
      · cases read
        exact ⟨value, one, digits, rfl⟩
    · cases read

end

namespace Sets

variable {σ : Type} {fields : List (NumberField σ)} {conf after : σ} {configKey key : Bytes}
  {lineArgs : CoLineArgs}

/-- One name of the chain that a directive is compared with. -/
theorem branch {run rest : Except ParseError σ}
    (here : run = .ok after → Sets fields conf key lineArgs after)
    (there : configKey ≠ key → rest = .ok after → Sets fields conf configKey lineArgs after)
    (ran : (if configKey = key then run else rest) = .ok after) :
    Sets fields conf configKey lineArgs after := by
  split at ran
  · rename_i named
    rw [named]
    exact here ran
  · rename_i other
    exact there other ran

/-- A directive without a number. -/
theorem other (keeps : ∀ field ∈ fields, key ≠ field.key ∧ field.stored after = field.stored conf) :
    Sets fields conf key lineArgs after := by
  intro field mem
  obtain ⟨differs, kept⟩ := keeps field mem
  rwa [if_neg differs]

theorem text {set : Bytes → σ}
    (keeps : ∀ value, ∀ field ∈ fields, key ≠ field.key ∧ field.stored (set value) = field.stored conf)
    (ran : (argument lineArgs).map set = .ok after) : Sets fields conf key lineArgs after := by
  obtain ⟨value, _, rfl⟩ := map_ok ran
  exact other (keeps value)

theorem number {set : Int → σ}
    (stores : ∀ n, ∀ field ∈ fields,
      if key = field.key then field.checked = false ∧ field.stored (set n) = field.convert n
      else field.stored (set n) = field.stored conf)
    (ran : (number lineArgs).map set = .ok after) : Sets fields conf key lineArgs after := by
  obtain ⟨n, read, rfl⟩ := map_ok ran
  obtain ⟨value, one, rfl⟩ := number_ok read
  intro field mem
  have stored := stores (atoi value) field mem
  split at stored
  · rename_i named
    rw [if_pos named]
    exact ⟨value, one, fun checked => absurd stored.1 (by simp [checked]), stored.2⟩
  · rename_i differs
    rwa [if_neg differs]

/-- A number whose text was checked. -/
theorem checked {set : Int → σ} {read : Except ParseError Int}
    (readOk : ∀ n, read = .ok n →
      ∃ value, argument lineArgs = .ok value ∧ checkNumber value = true ∧ n = atoi value)
    (stores : ∀ n, ∀ field ∈ fields,
      if key = field.key then field.stored (set n) = field.convert n
      else field.stored (set n) = field.stored conf)
    (ran : read.map set = .ok after) : Sets fields conf key lineArgs after := by
  obtain ⟨n, read, rfl⟩ := map_ok ran
  obtain ⟨value, one, digits, rfl⟩ := readOk n read
  intro field mem
  have stored := stores (atoi value) field mem
  split at stored
  · rename_i named
    rw [if_pos named]
    exact ⟨value, one, fun _ => digits, stored⟩
  · rename_i differs
    rwa [if_neg differs]

end Sets

theorem serverDirective_sets {conf after : CoConfServer} {configKey : Bytes} {lineArgs : CoLineArgs} :
    serverDirective conf configKey lineArgs = .ok after →
      Sets serverFields conf configKey lineArgs after := by
  unfold serverDirective
  refine Sets.branch (Sets.text (by simp +decide [serverFields])) fun listenIp => ?_
  refine Sets.branch (Sets.checked (fun _ => checkedNumber_ok) (by simp +decide [serverFields]))
    fun listenPort => ?_
  refine Sets.branch (Sets.checked (fun _ => checkedNumber_ok) (by simp +decide [serverFields]))
    fun maxConnections => ?_
  refine Sets.branch (Sets.checked (fun _ => checkedNumber_ok) (by simp +decide [serverFields]))
    fun keepaliveTimeout => ?_
  refine Sets.branch (Sets.checked (fun _ => checkedNumber_ok) (by simp +decide [serverFields]))
    fun readTimeout => ?_
  refine Sets.branch (Sets.checked (fun _ => checkedNumber_ok) (by simp +decide [serverFields]))
    fun writeTimeout => ?_
  refine Sets.branch (Sets.checked (fun _ => serverTypeNumber_ok) (by simp +decide [serverFields]))
    fun serverType => ?_
  refine Sets.branch (Sets.text (by simp +decide [serverFields])) fun handlerName ran => ?_
  -- an unknown name
  cases ran
  refine Sets.other ?_
  simp [serverFields, *]

theorem upstreamServerDirective_ok {resolveDns : Bytes → Option (List Bytes)}
    {conf after : CoConfUpstream} {lineArgs : CoLineArgs}
    (ran : upstreamServerDirective resolveDns conf lineArgs = .ok after) :
    ∃ key address weights weight, lineArgs.args = key :: address :: weights ∧
      checkNumber (hostPort address).2 = true ∧ readWeights lineArgs weights 1 = .ok weight ∧
      after = { conf with
        upstreamServers := conf.upstreamServers ++ (resolveHost resolveDns (hostPort address).1).map
          fun host => { host, port := atoi (hostPort address).2, weight } } := by
  unfold upstreamServerDirective at ran
  split at ran
  · rename_i key address weights args
    dsimp only at ran
    split at ran
    · rename_i digits
      split at ran
      · cases ran
      · rename_i weight read
        cases ran
        exact ⟨key, address, weights, weight, args, digits, read, rfl⟩
    · cases ran
  · cases ran

theorem upstreamDirective_sets {resolveDns : Bytes → Option (List Bytes)} {conf after : CoConfUpstream}
    {configKey : Bytes} {lineArgs : CoLineArgs} :
    upstreamDirective resolveDns conf configKey lineArgs = .ok after →
      Sets upstreamFields conf configKey lineArgs after := by
  unfold upstreamDirective
  refine Sets.branch (Sets.text (by simp +decide [upstreamFields])) fun upstream => ?_
  refine Sets.branch (fun ran => ?_) fun server => ?_
  · -- the servers are stored beside the fields
    obtain ⟨_, _, _, _, _, _, _, rfl⟩ := upstreamServerDirective_ok ran
    exact Sets.other (by simp +decide [upstreamFields])
  refine Sets.branch (Sets.checked (fun _ => checkedNumber_ok) (by simp +decide [upstreamFields]))
    fun maxConnections => ?_
  refine Sets.branch (Sets.number (by simp +decide [upstreamFields])) fun loadBalance => ?_
  refine Sets.branch (Sets.number (by simp +decide [upstreamFields])) fun connectTimeout => ?_
  refine Sets.branch (Sets.number (by simp +decide [upstreamFields])) fun readTimeout => ?_
  refine Sets.branch (Sets.number (by simp +decide [upstreamFields])) fun writeTimeout => ?_
  refine Sets.branch (Sets.number (by simp +decide [upstreamFields])) fun keepaliveTimeout => ?_
  refine Sets.branch (Sets.number (by simp +decide [upstreamFields])) fun connectionMaxrequest => ?_
  refine Sets.branch (Sets.number (by simp +decide [upstreamFields])) fun connectionMaxtime => ?_
  refine Sets.branch (Sets.number (by simp +decide [upstreamFields])) fun failTimeout => ?_
  refine Sets.branch (Sets.number (by simp +decide [upstreamFields])) fun failMaxnum => ?_
  refine Sets.branch (Sets.number (by simp +decide [upstreamFields])) fun retryMaxnum ran => ?_
  -- an unknown name
  cases ran
  refine Sets.other ?_
  simp [upstreamFields, *]

/-! ## The fields of a block -/

/-- The lines that start with a name. -/
def directives (key : Bytes) (lines : List CoLineArgs) : List CoLineArgs :=
  lines.filter fun line => line.args.head? = some key

/-- What a block's lines made of a field: the last directive with its name wins. -/
structure FieldRead {σ : Type} (field : NumberField σ) (lines : List CoLineArgs) (after : σ) : Prop where
  texts : ∀ line ∈ directives field.key lines, ∃ value, line.args = [field.key, value] ∧
    (field.checked = true → checkNumber value = true)
  last : ∀ line, (directives field.key lines).getLast? = some line →
    ∃ value, line.args = [field.key, value] ∧ field.stored after = field.convert (atoi value)

section
variable {lines : List CoLineArgs} {line : CoLineArgs} {key configKey : Bytes} {args : List Bytes}

theorem directives_here (words : line.args = key :: args) :
    directives key (lines ++ [line]) = directives key lines ++ [line] := by
  simp [directives, words]

theorem directives_other (words : line.args = configKey :: args) (other : configKey ≠ key) :
    directives key (lines ++ [line]) = directives key lines := by
  simp [directives, words, other]

theorem argument_ok {value : Bytes} (words : line.args = configKey :: args)
    (one : argument line = .ok value) : line.args = [configKey, value] := by
  unfold argument at one
  split at one
  · rename_i first _ same
    cases one
    rw [same] at words ⊢
    cases words
    rfl
  · cases one

end

theorem eachLine_fields {σ : Type} {directive : σ → Bytes → CoLineArgs → Except ParseError σ}
    {fields : List (NumberField σ)}
    (sets : ∀ conf configKey lineArgs after, directive conf configKey lineArgs = .ok after →
      Sets fields conf configKey lineArgs after)
    {lines : List CoLineArgs} {conf after : σ} (ran : eachLine directive lines conf = some (after, none)) :
    ∀ field ∈ fields, FieldRead field lines after := by
  intro field mem
  refine eachLine_rule (FieldRead field) ?_ ⟨nofun, nofun⟩ ran
  intro front line conf next configKey args read words ran
  have stored := sets conf configKey line next ran field mem
  -- a directive with the field's name is the last one so far
  split at stored
  · rename_i named
    subst named
    obtain ⟨value, one, digits, stored⟩ := stored
    have value_eq := argument_ok words one
    constructor
    · rw [directives_here words]
      intro other mem
      obtain old | new := List.mem_append.1 mem
      · exact read.texts other old
      · cases List.mem_singleton.1 new
        exact ⟨value, value_eq, digits⟩
    · rw [directives_here words, List.getLast?_concat]
      intro other last
      cases last
      exact ⟨value, value_eq, stored⟩
  · rename_i other
    constructor
    · rw [directives_other words other]
      exact read.texts
    · rw [directives_other words other, stored]
      exact read.last

/-! ## Numbers stored as written -/

/-- Every value of the directive is a decimal integer in the range of the field, which holds the
    last of them. -/
structure Exact {σ : Type} (field : NumberField σ) (lines : List CoLineArgs) (conf : σ) : Prop where
  written : ∀ line ∈ directives field.key lines, ∃ value n, line.args = [field.key, value] ∧
    decimalInteger value = some n ∧ field.low ≤ n ∧ n ≤ field.high
  stored : ∀ line, (directives field.key lines).getLast? = some line →
    ∃ value, line.args = [field.key, value] ∧ decimalInteger value = some (field.stored conf)

/-- The value of an unchecked directive is a decimal integer in range, that of a checked one is
    neither empty nor too large. -/
def Plain {σ : Type} (field : NumberField σ) (line : CoLineArgs) : Prop :=
  ∀ value, line.args = [field.key, value] →
    if field.checked then value ≠ [] ∧ (decimalValue value : Int) ≤ field.high
    else ∃ n, decimalInteger value = some n ∧ field.low ≤ n ∧ n ≤ field.high

/-- The range of a field is one that `int32_t` and the conversion to the field keep. -/
structure NumberField.Lawful {σ : Type} (field : NumberField σ) : Prop where
  low : -2 ^ 31 ≤ field.low
  zero : field.low ≤ 0
  high : field.high < 2 ^ 31
  convert : ∀ n, field.low ≤ n → n ≤ field.high → field.convert n = n

theorem int32_lawful {σ : Type} (key : Bytes) (stored : σ → Int) (checked : Bool) :
    NumberField.Lawful { key, stored, checked } :=
  ⟨Int.le_refl _, show -2 ^ 31 ≤ (0 : Int) by decide, show 2 ^ 31 - 1 < (2 ^ 31 : Int) by decide,
    fun _ _ _ => rfl⟩

theorem serverFields_lawful : ∀ field ∈ serverFields, field.Lawful := by
  simp only [serverFields, List.forall_mem_cons]
  -- only the port is narrower than the `int32_t` that `atoi` returns
  refine ⟨⟨by decide, by decide, by decide, ?_⟩, int32_lawful _ _ _, int32_lawful _ _ _,
    int32_lawful _ _ _, int32_lawful _ _ _, int32_lawful _ _ _, nofun⟩
  intro n low high
  dsimp only [uint16] at low high ⊢
  omega

theorem upstreamFields_lawful : ∀ field ∈ upstreamFields, field.Lawful := by
  simp only [upstreamFields, List.forall_mem_cons]
  exact ⟨int32_lawful _ _ _, int32_lawful _ _ _, int32_lawful _ _ _, int32_lawful _ _ _,
    int32_lawful _ _ _, int32_lawful _ _ _, int32_lawful _ _ _, int32_lawful _ _ _,
    int32_lawful _ _ _, int32_lawful _ _ _, int32_lawful _ _ _, nofun⟩

section
variable {σ : Type} {field : NumberField σ} {lines : List CoLineArgs} {line : CoLineArgs} {after : σ}
  {value : Bytes}

/-- A checked text in range is a decimal integer in range. -/
theorem decimalInteger_checked (digits : checkNumber value = true) {n : Int} :
    decimalInteger value = some n ↔ value ≠ [] ∧ n = decimalValue value := by
  rw [decimalInteger_digits digits, digitsInteger_eq_some]
  simp [digits]

theorem Plain.written (lawful : field.Lawful) (plain : Plain field line)
    (words : line.args = [field.key, value]) (digits : field.checked = true → checkNumber value = true) :
    ∃ n, decimalInteger value = some n ∧ field.low ≤ n ∧ n ≤ field.high := by
  have text := plain value words
  split at text
  · rename_i checked
    -- a checked text has no sign, so the range is bounded from above only
    refine ⟨decimalValue value, (decimalInteger_checked (digits checked)).2 ⟨text.1, rfl⟩, ?_, text.2⟩
    have := lawful.zero
    omega
  · exact text

theorem FieldRead.plain {other : σ} (read : FieldRead field lines after) (stored : Exact field lines other) :
    ∀ line ∈ directives field.key lines, Plain field line := by
  intro line mem value words
  obtain ⟨text, words', digits⟩ := read.texts line mem
  obtain rfl : value = text := by simpa [words] using words'
  obtain ⟨text, n, words', written, low, high⟩ := stored.written line mem
  obtain rfl : value = text := by simpa [words] using words'
  split
  · rename_i checked
    obtain ⟨nonempty, rfl⟩ := (decimalInteger_checked (digits checked)).1 written
    exact ⟨nonempty, high⟩
  · exact ⟨n, written, low, high⟩

theorem FieldRead.stored (lawful : field.Lawful) (read : FieldRead field lines after)
    (plain : ∀ line ∈ directives field.key lines, Plain field line) : Exact field lines after := by
  -- the directives that were overwritten are in range too
  have written : ∀ line ∈ directives field.key lines, ∀ value, line.args = [field.key, value] →
      ∃ n, decimalInteger value = some n ∧ field.low ≤ n ∧ n ≤ field.high := by
    intro line mem value words
    obtain ⟨text, words', digits⟩ := read.texts line mem
    obtain rfl : value = text := by simpa [words] using words'
    exact (plain line mem).written lawful words digits
  constructor
  · intro line mem
    obtain ⟨value, words, _⟩ := read.texts line mem
    obtain ⟨n, spelled⟩ := written line mem value words
    exact ⟨value, n, words, spelled⟩
  · intro line last
    obtain ⟨value, words, stored⟩ := read.last line last
    obtain ⟨n, spelled, low, high⟩ := written line (List.mem_of_getLast? last) value words
    have lowest := lawful.low
    have highest := lawful.high
    refine ⟨value, words, ?_⟩
    -- `atoi` reads the integer, and the field keeps it
    rw [stored, atoi_decimalInteger spelled (by omega) (by omega), lawful.convert n low high]
    exact spelled

end

/-! ## The servers of an upstream -/

/-- The weight that the words behind an address set, each of them as it was written. -/
def WeightWritten : List Bytes → Int → Int → Prop
  | [], before, weight => weight = before
  | arg :: args, _, weight => ∃ value n, weightValue arg = some value ∧
      decimalInteger value = some n ∧ -2 ^ 31 ≤ n ∧ n < 2 ^ 31 ∧ WeightWritten args n weight

/-- A server line whose port and weights are stored as they were written, for each address. -/
def ServerExact (resolveDns : Bytes → Option (List Bytes)) (line : CoLineArgs)
    (servers : List CoConfUpstreamServer) : Prop :=
  ∃ key address weights port weight, line.args = key :: address :: weights ∧
    decimalInteger (hostPort address).2 = some port ∧ -2 ^ 31 ≤ port ∧ port < 2 ^ 31 ∧
    WeightWritten weights 1 weight ∧
    servers = (resolveHost resolveDns (hostPort address).1).map fun host => { host, port, weight }

/-- Neither empty nor too large for an `int32_t`. -/
def SmallNumber (text : Bytes) : Prop := text ≠ [] ∧ decimalValue text < 2 ^ 31

def ServerPlain (line : CoLineArgs) : Prop :=
  ∀ key address weights, line.args = key :: address :: weights →
    SmallNumber (hostPort address).2 ∧
      ∀ arg ∈ weights, ∀ value, weightValue arg = some value → SmallNumber value

/-- What the code stores for a server line. -/
def ServerRead (resolveDns : Bytes → Option (List Bytes)) (line : CoLineArgs)
    (servers : List CoConfUpstreamServer) : Prop :=
  ∃ key address weights weight, line.args = key :: address :: weights ∧
    checkNumber (hostPort address).2 = true ∧ readWeights line weights 1 = .ok weight ∧
    servers = (resolveHost resolveDns (hostPort address).1).map
      fun host => { host, port := atoi (hostPort address).2, weight }

section
variable {resolveDns : Bytes → Option (List Bytes)} {line : CoLineArgs} {text : Bytes}

theorem SmallNumber.integer (digits : checkNumber text = true) (small : SmallNumber text) :
    decimalInteger text = some (atoi text) ∧ -2 ^ 31 ≤ atoi text ∧ atoi text < 2 ^ 31 := by
  obtain ⟨nonempty, small⟩ := small
  have spelled := (@decimalInteger_checked text digits _).2 ⟨nonempty, rfl⟩
  rw [atoi_decimalInteger spelled (by omega) (by omega)]
  exact ⟨spelled, by omega, by omega⟩

theorem SmallNumber.of_integer (digits : checkNumber text = true) {n : Int}
    (spelled : decimalInteger text = some n) (high : n < 2 ^ 31) : SmallNumber text := by
  obtain ⟨nonempty, rfl⟩ := (decimalInteger_checked digits).1 spelled
  exact ⟨nonempty, by omega⟩

theorem readWeights_cons {arg : Bytes} {weights : List Bytes} {before weight : Int}
    (read : readWeights line (arg :: weights) before = .ok weight) :
    ∃ value, weightValue arg = some value ∧ checkNumber value = true ∧
      readWeights line weights (atoi value) = .ok weight := by
  unfold readWeights at read
  split at read
  · cases read
  · rename_i value behind
    split at read
    · rename_i digits
      exact ⟨value, behind, digits, read⟩
    · cases read

/-- Small weights are stored as they were written. -/
theorem readWeights_written {weights : List Bytes} {before weight : Int}
    (read : readWeights line weights before = .ok weight)
    (small : ∀ arg ∈ weights, ∀ value, weightValue arg = some value → SmallNumber value) :
    WeightWritten weights before weight := by
  -- on the words behind the address; the weight so far does not matter
  induction weights generalizing before with
  | nil =>
    cases read
    rfl
  | cons arg weights ih =>
    obtain ⟨value, behind, digits, read⟩ := readWeights_cons read
    obtain ⟨spelled, low, high⟩ := (small arg List.mem_cons_self value behind).integer digits
    exact ⟨value, atoi value, behind, spelled, low, high,
      ih read fun other mem => small other (List.mem_cons_of_mem arg mem)⟩

/-- Weights that are stored as they were written are small. -/
theorem readWeights_small {weights : List Bytes} {before weight first last : Int}
    (read : readWeights line weights before = .ok weight) (written : WeightWritten weights first last) :
    ∀ arg ∈ weights, ∀ value, weightValue arg = some value → SmallNumber value := by
  induction weights generalizing before first with
  | nil => nofun
  | cons arg weights ih =>
    obtain ⟨value, behind, digits, read⟩ := readWeights_cons read
    obtain ⟨value', n, behind', spelled, _, high, written⟩ := written
    obtain rfl : value = value' := Option.some.inj (behind.symm.trans behind')
    intro other mem text found
    obtain rfl | mem := List.mem_cons.1 mem
    · obtain rfl : value = text := Option.some.inj (behind.symm.trans found)
      exact .of_integer digits spelled high
    · exact ih read written other mem text found

theorem ServerRead.plain {servers others : List CoConfUpstreamServer}
    (read : ServerRead resolveDns line servers) (stored : ServerExact resolveDns line others) :
    ServerPlain line := by
  obtain ⟨key, address, weights, weight, words, digits, weighed, _⟩ := read
  obtain ⟨_, _, _, port, last, same, spelled, _, high, written, _⟩ := stored
  obtain ⟨rfl, rfl, rfl⟩ : key = _ ∧ address = _ ∧ weights = _ := by simpa [words] using same
  intro _ _ _ again
  obtain ⟨rfl, rfl, rfl⟩ : key = _ ∧ address = _ ∧ weights = _ := by simpa [words] using again
  exact ⟨.of_integer digits spelled high, readWeights_small weighed written⟩

theorem ServerRead.stored {servers : List CoConfUpstreamServer}
    (read : ServerRead resolveDns line servers) (plain : ServerPlain line) :
    ServerExact resolveDns line servers := by
  obtain ⟨key, address, weights, weight, words, digits, weighed, rfl⟩ := read
  obtain ⟨port, small⟩ := plain key address weights words
  obtain ⟨spelled, low, high⟩ := port.integer digits
  exact ⟨key, address, weights, _, weight, words, spelled, low, high, readWeights_written weighed small, rfl⟩

/-- Only server lines add servers. -/
theorem upstreamDirective_servers {conf after : CoConfUpstream} {configKey : Bytes}
    (other : configKey ≠ ascii "server") :
    upstreamDirective resolveDns conf configKey line = .ok after →
      after.upstreamServers = conf.upstreamServers := by
  -- every other directive of the chain sets a field beside the servers
  have branch : ∀ {α : Type} {read : Except ParseError α} {set : α → CoConfUpstream} {key : Bytes}
      {rest : Except ParseError CoConfUpstream},
      (∀ value, (set value).upstreamServers = conf.upstreamServers) →
      (rest = .ok after → after.upstreamServers = conf.upstreamServers) →
      (if configKey = key then read.map set else rest) = .ok after →
        after.upstreamServers = conf.upstreamServers := by
    intro _ _ _ _ _ keeps there ran
    split at ran
    · obtain ⟨value, _, rfl⟩ := map_ok ran
      exact keeps value
    · exact there ran
  unfold upstreamDirective
  refine branch (fun _ => rfl) ?_
  rw [if_neg other]
  iterate 11 refine branch (fun _ => rfl) ?_
  intro ran
  cases ran
  rfl

/-- The servers of an upstream are those of its server lines, one line after the other. -/
theorem eachLine_servers {lines : List CoLineArgs} {after : CoConfUpstream}
    (ran : eachLine (upstreamDirective resolveDns) lines {} = some (after, none)) :
    ∃ groups, after.upstreamServers = groups.flatten ∧
      List.Forall₂ (ServerRead resolveDns) (directives (ascii "server") lines) groups := by
  refine eachLine_rule (fun lines conf => ∃ groups, conf.upstreamServers = groups.flatten ∧
    List.Forall₂ (ServerRead resolveDns) (directives (ascii "server") lines) groups) ?_
    ⟨[], rfl, .nil⟩ ran
  rintro front line conf next configKey args ⟨groups, held, read⟩ words ran
  -- a server line adds its group, the others leave the groups alone
  by_cases named : configKey = ascii "server"
  · subst named
    have added : upstreamServerDirective resolveDns conf line = .ok next := by
      unfold upstreamDirective at ran
      rwa [if_neg (by decide), if_pos rfl] at ran
    obtain ⟨key, address, weights, weight, same, digits, weighed, rfl⟩ := upstreamServerDirective_ok added
    refine ⟨groups ++ [_], by rw [List.flatten_concat, ← held], ?_⟩
    rw [directives_here words]
    exact List.rel_append read (.cons ⟨key, address, weights, weight, same, digits, weighed, rfl⟩ .nil)
  · rw [directives_other words named, upstreamDirective_servers named ran]
    exact ⟨groups, held, read⟩

end

/-! ## The blocks of a text -/

def blocksNamed (name : Bytes) (blocks : List CoBlockArgs) : List CoBlockArgs :=
  blocks.filter fun block => block.blockName = name

/-- What a server block stores. -/
def ServerBlockRead (block : CoBlockArgs) (server : CoConfServer) : Prop :=
  eachLine serverDirective (block.multiLineArgs.drop 1) {} = some (server, none)

/-- What an upstream block stores. -/
def UpstreamBlockRead (resolveDns : Bytes → Option (List Bytes)) (block : CoBlockArgs)
    (upstream : CoConfUpstream) : Prop :=
  eachLine (upstreamDirective resolveDns) block.multiLineArgs {} = some (upstream, none)

/-- The numbers of a server block are stored as they were written. -/
def ServerBlockExact (block : CoBlockArgs) (server : CoConfServer) : Prop :=
  ∀ field ∈ serverFields, Exact field (block.multiLineArgs.drop 1) server

/-- The numbers of an upstream block are stored as they were written, those of its servers too. -/
structure UpstreamBlockExact (resolveDns : Bytes → Option (List Bytes)) (block : CoBlockArgs)
    (upstream : CoConfUpstream) : Prop where
  fields : ∀ field ∈ upstreamFields, Exact field block.multiLineArgs upstream
  servers : ∃ groups, upstream.upstreamServers = groups.flatten ∧
    List.Forall₂ (ServerExact resolveDns) (directives (ascii "server") block.multiLineArgs) groups

def ServerBlockPlain (block : CoBlockArgs) : Prop :=
  ∀ field ∈ serverFields, ∀ line ∈ directives field.key (block.multiLineArgs.drop 1), Plain field line

structure UpstreamBlockPlain (block : CoBlockArgs) : Prop where
  fields : ∀ field ∈ upstreamFields, ∀ line ∈ directives field.key block.multiLineArgs, Plain field line
  servers : ∀ line ∈ directives (ascii "server") block.multiLineArgs, ServerPlain line

section
variable {α β : Type} {read law : α → β → Prop} {plain : α → Prop} {as : List α} {bs : List β}

theorem forall₂_left (related : List.Forall₂ read as bs) : ∀ a ∈ as, ∃ b, read a b := by
  have both : List.Forall₂ (fun a b => (∃ b, read a b) ∧ read a b) as bs :=
    related.imp fun a b r => ⟨⟨b, r⟩, r⟩
  exact ((List.forall₂_and_left as bs).1 both).1

/-- What is read obeys the law, when what it is read from is plain. -/
theorem forall₂_law (reads : List.Forall₂ read as bs) (each : ∀ a b, read a b → plain a → law a b)
    (all : ∀ a ∈ as, plain a) : List.Forall₂ law as bs :=
  ((List.forall₂_and_left as bs).2 ⟨all, reads⟩).imp fun a b both => each a b both.2 both.1

end

section
variable {resolveDns : Bytes → Option (List Bytes)}

theorem ServerBlockRead.plain {block : CoBlockArgs} {server other : CoConfServer}
    (read : ServerBlockRead block server) (stored : ServerBlockExact block other) :
    ServerBlockPlain block :=
  fun field mem =>
    (eachLine_fields (fun _ _ _ _ => serverDirective_sets) read field mem).plain (stored field mem)

theorem ServerBlockRead.stored {block : CoBlockArgs} {server : CoConfServer}
    (read : ServerBlockRead block server) (plain : ServerBlockPlain block) :
    ServerBlockExact block server :=
  fun field mem => (eachLine_fields (fun _ _ _ _ => serverDirective_sets) read field mem).stored
    (serverFields_lawful field mem) (plain field mem)

theorem UpstreamBlockRead.plain {block : CoBlockArgs} {upstream other : CoConfUpstream}
    (read : UpstreamBlockRead resolveDns block upstream)
    (stored : UpstreamBlockExact resolveDns block other) : UpstreamBlockPlain block := by
  obtain ⟨fields, _, _, others⟩ := stored
  obtain ⟨groups, _, servers⟩ := eachLine_servers read
  refine ⟨fun field mem => ?_, fun line mem => ?_⟩
  · exact (eachLine_fields (fun _ _ _ _ => upstreamDirective_sets) read field mem).plain (fields field mem)
  · obtain ⟨_, read⟩ := forall₂_left servers line mem
    obtain ⟨_, stored⟩ := forall₂_left others line mem
    exact read.plain stored

theorem UpstreamBlockRead.stored {block : CoBlockArgs} {upstream : CoConfUpstream}
    (read : UpstreamBlockRead resolveDns block upstream) (plain : UpstreamBlockPlain block) :
    UpstreamBlockExact resolveDns block upstream := by
  obtain ⟨groups, held, servers⟩ := eachLine_servers read
  refine ⟨fun field mem => ?_, groups, held, forall₂_law servers (fun _ _ => ServerRead.stored) plain.servers⟩
  exact (eachLine_fields (fun _ _ _ _ => upstreamDirective_sets) read field mem).stored
    (upstreamFields_lawful field mem) (plain.fields field mem)

/-- The records that an accepted text adds, in the order of its blocks. -/
structure BlocksRead (resolveDns : Bytes → Option (List Bytes)) (blocks : List CoBlockArgs)
    (before after : CoConfig) (servers : List CoConfServer) (upstreams : List CoConfUpstream) : Prop where
  addsServers : after.confServers = before.confServers ++ servers
  addsUpstreams : after.confUpstreams = before.confUpstreams ++ upstreams
  server : List.Forall₂ ServerBlockRead (blocksNamed (ascii "server") blocks) servers
  upstream : List.Forall₂ (UpstreamBlockRead resolveDns) (blocksNamed (ascii "upstream") blocks) upstreams

theorem parseConfigServer_read {block : CoBlockArgs} {before after : CoConfig}
    (parsed : parseConfigServer before block = some (after, none)) :
    ∃ server, ServerBlockRead block server ∧
      after = { before with confServers := before.confServers ++ [server] } := by
  unfold parseConfigServer at parsed
  obtain ⟨⟨server, error⟩, ran, result⟩ := Option.map_eq_some_iff.1 parsed
  cases error with
  | some error => cases result
  | none =>
    dsimp only at result
    split at result
    · cases result
    · cases result
      exact ⟨server, ran, rfl⟩

theorem parseConfigUpstream_read {block : CoBlockArgs} {before after : CoConfig}
    (parsed : parseConfigUpstream resolveDns before block = some (after, none)) :
    ∃ upstream, UpstreamBlockRead resolveDns block upstream ∧
      after = { before with confUpstreams := before.confUpstreams ++ [upstream] } := by
  unfold parseConfigUpstream at parsed
  obtain ⟨⟨upstream, error⟩, ran, result⟩ := Option.map_eq_some_iff.1 parsed
  cases error with
  | some error => cases result
  | none =>
    cases result
    exact ⟨upstream, ran, rfl⟩

/-- The block before the others. -/
theorem BlocksRead.cons {block : CoBlockArgs} {blocks : List CoBlockArgs} {before next after : CoConfig}
    {servers : List CoConfServer} {upstreams : List CoConfUpstream}
    (parsed : parseBlock resolveDns before block = some (next, none))
    (read : BlocksRead resolveDns blocks next after servers upstreams) :
    ∃ servers upstreams, BlocksRead resolveDns (block :: blocks) before after servers upstreams := by
  obtain ⟨addsServers, addsUpstreams, server, upstream⟩ := read
  have skipped : ∀ name, block.blockName ≠ name →
      blocksNamed name (block :: blocks) = blocksNamed name blocks := by
    intro name other
    simp [blocksNamed, other]
  have taken : ∀ name, block.blockName = name →
      blocksNamed name (block :: blocks) = block :: blocksNamed name blocks := by
    intro name same
    simp [blocksNamed, same]
  -- a block that is neither a server nor an upstream adds no record
  have passed : block.blockName ≠ ascii "server" → block.blockName ≠ ascii "upstream" →
      next.confServers = before.confServers → next.confUpstreams = before.confUpstreams →
      BlocksRead resolveDns (block :: blocks) before after servers upstreams := by
    intro noServer noUpstream sameServers sameUpstreams
    rw [sameServers] at addsServers
    rw [sameUpstreams] at addsUpstreams
    exact ⟨addsServers, addsUpstreams, by rwa [skipped _ noServer], by rwa [skipped _ noUpstream]⟩
  unfold parseBlock at parsed
  split at parsed
  · rename_i named
    obtain ⟨⟨conf, error⟩, _, result⟩ := Option.map_eq_some_iff.1 parsed
    cases result
    exact ⟨servers, upstreams, passed (by rw [named]; decide) (by rw [named]; decide) rfl rfl⟩
  · split at parsed
    · rename_i named
      obtain ⟨⟨confHook, error⟩, _, result⟩ := Option.map_eq_some_iff.1 parsed
      cases result
      exact ⟨servers, upstreams, passed (by rw [named]; decide) (by rw [named]; decide) rfl rfl⟩
    · split at parsed
      · rename_i named
        obtain ⟨first, read, rfl⟩ := parseConfigServer_read parsed
        refine ⟨first :: servers, upstreams, ?_, addsUpstreams, ?_, ?_⟩
        · rw [addsServers, List.append_assoc, List.singleton_append]
        · rw [taken _ named]
          exact .cons read server
        · rwa [skipped _ (by rw [named]; decide)]
      · split at parsed
        · rename_i noServer named
          obtain ⟨first, read, rfl⟩ := parseConfigUpstream_read parsed
          refine ⟨servers, first :: upstreams, addsServers, ?_, ?_, ?_⟩
          · rw [addsUpstreams, List.append_assoc, List.singleton_append]
          · rwa [skipped _ noServer]
          · rw [taken _ named]
            exact .cons read upstream
        · rename_i noServer noUpstream
          cases parsed
          exact ⟨servers, upstreams, passed noServer noUpstream rfl rfl⟩

theorem parseBlocks_read {blocks : List CoBlockArgs} {before after : CoConfig}
    (parsed : parseBlocks resolveDns blocks before = some (coOk, after)) :
    ∃ servers upstreams, BlocksRead resolveDns blocks before after servers upstreams := by
  induction blocks generalizing before with
  | nil =>
    cases parsed
    exact ⟨[], [], by simp, by simp, .nil, .nil⟩
  | cons block blocks ih =>
    unfold parseBlocks at parsed
    split at parsed
    · cases parsed
    · cases parsed
    · rename_i next first
      obtain ⟨servers, upstreams, read⟩ := ih parsed
      exact read.cons first

end

/-! ## Accepted texts -/

/-- The numbers of all blocks are stored as they were written. -/
def NumbersExact (resolveDns : Bytes → Option (List Bytes)) (blocks : List CoBlockArgs)
    (before after : CoConfig) : Prop :=
  ∃ servers upstreams, after.confServers = before.confServers ++ servers ∧
    after.confUpstreams = before.confUpstreams ++ upstreams ∧
    List.Forall₂ ServerBlockExact (blocksNamed (ascii "server") blocks) servers ∧
    List.Forall₂ (UpstreamBlockExact resolveDns) (blocksNamed (ascii "upstream") blocks) upstreams

structure NumbersPlain (blocks : List CoBlockArgs) : Prop where
  servers : ∀ block ∈ blocksNamed (ascii "server") blocks, ServerBlockPlain block
  upstreams : ∀ block ∈ blocksNamed (ascii "upstream") blocks, UpstreamBlockPlain block

/-- An accepted text has its numbers stored as they were written exactly when the values that are
    not checked are decimal integers in range, and those that are checked neither empty nor large. -/
theorem numbers_exact_iff (resolveDns : Bytes → Option (List Bytes)) (content : Bytes)
    (blocks : List CoBlockArgs) (before after : CoConfig)
    (read : readAllblock content = some (.ok blocks))
    (accepted : parseContent resolveDns before content = some (coOk, after)) :
    NumbersExact resolveDns blocks before after ↔ NumbersPlain blocks := by
  have parsed : parseBlocks resolveDns blocks before = some (coOk, after) := by
    unfold parseContent at accepted
    rwa [read] at accepted
  obtain ⟨servers, upstreams, addsServers, addsUpstreams, server, upstream⟩ := parseBlocks_read parsed
  constructor
  · rintro ⟨_, _, _, _, storedServers, storedUpstreams⟩
    refine ⟨fun block mem => ?_, fun block mem => ?_⟩
    · -- what is stored need not be what was read: that it is exact tells of the texts
      obtain ⟨_, read⟩ := forall₂_left server block mem
      obtain ⟨_, stored⟩ := forall₂_left storedServers block mem
      exact read.plain stored
    · obtain ⟨_, read⟩ := forall₂_left upstream block mem
      obtain ⟨_, stored⟩ := forall₂_left storedUpstreams block mem
      exact read.plain stored
  · rintro ⟨plainServers, plainUpstreams⟩
    exact ⟨servers, upstreams, addsServers, addsUpstreams,
      forall₂_law server (fun _ _ => ServerBlockRead.stored) plainServers,
      forall₂_law upstream (fun _ _ => UpstreamBlockRead.stored) plainUpstreams⟩

/-- An upstream with one setting. -/
def connectTimeout (value : Bytes) : Bytes :=
  ascii "upstream u \x7b\nconnect_timeout " ++ value ++ ascii ";\n\x7d\n"

theorem connectTimeout_stored :
    ∃ after, parseContent (fun _ => none) {} (connectTimeout (ascii "-70")) = some (coOk, after) ∧
      NumbersExact (fun _ => none)
        [⟨ascii "upstream", 1, [⟨[ascii "upstream", ascii "u"], 1⟩,
          ⟨[ascii "connect_timeout", ascii "-70"], 2⟩]⟩] {} after := by
  have read : readAllblock (connectTimeout (ascii "-70")) =
      some (.ok [⟨ascii "upstream", 1, [⟨[ascii "upstream", ascii "u"], 1⟩,
        ⟨[ascii "connect_timeout", ascii "-70"], 2⟩]⟩]) := by
    decide +kernel
  have accepted : parseContent (fun _ => none) {} (connectTimeout (ascii "-70")) =
      some (coOk, { confUpstreams := [{ name := ascii "u", connTimeout := -70 }] }) := by
    decide +kernel
  refine ⟨_, accepted, (numbers_exact_iff _ _ _ _ _ read accepted).2 ⟨?_, ?_⟩⟩
  · rw [show blocksNamed (ascii "server") _ = [] by decide +kernel]
    nofun
  · intro block mem
    obtain rfl := List.mem_singleton.1 (List.mem_of_mem_filter mem)
    refine ⟨?_, ?_⟩
    · simp +decide [upstreamFields, directives, Plain]
    · simp +decide [directives]

/-- A word is stored as zero. -/
theorem connectTimeout_word : ¬ ∀ (resolveDns : Bytes → Option (List Bytes)) (content : Bytes)
    (blocks : List CoBlockArgs) (before after : CoConfig), readAllblock content = some (.ok blocks) →
      parseContent resolveDns before content = some (coOk, after) →
        NumbersExact resolveDns blocks before after := by
  intro stored
  have read : readAllblock (connectTimeout (ascii "abc")) =
      some (.ok [⟨ascii "upstream", 1, [⟨[ascii "upstream", ascii "u"], 1⟩,
        ⟨[ascii "connect_timeout", ascii "abc"], 2⟩]⟩]) := by
    decide +kernel
  have accepted : parseContent (fun _ => none) {} (connectTimeout (ascii "abc")) =
      some (coOk, { confUpstreams := [{ name := ascii "u", connTimeout := 0 }] }) := by
    decide +kernel
  obtain ⟨_, _, _, _, _, upstreams⟩ := stored _ _ _ _ _ read accepted
  have block : ∃ upstream, UpstreamBlockExact (fun _ => none) ⟨ascii "upstream", 1,
      [⟨[ascii "upstream", ascii "u"], 1⟩, ⟨[ascii "connect_timeout", ascii "abc"], 2⟩]⟩ upstream :=
    forall₂_left upstreams _ (by decide +kernel)
  obtain ⟨_, fields, _⟩ := block
  have field := fields { key := ascii "connect_timeout", stored := CoConfUpstream.connTimeout, checked := false }
    (by simp [upstreamFields])
  obtain ⟨value, n, words, written, _⟩ := field.written ⟨[ascii "connect_timeout", ascii "abc"], 2⟩
    (by decide +kernel)
  cases words
  rw [show decimalInteger (ascii "abc") = none by decide +kernel] at written
  cases written

end CoServer.CoConfigParser
