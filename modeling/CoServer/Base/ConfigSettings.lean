import CoServer.Base.Config
import CoServer.Base.ConfigLayout

/-! # Settings written down

A configuration is written as blocks, each with a line for every setting that
is not at its default.  Whatever the layout, and in whatever order the lines of
a block stand, `parse_content` reads the same configuration back. -/

namespace CoServer.CoConfigParser

open Lib (ascii decimalInt decimalInt_injective)

/-! ## Settings -/

/-- A setting of a record: its directive, the value in print, and how to take it over from another
    record. -/
structure Setting (σ : Type) where
  key : Bytes
  shown : σ → Bytes
  take : σ → σ → σ

def Setting.words {σ : Type} (setting : Setting σ) (conf : σ) : List Bytes :=
  [setting.key, setting.shown conf]

def confSettings : List (Setting CoConf) :=
  [{ key := ascii "log_level", shown := fun conf => decimalInt conf.logLevel
     take := fun want conf => { conf with logLevel := want.logLevel } },
   { key := ascii "worker_threads", shown := fun conf => decimalInt conf.workerThreads
     take := fun want conf => { conf with workerThreads := want.workerThreads } }]

def hookSettings : List (Setting CoConfHook) :=
  [{ key := ascii "mutex_rety_time", shown := fun hook => decimalInt hook.mutexRetryTime
     take := fun want hook => { hook with mutexRetryTime := want.mutexRetryTime } }]

def serverSettings : List (Setting CoConfServer) :=
  [{ key := ascii "listen_ip", shown := CoConfServer.listenIP
     take := fun want server => { server with listenIP := want.listenIP } },
   { key := ascii "listen_port", shown := fun server => decimalInt server.listenPort
     take := fun want server => { server with listenPort := want.listenPort } },
   { key := ascii "max_connections", shown := fun server => decimalInt server.maxConnections
     take := fun want server => { server with maxConnections := want.maxConnections } },
   { key := ascii "keepalive_timeout", shown := fun server => decimalInt server.keepaliveTimeout
     take := fun want server => { server with keepaliveTimeout := want.keepaliveTimeout } },
   { key := ascii "read_timeout", shown := fun server => decimalInt server.readTimeout
     take := fun want server => { server with readTimeout := want.readTimeout } },
   { key := ascii "write_timeout", shown := fun server => decimalInt server.writeTimeout
     take := fun want server => { server with writeTimeout := want.writeTimeout } },
   { key := ascii "server_type", shown := fun server => decimalInt server.serverType
     take := fun want server => { server with serverType := want.serverType } },
   { key := ascii "handler_name", shown := CoConfServer.handlerName
     take := fun want server => { server with handlerName := want.handlerName } }]

def upstreamSettings : List (Setting CoConfUpstream) :=
  [{ key := ascii "upstream", shown := CoConfUpstream.name
     take := fun want upstream => { upstream with name := want.name } },
   { key := ascii "max_connections", shown := fun upstream => decimalInt upstream.maxConnections
     take := fun want upstream => { upstream with maxConnections := want.maxConnections } },
   { key := ascii "load_balance", shown := fun upstream => decimalInt upstream.loadBalance
     take := fun want upstream => { upstream with loadBalance := want.loadBalance } },
   { key := ascii "connect_timeout", shown := fun upstream => decimalInt upstream.connTimeout
     take := fun want upstream => { upstream with connTimeout := want.connTimeout } },
   { key := ascii "read_timeout", shown := fun upstream => decimalInt upstream.readTimeout
     take := fun want upstream => { upstream with readTimeout := want.readTimeout } },
   { key := ascii "write_timeout", shown := fun upstream => decimalInt upstream.writeTimeout
     take := fun want upstream => { upstream with writeTimeout := want.writeTimeout } },
   { key := ascii "keepalive_timeout", shown := fun upstream => decimalInt upstream.keepaliveTimeout
     take := fun want upstream => { upstream with keepaliveTimeout := want.keepaliveTimeout } },
   { key := ascii "connection_maxrequest"
     shown := fun upstream => decimalInt upstream.connectionMaxRequest
     take := fun want upstream => { upstream with connectionMaxRequest := want.connectionMaxRequest } },
   { key := ascii "connection_maxtime", shown := fun upstream => decimalInt upstream.connectionMaxTime
     take := fun want upstream => { upstream with connectionMaxTime := want.connectionMaxTime } },
   { key := ascii "fail_timeout", shown := fun upstream => decimalInt upstream.failTimeout
     take := fun want upstream => { upstream with failTimeout := want.failTimeout } },
   { key := ascii "fail_maxnum", shown := fun upstream => decimalInt upstream.failMaxnum
     take := fun want upstream => { upstream with failMaxnum := want.failMaxnum } },
   { key := ascii "retry_maxnum", shown := fun upstream => decimalInt upstream.retryMaxnum
     take := fun want upstream => { upstream with retryMaxnum := want.retryMaxnum } }]

/-- The settings that some line shows are those of `want`, the others are as they were. -/
def Taken {σ : Type} (settings : List (Setting σ)) (want : σ) (lines : List (List Bytes))
    (before after : σ) : Prop :=
  ∀ setting ∈ settings,
    setting.shown after = if setting.words want ∈ lines then setting.shown want else setting.shown before

section
variable {σ : Type} {settings : List (Setting σ)} {want before between after : σ}
  {front back : List (List Bytes)}

theorem Taken.none : Taken settings want [] before before := by
  simp [Taken]

theorem Taken.append (first : Taken settings want front before between)
    (second : Taken settings want back between after) : Taken settings want (front ++ back) before after := by
  intro setting mem
  rw [second setting mem, first setting mem]
  by_cases late : setting.words want ∈ back <;> simp [late]

/-- A record whose other settings are at their defaults. -/
theorem Taken.all (taken : Taken settings want front before after)
    (complete : ∀ setting ∈ settings,
      setting.words want ∈ front ∨ setting.shown want = setting.shown before) :
    ∀ setting ∈ settings, setting.shown after = setting.shown want := by
  intro setting mem
  rw [taken setting mem]
  obtain written | default := complete setting mem
  · rw [if_pos written]
  · rw [default, ite_self]

end

/-! ## Numbers in print -/

section
variable {n : Int} {key : Bytes} {lineno : Int}

theorem checkNumber_decimalInt (nonneg : 0 ≤ n) : checkNumber (decimalInt n) = true := by
  unfold checkNumber decimalInt
  rw [if_neg (Int.not_lt.2 nonneg), List.all_eq_true]
  exact fun byte mem => Lib.isDigit_decimal mem

theorem number_printed (low : -2 ^ 31 ≤ n) (high : n < 2 ^ 31) :
    number ⟨[key, decimalInt n], lineno⟩ = .ok n := by
  simp [number, argument, atoi_decimalInt low high]

theorem checkedNumber_printed (nonneg : 0 ≤ n) (high : n < 2 ^ 31) :
    checkedNumber ⟨[key, decimalInt n], lineno⟩ = .ok n := by
  simp [checkedNumber, argument, checkNumber_decimalInt nonneg, atoi_decimalInt (by omega) high]

theorem serverTypeNumber_printed (nonneg : 0 ≤ n) (below : n < protocolMax) :
    serverTypeNumber ⟨[key, decimalInt n], lineno⟩ = .ok n := by
  have high : n < 2 ^ 31 := below.trans (by decide)
  simp [serverTypeNumber, argument, checkNumber_decimalInt nonneg, atoi_decimalInt (by omega) high,
    below]

end

/-! ## Directives in print -/

/-- The directive reads the line of a setting: it takes the setting over. -/
def Reads {σ : Type} (directive : σ → Bytes → CoLineArgs → Except ParseError σ)
    (settings : List (Setting σ)) (want : σ) : Prop :=
  ∀ setting ∈ settings, ∀ conf lineno,
    directive conf setting.key ⟨setting.words want, lineno⟩ = .ok (setting.take want conf)

/-- Each setting is taken over without the others. -/
def Independent {σ : Type} (settings : List (Setting σ)) : Prop :=
  ∀ setting ∈ settings, ∀ want conf, Taken settings want [setting.words want] conf (setting.take want conf)

/-- The numbers of a block that can be read. -/
structure CoConf.Valid (conf : CoConf) : Prop where
  logLevel : -2 ^ 31 ≤ conf.logLevel ∧ conf.logLevel < 2 ^ 31
  workerThreads : -2 ^ 31 ≤ conf.workerThreads ∧ conf.workerThreads < 2 ^ 31

def CoConfHook.Valid (hook : CoConfHook) : Prop :=
  -2 ^ 31 ≤ hook.mutexRetryTime ∧ hook.mutexRetryTime < 2 ^ 31

/-- A server listens on a port, and its directives have no signs. -/
structure CoConfServer.Valid (server : CoConfServer) : Prop where
  listenPort : 0 < server.listenPort ∧ server.listenPort < 2 ^ 16
  maxConnections : 0 ≤ server.maxConnections ∧ server.maxConnections < 2 ^ 31
  keepaliveTimeout : 0 ≤ server.keepaliveTimeout ∧ server.keepaliveTimeout < 2 ^ 31
  readTimeout : 0 ≤ server.readTimeout ∧ server.readTimeout < 2 ^ 31
  writeTimeout : 0 ≤ server.writeTimeout ∧ server.writeTimeout < 2 ^ 31
  serverType : 0 ≤ server.serverType ∧ server.serverType < protocolMax

structure CoConfUpstream.Valid (upstream : CoConfUpstream) : Prop where
  maxConnections : 0 ≤ upstream.maxConnections ∧ upstream.maxConnections < 2 ^ 31
  loadBalance : -2 ^ 31 ≤ upstream.loadBalance ∧ upstream.loadBalance < 2 ^ 31
  connTimeout : -2 ^ 31 ≤ upstream.connTimeout ∧ upstream.connTimeout < 2 ^ 31
  readTimeout : -2 ^ 31 ≤ upstream.readTimeout ∧ upstream.readTimeout < 2 ^ 31
  writeTimeout : -2 ^ 31 ≤ upstream.writeTimeout ∧ upstream.writeTimeout < 2 ^ 31
  keepaliveTimeout : -2 ^ 31 ≤ upstream.keepaliveTimeout ∧ upstream.keepaliveTimeout < 2 ^ 31
  connectionMaxRequest : -2 ^ 31 ≤ upstream.connectionMaxRequest ∧ upstream.connectionMaxRequest < 2 ^ 31
  connectionMaxTime : -2 ^ 31 ≤ upstream.connectionMaxTime ∧ upstream.connectionMaxTime < 2 ^ 31
  failTimeout : -2 ^ 31 ≤ upstream.failTimeout ∧ upstream.failTimeout < 2 ^ 31
  failMaxnum : -2 ^ 31 ≤ upstream.failMaxnum ∧ upstream.failMaxnum < 2 ^ 31
  retryMaxnum : -2 ^ 31 ≤ upstream.retryMaxnum ∧ upstream.retryMaxnum < 2 ^ 31

theorem confSettings_independent : Independent confSettings := by
  simp only [Independent, confSettings, List.forall_mem_cons]
  simp +decide [Taken, Setting.words]

theorem hookSettings_independent : Independent hookSettings := by
  simp only [Independent, hookSettings, List.forall_mem_cons]
  simp [Taken, Setting.words]

theorem serverSettings_independent : Independent serverSettings := by
  simp only [Independent, serverSettings, List.forall_mem_cons]
  simp +decide [Taken, Setting.words]

theorem upstreamSettings_independent : Independent upstreamSettings := by
  simp only [Independent, upstreamSettings, List.forall_mem_cons]
  simp +decide [Taken, Setting.words]

theorem confDirective_reads {want : CoConf} (valid : want.Valid) :
    Reads confDirective confSettings want := by
  simp only [Reads, confSettings, List.forall_mem_cons, Setting.words]
  refine ⟨?_, ?_, nofun⟩ <;> intro conf lineno
  · simp [confDirective, number_printed valid.logLevel.1 valid.logLevel.2, Except.map]
  · simp +decide [confDirective, number_printed valid.workerThreads.1 valid.workerThreads.2, Except.map]

theorem hookDirective_reads {want : CoConfHook} (valid : want.Valid) :
    Reads hookDirective hookSettings want := by
  simp only [Reads, hookSettings, List.forall_mem_cons, Setting.words]
  refine ⟨?_, nofun⟩
  intro hook lineno
  simp [hookDirective, number_printed valid.1 valid.2, Except.map]

theorem serverDirective_reads {want : CoConfServer} (valid : want.Valid) :
    Reads serverDirective serverSettings want := by
  simp only [Reads, serverSettings, List.forall_mem_cons, Setting.words]
  refine ⟨?_, ?_, ?_, ?_, ?_, ?_, ?_, ?_, nofun⟩ <;> intro server lineno
  · simp [serverDirective, argument, Except.map]
  · have port := @checkedNumber_printed want.listenPort (ascii "listen_port") lineno (by omega)
      (by have := valid.listenPort.2; omega)
    have fits : uint16 want.listenPort = want.listenPort := by
      have := valid.listenPort.2
      unfold uint16
      omega
    simp +decide [serverDirective, port, fits, Except.map]
  · simp +decide [serverDirective, checkedNumber_printed valid.maxConnections.1 valid.maxConnections.2,
      Except.map]
  · simp +decide [serverDirective,
      checkedNumber_printed valid.keepaliveTimeout.1 valid.keepaliveTimeout.2, Except.map]
  · simp +decide [serverDirective, checkedNumber_printed valid.readTimeout.1 valid.readTimeout.2,
      Except.map]
  · simp +decide [serverDirective, checkedNumber_printed valid.writeTimeout.1 valid.writeTimeout.2,
      Except.map]
  · simp +decide [serverDirective, serverTypeNumber_printed valid.serverType.1 valid.serverType.2,
      Except.map]
  · simp +decide [serverDirective, argument, Except.map]

theorem upstreamDirective_reads {resolveDns : Bytes → Option (List Bytes)} {want : CoConfUpstream}
    (valid : want.Valid) : Reads (upstreamDirective resolveDns) upstreamSettings want := by
  simp only [Reads, upstreamSettings, List.forall_mem_cons, Setting.words]
  refine ⟨?_, ?_, ?_, ?_, ?_, ?_, ?_, ?_, ?_, ?_, ?_, ?_, nofun⟩ <;> intro upstream lineno
  · simp [upstreamDirective, argument, Except.map]
  · simp +decide [upstreamDirective,
      checkedNumber_printed valid.maxConnections.1 valid.maxConnections.2, Except.map]
  · simp +decide [upstreamDirective,
      number_printed valid.loadBalance.1 valid.loadBalance.2, Except.map]
  · simp +decide [upstreamDirective,
      number_printed valid.connTimeout.1 valid.connTimeout.2, Except.map]
  · simp +decide [upstreamDirective,
      number_printed valid.readTimeout.1 valid.readTimeout.2, Except.map]
  · simp +decide [upstreamDirective,
      number_printed valid.writeTimeout.1 valid.writeTimeout.2, Except.map]
  · simp +decide [upstreamDirective,
      number_printed valid.keepaliveTimeout.1 valid.keepaliveTimeout.2, Except.map]
  · simp +decide [upstreamDirective,
      number_printed valid.connectionMaxRequest.1 valid.connectionMaxRequest.2, Except.map]
  · simp +decide [upstreamDirective,
      number_printed valid.connectionMaxTime.1 valid.connectionMaxTime.2, Except.map]
  · simp +decide [upstreamDirective,
      number_printed valid.failTimeout.1 valid.failTimeout.2, Except.map]
  · simp +decide [upstreamDirective,
      number_printed valid.failMaxnum.1 valid.failMaxnum.2, Except.map]
  · simp +decide [upstreamDirective,
      number_printed valid.retryMaxnum.1 valid.retryMaxnum.2, Except.map]

/-! ## Records from what they show -/

theorem confSettings_ext {conf other : CoConf}
    (same : ∀ setting ∈ confSettings, setting.shown conf = setting.shown other) : conf = other := by
  simp only [confSettings, List.forall_mem_cons, decimalInt_injective.eq_iff] at same
  cases conf
  cases other
  simp_all

theorem hookSettings_ext {hook other : CoConfHook}
    (same : ∀ setting ∈ hookSettings, setting.shown hook = setting.shown other) : hook = other := by
  simp only [hookSettings, List.forall_mem_cons, decimalInt_injective.eq_iff] at same
  cases hook
  cases other
  simp_all

theorem serverSettings_ext {server other : CoConfServer}
    (same : ∀ setting ∈ serverSettings, setting.shown server = setting.shown other) : server = other := by
  simp only [serverSettings, List.forall_mem_cons, decimalInt_injective.eq_iff] at same
  cases server
  cases other
  simp_all

/-- The servers of an upstream are no setting. -/
theorem upstreamSettings_ext {upstream other : CoConfUpstream}
    (same : ∀ setting ∈ upstreamSettings, setting.shown upstream = setting.shown other)
    (servers : upstream.upstreamServers = other.upstreamServers) : upstream = other := by
  simp only [upstreamSettings, List.forall_mem_cons, decimalInt_injective.eq_iff] at same
  cases upstream
  cases other
  simp_all

/-! ## The servers of an upstream in print -/

/-- What a `server` line of an upstream says. -/
structure ServerLine where
  address : Bytes
  port : Int
  weight : Int

namespace ServerLine

def hostWord (line : ServerLine) : Bytes := line.address ++ ascii ":" ++ decimalInt line.port

/-- The weight is left out when it is one. -/
inductive Prints (line : ServerLine) : List Bytes → Prop
  | plain (one : line.weight = 1) : Prints line [ascii "server", line.hostWord]
  | weighted : Prints line [ascii "server", line.hostWord, ascii "weight=" ++ decimalInt line.weight]

structure Valid (line : ServerLine) : Prop where
  address : 58 ∉ line.address
  port : 0 ≤ line.port ∧ line.port < 2 ^ 31
  weight : 0 ≤ line.weight ∧ line.weight < 2 ^ 31

/-- One for each address that the host stands for. -/
def servers (resolveDns : Bytes → Option (List Bytes)) (line : ServerLine) : List CoConfUpstreamServer :=
  (resolveHost resolveDns line.address).map fun host => { host, port := line.port, weight := line.weight }

variable {line : ServerLine} {words : List Bytes} {resolveDns : Bytes → Option (List Bytes)}

theorem hostPort_hostWord (valid : line.Valid) :
    hostPort line.hostWord = (line.address, decimalInt line.port) := by
  have word : line.hostWord = line.address ++ 58 :: decimalInt line.port := by
    simp [hostWord, ascii]
  simp [hostPort, word, Lib.memchr_found valid.address]

theorem weightValue_printed (text : Bytes) : weightValue (ascii "weight=" ++ text) = some text := by
  rw [weightValue, Lib.strstr_prefix]
  rfl

/-- The line adds its servers. -/
theorem read (valid : line.Valid) (printed : line.Prints words) (upstream : CoConfUpstream) (lineno : Int) :
    upstreamDirective resolveDns upstream (ascii "server") ⟨words, lineno⟩ =
      .ok { upstream with upstreamServers := upstream.upstreamServers ++ line.servers resolveDns } := by
  have port : checkNumber (decimalInt line.port) = true := checkNumber_decimalInt valid.port.1
  have weight : checkNumber (decimalInt line.weight) = true := checkNumber_decimalInt valid.weight.1
  have portRead : atoi (decimalInt line.port) = line.port :=
    atoi_decimalInt (by have := valid.port.1; omega) valid.port.2
  have weightRead : atoi (decimalInt line.weight) = line.weight :=
    atoi_decimalInt (by have := valid.weight.1; omega) valid.weight.2
  have word : ascii "server" ≠ ascii "upstream" := by decide
  cases printed with
  | plain one =>
    simp [upstreamDirective, word, upstreamServerDirective, hostPort_hostWord valid, port, readWeights,
      portRead, servers, one]
  | weighted =>
    simp [upstreamDirective, word, upstreamServerDirective, hostPort_hostWord valid, port, readWeights,
      weightValue_printed, weight, portRead, weightRead, servers]

end ServerLine

/-! ## The lines of a block -/

/-- Lines in any order, each of which shows a setting of `want` or adds entries. -/
inductive Lines {σ ε : Type} (settings : List (Setting σ)) (adds : List ε → List Bytes → Prop)
    (want : σ) : List (List Bytes) → List ε → Prop
  | nil : Lines settings adds want [] []
  | setting {setting : Setting σ} {lines : List (List Bytes)} {entries : List ε} (mem : setting ∈ settings)
      (rest : Lines settings adds want lines entries) :
      Lines settings adds want (setting.words want :: lines) entries
  | entries {words : List Bytes} {lines : List (List Bytes)} {added entries : List ε}
      (printed : adds added words) (rest : Lines settings adds want lines entries) :
      Lines settings adds want (words :: lines) (added ++ entries)

/-- The directive reads the line of some entries: it adds them to the record's. -/
def Adds {σ ε : Type} (directive : σ → Bytes → CoLineArgs → Except ParseError σ)
    (settings : List (Setting σ)) (adds : List ε → List Bytes → Prop) (entriesOf : σ → List ε) : Prop :=
  ∀ added words conf lineno, adds added words → ∃ key args after, words = key :: args ∧
    directive conf key ⟨words, lineno⟩ = .ok after ∧
    (∀ setting ∈ settings, key ≠ setting.key ∧ setting.shown after = setting.shown conf) ∧
    entriesOf after = entriesOf conf ++ added

section
variable {σ ε : Type} {directive : σ → Bytes → CoLineArgs → Except ParseError σ}
  {settings : List (Setting σ)} {adds : List ε → List Bytes → Prop} {entriesOf : σ → List ε} {want conf : σ}

theorem eachLine_printed (reads : Reads directive settings want) (independent : Independent settings)
    (kept : ∀ setting ∈ settings, ∀ conf, entriesOf (setting.take want conf) = entriesOf conf)
    (added : Adds directive settings adds entriesOf) {lines : List CoLineArgs} {entries : List ε}
    (printed : Lines settings adds want (lines.map CoLineArgs.args) entries) :
    ∃ after, eachLine directive lines conf = some (after, none) ∧
      Taken settings want (lines.map CoLineArgs.args) conf after ∧
      entriesOf after = entriesOf conf ++ entries := by
  induction lines generalizing conf entries with
  | nil =>
    cases printed
    exact ⟨conf, rfl, .none, by simp⟩
  | cons line lines ih =>
    obtain ⟨words, lineno⟩ := line
    -- the record that the first line leaves is the one the others start from
    rw [List.map_cons] at printed ⊢
    cases printed with
    | @setting setting _ _ mem rest =>
      obtain ⟨after, ran, taken, stored⟩ := @ih (setting.take want conf) _ rest
      refine ⟨after, ?_, (independent setting mem want conf).append taken, ?_⟩
      · have read := reads setting mem conf lineno
        simp only [Setting.words] at read
        simp only [eachLine, read]
        exact ran
      · rw [stored, kept setting mem]
    | @entries _ _ first others printed rest =>
      obtain ⟨key, args, next, rfl, read, others, storedFirst⟩ := added first words conf lineno printed
      obtain ⟨after, ran, taken, stored⟩ := @ih next _ rest
      refine ⟨after, ?_, ?_, ?_⟩
      · simp only [eachLine, read]
        exact ran
      · -- such a line shows no setting, since its name is that of none
        have same : Taken settings want [key :: args] conf next := by
          intro setting mem
          obtain ⟨differs, kept⟩ := others setting mem
          rw [kept, if_neg]
          simp [Setting.words, Ne.symm differs]
        exact same.append taken
      · rw [stored, storedFirst, List.append_assoc]

end

/-! ## Blocks in print -/

/-- Lines in any order, each of which shows a setting; what none shows is at its default. -/
structure Writes {σ : Type} (settings : List (Setting σ)) (default want : σ) (lines : List (List Bytes)) :
    Prop where
  shown : ∀ words ∈ lines, ∃ setting ∈ settings, words = setting.words want
  complete : ∀ setting ∈ settings,
    setting.words want ∈ lines ∨ setting.shown want = setting.shown default

/-- What a line adds to the servers of an upstream. -/
def addsServers (resolveDns : Bytes → Option (List Bytes)) (added : List CoConfUpstreamServer)
    (words : List Bytes) : Prop :=
  ∃ line : ServerLine, line.Valid ∧ line.Prints words ∧ added = line.servers resolveDns

structure WritesUpstream (resolveDns : Bytes → Option (List Bytes)) (want : CoConfUpstream)
    (lines : List (List Bytes)) : Prop where
  shown : Lines upstreamSettings (addsServers resolveDns) want lines want.upstreamServers
  complete : ∀ setting ∈ upstreamSettings,
    setting.words want ∈ lines ∨ setting.shown want = setting.shown {}

def blockWords (block : ConfigBlock) : List (List Bytes) := block.directives.map ConfigLine.words

def blockName (block : ConfigBlock) : Bytes := block.header.words.headD []

/-- The blocks with a name. -/
def named (name : Bytes) (blocks : List ConfigBlock) : List ConfigBlock :=
  blocks.filter fun block => blockName block = name

/-- Blocks that write a configuration down: one for each server and each upstream, in their order,
    and any others. -/
structure WritesConfig (resolveDns : Bytes → Option (List Bytes)) (want : CoConfig)
    (blocks : List ConfigBlock) : Prop where
  conf : Writes confSettings {} want.conf ((named (ascii "conf") blocks).flatMap blockWords)
  confHook : Writes hookSettings {} want.confHook ((named (ascii "hook") blocks).flatMap blockWords)
  confServers : List.Forall₂ (fun server block => Writes serverSettings {} server (blockWords block))
    want.confServers (named (ascii "server") blocks)
  confUpstreams : List.Forall₂
    (fun upstream block => WritesUpstream resolveDns upstream (block.header.words :: blockWords block))
    want.confUpstreams (named (ascii "upstream") blocks)

structure CoConfig.Valid (config : CoConfig) : Prop where
  conf : config.conf.Valid
  confHook : config.confHook.Valid
  confServers : ∀ server ∈ config.confServers, server.Valid
  confUpstreams : ∀ upstream ∈ config.confUpstreams, upstream.Valid

/-- No line but those of settings. -/
def noEntries (_ : List Unit) (_ : List Bytes) : Prop := False

section
variable {σ : Type} {directive : σ → Bytes → CoLineArgs → Except ParseError σ}
  {settings : List (Setting σ)} {want conf : σ}

theorem lines_of_shown {lines : List (List Bytes)}
    (shown : ∀ words ∈ lines, ∃ setting ∈ settings, words = setting.words want) :
    Lines settings noEntries want lines [] := by
  induction lines with
  | nil => exact .nil
  | cons words lines ih =>
    obtain ⟨setting, mem, rfl⟩ := shown words List.mem_cons_self
    exact .setting mem (ih fun other inRest => shown other (List.mem_cons_of_mem _ inRest))

theorem asRead_args (block : ConfigBlock) (number : Nat → Int) :
    ((block.asRead number).multiLineArgs.drop 1).map CoLineArgs.args = blockWords block := by
  simp [ConfigBlock.asRead, blockWords, ConfigLine.asRead, Function.comp_def]

/-- The lines behind the header of a block. -/
theorem eachLine_block (reads : Reads directive settings want) (independent : Independent settings)
    {block : ConfigBlock} {number : Nat → Int}
    (shown : ∀ words ∈ blockWords block, ∃ setting ∈ settings, words = setting.words want) :
    ∃ after, eachLine directive ((block.asRead number).multiLineArgs.drop 1) conf = some (after, none) ∧
      Taken settings want (blockWords block) conf after := by
  have printed := lines_of_shown shown
  rw [← asRead_args block number] at printed ⊢
  obtain ⟨after, ran, taken, -⟩ := @eachLine_printed _ Unit _ _ _ (fun _ => []) want conf reads
    independent (fun _ _ _ => rfl) (fun _ _ _ _ printed => printed.elim) _ _ printed
  exact ⟨after, ran, taken⟩

end

section
variable {block : ConfigBlock} {number : Nat → Int} {config : CoConfig}
  {resolveDns : Bytes → Option (List Bytes)}

theorem parseConfigServer_printed {want : CoConfServer} (valid : want.Valid)
    (written : Writes serverSettings {} want (blockWords block)) :
    parseConfigServer config (block.asRead number) =
      some ({ config with confServers := config.confServers ++ [want] }, none) := by
  obtain ⟨after, ran, taken⟩ := @eachLine_block _ _ _ want {} (serverDirective_reads valid)
    serverSettings_independent block number written.shown
  cases serverSettings_ext (taken.all written.complete)
  have port : want.listenPort ≠ 0 := Nat.ne_of_gt valid.listenPort.1
  rw [parseConfigServer, ran]
  simp [port]

theorem upstreamDirective_adds : Adds (upstreamDirective resolveDns) upstreamSettings
    (addsServers resolveDns) CoConfUpstream.upstreamServers := by
  rintro added words upstream lineno ⟨line, valid, printed, rfl⟩
  have read := @ServerLine.read line words resolveDns valid printed upstream lineno
  have key : ∃ args, words = ascii "server" :: args := by
    cases printed <;> exact ⟨_, rfl⟩
  obtain ⟨args, rfl⟩ := key
  refine ⟨_, args, _, rfl, read, ?_, rfl⟩
  simp only [upstreamSettings, List.forall_mem_cons]
  simp +decide

theorem parseConfigUpstream_printed {want : CoConfUpstream} (valid : want.Valid)
    (written : WritesUpstream resolveDns want (block.header.words :: blockWords block)) :
    parseConfigUpstream resolveDns config (block.asRead number) =
      some ({ config with confUpstreams := config.confUpstreams ++ [want] }, none) := by
  have args : (block.asRead number).multiLineArgs.map CoLineArgs.args =
      block.header.words :: blockWords block := by
    rw [← asRead_args block number]
    simp [ConfigBlock.asRead, ConfigLine.asRead]
  have shown := written.shown
  rw [← args] at shown
  have kept : ∀ setting ∈ upstreamSettings, ∀ upstream,
      (setting.take want upstream).upstreamServers = upstream.upstreamServers := by
    simp [upstreamSettings]
  obtain ⟨after, ran, taken, servers⟩ := @eachLine_printed _ _ _ _ _ _ want {}
    (upstreamDirective_reads valid) upstreamSettings_independent kept upstreamDirective_adds _ _ shown
  rw [args] at taken
  cases upstreamSettings_ext (taken.all written.complete) (by simpa using servers)
  rw [parseConfigUpstream, ran]
  rfl

end

/-! ## The configuration -/

/-- Blocks that show settings of `want`, and write the servers and the upstreams down. -/
structure Printed (resolveDns : Bytes → Option (List Bytes)) (want : CoConfig) (blocks : List ConfigBlock)
    (confServers : List CoConfServer) (confUpstreams : List CoConfUpstream) : Prop where
  conf : ∀ words ∈ (named (ascii "conf") blocks).flatMap blockWords,
    ∃ setting ∈ confSettings, words = setting.words want.conf
  confHook : ∀ words ∈ (named (ascii "hook") blocks).flatMap blockWords,
    ∃ setting ∈ hookSettings, words = setting.words want.confHook
  servers : List.Forall₂
    (fun server block => server.Valid ∧ Writes serverSettings {} server (blockWords block))
    confServers (named (ascii "server") blocks)
  upstreams : List.Forall₂
    (fun upstream block => upstream.Valid ∧
      WritesUpstream resolveDns upstream (block.header.words :: blockWords block))
    confUpstreams (named (ascii "upstream") blocks)

/-- What blocks made of a configuration: the settings they show are those of `want`, and their
    servers and upstreams are added. -/
structure Parsed (want : CoConfig) (blocks : List ConfigBlock) (confServers : List CoConfServer)
    (confUpstreams : List CoConfUpstream) (before after : CoConfig) : Prop where
  conf : Taken confSettings want.conf ((named (ascii "conf") blocks).flatMap blockWords)
    before.conf after.conf
  confHook : Taken hookSettings want.confHook ((named (ascii "hook") blocks).flatMap blockWords)
    before.confHook after.confHook
  servers : after.confServers = before.confServers ++ confServers
  upstreams : after.confUpstreams = before.confUpstreams ++ confUpstreams

section
variable {want : CoConfig} {resolveDns : Bytes → Option (List Bytes)} {number : Nat → Int}
  {front back blocks : List ConfigBlock} {confServers : List CoConfServer}
  {confUpstreams : List CoConfUpstream} {before between after : CoConfig}

@[simp] theorem named_append (name : Bytes) :
    named name (front ++ back) = named name front ++ named name back := by
  simp [named]

/-- The servers and upstreams of the first blocks come first. -/
theorem Printed.split (printed : Printed resolveDns want (front ++ back) confServers confUpstreams) :
    ∃ firstServers firstUpstreams lastServers lastUpstreams,
      confServers = firstServers ++ lastServers ∧ confUpstreams = firstUpstreams ++ lastUpstreams ∧
      Printed resolveDns want front firstServers firstUpstreams ∧
      Printed resolveDns want back lastServers lastUpstreams := by
  obtain ⟨conf, confHook, servers, upstreams⟩ := printed
  simp only [named_append, List.flatMap_append, List.forall_mem_append] at conf confHook servers upstreams
  exact ⟨_, _, _, _, (List.take_append_drop _ _).symm, (List.take_append_drop _ _).symm,
    ⟨conf.1, confHook.1, List.forall₂_take_append _ _ _ servers, List.forall₂_take_append _ _ _ upstreams⟩,
    ⟨conf.2, confHook.2, List.forall₂_drop_append _ _ _ servers, List.forall₂_drop_append _ _ _ upstreams⟩⟩

theorem Parsed.append {lastServers : List CoConfServer} {lastUpstreams : List CoConfUpstream}
    (first : Parsed want front confServers confUpstreams before between)
    (last : Parsed want back lastServers lastUpstreams between after) :
    Parsed want (front ++ back) (confServers ++ lastServers) (confUpstreams ++ lastUpstreams) before after where
  conf := by
    rw [named_append, List.flatMap_append]
    exact first.conf.append last.conf
  confHook := by
    rw [named_append, List.flatMap_append]
    exact first.confHook.append last.confHook
  servers := by rw [last.servers, first.servers, List.append_assoc]
  upstreams := by rw [last.upstreams, first.upstreams, List.append_assoc]

theorem named_singleton {key : Bytes} {block : ConfigBlock} (isNamed : blockName block = key)
    (name : Bytes) : named name [block] = if key = name then [block] else [] := by
  rw [← isNamed]
  by_cases same : blockName block = name <;> simp [named, same]

/-- A block is read by its name. -/
theorem parseBlock_printed (conf : want.conf.Valid) (confHook : want.confHook.Valid) {block : ConfigBlock}
    (printed : Printed resolveDns want [block] confServers confUpstreams) :
    ∃ after, parseBlock resolveDns before (block.asRead number) = some (after, none) ∧
      Parsed want [block] confServers confUpstreams before after := by
  have name : (block.asRead number).blockName = blockName block := rfl
  obtain ⟨confShown, hookShown, servers, upstreams⟩ := printed
  -- the cases are the branches of `parse_content`, in its order
  by_cases isConf : blockName block = ascii "conf"
  · simp +decide only [named_singleton isConf, if_true, if_false] at confShown servers upstreams
    cases servers
    cases upstreams
    obtain ⟨after, ran, taken⟩ := @eachLine_block _ _ _ _ before.conf (confDirective_reads conf)
      confSettings_independent block number (by simpa using confShown)
    refine ⟨{ before with conf := after }, ?_, ?_⟩
    · rw [parseBlock, name, if_pos isConf, parseConfigConf, ran]
      rfl
    · constructor <;> simp +decide [named_singleton isConf, taken, Taken.none]
  by_cases isHook : blockName block = ascii "hook"
  · simp +decide only [named_singleton isHook, if_true, if_false] at hookShown servers upstreams
    cases servers
    cases upstreams
    obtain ⟨after, ran, taken⟩ := @eachLine_block _ _ _ _ before.confHook (hookDirective_reads confHook)
      hookSettings_independent block number (by simpa using hookShown)
    refine ⟨{ before with confHook := after }, ?_, ?_⟩
    · rw [parseBlock, name, if_neg isConf, if_pos isHook, parseConfigHook, ran]
      rfl
    · constructor <;> simp +decide [named_singleton isHook, taken, Taken.none]
  by_cases isServer : blockName block = ascii "server"
  · simp +decide only [named_singleton isServer, if_true, if_false] at servers upstreams
    obtain _ | @⟨server, _, _, _, ⟨valid, written⟩, none⟩ := servers
    cases none
    cases upstreams
    refine ⟨{ before with confServers := before.confServers ++ [server] }, ?_, ?_⟩
    · rw [parseBlock, name, if_neg isConf, if_neg isHook, if_pos isServer,
        parseConfigServer_printed valid written]
    · constructor <;> simp +decide [named_singleton isServer, Taken.none]
  by_cases isUpstream : blockName block = ascii "upstream"
  · simp +decide only [named_singleton isUpstream, if_true, if_false] at servers upstreams
    obtain _ | @⟨upstream, _, _, _, ⟨valid, written⟩, none⟩ := upstreams
    cases none
    cases servers
    refine ⟨{ before with confUpstreams := before.confUpstreams ++ [upstream] }, ?_, ?_⟩
    · rw [parseBlock, name, if_neg isConf, if_neg isHook, if_neg isServer, if_pos isUpstream,
        parseConfigUpstream_printed valid written]
    · constructor <;> simp +decide [named_singleton isUpstream, Taken.none]
  -- a block with another name
  simp only [named_singleton rfl, isServer, isUpstream, if_false] at servers upstreams
  cases servers
  cases upstreams
  refine ⟨before, ?_, ?_⟩
  · rw [parseBlock, name, if_neg isConf, if_neg isHook, if_neg isServer, if_neg isUpstream]
  · constructor <;> simp [named_singleton rfl, isConf, isHook, Taken.none]

/-- Blocks are read one after the other. -/
theorem parseBlocks_printed (conf : want.conf.Valid) (confHook : want.confHook.Valid)
    (printed : Printed resolveDns want blocks confServers confUpstreams) :
    ∃ after, parseBlocks resolveDns (blocks.map (ConfigBlock.asRead number)) before = some (coOk, after) ∧
      Parsed want blocks confServers confUpstreams before after := by
  induction blocks generalizing before confServers confUpstreams with
  | nil =>
    obtain ⟨-, -, servers, upstreams⟩ := printed
    cases servers
    cases upstreams
    exact ⟨before, rfl, .none, .none, by simp, by simp⟩
  | cons block blocks ih =>
    rw [← List.singleton_append] at printed
    obtain ⟨_, _, _, _, rfl, rfl, first, rest⟩ := printed.split
    obtain ⟨next, read, parsed⟩ := @parseBlock_printed _ _ number _ _ before conf confHook _ first
    obtain ⟨after, ran, others⟩ := @ih _ _ next rest
    refine ⟨after, ?_, parsed.append others⟩
    rw [List.map_cons, parseBlocks, read]
    exact ran

/-- Whatever the layout and the order of the lines, the configuration that a text writes down is the
    one that is read from it. -/
theorem settings_round_trip {content : Bytes} (valid : want.Valid)
    (written : WritesConfig resolveDns want blocks) (printed : PrintsBlocks 0 (getlines content) blocks) :
    parseContent resolveDns {} content = some (coOk, want) := by
  have shown : Printed resolveDns want blocks want.confServers want.confUpstreams :=
    { conf := written.conf.shown
      confHook := written.confHook.shown
      servers := (List.forall₂_and_left _ _).2 ⟨valid.confServers, written.confServers⟩
      upstreams := (List.forall₂_and_left _ _).2 ⟨valid.confUpstreams, written.confUpstreams⟩ }
  obtain ⟨after, ran, conf, confHook, servers, upstreams⟩ := @parseBlocks_printed want resolveDns
    lineNumber blocks _ _ {} valid.conf valid.confHook shown
  -- what no line shows was at its default in the empty configuration
  have readConf := confSettings_ext (conf.all written.conf.complete)
  have readHook := hookSettings_ext (confHook.all written.confHook.complete)
  have whole : after = want := by
    cases after
    cases want
    simp_all
  rw [parseContent, readAllblock_printed printed, ← whole]
  exact ran

end

/-- The characters of a word, as a check. -/
def isWordText (word : Bytes) : Bool :=
  !word.isEmpty && word.all fun ch => !(List.contains [ConfigChar.chSpace, ConfigChar.chTab,
    ConfigChar.chNewline, ConfigChar.chSharp, ConfigChar.chSemicolon, ConfigChar.chOpen,
    ConfigChar.chClose] ch)

theorem isWord_of {word : Bytes} (checked : isWordText word = true) : IsWord word := by
  simp only [isWordText, Bool.and_eq_true, Bool.not_eq_true', List.all_eq_true] at checked
  refine ⟨by simpa using checked.1, fun ch mem special => ?_⟩
  have plain := checked.2 ch mem
  rw [List.contains_iff_mem.2 special] at plain
  cases plain

/-- A server on a port, and an upstream with a server and a comment behind it. -/
def webText : Bytes :=
  ascii "server \x7b\nlisten_port 80;\n\x7d\n\nupstream web \x7b\n\tserver 10.0.0.2:80 weight=2 ; # one\n\x7d\n"

def webConfig : CoConfig where
  confServers := [{ listenPort := 80 }]
  confUpstreams := [{ name := ascii "web"
                      upstreamServers := [{ host := ascii "10.0.0.2", port := 80, weight := 2 }] }]

def webBlocks : List ConfigBlock :=
  [⟨⟨[ascii "server"], 1⟩, [⟨[ascii "listen_port", ascii "80"], 2⟩]⟩,
   ⟨⟨[ascii "upstream", ascii "web"], 5⟩, [⟨[ascii "server", ascii "10.0.0.2:80", ascii "weight=2"], 6⟩]⟩]

theorem webText_printed : PrintsBlocks 0 (getlines webText) webBlocks := by
  have lines : getlines webText = [ascii "server \x7b", ascii "listen_port 80;", ascii "\x7d", [],
      ascii "upstream web \x7b", ascii "\tserver 10.0.0.2:80 weight=2 ; # one", ascii "\x7d"] := by
    decide
  have gap : IsGap (ascii " ") := by simp [IsGap, ascii, ConfigChar.chSpace]
  have bare : IsGap [] := by simp [IsGap]
  have close : PrintsClose (ascii "\x7d") := .row bare bare .none
  have header : PrintsRow ConfigChar.chOpen [ascii "server"] (ascii "server \x7b") :=
    @PrintsRow.row _ _ [] (ascii "server ") [] [] bare (.last (isWord_of (by decide)) gap) bare .none
  have port : PrintsRow ConfigChar.chSemicolon [ascii "listen_port", ascii "80"] (ascii "listen_port 80;") :=
    @PrintsRow.row _ _ [] (ascii "listen_port 80") [] [] bare
      (@PrintsWords.cons (ascii "listen_port") (ascii " ") (ascii "80") _ (isWord_of (by decide)) gap
        (by decide) (@PrintsWords.last (ascii "80") [] (isWord_of (by decide)) bare)) bare .none
  have upstream : PrintsRow ConfigChar.chOpen [ascii "upstream", ascii "web"] (ascii "upstream web \x7b") :=
    @PrintsRow.row _ _ [] (ascii "upstream web ") [] [] bare
      (@PrintsWords.cons (ascii "upstream") (ascii " ") (ascii "web ") _ (isWord_of (by decide)) gap
        (by decide) (@PrintsWords.last (ascii "web") (ascii " ") (isWord_of (by decide)) gap)) bare .none
  have server : PrintsRow ConfigChar.chSemicolon [ascii "server", ascii "10.0.0.2:80", ascii "weight=2"]
      (ascii "\tserver 10.0.0.2:80 weight=2 ; # one") :=
    @PrintsRow.row _ _ (ascii "\t") (ascii "server 10.0.0.2:80 weight=2 ") (ascii " ") (ascii "# one")
      (by simp [IsGap, ascii, ConfigChar.chTab])
      (@PrintsWords.cons (ascii "server") (ascii " ") (ascii "10.0.0.2:80 weight=2 ") _
        (isWord_of (by decide)) gap (by decide)
        (@PrintsWords.cons (ascii "10.0.0.2:80") (ascii " ") (ascii "weight=2 ") _ (isWord_of (by decide))
          gap (by decide) (@PrintsWords.last (ascii "weight=2") (ascii " ") (isWord_of (by decide)) gap)))
      gap (.text (ascii " one"))
  have filler : PrintsFiller [] := @PrintsFiller.row [] [] bare .none
  rw [lines]
  exact @PrintsBlocks.block 0 _ _ [_, _] _ _ _ header (.directive port (.close close))
    (.filler filler (@PrintsBlocks.block 4 _ _ [_, _] [] _ _ upstream (.directive server (.close close)) .done))

theorem webConfig_valid : webConfig.Valid where
  conf := by constructor <;> decide
  confHook := by constructor <;> decide
  confServers := by
    simp only [webConfig, List.forall_mem_singleton]
    constructor <;> decide
  confUpstreams := by
    simp only [webConfig, List.forall_mem_singleton]
    constructor <;> decide

theorem webConfig_written : WritesConfig (fun _ => none) webConfig webBlocks where
  conf := ⟨by simp +decide, by simp [webConfig]⟩
  confHook := ⟨by simp +decide, by simp [webConfig]⟩
  confServers := by
    refine .cons ⟨?_, ?_⟩ .nil
    · simp +decide
    · simp +decide
  confUpstreams := by
    have line : ServerLine.Valid ⟨ascii "10.0.0.2", 80, 2⟩ := by
      constructor <;> decide
    have server : addsServers (fun _ => none) [{ host := ascii "10.0.0.2", port := 80, weight := 2 }]
        [ascii "server", ascii "10.0.0.2:80", ascii "weight=2"] :=
      ⟨⟨ascii "10.0.0.2", 80, 2⟩, line, .weighted, by decide⟩
    refine .cons ⟨?_, ?_⟩ .nil
    · exact .setting List.mem_cons_self (.entries server .nil)
    · simp +decide

/-- Two blocks. -/
theorem settings_round_trip_web : parseContent (fun _ => none) {} webText = some (coOk, webConfig) :=
  settings_round_trip webConfig_valid webConfig_written webText_printed

end CoServer.CoConfigParser
