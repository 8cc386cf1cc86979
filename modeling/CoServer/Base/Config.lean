import CoServer.Base.ConfigTokens

/-! # `CoConfigParser::parse_content`: the settings

The blocks that the tokenizer returns are interpreted directive by directive.
A function returns `none` where the source would read outside of a vector; an
error carries what is logged.  `resolveDns` is the answer of `resolve_dns`.

The records hold every setting.  What the server keeps of them for a run is in
records of the same names, outside of this namespace. -/

namespace CoServer.CoConfigParser

open Lib (ascii memchr strstr isDigit decimalInt)

/-! ## The settings -/

def protocolMax : Int := 5

structure CoConf where
  logLevel : Int := 1
  workerThreads : Int := 4
deriving DecidableEq

structure CoConfHook where
  mutexRetryTime : Int := 100
deriving DecidableEq

structure CoConfServer where
  listenIP : Bytes := []
  /-- a `uint16_t` -/
  listenPort : Nat := 15678
  serverType : Int := 1
  handlerName : Bytes := ascii "handler"
  readTimeout : Int := 1000
  writeTimeout : Int := 1000
  keepaliveTimeout : Int := 60000
  maxConnections : Int := 65536
deriving DecidableEq

structure CoConfUpstreamServer where
  host : Bytes
  port : Int
  weight : Int
  serverkey : Bytes := host ++ ascii ":" ++ decimalInt port
deriving DecidableEq

structure CoConfUpstream where
  name : Bytes := []
  upstreamServers : List CoConfUpstreamServer := []
  loadBalance : Int := 1
  connTimeout : Int := 1000
  readTimeout : Int := 1000
  writeTimeout : Int := 1000
  keepaliveTimeout : Int := 60000
  failTimeout : Int := 5000
  failMaxnum : Int := 10
  maxConnections : Int := 65535
  connectionMaxRequest : Int := 10240
  connectionMaxTime : Int := 60000
  retryMaxnum : Int := 3
deriving DecidableEq

structure CoConfig where
  conf : CoConf := {}
  confHook : CoConfHook := {}
  confServers : List CoConfServer := []
  confUpstreams : List CoConfUpstream := []
deriving DecidableEq

/-- Why a directive or a block is refused. -/
inductive ParseError where
  /-- "parameter number error: %d" -/
  | parameterNumber (lineno : Int)
  /-- "'%s' unexpected: %d" -/
  | unexpected (value : Bytes) (lineno : Int)
  /-- "server_type '%s' too large, unexpected: %d" -/
  | serverTypeTooLarge (value : Bytes) (lineno : Int)
  /-- "'listenPort' expected at server block: %d" -/
  | listenPortExpected (lineno : Int)
deriving DecidableEq

/-! ## Directives with one argument -/

def checkNumber (str : Bytes) : Bool := str.all isDigit

/-- Conversion to `uint16_t`. -/
def uint16 (n : Int) : Nat := (n % 2 ^ 16).toNat

/-- `m_args[1]`, when there are two. -/
def argument (lineArgs : CoLineArgs) : Except ParseError Bytes :=
  match lineArgs.args with
  | [_, value] => .ok value
  | _ => .error (.parameterNumber lineArgs.lineno)

/-- The argument as a number, whatever it is. -/
def number (lineArgs : CoLineArgs) : Except ParseError Int :=
  match argument lineArgs with
  | .error error => .error error
  | .ok value => .ok (atoi value)

/-- The argument as a number, if it has no other characters than digits. -/
def checkedNumber (lineArgs : CoLineArgs) : Except ParseError Int :=
  match argument lineArgs with
  | .error error => .error error
  | .ok value =>
    if checkNumber value then .ok (atoi value) else .error (.unexpected value lineArgs.lineno)

/-- A number below `PROTOCOL_MAX`. -/
def serverTypeNumber (lineArgs : CoLineArgs) : Except ParseError Int :=
  match argument lineArgs with
  | .error error => .error error
  | .ok value =>
    if checkNumber value then
      if atoi value ≥ protocolMax then .error (.serverTypeTooLarge value lineArgs.lineno)
      else .ok (atoi value)
    else .error (.unexpected value lineArgs.lineno)

/-- A loop over the lines of a block; what was set before an error stays set. -/
def eachLine {σ : Type} (directive : σ → Bytes → CoLineArgs → Except ParseError σ) :
    List CoLineArgs → σ → Option (σ × Option ParseError)
  | [], conf => some (conf, none)
  | lineArgs :: rest, conf =>
    match lineArgs.args with
    | [] => none
    | configKey :: _ =>
      match directive conf configKey lineArgs with
      | .error error => some (conf, some error)
      | .ok conf => eachLine directive rest conf

/-! ## Blocks -/

def confDirective (conf : CoConf) (configKey : Bytes) (lineArgs : CoLineArgs) :
    Except ParseError CoConf :=
  if configKey = ascii "log_level" then
    (number lineArgs).map fun n => { conf with logLevel := n }
  else if configKey = ascii "worker_threads" then
    (number lineArgs).map fun n => { conf with workerThreads := n }
  else .ok conf

def parseConfigConf (config : CoConfig) (blockArgs : CoBlockArgs) : Option (CoConfig × Option ParseError) :=
  (eachLine confDirective (blockArgs.multiLineArgs.drop 1) config.conf).map
    fun (conf, error) => ({ config with conf }, error)

def hookDirective (confHook : CoConfHook) (configKey : Bytes) (lineArgs : CoLineArgs) :
    Except ParseError CoConfHook :=
  if configKey = ascii "mutex_rety_time" then
    (number lineArgs).map fun n => { confHook with mutexRetryTime := n }
  else .ok confHook

def parseConfigHook (config : CoConfig) (blockArgs : CoBlockArgs) : Option (CoConfig × Option ParseError) :=
  (eachLine hookDirective (blockArgs.multiLineArgs.drop 1) config.confHook).map
    fun (confHook, error) => ({ config with confHook }, error)

def serverDirective (configServer : CoConfServer) (configKey : Bytes) (lineArgs : CoLineArgs) :
    Except ParseError CoConfServer :=
  if configKey = ascii "listen_ip" then
    (argument lineArgs).map fun value => { configServer with listenIP := value }
  else if configKey = ascii "listen_port" then
    (checkedNumber lineArgs).map fun n => { configServer with listenPort := uint16 n }
  else if configKey = ascii "max_connections" then
    (checkedNumber lineArgs).map fun n => { configServer with maxConnections := n }
  else if configKey = ascii "keepalive_timeout" then
    (checkedNumber lineArgs).map fun n => { configServer with keepaliveTimeout := n }
  else if configKey = ascii "read_timeout" then
    (checkedNumber lineArgs).map fun n => { configServer with readTimeout := n }
  else if configKey = ascii "write_timeout" then
    (checkedNumber lineArgs).map fun n => { configServer with writeTimeout := n }
  else if configKey = ascii "server_type" then
    (serverTypeNumber lineArgs).map fun n => { configServer with serverType := n }
  else if configKey = ascii "handler_name" then
    (argument lineArgs).map fun value => { configServer with handlerName := value }
  else .ok configServer

/-- The record of a block that is refused is never added to the settings. -/
def parseConfigServer (config : CoConfig) (blockArgs : CoBlockArgs) :
    Option (CoConfig × Option ParseError) :=
  (eachLine serverDirective (blockArgs.multiLineArgs.drop 1) {}).map fun (configServer, error) =>
    match error with
    | some error => (config, some error)
    | none =>
      if configServer.listenPort = 0 then (config, some (.listenPortExpected blockArgs.lineno))
      else ({ config with confServers := config.confServers ++ [configServer] }, none)

/-! ## The servers of an upstream -/

/-- The host, and the port behind the first colon. -/
def hostPort (address : Bytes) : Bytes × Bytes :=
  match memchr address 58 with
  | some pos => (address.take pos, address.drop (pos + 1))
  | none => (address, ascii "0")

/-- What stands behind the first `weight=` of a word. -/
def weightValue (arg : Bytes) : Option Bytes :=
  (strstr arg (ascii "weight=")).map fun pos => arg.drop (pos + 7)

/-- The words behind the address, each of which sets the weight. -/
def readWeights (lineArgs : CoLineArgs) : List Bytes → Int → Except ParseError Int
  | [], weight => .ok weight
  | arg :: args, _ =>
    match weightValue arg with
    -- the message names the first of the words, whichever of them is wrong
    | none => .error (.unexpected (lineArgs.args.getD 2 []) lineArgs.lineno)
    | some value =>
      if checkNumber value then readWeights lineArgs args (atoi value)
      else .error (.unexpected value lineArgs.lineno)

def isalpha (byte : UInt8) : Bool := 65 ≤ byte && byte ≤ 90 || 97 ≤ byte && byte ≤ 122

/-- A host that starts with a letter stands for the addresses that it resolves to. -/
def resolveHost (resolveDns : Bytes → Option (List Bytes)) (host : Bytes) : List Bytes :=
  if host.head?.any isalpha then (resolveDns host).getD [] else [host]

def upstreamServerDirective (resolveDns : Bytes → Option (List Bytes)) (confUpstream : CoConfUpstream)
    (lineArgs : CoLineArgs) : Except ParseError CoConfUpstream :=
  match lineArgs.args with
  | _ :: address :: weights =>
    let (host, port) := hostPort address
    if checkNumber port then
      match readWeights lineArgs weights 1 with
      | .error error => .error error
      | .ok weight =>
        .ok { confUpstream with
          upstreamServers := confUpstream.upstreamServers ++ (resolveHost resolveDns host).map
            fun host => { host, port := atoi port, weight } }
    else .error (.unexpected port lineArgs.lineno)
  | _ => .error (.parameterNumber lineArgs.lineno)

def upstreamDirective (resolveDns : Bytes → Option (List Bytes)) (confUpstream : CoConfUpstream)
    (configKey : Bytes) (lineArgs : CoLineArgs) : Except ParseError CoConfUpstream :=
  if configKey = ascii "upstream" then
    (argument lineArgs).map fun value => { confUpstream with name := value }
  else if configKey = ascii "server" then upstreamServerDirective resolveDns confUpstream lineArgs
  else if configKey = ascii "max_connections" then
    (checkedNumber lineArgs).map fun n => { confUpstream with maxConnections := n }
  else if configKey = ascii "load_balance" then
    (number lineArgs).map fun n => { confUpstream with loadBalance := n }
  else if configKey = ascii "connect_timeout" then
    (number lineArgs).map fun n => { confUpstream with connTimeout := n }
  else if configKey = ascii "read_timeout" then
    (number lineArgs).map fun n => { confUpstream with readTimeout := n }
  else if configKey = ascii "write_timeout" then
    (number lineArgs).map fun n => { confUpstream with writeTimeout := n }
  else if configKey = ascii "keepalive_timeout" then
    (number lineArgs).map fun n => { confUpstream with keepaliveTimeout := n }
  else if configKey = ascii "connection_maxrequest" then
    (number lineArgs).map fun n => { confUpstream with connectionMaxRequest := n }
  else if configKey = ascii "connection_maxtime" then
    (number lineArgs).map fun n => { confUpstream with connectionMaxTime := n }
  else if configKey = ascii "fail_timeout" then
    (number lineArgs).map fun n => { confUpstream with failTimeout := n }
  else if configKey = ascii "fail_maxnum" then
    (number lineArgs).map fun n => { confUpstream with failMaxnum := n }
  else if configKey = ascii "retry_maxnum" then
    (number lineArgs).map fun n => { confUpstream with retryMaxnum := n }
  else .ok confUpstream

def parseConfigUpstream (resolveDns : Bytes → Option (List Bytes)) (config : CoConfig)
    (blockArgs : CoBlockArgs) : Option (CoConfig × Option ParseError) :=
  -- the line with the block's name is read with the others
  (eachLine (upstreamDirective resolveDns) blockArgs.multiLineArgs {}).map fun (confUpstream, error) =>
    match error with
    | some error => (config, some error)
    | none => ({ config with confUpstreams := config.confUpstreams ++ [confUpstream] }, none)

/-! ## The text -/

/-- A block with another name only gets a warning. -/
def parseBlock (resolveDns : Bytes → Option (List Bytes)) (config : CoConfig) (blockArgs : CoBlockArgs) :
    Option (CoConfig × Option ParseError) :=
  if blockArgs.blockName = ascii "conf" then parseConfigConf config blockArgs
  else if blockArgs.blockName = ascii "hook" then parseConfigHook config blockArgs
  else if blockArgs.blockName = ascii "server" then parseConfigServer config blockArgs
  else if blockArgs.blockName = ascii "upstream" then parseConfigUpstream resolveDns config blockArgs
  else some (config, none)

def parseBlocks (resolveDns : Bytes → Option (List Bytes)) :
    List CoBlockArgs → CoConfig → Option (Int × CoConfig)
  | [], config => some (coOk, config)
  | blockArgs :: rest, config =>
    match parseBlock resolveDns config blockArgs with
    | none => none
    | some (config, some _) => some (coError, config)
    | some (config, none) => parseBlocks resolveDns rest config

def parseContent (resolveDns : Bytes → Option (List Bytes)) (config : CoConfig) (content : Bytes) :
    Option (Int × CoConfig) :=
  match readAllblock content with
  | none => none
  | some (.error _) => some (coError, config)
  | some (.ok multiBlocks) => parseBlocks resolveDns multiBlocks config

/-! ## Accesses -/

section
variable {resolveDns : Bytes → Option (List Bytes)}

/-- The loop never misses a first word when each line has one. -/
theorem eachLine_defined {σ : Type} (directive : σ → Bytes → CoLineArgs → Except ParseError σ)
    {lines : List CoLineArgs} (words : ∀ line ∈ lines, line.args ≠ []) (conf : σ) :
    ∃ after, eachLine directive lines conf = some after := by
  induction lines generalizing conf with
  | nil => exact ⟨_, rfl⟩
  | cons line lines ih =>
    obtain ⟨configKey, args, read⟩ := List.exists_cons_of_ne_nil (words line List.mem_cons_self)
    unfold eachLine
    rw [read]
    dsimp only
    split
    · exact ⟨_, rfl⟩
    · exact ih (fun other mem => words other (List.mem_cons_of_mem line mem)) _

/-- What every directive keeps holds of the lines that were read, behind the last one too. -/
theorem eachLine_rule {σ : Type} {directive : σ → Bytes → CoLineArgs → Except ParseError σ}
    (Inv : List CoLineArgs → σ → Prop)
    (step : ∀ front line conf next configKey args, Inv front conf → line.args = configKey :: args →
      directive conf configKey line = .ok next → Inv (front ++ [line]) next)
    {lines : List CoLineArgs} {conf after : σ} (start : Inv [] conf)
    (ran : eachLine directive lines conf = some (after, none)) : Inv lines after := by
  -- on the lines that are left, with those in front as the index
  suffices behind : ∀ front, Inv front conf → Inv (front ++ lines) after from behind [] start
  clear start
  induction lines generalizing conf with
  | nil =>
    intro front inv
    cases ran
    rwa [List.append_nil]
  | cons line lines ih =>
    intro front inv
    unfold eachLine at ran
    split at ran
    · cases ran
    · rename_i configKey args words
      split at ran
      · cases ran
      · rename_i next read
        have read := ih ran (front ++ [line]) (step front line conf next configKey args inv words read)
        rwa [List.append_assoc, List.singleton_append] at read

theorem parseBlock_defined {blockArgs : CoBlockArgs} (named : blockArgs.Named) (config : CoConfig) :
    ∃ after, parseBlock resolveDns config blockArgs = some after := by
  have words := named.words
  -- every loop but that of an upstream skips the first line
  have behind : ∀ line ∈ blockArgs.multiLineArgs.drop 1, line.args ≠ [] :=
    fun line mem => words line (List.mem_of_mem_drop mem)
  unfold parseBlock
  split
  · obtain ⟨after, ran⟩ := eachLine_defined confDirective behind config.conf
    exact ⟨_, by rw [parseConfigConf, ran]; rfl⟩
  · split
    · obtain ⟨after, ran⟩ := eachLine_defined hookDirective behind config.confHook
      exact ⟨_, by rw [parseConfigHook, ran]; rfl⟩
    · split
      · obtain ⟨after, ran⟩ := eachLine_defined serverDirective behind {}
        exact ⟨_, by rw [parseConfigServer, ran]; rfl⟩
      · split
        · obtain ⟨after, ran⟩ := eachLine_defined (upstreamDirective resolveDns) words {}
          exact ⟨_, by rw [parseConfigUpstream, ran]; rfl⟩
        · exact ⟨_, rfl⟩

theorem parseBlocks_defined {blocks : List CoBlockArgs} (named : ∀ block ∈ blocks, block.Named)
    (config : CoConfig) : ∃ ret after, parseBlocks resolveDns blocks config = some (ret, after) := by
  induction blocks generalizing config with
  | nil => exact ⟨_, _, rfl⟩
  | cons block blocks ih =>
    obtain ⟨⟨after, error⟩, parsed⟩ := parseBlock_defined (named block List.mem_cons_self) config
    unfold parseBlocks
    rw [parsed]
    cases error with
    | some error => exact ⟨_, _, rfl⟩
    | none => exact ih (fun other mem => named other (List.mem_cons_of_mem block mem)) after

end

/-- Whatever the text is, no block lacks a line, no line a word, and neither the tokenizer nor the
    interpreter of its blocks reads outside of a vector. -/
theorem config_accesses_in_range (content : Bytes) :
    (∃ result, readAllblock content = some result ∧
      ∀ blocks, result = .ok blocks → ∀ block ∈ blocks, block.Named) ∧
    ∀ (resolveDns : Bytes → Option (List Bytes)) (config : CoConfig),
      ∃ ret after, parseContent resolveDns config content = some (ret, after) := by
  obtain ⟨result, read, spec⟩ := readAllblock_reads content
  have named : ∀ blocks, result = .ok blocks → ∀ block ∈ blocks, block.Named :=
    fun blocks ok => (spec blocks ok).named
  refine ⟨⟨result, read, named⟩, fun resolveDns config => ?_⟩
  unfold parseContent
  rw [read]
  cases result with
  | error error => exact ⟨_, _, rfl⟩
  | ok blocks => exact parseBlocks_defined (named blocks rfl) config

end CoServer.CoConfigParser
