import CoServer.Core.RequestCycle

/-! # Requests sent back to back

A connection serves a list of requests if it answers each of them, in order, and
nothing that was read is lost between two of them.  `m_coBuffer` is emptied behind
every request, so this comes down to the reads: they must fall into one group for
each request, and `decode` must complete the request with its group. -/

namespace CoServer

namespace ClientConnection

variable {Protocol : Type} {side : ServerProtocol Protocol} {around : Surroundings Protocol}
  {answer : Protocol → Bytes} {waits : Protocol → Bytes → Bytes → Prop}

/-- Reads that `recv` can return. -/
def Recv (arrivals : List (Bytes × Block)) : Prop :=
  ∀ arrival ∈ arrivals, arrival.1 ≠ [] ∧ arrival.1.length ≤ 4096

/-! ## Lists that fall into groups -/

section
variable {Request Other : Type} {fits : List (Bytes × Block) → Request → Prop} {arrivals : List (Bytes × Block)}

/-- The reads fall into one group for each request. -/
def Grouped (fits : List (Bytes × Block) → Request → Prop) (arrivals : List (Bytes × Block)) (requests : List Request) :
    Prop :=
  ∃ groups : List (List (Bytes × Block)), groups.flatten = arrivals ∧ List.Forall₂ fits groups requests

theorem grouped_nil : Grouped fits arrivals [] ↔ arrivals = [] := by
  constructor
  · rintro ⟨groups, rfl, fine⟩
    rw [List.forall₂_nil_right_iff.1 fine, List.flatten_nil]
  · rintro rfl
    exact ⟨[], rfl, .nil⟩

theorem grouped_cons {request : Request} {requests : List Request} : Grouped fits arrivals (request :: requests) ↔
    ∃ front back, arrivals = front ++ back ∧ fits front request ∧ Grouped fits back requests := by
  constructor
  · rintro ⟨groups, rfl, all⟩
    obtain ⟨front, later, fine, rest, rfl⟩ := List.forall₂_cons_right_iff.1 all
    exact ⟨front, later.flatten, List.flatten_cons, fine, later, rfl, rest⟩
  · rintro ⟨front, back, rfl, fine, later, rfl, rest⟩
    exact ⟨front :: later, List.flatten_cons, .cons fine rest⟩

theorem grouped_map {make : Other → Request} {requests : List Other} :
    Grouped fits arrivals (requests.map make) ↔ Grouped (fun group request => fits group (make request)) arrivals requests := by
  simp only [Grouped, List.forall₂_map_right_iff]

/-- Only groups of these reads and these requests matter. -/
theorem grouped_congr {other : List (Bytes × Block) → Request → Prop} {requests : List Request}
    (same : ∀ group request, group ⊆ arrivals → request ∈ requests → (fits group request ↔ other group request)) :
    Grouped fits arrivals requests ↔ Grouped other arrivals requests := by
  induction requests generalizing arrivals with
  | nil => rw [grouped_nil, grouped_nil]
  | cons request requests ih =>
    rw [grouped_cons, grouped_cons]
    refine exists_congr fun front => exists_congr fun back => and_congr_right fun split => ?_
    subst split
    refine and_congr (same _ _ (List.subset_append_left _ _) List.mem_cons_self) (ih fun group other sub mem => ?_)
    exact same group other (fun _ within => List.mem_append_right _ (sub within)) (List.mem_cons_of_mem _ mem)

end

/-! ## Serving -/

/-- A request, as its bytes and what `decode` makes of them, is answered: its own bytes
    were decoded, and the whole response was sent. -/
structure Answers (answer : Protocol → Bytes) (request : Bytes × Protocol) (answered : AnsweredRequest Protocol) :
    Prop where
  taken : answered.buffered ++ answered.received = request.1 ++ answered.left
  decoded : answered.protocol = request.2
  sent : answered.sent = answer answered.processed

/-- What `decode` leaves in the buffer is the beginning of the next request. -/
def Kept : List (AnsweredRequest Protocol) → Bytes → Prop
  | [], _ => True
  | [answered], region => answered.left = region
  | answered :: next :: rest, region => answered.left = next.buffered ∧ Kept (next :: rest) region

/-- The reads of a connection are served as these requests. -/
def Serves (side : ServerProtocol Protocol) (around : Surroundings Protocol) (answer : Protocol → Bytes)
    (connection : CoConnection) (arrivals : List (Bytes × Block)) (requests : List (Bytes × Protocol)) : Prop :=
  ∃ final, arrivals.foldlM (read side around) { connection := connection } = some final ∧ final.closed = false ∧
    final.request = none ∧ List.Forall₂ (Answers answer) requests final.answered ∧
    Kept final.answered final.coBuffer.region

/-- The responses have sizes that `tcp_write` can be told. -/
def Sendable (around : Surroundings Protocol) (answer : Protocol → Bytes) : Nat → List (Bytes × Protocol) → Prop
  | _, [] => True
  | count, request :: rest => (answer (around.userProcess count request.2).2).length < 2 ^ 32 ∧
      Sendable around answer (count + 1) rest

/-! ## The buffer between two requests -/

section
variable {self next final : ClientConnection Protocol} {arrival : Bytes × Block} {arrivals rest : List (Bytes × Block)}
  {entries : List (AnsweredRequest Protocol)} {region : Bytes}

/-- Every request begins with an empty buffer. -/
structure Cleared (side : ServerProtocol Protocol) (connection : ClientConnection Protocol) : Prop where
  answered : ∀ answered ∈ connection.answered, answered.buffered = []
  current : connection.closed = false → (connection.current side).buffered = []
  region : connection.closed = false → connection.request = none → connection.coBuffer.region = []

theorem Cleared.requestWrite (base : ClientConnection Protocol) (request : ReadRequest Protocol) {left : Bytes}
    {processed : Protocol} {retCode : Int} (cleared : Cleared side self) (answered : base.answered = self.answered)
    (buffered : request.buffered = [])
    (ran : base.requestWrite side around request left processed retCode = some next) : Cleared side next := by
  -- the connection is closed, or its buffer was emptied behind the response
  obtain ⟨sent, record, none, ok⟩ := requestWrite_inv ran
  refine ⟨fun entry mem => ?_, fun opened => ?_, fun opened _ => (ok opened).2.2⟩
  · rw [record, answered, List.mem_append, List.mem_singleton] at mem
    rcases mem with before | rfl
    · exact cleared.answered entry before
    · exact buffered
  · rw [ClientConnection.current, none]
    exact (ok opened).2.2

theorem Cleared.read (cleared : Cleared side self) (ran : self.read side around arrival = some next) :
    Cleared side next := by
  by_cases opened : self.closed = false
  · cases read_step opened ran with
    | again _ _ same =>
      subst same
      exact ⟨cleared.answered, fun _ => cleared.current opened, fun _ => nofun⟩
    | @completed received behind protocol _ arrived decoded ran =>
      exact cleared.requestWrite (self.setBuffer behind) { self.current side with
        protocol, received := (self.current side).received ++ arrival.1 } rfl (cleared.current opened) ran
    | failed base request answered buffered ran =>
      exact cleared.requestWrite base request answered (buffered.trans (cleared.current opened)) ran
  · -- a closed connection is not read any more
    rw [ClientConnection.read, if_pos (Bool.not_eq_false _ ▸ opened)] at ran
    cases ran
    exact cleared

/-- So nothing is kept from one request to the next unless nothing was left. -/
theorem kept_iff (buffered : ∀ answered ∈ entries, answered.buffered = []) :
    Kept entries [] ↔ ∀ answered ∈ entries, answered.left = [] := by
  induction entries with
  | nil => simp [Kept]
  | cons answered rest ih =>
    have later := ih fun other mem => buffered other (List.mem_cons_of_mem _ mem)
    rw [List.forall_mem_cons, ← later]
    -- what the first one leaves is what the next one finds, and that is nothing
    cases rest with
    | nil => simp [Kept]
    | cons next rest => rw [Kept, buffered next (by simp)]

end

/-! ## Groups of reads -/

section
variable {self final : ClientConnection Protocol} {arrivals : List (Bytes × Block)}
  {requests : List (Bytes × Protocol)} {good : List (Bytes × Block) → Bytes × Protocol → Prop}

/-- Between two reads little waits in the buffer, so `decode` finds it in order. -/
theorem completes_valid (law : side.Lawful answer waits) {protocol last : Protocol} {coBuffer left : CoBuffer}
    (completes : Completes side.decode protocol coBuffer arrivals last left) {received : Bytes} (recv : Recv arrivals)
    (valid : coBuffer.Valid) (total : coBuffer.totalSize < 2 ^ 63) (waiting : waits protocol coBuffer.region received)
    (room : ∀ protocol pending front back, front ++ back = received ++ (arrivals.map Prod.fst).flatten →
      waits protocol pending front → pending.length < 2 ^ 61) : left.Valid ∧ left.totalSize < 2 ^ 63 := by
  induction completes generalizing received with
  | last arrived decoded =>
    have readable := recv _ List.mem_cons_self
    obtain ⟨appended, same, kept, -, appendedTotal⟩ := valid.receive total (room _ _ _ _ rfl waiting) readable
    cases arrived.symm.trans same
    obtain ⟨leftValid, leftTotal⟩ := law.decode kept decoded
    exact ⟨leftValid, leftTotal ▸ appendedTotal⟩
  | more arrived decoded _ ih =>
    have readable := recv _ List.mem_cons_self
    obtain ⟨appended, same, kept, region, appendedTotal⟩ := valid.receive total (room _ _ _ _ rfl waiting) readable
    cases arrived.symm.trans same
    obtain ⟨leftValid, leftTotal⟩ := law.decode kept decoded
    refine ih (fun other mem => recv other (List.mem_cons_of_mem _ mem)) leftValid (leftTotal ▸ appendedTotal)
      (law.again waiting readable.2 kept region decoded) fun protocol pending front back split => ?_
    refine room protocol pending front back ?_
    rw [split, List.map_cons, List.flatten_cons, List.append_assoc]

/-- What a protocol makes of groups of reads that hold one of these requests each. -/
structure Decides (side : ServerProtocol Protocol) (waits : Protocol → Bytes → Bytes → Prop)
    (requests : List (Bytes × Protocol)) (good : List (Bytes × Block) → Bytes × Protocol → Prop) : Prop where
  room {request : Bytes × Protocol} {protocol : Protocol} {pending front back : Bytes} : request ∈ requests →
    front ++ back = request.1 → waits protocol pending front → pending.length < 2 ^ 61
  completes {request : Bytes × Protocol} {coBuffer : CoBuffer} {group : List (Bytes × Block)} : request ∈ requests →
    coBuffer.Valid → coBuffer.totalSize < 2 ^ 63 → coBuffer.region = [] → Recv group →
      (group.map Prod.fst).flatten = request.1 →
        ((∃ left, Completes side.decode side.createProtocol coBuffer group request.2 left ∧ left.region = []) ↔ good group request)

theorem Decides.tail {request : Bytes × Protocol} (decides : Decides side waits (request :: requests) good) :
    Decides side waits requests good :=
  ⟨fun mem => decides.room (List.mem_cons_of_mem _ mem), fun mem => decides.completes (List.mem_cons_of_mem _ mem)⟩

theorem Idle.current (idle : self.Idle) : self.current side = { protocol := side.createProtocol, buffered := [] } := by
  rw [ClientConnection.current, idle.request, Option.getD_none, idle.region]

theorem Idle.waiting (law : side.Lawful answer waits) (idle : self.Idle) :
    waits side.createProtocol self.coBuffer.region [] := by
  rw [idle.region]
  exact law.start

/-- Nothing is read between two requests without the next one being answered. -/
theorem Idle.arrivals_nil (idle : self.Idle) (ran : arrivals.foldlM (read side around) self = some final)
    (opened : final.closed = false) (done : final.request = none) (same : final.answered = self.answered) :
    arrivals = [] := by
  by_contra begun
  -- a read begins a request, which is answered before the run ends
  obtain ⟨front, back, request, base, mid, first⟩ := exists_firstAnswer idle.opened ran opened done (.inl begun)
  obtain ⟨sent, record, -, -⟩ := requestWrite_inv first.process
  obtain ⟨later, final⟩ := run_answered first.rest
  rw [final, record, first.answered, List.append_assoc] at same
  exact absurd (List.append_right_eq_self.1 same) (by simp)

/-- The first request that a run serves was read by the first group. -/
theorem Idle.first_group (law : side.Lawful answer waits) (succeeds : around.Succeeds) {request : Bytes × Protocol}
    {entry : AnsweredRequest Protocol} {more : List (AnsweredRequest Protocol)}
    (decides : Decides side waits (request :: requests) good) (idle : self.Idle) (recv : Recv arrivals)
    (ran : arrivals.foldlM (read side around) self = some final) (opened : final.closed = false)
    (done : final.request = none) (answered : final.answered = self.answered ++ entry :: more)
    (answers : Answers answer request entry) (nothing : entry.left = []) :
    ∃ front back mid, arrivals = front ++ back ∧ (front.map Prod.fst).flatten = request.1 ∧ good front request ∧
      (answer (around.userProcess self.answered.length request.2).2).length < 2 ^ 32 ∧ mid.Idle ∧
      back.foldlM (read side around) mid = some final ∧ mid.answered = self.answered ++ [entry] := by
  have begun : arrivals ≠ [] := by
    rintro rfl
    cases ran
    exact absurd (List.append_right_eq_self.1 answered.symm) (by simp)
  obtain ⟨front, back, decoded, base, mid, first⟩ := exists_firstAnswer idle.opened ran opened done (.inl begun)
  obtain ⟨sent, record, -, ok⟩ := requestWrite_inv first.process
  obtain ⟨later, final⟩ := run_answered first.rest
  -- the record of this request is the one that `answers` speaks about
  rw [final, record, first.answered, List.append_assoc, List.append_cancel_left_eq, List.singleton_append,
    List.cons.injEq] at answered
  obtain ⟨rfl, -⟩ := answered
  -- a connection that is closed stays so
  have midOpened : mid.closed = false := by
    by_contra closed
    rw [run_closed (Bool.not_eq_false _ ▸ closed) first.rest] at opened
    exact closed opened
  obtain ⟨code, short, -⟩ := ok midOpened
  have whole := answers.taken
  have received := first.received
  have buffered := first.buffered
  rw [idle.current] at received buffered
  have empty : base.coBuffer.region = [] := nothing
  simp only [empty, received, buffered, List.nil_append, List.append_nil] at whole
  have frontRecv : Recv front := fun arrival mem => recv arrival (by rw [first.split]; exact List.mem_append_left _ mem)
  have completes := first.completes
  rw [idle.current] at completes
  have message : decoded.protocol = request.2 := answers.decoded
  rw [message] at completes
  obtain ⟨valid, total⟩ := completes_valid law completes frontRecv idle.valid idle.total (idle.waiting law) (by
    intro protocol pending front back split waiting
    rw [List.nil_append, whole] at split
    exact decides.room List.mem_cons_self split waiting)
  -- what was sent is the response, and a size of 32 bits was enough for it
  have fits : (answer (around.userProcess self.answered.length request.2).2).length < 2 ^ 32 := by
    have length := congrArg List.length answers.sent
    simp only [message] at length
    rw [← length]
    exact short
  refine ⟨front, back, mid, first.split, whole,
    (decides.completes List.mem_cons_self idle.valid idle.total idle.region frontRecv whole).1
      ⟨base.coBuffer, completes, nothing⟩, fits, ?_, first.rest, by rw [record, first.answered]⟩
  have process := first.process
  simp only [requestProcess, first.answered, message] at process
  rw [succeeds.userProcess] at process
  obtain ⟨next, wrote, nextIdle, -⟩ := requestWrite_answers decoded base.coBuffer.region law succeeds
    first.opened valid total fits
  cases process.symm.trans wrote
  exact nextIdle

/-- A good group is answered. -/
theorem Idle.serve_group (law : side.Lawful answer waits) (succeeds : around.Succeeds) {request : Bytes × Protocol}
    {group : List (Bytes × Block)} (decides : Decides side waits (request :: requests) good) (idle : self.Idle)
    (recv : Recv group) (whole : (group.map Prod.fst).flatten = request.1) (fine : good group request)
    (fits : (answer (around.userProcess self.answered.length request.2).2).length < 2 ^ 32) :
    ∃ mid entry, mid.Idle ∧ mid.answered = self.answered ++ [entry] ∧ Answers answer request entry ∧
      entry.left = [] ∧
      ∀ rest, (group ++ rest).foldlM (read side around) self = rest.foldlM (read side around) mid := by
  -- the group completes the request, and the response is written
  obtain ⟨left, completes, nothing⟩ := (decides.completes List.mem_cons_self idle.valid idle.total idle.region recv
    whole).2 fine
  obtain ⟨valid, total⟩ := completes_valid law completes recv idle.valid idle.total (idle.waiting law) (by
    intro protocol pending front back split waiting
    rw [List.nil_append, whole] at split
    exact decides.room List.mem_cons_self split waiting)
  obtain ⟨base, decoded, opened, buffer, answered, message, buffered, received, ran⟩ :=
    run_completes around completes idle.opened (by rw [idle.current]) rfl
  rw [idle.current] at buffered received
  have process : (around.userProcess self.answered.length decoded.protocol).1 = coOk := succeeds.userProcess _ _
  obtain ⟨mid, wrote, midIdle, record⟩ := requestWrite_answers decoded left.region law succeeds
    opened (buffer ▸ valid) (buffer ▸ total) (message ▸ fits)
  refine ⟨mid, _, midIdle, answered ▸ record, ⟨?_, message, rfl⟩, nothing, fun rest => ?_⟩
  · simp only [buffered, received, nothing, List.nil_append, List.append_nil]
    exact whole
  · rw [ran rest, requestProcess, answered]
    simp only [process]
    rw [wrote, Option.bind_some]

/-- A group of reads is one request, and `good`. -/
def Whole (good : List (Bytes × Block) → Bytes × Protocol → Prop) (group : List (Bytes × Block))
    (request : Bytes × Protocol) : Prop :=
  (group.map Prod.fst).flatten = request.1 ∧ good group request

/-- The runs that answer these requests and leave nothing behind any of them. -/
def AnswersAll (side : ServerProtocol Protocol) (around : Surroundings Protocol) (answer : Protocol → Bytes)
    (self : ClientConnection Protocol) (arrivals : List (Bytes × Block)) (requests : List (Bytes × Protocol)) : Prop :=
  ∃ final entries, arrivals.foldlM (read side around) self = some final ∧ final.closed = false ∧
    final.request = none ∧ final.answered = self.answered ++ entries ∧ List.Forall₂ (Answers answer) requests entries ∧
    ∀ entry ∈ entries, entry.left = []

theorem answersAll_iff (law : side.Lawful answer waits) (succeeds : around.Succeeds)
    (decides : Decides side waits requests good) (idle : self.Idle) (recv : Recv arrivals) :
    AnswersAll side around answer self arrivals requests ↔
      Grouped (Whole good) arrivals requests ∧ Sendable around answer self.answered.length requests := by
  -- one request at a time, from any connection between two requests
  induction requests generalizing self arrivals with
  | nil =>
    rw [grouped_nil]
    constructor
    · rintro ⟨final, entries, ran, opened, done, answered, answers, -⟩
      rw [List.forall₂_nil_left_iff.1 answers, List.append_nil] at answered
      exact ⟨idle.arrivals_nil ran opened done answered, trivial⟩
    · rintro ⟨rfl, -⟩
      exact ⟨self, [], rfl, idle.opened, idle.request, (List.append_nil _).symm, .nil, nofun⟩
  | cons request requests ih =>
    rw [grouped_cons]
    constructor
    · rintro ⟨final, entries, ran, opened, done, answered, answers, nothing⟩
      obtain ⟨entry, more, answersFirst, answersMore, rfl⟩ := List.forall₂_cons_left_iff.1 answers
      -- the first group is read off the run, the others off the rest of it
      obtain ⟨front, back, mid, rfl, whole, fine, fits, midIdle, rest, record⟩ := idle.first_group law succeeds decides recv
        ran opened done answered answersFirst (nothing entry List.mem_cons_self)
      have later := (ih decides.tail midIdle fun arrival mem => recv arrival (List.mem_append_right _ mem)).1
        ⟨final, more, rest, opened, done, by rw [answered, record, List.append_assoc, List.singleton_append], answersMore,
          fun other mem => nothing other (List.mem_cons_of_mem _ mem)⟩
      rw [record, List.length_append, List.length_singleton] at later
      exact ⟨⟨front, back, rfl, ⟨whole, fine⟩, later.1⟩, fits, later.2⟩
    · rintro ⟨⟨front, back, rfl, ⟨whole, fine⟩, later⟩, fits, sendable⟩
      obtain ⟨mid, entry, midIdle, record, answersFirst, nothing, ran⟩ := idle.serve_group law succeeds decides
        (fun arrival mem => recv arrival (List.mem_append_left _ mem)) whole fine fits
      obtain ⟨final, entries, rest, opened, done, answered, answers, empty⟩ :=
        (ih decides.tail midIdle fun arrival mem => recv arrival (List.mem_append_right _ mem)).2 ⟨later, by
          rwa [record, List.length_append, List.length_singleton]⟩
      refine ⟨final, entry :: entries, by rw [ran, rest], opened, done, ?_, .cons answersFirst answers, ?_⟩
      · rw [answered, record, List.append_assoc, List.singleton_append]
      · exact List.forall_mem_cons.2 ⟨nothing, empty⟩

/-- A connection serves requests exactly if the reads fall into good groups and the
    responses can be sent. -/
theorem serves_iff (law : side.Lawful answer waits) (succeeds : around.Succeeds)
    (decides : Decides side waits requests good) {connection : CoConnection} (valid : connection.coBuffer.Valid)
    (total : connection.coBuffer.totalSize < 2 ^ 63) (empty : connection.coBuffer.region = []) (recv : Recv arrivals) :
    Serves side around answer connection arrivals requests ↔
      Grouped (Whole good) arrivals requests ∧ Sendable around answer 0 requests := by
  have idle : Idle ({ connection := connection } : ClientConnection Protocol) := ⟨rfl, rfl, valid, total, empty⟩
  refine Iff.trans ?_ (answersAll_iff law succeeds decides idle recv)
  have start : Cleared side ({ connection := connection } : ClientConnection Protocol) :=
    ⟨fun _ mem => absurd mem List.not_mem_nil, fun _ => empty, fun _ _ => empty⟩
  have cleared {final : ClientConnection Protocol}
      (ran : arrivals.foldlM (read side around) { connection := connection } = some final) : Cleared side final :=
    Lib.run_keeps (read side around) (Cleared side) (fun _ _ _ cleared step => cleared.read step) start ran
  constructor
  · rintro ⟨final, ran, opened, done, answers, kept⟩
    -- with empty buffers in between, nothing kept is nothing left
    rw [(cleared ran).region opened done, kept_iff (cleared ran).answered] at kept
    exact ⟨final, final.answered, ran, opened, done, (List.nil_append _).symm, answers, kept⟩
  · rintro ⟨final, entries, ran, opened, done, answered, answers, nothing⟩
    rw [List.nil_append] at answered
    subst answered
    refine ⟨final, ran, opened, done, answers, ?_⟩
    rw [(cleared ran).region opened done, kept_iff (cleared ran).answered]
    exact nothing

end

end ClientConnection

end CoServer
