import CoServer.Lib.Run

/-! # Remote calls, one at a time

A client asks, a handler answers, and only then is the next question asked.  The
handler may answer the same question differently each time; `handler count` is
what it does at its call `count`.  There is no wire here: what a wire has to do
is to refine this machine. -/

namespace CoServer.Lib

universe u v

variable {Request : Type u} {Response : Type v}

inductive Call (Request : Type u) (Response : Type v) where
  | idle
  | asked (request : Request)
  | handled (request : Request) (response : Response)

inductive CallEvent (Request : Type u) where
  | ask (request : Request)
  | handle
  | answer

/-- The call at hand, and the record of all of them. -/
structure RemoteCalls (Request : Type u) (Response : Type v) where
  call : Call Request Response := .idle
  asked : List Request := []
  handled : List (Request × Response) := []
  answered : List (Request × Response) := []

namespace RemoteCalls

def step (handler : Nat → Request → Response) (self : RemoteCalls Request Response) :
    CallEvent Request → Option (RemoteCalls Request Response)
  | .ask request =>
    match self.call with
    | .idle => some { self with call := .asked request, asked := self.asked ++ [request] }
    | _ => none
  | .handle =>
    match self.call with
    | .asked request =>
      let response := handler self.handled.length request
      some { self with
        call := .handled request response
        handled := self.handled ++ [(request, response)] }
    | _ => none
  | .answer =>
    match self.call with
    | .handled request response =>
      some { self with call := .idle, answered := self.answered ++ [(request, response)] }
    | _ => none

/-- Each request with what the handler makes of it. -/
def replies (handler : Nat → Request → Response) (requests : List Request) : List (Request × Response) :=
  requests.mapIdx fun count request => (request, handler count request)

section
variable {handler : Nat → Request → Response} {self next final : RemoteCalls Request Response}
  {event : CallEvent Request}

@[simp] theorem length_replies (requests : List Request) : (replies handler requests).length = requests.length := by
  simp [replies]

theorem replies_concat (requests : List Request) (request : Request) :
    replies handler (requests ++ [request]) =
      replies handler requests ++ [(request, handler requests.length request)] := by
  simp [replies, List.mapIdx_append]

/-- What the record says about the call at hand. -/
inductive Paired (handler : Nat → Request → Response) : RemoteCalls Request Response → Prop
  | idle {asked : List Request} :
      Paired handler ⟨.idle, asked, replies handler asked, replies handler asked⟩
  | asked {before : List Request} {request : Request} :
      Paired handler ⟨.asked request, before ++ [request], replies handler before, replies handler before⟩
  | handled {before : List Request} {request : Request} :
      Paired handler ⟨.handled request (handler before.length request), before ++ [request],
        replies handler (before ++ [request]), replies handler before⟩

theorem Paired.step (paired : Paired handler self) (stepped : self.step handler event = some next) :
    Paired handler next := by
  cases paired with
  | idle =>
    cases event <;> cases stepped
    exact .asked
  | @asked before request =>
    cases event <;> cases stepped
    have handled := @Paired.handled _ _ handler before request
    rw [replies_concat] at handled
    simpa using handled
  | @handled before request =>
    cases event <;> cases stepped
    have idle := @Paired.idle _ _ handler (before ++ [request])
    rw [replies_concat] at idle ⊢
    exact idle

theorem paired_run {events : List (CallEvent Request)} (ran : events.foldlM (RemoteCalls.step handler) {} = some final) :
    Paired handler final :=
  run_keeps _ (Paired handler) (fun _ _ _ paired stepped => paired.step stepped)
    (@Paired.idle _ _ handler []) ran

/-- Every request is handled once and in turn, and its own reply answers it; at most one
    is under way. -/
theorem Paired.answers (paired : Paired handler self) :
    self.answered <+: self.handled ∧ self.handled <+: replies handler self.asked ∧
      self.asked.length ≤ self.answered.length + 1 := by
  cases paired with
  | idle => simp
  | asked => simp [replies_concat]
  | handled => simp [replies_concat]

/-- Between two calls nothing is outstanding. -/
theorem Paired.settled (paired : Paired handler self) (idle : self.call = .idle) :
    self.answered = replies handler self.asked := by
  cases paired with
  | idle => rfl
  | asked => cases idle
  | handled => cases idle

end

end RemoteCalls

end CoServer.Lib
