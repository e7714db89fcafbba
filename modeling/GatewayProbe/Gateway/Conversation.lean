import GatewayProbe.Gateway.Body
import GatewayProbe.Gateway.Poll
import GatewayProbe.Metrics.Aggregator

/-!
# Conversations with a gateway

In a conversation one call is made after the other, and each takes as long as the
gateway needs to answer. A conversation keeps the time, the calls it has made, the
latencies of the queries of its polls and what it has to tell. A shutdown cuts it off
where it waits: a call that is under way then gets no answer. Where the shutdown and the
end of a wait have both come, either may be noticed first, so that much is left open, and
so is when the timer wakes a conversation that sleeps.
-/

namespace GatewayProbe.Gateway

/-- A gateway: in a state of its own, it gives a reply to each call made at a moment. -/
abbrev Service (σ : Type) : Type := σ → Nat → Call → Reply × σ

/-- Who wins a race: whether a shutdown that came at one moment is noticed before the end of a
wait at another one, which does not lie before it, after a number of calls. -/
abbrev Race : Type := Nat → Nat → Nat → Bool

/-- The race that is won by whatever comes first, and by the end of the wait at a tie. -/
def Race.inOrder : Race := fun shutdown moment _ => shutdown < moment

/-- A conversation with a gateway whose state is in `σ`. -/
structure Conversation (σ : Type) where
  gateway : σ
  now : Nat := 0
  /-- When a shutdown comes, if one does. -/
  shutdown : Option Nat := none
  /-- Who wins where a wait is over and the shutdown has come. -/
  race : Race := .inOrder
  /-- By what the conversation is woken. -/
  timer : Clock.Timer := .ticking
  /-- The calls made and when, the latest first. -/
  calls : List (Nat × Call) := []
  /-- The latencies of the queries made by polls, the latest first. -/
  measured : List Metrics.Sample := []
  /-- The messages, the latest first. -/
  log : List Message := []
  deriving Inhabited

/-- Why a conversation did not give what was asked for. -/
inductive Halt where
  | fault (fault : Fault)
  | interrupted
  deriving DecidableEq, Repr

/-- An answer with the time it took. -/
structure Answered where
  answer : Answer
  elapsed : Duration
  deriving DecidableEq, Repr, Inhabited

namespace Conversation

variable {σ : Type}

/-- Tell something. -/
def tell (c : Conversation σ) (m : Message) : Conversation σ := { c with log := m :: c.log }

/-- Tell something if there is anything to tell. -/
def tell? (c : Conversation σ) (m : Option Message) : Conversation σ := m.elim c c.tell

/-- Expect a shutdown at a moment, if not an earlier one is expected. -/
def expect (c : Conversation σ) (moment : Option Nat) : Conversation σ :=
  { c with shutdown := c.shutdown.merge min moment }

/-- Whether the shutdown has come by the end of a wait, and is noticed first. -/
def isCut (c : Conversation σ) (moment : Nat) : Bool :=
  c.shutdown.any fun s => s ≤ moment && c.race s moment c.calls.length

/-- Wait until a moment; the shutdown may come first. -/
def waitUntil (c : Conversation σ) (moment : Nat) : Except Halt Unit × Conversation σ :=
  if c.isCut moment then (.error .interrupted, { c with now := max c.now (c.shutdown.getD 0) })
  else (.ok (), { c with now := moment })

/-- When an answer that takes some time is there. -/
def arrival (now : Nat) (latency : Duration) : Nat := Clock.after now latency

/-- Make a call and wait for the answer. -/
def call (service : Service σ) (c : Conversation σ) (q : Call) :
    Except Halt Answered × Conversation σ :=
  let (reply, gateway) := service c.gateway c.now q
  let sent := c.now
  let asked := { c with gateway, calls := (c.now, q) :: c.calls }
  let waited := asked.waitUntil (arrival sent reply.latency)
  (waited.1.map fun _ => ⟨reply.answer, Clock.since sent waited.2.now⟩, waited.2)

/-- What a reader of answers makes of one. -/
def understood {α : Type} (read : Duration → Answer → Except Fault α) :
    Except Halt Answered → Except Halt α
  | .error halt => .error halt
  | .ok a => (read a.elapsed a.answer).mapError .fault

/-- Ask for the health of the gateway. -/
def health (service : Service σ) (c : Conversation σ) : Except Halt String × Conversation σ :=
  let (answered, c) := c.call service .health
  let status := understood (fun elapsed a => a.health elapsed) answered
  (status, c.tell? (status.toOption.map fun s => detail ("Gateway health status: " ++ s)))

/-- Submit a command. -/
def submit (service : Service σ) (c : Conversation σ) (command : Command) :
    Except Halt Handle × Conversation σ :=
  let sent := c.now
  let (answered, c) := c.call service (.execute command)
  ((understood (fun elapsed a => a.taskId elapsed) answered).map fun id => ⟨id, sent⟩, c)

/-- Ask once for the state of a task. -/
def status (service : Service σ) (c : Conversation σ) (taskId : String) :
    Except Halt TaskInfo × Conversation σ :=
  let (answered, c) := c.call service (.status taskId)
  (understood (fun elapsed a => a.taskInfo taskId elapsed) answered, c)

/-- Keep the latency of a query that was begun at a moment. -/
def measure (c : Conversation σ) (begun : Nat) (success : Bool) : Conversation σ :=
  { c with measured := .ofDuration pollName (Clock.since begun c.now) success :: c.measured }

/-- The rounds of a poll. Only a poll without a pause between its queries can use up the
rounds it is given. -/
def pollRounds (service : Service σ) (settings : PollSettings) :
    Nat → Poll → Conversation σ → Except Halt TaskInfo × Conversation σ
  | 0, p, c =>
    (.error (.fault (.pollTimeout p.taskId (Clock.since p.started c.now) settings.maxWait
      (p.last.getD .pending))), c)
  | rounds + 1, p, c =>
    let begun := c.now
    match c.status service p.taskId with
    | (.error .interrupted, c) => (.error .interrupted, c)
    | (.error (.fault f), c) => (.error (.fault f), c.measure begun false)
    | (.ok info, c) =>
      let c := (c.measure begun true).tell? (p.backwards? (.ok info))
      match p.observe settings c.now info with
      | .finished result => (result.mapError .fault, c)
      | .sleep length p =>
        match c.waitUntil (c.timer.wake (Clock.after c.now length)) with
        | (.error halt, c) => (.error halt, c)
        | (.ok _, c) => pollRounds service settings rounds p c

/-- More rounds than a poll with a pause between its queries can have. -/
def roundLimit (settings : PollSettings) : Nat := settings.maxWait.nanos + 2

/-- Poll a task to its end. -/
def poll (service : Service σ) (settings : PollSettings) (c : Conversation σ) (taskId : String) :
    Except Halt TaskInfo × Conversation σ :=
  pollRounds service settings (roundLimit settings) (.begin taskId c.now) c

end Conversation

end GatewayProbe.Gateway
