import GatewayProbe.Failure
import GatewayProbe.Log
import GatewayProbe.Server.Spec

/-!
# Work inside the life of a server

Work that needs a server is done between its readiness and its stop. A server that was
started is stopped exactly once, whatever happens, and the work is done at most once. Of
several things that go wrong the first one counts: the start, the readiness, the work, the
stop.
-/

namespace GatewayProbe.Server

/-- How servers are handled in surroundings `ω`. -/
structure Handling (ω : Type) where
  start : Spec → ω → Except Fault Unit × ω
  awaitReady : Spec → ω → Except Fault Unit × ω
  stop : Spec → ω → Except Fault Unit × ω
  tell : Message → ω → ω

variable {ω α : Type}

/-- The result of work whose server has been stopped, and what there is to warn of. -/
def settled (work : Except Failure α) (stopped : Except Fault Unit) :
    Except Failure α × Option Message :=
  match work, stopped with
  | .ok value, .ok _ => (.ok value, none)
  | .ok _, .error fault => (.error (.server fault), none)
  | .error failure, .ok _ => (.error failure, none)
  | .error failure, .error fault =>
    (.error failure, some (warning ("Failed to stop server: " ++ fault.message)))

/-- Tell something if there is anything to tell. -/
def Handling.tell? (h : Handling ω) (m : Option Message) (w : ω) : ω :=
  m.elim w fun m => h.tell m w

/-- Do the work of a server that is ready, and stop the server. -/
def workAndStop (h : Handling ω) (spec : Spec) (work : ω → Except Failure α × ω) (w : ω) :
    Except Failure α × ω :=
  let (result, w) := work w
  let (stopped, w) := h.stop spec w
  let (result, message) := settled result stopped
  (result, h.tell? message w)

/-- Give up a server that does not get ready. -/
def giveUp (h : Handling ω) (spec : Spec) (fault : Fault) (w : ω) : Except Failure α × ω :=
  let (stopped, w) := h.stop spec w
  let message :=
    match stopped with
    | .ok _ => information "Stopped server after failed start"
    | .error stopFault =>
      warning ("Failed to stop server after failed start: " ++ stopFault.message)
  (.error (.server fault), h.tell message w)

/-- Do some work while a server runs. -/
def withServer (h : Handling ω) (spec : Spec) (work : ω → Except Failure α × ω) (w : ω) :
    Except Failure α × ω :=
  match h.start spec w with
  | (.error fault, w) => (.error (.server fault), w)
  | (.ok _, w) =>
    match h.awaitReady spec w with
    | (.error fault, w) => giveUp h spec fault w
    | (.ok _, w) =>
      workAndStop h spec work
        (h.tell (information ("Server ready ('" ++ spec.pattern ++ "' seen)")) w)

/-- Do some work while a server runs, if there is one to run. -/
def withOptionalServer (h : Handling ω) (spec : Option Spec) (work : ω → Except Failure α × ω)
    (w : ω) : Except Failure α × ω :=
  match spec with
  | none => work w
  | some spec => withServer h spec work w

end GatewayProbe.Server
