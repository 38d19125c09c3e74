/-
# The server

`SPEC_FULL` §6, *HTTP*: `get_trials`, `list_experiments` and `build_router`, with the
tickets of `AppState` (`engine`) and the statuses of `ApiError` (`status`).

| request | answer |
| --- | --- |
| `GET /trials/{experiment}?materials=…` | a trial set |
| `GET /experiments` | the names of the registered experiments |

Every request for a trial set takes a ticket, the number of such requests before
it, as soon as its target has been read, and is answered by a fresh engine whose
seed is the server's plus the ticket: `Server.answer` depends on the ticket and
on nothing else that changes. A `HEAD` request is answered like a `GET` request,
without the body.
-/

import Alternation.Engine
import Alternation.Server.Config
import Alternation.Server.Target
import Alternation.Trial.Json

namespace Alternation

/-- A server's settings, and the number of tickets it has given out. -/
structure Server where
  registry : Registry
  names : NameCorpus
  store : MaterialsStore
  seed : UInt64
  tickets : Nat

namespace Server

/-- A request. -/
structure Request where
  method : String
  target : String
deriving DecidableEq, Repr

/-- The body of a response. -/
inductive Body where
  | empty
  | text (s : String)
  | json (j : Json)

/-- A response. -/
structure Response where
  status : Nat
  contentType : Option String
  body : Body

namespace Response

/-- A response without content. -/
def bare (status : Nat) : Response := ⟨status, none, .empty⟩

/-- A message. -/
def text (status : Nat) (message : String) : Response :=
  ⟨status, some "text/plain; charset=utf-8", .text message⟩

/-- A result. -/
def json (result : Json) : Response := ⟨200, some "application/json", .json result⟩

/-- The response without its body. -/
def withoutBody (r : Response) : Response := { r with body := .empty }

end Response

/-- The server that a configuration describes; `entropy` is its seed if the
configuration names none. -/
def ofConfig [Complaints] (files : FileSystem) (config : ServerConfig) (entropy : UInt64) :
    Except EngineError Server := do
  let names ←
    match config.namesFile with
    | some path => (NameCorpus.load files path).mapError .names
    | none => .ok .builtin
  return {
    registry := .standard
    names
    store := ⟨config.materialsDir⟩
    seed := config.seed.getD entropy
    tickets := 0 }

/-! ## Routing -/

/-- What a request asks for. -/
inductive Route where
  | experiments
  | trials (experiment : String) (materials : Option String)
  /-- Nothing; the response says why. -/
  | refused (response : Response)

/-- The request that a target of the trials path stands for. -/
def trialsRoute (segment query : String) : Route :=
  match decodeSegment? segment with
  | none => .refused (.text 400 "Invalid URL: Invalid UTF-8 in `experiment`")
  | some experiment =>
    match single? (formPairs query) "materials" with
    | some materials => .trials experiment materials
    | none =>
      .refused (.text 400 "Failed to deserialize query string: duplicate field `materials`")

/-- What a request asks for. -/
def route (request : Request) : Route :=
  let (path, query) := splitTarget request.target
  let served := request.method == "GET" || request.method == "HEAD"
  if path = "/experiments" then
    if served then .experiments else .refused (.bare 405)
  else
    match experimentSegment? path with
    | some segment => if served then trialsRoute segment query else .refused (.bare 405)
    | none => .refused (.bare 404)

/-! ## Answering -/

/-- The status of an error: 400 for faulty requests, 404 for what does not exist,
and 500 for what the server's materials or names do not allow. -/
def statusOf : EngineError → Nat
  | .missingMaterials => 400
  | .materialsCount _ => 400
  | .store (.invalidIdentifier _) => 400
  | .unknownExperiment _ => 404
  | .store (.notFound _) => 404
  | .render _ => 500
  | .names _ => 500
  | .store (.io _ _) => 500
  | .store (.malformed _ _) => 500

/-- The response to the outcome of a request for a trial set. -/
def respond : Except EngineError TrialSet → Response
  | .ok set => .json set.toJson
  | .error error => .text (statusOf error) error.message

/-- The engine of the request with the given ticket. -/
def engine (server : Server) (ticket : Nat) : Engine :=
  .ofSeed server.registry server.names (server.seed + UInt64.ofNat ticket)

/-- The answer to a request for a trial set that holds the given ticket. -/
def answer [Complaints] (server : Server) (files : FileSystem) (ticket : Nat) (experiment : String)
    (materials : Option String) : Response :=
  respond ((Engine.fromStore files server.store experiment materials).run
    (server.engine ticket)).1

/-- The answer to a request for the names of the experiments. -/
def listing (server : Server) : Response :=
  .json (.arr (server.registry.names.map .str))

/-- Gives out a ticket. -/
def takeTicket : StateM Server Nat := fun server =>
  (server.tickets, { server with tickets := server.tickets + 1 })

/-- Answers what a request asks for. -/
def answerRoute [Complaints] (files : FileSystem) : Route → StateM Server Response
  | .experiments => do return (← get).listing
  | .trials experiment materials => do
    let ticket ← takeTicket
    return (← get).answer files ticket experiment materials
  | .refused response => return response

/-- Answers a request. -/
def handle [Complaints] (files : FileSystem) (request : Request) : StateM Server Response := do
  let response ← answerRoute files (route request)
  return if request.method == "HEAD" then response.withoutBody else response

end Server
end Alternation
