/-
# Requests that a server answers side by side

`SPEC_FULL` §5 and §6: the server constructs an engine for each request from shared
immutable parts.

The server goes through four steps with a request for a trial set, and between any two
of them it may go on with other requests.

| phase | step to the next |
| --- | --- |
| `arrived` | the request takes a ticket |
| `ticketed` | its parameters are checked and its materials are read |
| `checked` | the trial set is rendered |
| `settled` | the outcome is responded |

A request whose check fails is settled at once, and all other requests are answered in
one step without a ticket (`Phase.advance`).  A step goes on with any one request
(`Traffic.Step`), so a run of steps is one interleaving.

Only the first step has to do with the other requests: it counts the tickets up by one,
and no other step changes the server (`Phase.advance_eq`).  So the tickets are those in a
row from the first one on, each of them held once, and what becomes of a request can be
told from its ticket and the settings (`Phase.Sound`); both are kept by every step
(`Traffic.Invariant.step`).  What clients can rely on follows for every run
(`consistent_of_interleaving`): a request is answered as if it had come alone, to a
fresh server whose seed is the seed plus the ticket.
-/

import Alternation.Proofs.Engine.Replay
import Alternation.Proofs.Store.Listing
import Mathlib.Algebra.GroupWithZero.Nat

namespace Alternation

/-! ## The names of the experiments -/

namespace Registry

/-- The registered names are sorted, and none comes twice. -/
theorem pairwise_names (r : Registry) : r.names.Pairwise (· < ·) :=
  pairwise_lt_mergeSort r.designs.nodup

/-- The names of a registry are those that it can create an experiment for. -/
theorem mem_names_iff (r : Registry) (name : String) :
    name ∈ r.names ↔ (r.create? name).isSome = true := by
  rw [names, (List.mergeSort_perm ..).mem_iff, create?, Option.isSome_map,
    ← Option.ne_none_iff_isSome, ne_eq, Table.get?_eq_none_iff, not_not]

end Registry

namespace Server

/-! ## The steps of one request -/

/-- The response as it is sent. -/
def finish (request : Request) (response : Response) : Response :=
  if request.method == "HEAD" then response.withoutBody else response

/-- How far the server is with a request. -/
inductive Phase where
  | arrived
  | ticketed (ticket : Nat) (experiment : String) (materials : Option String)
  | checked (ticket : Nat) (e : Experiment) (materials : MaterialsBundle) (materialsId : String)
  | settled (ticket : Nat) (outcome : Engine.Outcome)
  | answered (ticket : Option Nat) (response : Response)

namespace Phase

/-- The ticket that the request holds. -/
def ticket? : Phase → Option Nat
  | arrived => none
  | ticketed ticket _ _ => some ticket
  | checked ticket _ _ _ => some ticket
  | settled ticket _ => some ticket
  | answered ticket _ => ticket

/-- The number of steps to the response at most. -/
def distance : Phase → Nat
  | arrived => 4
  | ticketed _ _ _ => 3
  | checked _ _ _ _ => 2
  | settled _ _ => 1
  | answered _ _ => 0

/-- The phase of a request whose check has this result. -/
def ofCheck (ticket : Nat) : Except EngineError (Experiment × MaterialsBundle × String) → Phase
  | .ok (e, materials, materialsId) => checked ticket e materials materialsId
  | .error error => settled ticket (.error error)

/-- Goes one step on with a request; one that is answered stays as it is. -/
def advance [Complaints] (files : FileSystem) (request : Request) : Phase → StateM Server Phase
  | arrived =>
    match route request with
    | .experiments => do return answered none (finish request (← get).listing)
    | .trials experiment materials => do return ticketed (← takeTicket) experiment materials
    | .refused response => return answered none (finish request response)
  | ticketed ticket experiment materials => do
    let server ← get
    return ofCheck ticket ((server.engine ticket).prepare files server.store experiment materials)
  | checked ticket e materials materialsId => do
    return settled ticket ((Engine.render e materials materialsId).run ((← get).engine ticket)).1
  | settled ticket outcome => return answered (some ticket) (finish request (respond outcome))
  | answered ticket response => return answered ticket response

/-- What becomes of a request, told from its ticket and the server's settings. -/
inductive Sound [Complaints] (files : FileSystem) (server : Server) (request : Request) : Phase → Prop
  | arrived : Sound files server request arrived
  | ticketed {ticket : Nat} {experiment : String} {materials : Option String}
      (asked : route request = .trials experiment materials) :
      Sound files server request (ticketed ticket experiment materials)
  | checked {ticket : Nat} {experiment : String} {parameter : Option String} {e : Experiment}
      {materials : MaterialsBundle} {materialsId : String}
      (asked : route request = .trials experiment parameter)
      (ready : (server.engine ticket).prepare files server.store experiment parameter =
        .ok (e, materials, materialsId)) :
      Sound files server request (checked ticket e materials materialsId)
  | settled {ticket : Nat} {experiment : String} {materials : Option String}
      {outcome : Engine.Outcome} (asked : route request = .trials experiment materials)
      (outcome_eq : ((Engine.fromStore files server.store experiment materials).run.run
        (server.engine ticket)).1 = outcome) :
      Sound files server request (settled ticket outcome)
  | answered {ticket : Nat} {experiment : String} {materials : Option String}
      (asked : route request = .trials experiment materials) :
      Sound files server request
        (answered (some ticket) (finish request (server.answer files ticket experiment materials)))
  | listed (asked : route request = .experiments) :
      Sound files server request (answered none (finish request server.listing))
  | refused {response : Response} (asked : route request = .refused response) :
      Sound files server request (answered none (finish request response))

/-- A request keeps its ticket whatever its checks come to. -/
theorem ticket?_ofCheck (ticket : Nat)
    (result : Except EngineError (Experiment × MaterialsBundle × String)) :
    (ofCheck ticket result).ticket? = some ticket := by
  cases result <;> rfl

/-- Only an answered request is at its end. -/
theorem distance_eq_zero {phase : Phase} (h : phase.distance = 0) :
    ∃ ticket response, phase = answered ticket response := by
  cases phase with
  | answered ticket response => exact ⟨ticket, response, rfl⟩
  | arrived | ticketed | checked | settled => exact nomatch h

section

variable [Complaints] {files : FileSystem} {server server' : Server} {request : Request}
  {phase phase' : Phase}

/-- A request for the list of experiments is answered in one step, without a ticket. -/
theorem run_advance_of_experiments (asked : route request = .experiments) :
    (arrived.advance files request).run server =
      (answered none (finish request server.listing), server) := by
  unfold advance
  rw [asked]
  rfl

/-- A request for trials takes the next ticket first. -/
theorem run_advance_of_trials {experiment : String} {materials : Option String}
    (asked : route request = .trials experiment materials) :
    (arrived.advance files request).run server =
      (ticketed server.tickets experiment materials,
        { server with tickets := server.tickets + 1 }) := by
  unfold advance
  rw [asked]
  rfl

/-- A refused request is answered in one step, without a ticket. -/
theorem run_advance_of_refused {response : Response}
    (asked : route request = .refused response) :
    (arrived.advance files request).run server =
      (answered none (finish request response), server) := by
  unfold advance
  rw [asked]
  rfl

/-- The first step gives a request for a trial set its ticket, and answers any other. -/
theorem arrived_cases (h : (arrived.advance files request).run server = (phase', server')) :
    (route request = .experiments ∧ phase' = answered none (finish request server.listing) ∧
      server' = server) ∨
    (∃ experiment materials, route request = .trials experiment materials ∧
      phase' = ticketed server.tickets experiment materials ∧
      server' = { server with tickets := server.tickets + 1 }) ∨
    ∃ response, route request = .refused response ∧
      phase' = answered none (finish request response) ∧ server' = server := by
  cases asked : route request with
  | experiments =>
    rw [run_advance_of_experiments asked] at h
    obtain ⟨rfl, rfl⟩ := Prod.mk.inj h
    exact .inl ⟨rfl, rfl, rfl⟩
  | trials experiment materials =>
    rw [run_advance_of_trials asked] at h
    obtain ⟨rfl, rfl⟩ := Prod.mk.inj h
    exact .inr (.inl ⟨experiment, materials, rfl, rfl, rfl⟩)
  | refused response =>
    rw [run_advance_of_refused asked] at h
    obtain ⟨rfl, rfl⟩ := Prod.mk.inj h
    exact .inr (.inr ⟨response, rfl, rfl, rfl⟩)

/-- A request that fails a check is settled without a look at the files. -/
theorem run_advance_of_refusal {ticket : Nat} {experiment : String} {materials : Option String}
    {error : EngineError} (refused : Engine.Refused server.registry experiment materials error) :
    ((ticketed ticket experiment materials).advance files request).run server =
      (settled ticket (.error error), server) := by
  show (ofCheck ticket ((server.engine ticket).prepare files server.store experiment materials),
    server) = _
  rw [Engine.prepare_of_refused refused]
  rfl

/-- What a request needs is the same whichever ticket it holds. -/
theorem prepare_engine (server : Server) (ticket ticket' : Nat) (experiment : String)
    (materials : Option String) :
    (server.engine ticket).prepare files server.store experiment materials =
      (server.engine ticket').prepare files server.store experiment materials := rfl

/-- A request that passes its checks keeps what they came to, however many tickets have been
given out. -/
theorem run_advance_of_prepared {ticket : Nat} {experiment : String} {materials : Option String}
    {e : Experiment} {bundle : MaterialsBundle} {materialsId : String}
    (prepared : (server.engine ticket).prepare files server.store experiment materials =
      .ok (e, bundle, materialsId)) (tickets : Nat) :
    ((ticketed ticket experiment materials).advance files request).run { server with tickets } =
      (checked ticket e bundle materialsId, { server with tickets }) := by
  show (ofCheck ticket ((server.engine ticket).prepare files server.store experiment materials),
    { server with tickets }) = _
  rw [prepared]
  rfl

/-- A request that has passed its checks is rendered, however many tickets have been given
out. -/
theorem run_advance_of_rendered {ticket : Nat} {e : Experiment} {bundle : MaterialsBundle}
    {materialsId : String} {set : TrialSet}
    (rendered : (server.engine ticket).rendered e bundle materialsId = .ok set) (tickets : Nat) :
    ((checked ticket e bundle materialsId).advance files request).run { server with tickets } =
      (settled ticket (.ok set), { server with tickets }) := by
  show (settled ticket ((server.engine ticket).rendered e bundle materialsId),
    { server with tickets }) = _
  rw [rendered]

/-- **What one step can do:** give the request the next ticket, or leave its ticket and
the server as they are. -/
theorem advance_eq (h : (phase.advance files request).run server = (phase', server')) :
    (phase.ticket? = none ∧ phase'.ticket? = some server.tickets ∧
      server' = { server with tickets := server.tickets + 1 }) ∨
    (phase'.ticket? = phase.ticket? ∧ server' = server) := by
  cases phase with
  | arrived =>
    obtain ⟨-, rfl, rfl⟩ | ⟨_, _, -, rfl, rfl⟩ | ⟨_, -, rfl, rfl⟩ := arrived_cases h
    · exact .inr ⟨rfl, rfl⟩
    · exact .inl ⟨rfl, rfl, rfl⟩
    · exact .inr ⟨rfl, rfl⟩
  | ticketed ticket experiment materials =>
    obtain ⟨rfl, rfl⟩ := Prod.mk.inj h
    exact .inr ⟨ticket?_ofCheck .., rfl⟩
  | checked ticket e materials materialsId =>
    obtain ⟨rfl, rfl⟩ := Prod.mk.inj h
    exact .inr ⟨rfl, rfl⟩
  | settled ticket outcome =>
    obtain ⟨rfl, rfl⟩ := Prod.mk.inj h
    exact .inr ⟨rfl, rfl⟩
  | answered ticket response =>
    obtain ⟨rfl, rfl⟩ := Prod.mk.inj h
    exact .inr ⟨rfl, rfl⟩

/-- A step with a request that is not answered brings it nearer to its response. -/
theorem distance_advance_lt (hphase : phase.distance ≠ 0)
    (h : (phase.advance files request).run server = (phase', server')) :
    phase'.distance < phase.distance := by
  cases phase with
  | arrived =>
    obtain ⟨-, rfl, -⟩ | ⟨_, _, -, rfl, -⟩ | ⟨_, -, rfl, -⟩ := arrived_cases h
    · exact Nat.zero_lt_succ 3
    · exact Nat.lt_succ_self 3
    · exact Nat.zero_lt_succ 3
  | ticketed ticket experiment materials =>
    obtain ⟨rfl, rfl⟩ := Prod.mk.inj h
    unfold ofCheck
    split <;> simp [distance]
  | checked ticket e materials materialsId =>
    obtain ⟨rfl, rfl⟩ := Prod.mk.inj h
    exact Nat.lt_succ_self 1
  | settled ticket outcome =>
    obtain ⟨rfl, rfl⟩ := Prod.mk.inj h
    exact Nat.lt_succ_self 0
  | answered ticket response => exact absurd rfl hphase

/-- **A step keeps a request sound,** whatever number of tickets was given out. -/
theorem Sound.advance (sound : phase.Sound files server request) {tickets : Nat}
    (h : (phase.advance files request).run { server with tickets } = (phase', server')) :
    phase'.Sound files server request := by
  cases sound with
  | arrived =>
    obtain ⟨asked, rfl, -⟩ | ⟨_, _, asked, rfl, -⟩ | ⟨_, asked, rfl, -⟩ := arrived_cases h
    · exact .listed asked
    · exact .ticketed asked
    · exact .refused asked
  | @ticketed ticket experiment materials asked =>
    obtain ⟨rfl, rfl⟩ := Prod.mk.inj h
    show Sound files server request
      (ofCheck ticket ((server.engine ticket).prepare files server.store experiment materials))
    cases hready : (server.engine ticket).prepare files server.store experiment materials with
    | ok ready => exact .checked asked hready
    | error error =>
      refine .settled asked ?_
      rw [Engine.run_fromStore, hready]
  | checked asked ready =>
    obtain ⟨rfl, rfl⟩ := Prod.mk.inj h
    refine .settled asked ?_
    rw [Engine.run_fromStore, ready]
    rfl
  | settled asked outcome_eq =>
    obtain ⟨rfl, rfl⟩ := Prod.mk.inj h
    rw [← outcome_eq]
    exact .answered asked
  | answered asked =>
    obtain ⟨rfl, rfl⟩ := Prod.mk.inj h
    exact .answered asked
  | listed asked =>
    obtain ⟨rfl, rfl⟩ := Prod.mk.inj h
    exact .listed asked
  | refused asked =>
    obtain ⟨rfl, rfl⟩ := Prod.mk.inj h
    exact .refused asked

end

end Phase

/-! ## A request alone -/

/-- The request asks for a trial set, and then it reaches the handler that renders one. -/
def asksTrials (request : Request) : Bool :=
  match route request with
  | .trials _ _ => true
  | _ => false

/-- A fresh server whose seed is the server's plus a ticket. -/
def reseeded (server : Server) (ticket : Nat) : Server :=
  { server with seed := server.seed + UInt64.ofNat ticket, tickets := 0 }

section

variable {files : FileSystem} {server : Server} {request : Request} {phase : Phase}

/-- The engine of a ticket is the first engine of the server reseeded for it. -/
theorem engine_reseeded (server : Server) (ticket : Nat) :
    (server.reseeded ticket).engine 0 = server.engine ticket := by
  have hzero : UInt64.ofNat 0 = 0 := rfl
  unfold engine reseeded
  rw [hzero, UInt64.add_zero]

/-- `GET /experiments` asks for the list of experiments. -/
theorem route_experiments (hpath : (splitTarget request.target).1 = "/experiments")
    (hget : request.method = "GET") : route request = .experiments := by
  unfold route
  simp [hpath, hget]

/-- A `GET` of a target of the trials path asks for the experiment that its last segment names
and for the materials that its query names. -/
theorem route_trials {segment experiment : String} {materials : Option String}
    (hget : request.method = "GET")
    (hsegment : experimentSegment? (splitTarget request.target).1 = some segment)
    (hexperiment : decodeSegment? segment = some experiment)
    (hmaterials : single? (formPairs (splitTarget request.target).2) "materials" = some materials) :
    route request = .trials experiment materials := by
  have hpath : (splitTarget request.target).1 ≠ "/experiments" := by
    intro hpath
    have hnone : experimentSegment? "/experiments" = none := by decide +kernel
    rw [hpath, hnone] at hsegment
    exact nomatch hsegment
  unfold route
  simp only [if_neg hpath, hsegment, hget]
  unfold trialsRoute
  rw [hexperiment, hmaterials]
  rfl

/-- The response to a `GET` request keeps its body. -/
theorem finish_of_get (hget : request.method = "GET") (response : Response) :
    finish request response = response := by
  rw [finish, hget]
  rfl

variable [Complaints]

/-- The first request that a server gets holds the first ticket. -/
theorem run_handle_reseeded {ticket : Nat} {experiment : String} {materials : Option String}
    (asked : route request = .trials experiment materials) :
    ((handle files request).run (server.reseeded ticket)).1 =
      finish request (server.answer files ticket experiment materials) := by
  unfold handle
  rw [asked]
  show finish request ((server.reseeded ticket).answer files 0 experiment materials) = _
  unfold answer
  rw [engine_reseeded]
  rfl

/-- A request that has begun has a ticket just if it asks for trials. -/
theorem Phase.Sound.ticket?_isSome (sound : phase.Sound files server request)
    (begun : phase ≠ .arrived) : phase.ticket?.isSome = asksTrials request := by
  unfold asksTrials
  cases sound with
  | arrived => exact absurd rfl begun
  | ticketed asked | checked asked | settled asked | answered asked | listed asked
  | refused asked => rw [asked]; rfl

/-- A response with a ticket is that of a server reseeded for the ticket, to the request
alone. -/
theorem Phase.Sound.response_eq {ticket : Nat} {response : Response}
    (sound : (Phase.answered (some ticket) response).Sound files server request) :
    response = ((handle files request).run (server.reseeded ticket)).1 := by
  cases sound with
  | answered asked => exact (run_handle_reseeded asked).symm

/-- A request for the list of experiments has arrived, or is answered with the list. -/
theorem Phase.Sound.eq_listing (sound : phase.Sound files server request)
    (asked : route request = .experiments) :
    phase = .arrived ∨ phase = .answered none (finish request server.listing) := by
  cases sound with
  | arrived => exact .inl rfl
  | listed => exact .inr rfl
  | ticketed asked' | checked asked' | settled asked' | answered asked' | refused asked' =>
    rw [asked] at asked'
    exact nomatch asked'

end

/-! ## Traffic -/

/-- A request, and how far the server is with it. -/
structure Exchange where
  request : Request
  phase : Phase

/-- The tickets that the requests hold. -/
def held (exchanges : List Exchange) : List Nat := exchanges.filterMap (·.phase.ticket?)

/-- The number of steps to all responses at most. -/
def distance (exchanges : List Exchange) : Nat := (exchanges.map (·.phase.distance)).sum

/-- A server with its requests, from the first to the last. -/
structure Traffic where
  server : Server
  exchanges : List Exchange

namespace Traffic

/-- The requests have come, and nothing has been done about them. -/
def start (server : Server) (requests : List Request) : Traffic :=
  ⟨server, requests.map fun request => ⟨request, .arrived⟩⟩

/-- The server goes one step on with one of the requests, whichever it is. -/
inductive Step [Complaints] (files : FileSystem) : Traffic → Traffic → Prop
  | advance {server server' : Server} {request : Request} {phase phase' : Phase}
      (before after : List Exchange)
      (h : (phase.advance files request).run server = (phase', server')) :
      Step files ⟨server, before ++ ⟨request, phase⟩ :: after⟩
        ⟨server', before ++ ⟨request, phase'⟩ :: after⟩

/-- Steps with the requests, in one interleaving. -/
def Run [Complaints] (files : FileSystem) : Traffic → Traffic → Prop := Relation.ReflTransGen (Step files)

end Traffic

section

variable {files : FileSystem} {server server' : Server} {request : Request}
  {phase phase' : Phase} {exchanges : List Exchange}

/-- The tickets in the order of the requests. -/
theorem held_append_cons (before after : List Exchange) (request : Request) (phase : Phase) :
    held (before ++ ⟨request, phase⟩ :: after) =
      held before ++ (phase.ticket?.toList ++ held after) := by
  unfold held
  rw [List.filterMap_append, List.filterMap_cons]
  cases phase.ticket? <;> rfl

/-- The steps that are left add up over the requests. -/
theorem distance_append_cons (before after : List Exchange) (request : Request) (phase : Phase) :
    distance (before ++ ⟨request, phase⟩ :: after) =
      distance before + (phase.distance + distance after) := by
  unfold distance
  rw [List.map_append, List.map_cons, List.sum_append, List.sum_cons]

variable [Complaints]

/-- A step adds the next ticket to those that are held, or leaves them and the server as
they are. -/
theorem held_of_advance (before after : List Exchange)
    (h : (phase.advance files request).run server = (phase', server')) :
    ((held (before ++ ⟨request, phase'⟩ :: after)).Perm
        (held (before ++ ⟨request, phase⟩ :: after) ++ [server.tickets]) ∧
      server' = { server with tickets := server.tickets + 1 }) ∨
    (held (before ++ ⟨request, phase'⟩ :: after) = held (before ++ ⟨request, phase⟩ :: after) ∧
      server' = server) := by
  rw [held_append_cons, held_append_cons]
  rcases Phase.advance_eq h with ⟨hnone, hsome, hserver⟩ | ⟨hsame, hserver⟩
  · rw [hnone, hsome]
    exact .inl ⟨List.perm_middle.trans (List.perm_append_singleton _ _).symm, hserver⟩
  · rw [hsame]
    exact .inr ⟨rfl, hserver⟩

/-- As many tickets are held as requests for trial sets have been begun. -/
theorem length_held (begun : ∀ exchange ∈ exchanges, exchange.phase ≠ .arrived)
    (sound : ∀ exchange ∈ exchanges, exchange.phase.Sound files server exchange.request) :
    (held exchanges).length = (exchanges.map (·.request)).countP asksTrials := by
  unfold held
  rw [List.length_filterMap_eq_countP, List.countP_map]
  refine List.countP_congr fun exchange hexchange => ?_
  rw [(sound exchange hexchange).ticket?_isSome (begun exchange hexchange), Function.comp_apply]

end

namespace Traffic

/-- What every step keeps; `server` had these requests before the first one. -/
structure Invariant [Complaints] (files : FileSystem) (server : Server) (requests : List Request)
    (traffic : Traffic) : Prop where
  requests_eq : traffic.exchanges.map (·.request) = requests
  server_eq : traffic.server =
    { server with tickets := server.tickets + (held traffic.exchanges).length }
  held_perm : (held traffic.exchanges).Perm
    (List.range' server.tickets (held traffic.exchanges).length)
  sound : ∀ exchange ∈ traffic.exchanges, exchange.phase.Sound files server exchange.request

section

variable [Complaints] {files : FileSystem} {server : Server} {requests : List Request}
  {traffic traffic' : Traffic}

/-- **The start of all traffic** satisfies the invariant. -/
theorem invariant_start (files : FileSystem) (server : Server) (requests : List Request) :
    (start server requests).Invariant files server requests := by
  have hheld : held (start server requests).exchanges = [] := by
    simp [start, held, Phase.ticket?]
  constructor
  · unfold start
    rw [List.map_map]
    exact List.map_id _
  · rw [hheld]
    rfl
  · rw [hheld]
    exact .nil
  · intro exchange hexchange
    obtain ⟨request, -, rfl⟩ := List.mem_map.1 hexchange
    exact .arrived

/-- **A step keeps the invariant,** with whichever request it is made. -/
theorem Invariant.step (h : traffic.Invariant files server requests)
    (step : Step files traffic traffic') : traffic'.Invariant files server requests := by
  obtain ⟨requests_eq, server_eq, held_perm, sound⟩ := h
  cases step with
  | @advance current current' request phase phase' before after hstep =>
    dsimp only at requests_eq server_eq held_perm sound
    have hrequests : (before ++ ⟨request, phase'⟩ :: after).map Exchange.request = requests := by
      rw [← requests_eq, List.map_append, List.map_append, List.map_cons, List.map_cons]
    have hphase : phase'.Sound files server request := by
      rw [server_eq] at hstep
      exact (sound ⟨request, phase⟩ (by simp)).advance hstep
    have hsound : ∀ exchange ∈ before ++ ⟨request, phase'⟩ :: after,
        exchange.phase.Sound files server exchange.request := by
      intro exchange hexchange
      rcases List.mem_append.1 hexchange with hmem | hmem
      · exact sound exchange (List.mem_append_left _ hmem)
      · rcases List.mem_cons.1 hmem with rfl | hmem
        · exact hphase
        · exact sound exchange (List.mem_append_right _ (List.mem_cons_of_mem _ hmem))
    rcases held_of_advance before after hstep with ⟨hheld, rfl⟩ | ⟨hheld, rfl⟩
    -- The ticket that is taken continues the row, wherever its request stands.
    · have hlength := hheld.length_eq
      rw [List.length_append, List.length_singleton] at hlength
      have hnext : current.tickets =
          server.tickets + (held (before ++ ⟨request, phase⟩ :: after)).length :=
        congrArg Server.tickets server_eq
      refine ⟨hrequests, ?_, ?_, hsound⟩
      · rw [hlength]
        exact congrArg (fun s : Server => { s with tickets := s.tickets + 1 }) server_eq
      · rw [hlength, List.range'_concat, Nat.one_mul, ← hnext]
        exact hheld.trans (held_perm.append_right _)
    · exact ⟨hrequests, hheld ▸ server_eq, hheld ▸ held_perm, hsound⟩

/-- **A run keeps the invariant.** -/
theorem Invariant.run (h : traffic.Invariant files server requests)
    (run : Run files traffic traffic') : traffic'.Invariant files server requests := by
  induction run with
  | refl => exact h
  | tail _ step ih => exact ih.step step

/-- A run can go on until all requests are answered. -/
theorem exists_run_answered (files : FileSystem) (traffic : Traffic) :
    ∃ last, Run files traffic last ∧ ∀ exchange ∈ last.exchanges, exchange.phase.distance = 0 := by
  induction hn : distance traffic.exchanges using Nat.strong_induction_on generalizing traffic with
  | _ n ih =>
    by_cases hall : ∀ exchange ∈ traffic.exchanges, exchange.phase.distance = 0
    · exact ⟨traffic, .refl, hall⟩
    · push Not at hall
      obtain ⟨⟨request, phase⟩, hmem, hphase⟩ := hall
      obtain ⟨server, exchanges⟩ := traffic
      obtain ⟨before, after, rfl⟩ := List.append_of_mem hmem
      obtain ⟨⟨phase', server'⟩, hstep⟩ :
          ∃ next, (phase.advance files request).run server = next := ⟨_, rfl⟩
      have hphase' : phase'.distance < phase.distance := Phase.distance_advance_lt hphase hstep
      have hless : distance (before ++ ⟨request, phase'⟩ :: after) < n := by
        rw [← hn, distance_append_cons, distance_append_cons]
        omega
      obtain ⟨last, run, hlast⟩ :=
        ih _ hless ⟨server', before ++ ⟨request, phase'⟩ :: after⟩ rfl
      exact ⟨last, .head (.advance before after hstep) run, hlast⟩

end

/-- What clients can rely on; `server` had these requests before the first step. -/
structure Consistent [Complaints] (files : FileSystem) (server : Server) (requests : List Request)
    (traffic : Traffic) : Prop where
  /-- No request is lost. -/
  requests_eq : traffic.exchanges.map (·.request) = requests
  /-- Of the server, only the number of tickets changes. -/
  server_eq : traffic.server =
    { server with tickets := server.tickets + (held traffic.exchanges).length }
  /-- The tickets held are the next ones in a row, each of them once. -/
  held_perm : (held traffic.exchanges).Perm
    (List.range' server.tickets (held traffic.exchanges).length)
  /-- A request holds a ticket if it asks for a trial set and has been begun, and only then. -/
  holds_iff : ∀ exchange ∈ traffic.exchanges, exchange.phase.ticket?.isSome = true ↔
    exchange.phase ≠ .arrived ∧ asksTrials exchange.request = true
  /-- When all have been begun, as many tickets are held as requests ask for trial sets. -/
  length_held : (∀ exchange ∈ traffic.exchanges, exchange.phase ≠ .arrived) →
    (held traffic.exchanges).length = requests.countP asksTrials
  /-- A request with a ticket is answered as if it came alone, to a fresh server whose
  seed is the seed plus the ticket. -/
  response_eq : ∀ exchange ∈ traffic.exchanges, ∀ ticket response,
    exchange.phase = .answered (some ticket) response →
      response = ((handle files exchange.request).run (server.reseeded ticket)).1
  /-- The names of the experiments are listed in order, each once, and without a ticket. -/
  listing : ∃ names : List String, names.Pairwise (· < ·) ∧
    (∀ name, name ∈ names ↔ (server.registry.create? name).isSome = true) ∧
    ∀ exchange ∈ traffic.exchanges, exchange.request.method = "GET" →
      (splitTarget exchange.request.target).1 = "/experiments" →
      exchange.phase = .arrived ∨
        exchange.phase = .answered none (.json (.arr (names.map .str)))
  /-- The steps can go on until all requests are answered. -/
  exists_last : ∃ last, Run files traffic last ∧
    ∀ exchange ∈ last.exchanges, ∃ ticket response, exchange.phase = .answered ticket response

end Traffic

/-- **Requests answered side by side are answered as if they came alone,** in every
interleaving of their steps. -/
theorem consistent_of_interleaving [Complaints] {files : FileSystem} {server : Server}
    {requests : List Request} {traffic : Traffic}
    (run : Traffic.Run files (.start server requests) traffic) :
    traffic.Consistent files server requests := by
  obtain ⟨requests_eq, server_eq, held_perm, sound⟩ :=
    (Traffic.invariant_start files server requests).run run
  refine ⟨requests_eq, server_eq, held_perm, ?_, ?_, ?_, ?_, ?_⟩
  · intro exchange hexchange
    by_cases begun : exchange.phase = .arrived
    · simp [begun, Phase.ticket?]
    · rw [(sound exchange hexchange).ticket?_isSome begun]
      exact ⟨fun h => ⟨begun, h⟩, fun h => h.2⟩
  · intro begun
    rw [← requests_eq]
    exact length_held begun sound
  · intro exchange hexchange ticket response hphase
    have hsound := sound exchange hexchange
    rw [hphase] at hsound
    exact hsound.response_eq
  · refine ⟨server.registry.names, server.registry.pairwise_names,
      server.registry.mem_names_iff, fun exchange hexchange hget hpath => ?_⟩
    have hlisting := (sound exchange hexchange).eq_listing (route_experiments hpath hget)
    rw [finish_of_get hget] at hlisting
    exact hlisting
  · obtain ⟨last, hrun, hlast⟩ := Traffic.exists_run_answered files traffic
    exact ⟨last, hrun, fun exchange hexchange => Phase.distance_eq_zero (hlast exchange hexchange)⟩

/-- A store with two fillers. -/
def pets : FileSystem := .ofReads
  [("materials/paint.json", .ok "\x7b\"name\":\"paint\"\x7d".toUTF8),
   ("materials/pets.json", .ok
    "[\"pets\",[\x7b\"id\":1,\"good_sentence\":\"cats sleep\",\"bad_sentence\":\"cats sleeps\",\"manipulation\":\"agreement\",\"bad_ungrammatical\":true\x7d,\x7b\"id\":2,\"good_sentence\":\"dogs bark\",\"bad_sentence\":\"dogs barks\",\"manipulation\":\"agreement\",\"bad_ungrammatical\":true\x7d]]".toUTF8)]

/-- A server as it is started. Its one experiment shows one of two fillers. -/
def started (seed : UInt64) : Server := ⟨Engine.oneChoice, .tomAndAnn, ⟨"materials"⟩, seed, 0⟩

/-- A request for a trial set with one of these fillers. -/
def petsRequest : Request := ⟨"GET", "/trials/one_choice?materials=paint,pets"⟩

/-- The third of four requests takes the first ticket, the names are listed, and the last one
takes a ticket and is refused.  The first request asks for what the third one asked for, but
holds another ticket, so it is answered with another filler, and before the third one is. -/
theorem consistent_of_interleaving_of_pets :
    letI := Complaints.silent
    ∃ (traffic : Traffic) (dogs cats : TrialSet),
      Traffic.Run pets (.start (started 7)
        [petsRequest, ⟨"GET", "/experiments"⟩, petsRequest, ⟨"GET", "/trials/99"⟩]) traffic ∧
      traffic.exchanges.map Exchange.phase =
        [.answered (some 2) (.json dogs.toJson), .answered none (started 7).listing,
          .answered (some 0) (.json cats.toJson),
          .answered (some 1) (.text 404 "unknown experiment '99'")] ∧
      dogs.trials.flatMap Trial.sentenceTexts = ["Dogs bark.", "Dogs barks."] ∧
      cats.trials.flatMap Trial.sentenceTexts = ["Cats sleep.", "Cats sleeps."] ∧
      traffic.Consistent pets (started 7)
        [petsRequest, ⟨"GET", "/experiments"⟩, petsRequest, ⟨"GET", "/trials/99"⟩] := by
  let := Complaints.silent
  have asks : route petsRequest = .trials "one_choice" (some "paint,pets") :=
    route_trials rfl (by decide +kernel : _ = some "one_choice") (by decide +kernel)
      (by decide +kernel)
  have lists : route ⟨"GET", "/experiments"⟩ = .experiments :=
    route_experiments (by decide +kernel) rfl
  have asks_unknown : route ⟨"GET", "/trials/99"⟩ = .trials "99" none :=
    route_trials rfl (by decide +kernel : _ = some "99") (by decide +kernel) (by decide +kernel)
  have unknown : Engine.oneChoice.create? "99" = none := by decide +kernel
  -- What the request asks for is read once, and rendered with each of its tickets.
  have hready : (((started 7).engine 0).prepare pets ⟨"materials"⟩ "one_choice"
      (some "paint,pets")).toOption.map (fun ready =>
        [2, 0].map fun ticket => (((started 7).engine ticket).rendered ready.1 ready.2.1
          ready.2.2).toOption.map fun set => set.trials.flatMap Trial.sentenceTexts) =
      some [some ["Dogs bark.", "Dogs barks."], some ["Cats sleep.", "Cats sleeps."]] := by
    decide +kernel
  obtain ⟨⟨e, bundle, materialsId⟩, prepared, hshown⟩ := exists_ok_of_toOption hready
  have prepared' := (Phase.prepare_engine (started 7) 2 0 "one_choice" _).trans prepared
  obtain ⟨hdogs, hcats⟩ := List.cons.inj hshown
  obtain ⟨dogs, rendersDogs, showsDogs⟩ := exists_ok_of_toOption hdogs
  obtain ⟨cats, rendersCats, showsCats⟩ := exists_ok_of_toOption (List.cons.inj hcats).1
  have run : Traffic.Run pets (.start (started 7)
      [petsRequest, ⟨"GET", "/experiments"⟩, petsRequest, ⟨"GET", "/trials/99"⟩])
      ⟨{ started 7 with tickets := 3 },
        [⟨petsRequest, .answered (some 2) (.json dogs.toJson)⟩,
          ⟨⟨"GET", "/experiments"⟩, .answered none (started 7).listing⟩,
          ⟨petsRequest, .answered (some 0) (.json cats.toJson)⟩,
          ⟨⟨"GET", "/trials/99"⟩, .answered (some 1) (.text 404 "unknown experiment '99'")⟩]⟩ := by
    refine .head (.advance [_, _] [_] (Phase.run_advance_of_trials asks)) ?_
    refine .head (.advance [_] [_, _] (Phase.run_advance_of_experiments lists)) ?_
    refine .head (.advance [_, _, _] [] (Phase.run_advance_of_trials asks_unknown)) ?_
    refine .head (.advance [] [_, _, _] (Phase.run_advance_of_trials asks)) ?_
    refine .head (.advance [] [_, _, _] (Phase.run_advance_of_prepared prepared' 3)) ?_
    refine .head (.advance [_, _, _] []
      (Phase.run_advance_of_refusal (.unknownExperiment unknown))) ?_
    refine .head (.advance [_, _] [_] (Phase.run_advance_of_prepared prepared 3)) ?_
    refine .head (.advance [] [_, _, _] (Phase.run_advance_of_rendered rendersDogs 3)) ?_
    refine .head (.advance [] [_, _, _] rfl) ?_
    refine .head (.advance [_, _] [_] (Phase.run_advance_of_rendered rendersCats 3)) ?_
    refine .head (.advance [_, _] [_] rfl) ?_
    exact .single (.advance [_, _, _] [] rfl)
  exact ⟨_, dogs, cats, run, rfl, showsDogs, showsCats, consistent_of_interleaving run⟩

end Server
end Alternation
