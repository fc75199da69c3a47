import Mathlib.Data.List.Forall2
import FieldRules.Proofs.Rpc.Response

/-!
# What a server answers

A server reads lines until the input ends, reading fails or it is interrupted. When it has been told
to stop, it waits for one more line that is not blank, and ends with it. Every line that is read and
is not blank has one response, in the order of the lines, with the identifier of its request. At its
end the server has closed its service, whatever it ended with.

Results:
* `id_of_answer`: a response carries the identifier of the request.
* `closed_feedAll`: a server that has ended has closed its service, whatever it has ended with.
* `feedAll_serves`: what events do to a server, one after the other.
* `serves_of_readable`: what is put out is the responses to the lines that are to be answered.
-/

namespace FieldRules.Rpc

/-! ## Lines that are to be answered -/

/-- Whether the input of a server ends with an event. -/
def Event.endsInput : Event → Bool
  | .interrupt | .failure _ | .inputEnd => true
  | .line _ | .stop => false

/-- The line that comes in with an event, unless it is blank. -/
def Event.request? : Event → Option String
  | .line text => if Server.trimmed text = "" then none else some text
  | _ => none

/-- The lines that come in with events and are not blank. -/
def requests (events : List Event) : List String := events.filterMap Event.request?

/-- The events up to the end of the input. -/
def untilEnd (events : List Event) : List Event := events.takeWhile fun e => !e.endsInput

/-- The events before a server is told to stop. -/
def beforeStop (events : List Event) : List Event := (untilEnd events).takeWhile (· ≠ .stop)

/-- The events from that on. -/
def fromStop (events : List Event) : List Event := (untilEnd events).dropWhile (· ≠ .stop)

/-- The lines that are to be answered: all that come in before the server is told to stop, and one
    more. Blank lines do not count. -/
def answered (events : List Event) : List String :=
  requests (beforeStop events) ++ (requests (fromStop events)).take 1

/-- Whether a server ends with events: the input does, or a line comes in after the server has been
    told to stop. -/
def endsWith (events : List Event) : Bool :=
  events.any Event.endsInput || !(requests (fromStop events)).isEmpty

/-- The lines that are still to be answered by a server, which may have been told to stop. -/
def stillAnswered (isRunning : Bool) (events : List Event) : List String :=
  if isRunning then answered events else (requests (untilEnd events)).take 1

/-- Whether a server ends with further events, when it may have been told to stop. -/
def stillEnds (isRunning : Bool) (events : List Event) : Bool :=
  if isRunning then endsWith events
  else events.any Event.endsInput || !(requests (untilEnd events)).isEmpty

section Lines

variable {isRunning : Bool} {event : Event} {text : String} {events : List Event}

@[simp] theorem requests_nil : requests [] = [] := rfl

@[simp] theorem requests_stop : requests (.stop :: events) = requests events := rfl

@[simp] theorem untilEnd_stop : untilEnd (.stop :: events) = .stop :: untilEnd events := rfl

@[simp] theorem untilEnd_line :
    untilEnd (.line text :: events) = .line text :: untilEnd events := rfl

theorem requests_blank (h : Server.trimmed text = "") :
    requests (.line text :: events) = requests events := by
  simp [requests, Event.request?, h]

theorem requests_line (h : Server.trimmed text ≠ "") :
    requests (.line text :: events) = text :: requests events := by
  simp [requests, Event.request?, h]

theorem stillAnswered_of_endsInput (h : event.endsInput = true) :
    stillAnswered isRunning (event :: events) = [] ∧
      stillEnds isRunning (event :: events) = true := by
  have huntil : untilEnd (event :: events) = [] := by simp [untilEnd, h]
  cases isRunning <;>
    simp [stillAnswered, stillEnds, answered, endsWith, beforeStop, fromStop, huntil, h]

theorem stillAnswered_stop :
    stillAnswered isRunning (.stop :: events) = stillAnswered false events ∧
      stillEnds isRunning (.stop :: events) = stillEnds false events := by
  cases isRunning <;>
    simp [stillAnswered, stillEnds, answered, endsWith, beforeStop, fromStop, Event.endsInput]

theorem stillAnswered_of_blank (h : Server.trimmed text = "") :
    stillAnswered isRunning (.line text :: events) = stillAnswered isRunning events ∧
      stillEnds isRunning (.line text :: events) = stillEnds isRunning events := by
  cases isRunning <;>
    simp [stillAnswered, stillEnds, answered, endsWith, beforeStop, fromStop, requests_blank h,
      Event.endsInput]

theorem stillAnswered_line (h : Server.trimmed text ≠ "") :
    stillAnswered true (.line text :: events) = text :: stillAnswered true events ∧
      stillEnds true (.line text :: events) = stillEnds true events := by
  simp [stillAnswered, stillEnds, answered, endsWith, beforeStop, fromStop, requests_line h,
    Event.endsInput]

theorem stillAnswered_last (h : Server.trimmed text ≠ "") :
    stillAnswered false (.line text :: events) = [text] ∧
      stillEnds false (.line text :: events) = true := by
  simp [stillAnswered, stillEnds, requests_line h]

end Lines

/-! ## Identifiers -/

/-- A response carries the identifier that a line has, if the line is an object with the version of
    the protocol; none counts as null. -/
def CarriesId (text : String) (r : Response) : Prop :=
  ∀ parts : Entries Value, Json.read text.toList = .ok (.map parts) →
    parts.get? "jsonrpc" = some (.text version) → r.id = (parts.get? "id").getD .null

/-- The envelope of an object with the version is read, or refused with the identifier. -/
theorem id_of_read {parts : Entries Value} (h : parts.get? "jsonrpc" = some (.text version)) :
    (∃ request, Request.read (.map parts) = .ok request ∧
        request.id = (parts.get? "id").getD .null) ∨
      ∃ refusal, Request.read (.map parts) = .error ((parts.get? "id").getD .null, refusal) := by
  have hversion : (Value.text version).same (.text version) = true := by decide
  unfold Request.read
  simp only [h, Option.getD_some, hversion]
  split
  · next hfalse => cases hfalse
  · split
    · exact .inr ⟨_, rfl⟩
    · split
      · exact .inl ⟨_, rfl, rfl⟩
      · exact .inr ⟨_, rfl⟩

section Answer

variable {σ : Type} {host : Host (StateM σ)}

/-- A response carries the identifier of the request, whether it has a result or an error. -/
theorem id_of_answer {service service' : Service} {world world' : σ} {text : String}
    {notes : List String} {r : Response}
    (h : ((answer host text.toList).run service).run world =
      ((.ok (notes, r), service'), world')) : CarriesId text r := by
  intro parts hread hversion
  unfold answer at h
  rw [hread] at h
  simp only at h
  rcases id_of_read hversion with ⟨request, hrequest, hid⟩ | ⟨refusal, hrefusal⟩
  · rw [hrequest] at h
    cases h
    exact hid
  · rw [hrefusal] at h
    cases h
    rfl

/-- What is answered to lines, one after the other, and what that leaves of a service and its
    world. -/
inductive Answers (host : Host (StateM σ)) :
    Service → σ → List String → List Response → Service → σ → Prop where
  | nil (service : Service) (world : σ) : Answers host service world [] [] service world
  | cons {service service₁ service₂ : Service} {world world₁ world₂ : σ} {text : String}
      {notes : List String} {r : Response} {lines : List String} {rs : List Response}
      (h : ((answer host text.toList).run service).run world =
        ((.ok (notes, r), service₁), world₁))
      (hrest : Answers host service₁ world₁ lines rs service₂ world₂) :
      Answers host service world (text :: lines) (r :: rs) service₂ world₂

theorem Answers.carriesId {service service' : Service} {world world' : σ} {lines : List String}
    {rs : List Response} (h : Answers host service world lines rs service' world') :
    List.Forall₂ CarriesId lines rs := by
  induction h with
  | nil => exact .nil
  | cons h _ ih => exact .cons (id_of_answer h) ih

end Answer

/-! ## One event -/

/-- A line that has no number with too many digits. -/
def IsReadable (text : String) : Prop :=
  ∀ count, Json.read text.toList ≠ .error (.tooManyDigits count)

theorem isReadable_of_length {text : String} (h : text.toList.length ≤ Json.digitLimit) :
    IsReadable text := by
  intro count hread
  obtain ⟨hlong, digits, hpart, rfl, -⟩ := Json.hasDigitRun_of_read hread
  have hlength := hpart.length_le
  omega

/-- What a server does at events, one after the other. -/
def Server.feedAll {m : Type → Type} [Monad m] (host : Host m) (s : Server) :
    List Event → m (Server × List Output)
  | [] => pure (s, [])
  | event :: rest => do
    let (s, outputs) ← s.feed host event
    let (s, later) ← feedAll host s rest
    return (s, outputs ++ later)

/-- A server whose service has been closed. -/
def Server.closed (s : Server) : Server :=
  { s with service := { s.service with pool := none }, isOver := true }

section Loop

variable {σ : Type} (host : Host (StateM σ)) {server : Server} (world : σ) {text : String}
  {event : Event}

theorem responses_append (outputs later : List Output) :
    responses (outputs ++ later) = responses outputs ++ responses later := List.filterMap_append

theorem feed_of_last_answer {notes : List String} {r : Response} {service' : Service} {world' : σ}
    (hover : server.isOver = false) (hstopped : server.isRunning = false)
    (htext : Server.trimmed text ≠ "")
    (h : ((answer host text.toList).run server.service).run world =
      ((.ok (notes, r), service'), world')) :
    ∃ outputs, (server.feed host (.line text)).run world =
        ((Server.closed { server with service := service' }, outputs), world') ∧
      responses outputs = [Json.write r.toValue] := by
  rw [feed_line host hover htext]
  unfold Server.takeLine
  simp only [StateT.run_bind]
  rw [h]
  simp only [hstopped, Bool.false_eq_true, if_false]
  refine ⟨_, rfl, ?_⟩
  simp [responses, List.filterMap_append]

theorem feed_of_endsInput (hover : server.isOver = false) (h : event.endsInput = true) :
    ∃ outputs, (server.feed host event).run world = ((server.closed, outputs), world) ∧
      responses outputs = [] := by
  cases event with
  | line | stop => cases h
  | interrupt | failure | inputEnd =>
    simp only [Server.feed, hover]
    exact ⟨_, rfl, rfl⟩

theorem feedAll_cons {server₁ server' : Server} {outputs later : List Output} {world₁ world' : σ}
    {events : List Event}
    (hfeed : (server.feed host event).run world = ((server₁, outputs), world₁))
    (hrest : (server₁.feedAll host events).run world₁ = ((server', later), world')) :
    (server.feedAll host (event :: events)).run world = ((server', outputs ++ later), world') := by
  rw [Server.feedAll, StateT.run_bind, hfeed]
  show (do
    let (s, later) ← server₁.feedAll host events
    pure (s, outputs ++ later) : StateM σ _).run world₁ = _
  rw [StateT.run_bind, hrest]
  rfl

theorem feedAll_of_isOver (hover : server.isOver = true) (events : List Event) :
    (server.feedAll host events).run world = ((server, []), world) := by
  induction events with
  | nil => rfl
  | cons event events ih =>
    rw [Server.feedAll, Server.feed_of_isOver host server event hover, pure_bind, StateT.run_bind,
      ih]
    rfl

theorem feed_stop (hover : server.isOver = false) :
    server.feed host .stop =
      pure ({ server with isRunning := false }, [.note "stop requested"]) := by
  simp [Server.feed, hover]

theorem feed_blank (hover : server.isOver = false) (htext : Server.trimmed text = "") :
    server.feed host (.line text) = pure (server, []) := by
  simp [Server.feed, hover, htext]

/-- What a server comes to with a line that is not blank: it ends and is closed, or goes on. -/
theorem takeLine_cases (server : Server) (text : String) :
    ∃ service', ((server.takeLine host text).run world).1.1 = { server with service := service' } ∨
      ((server.takeLine host text).run world).1.1 =
        Server.closed { server with service := service' } := by
  unfold Server.takeLine
  simp only [StateT.run_bind]
  rcases ((answer host text.toList).run server.service).run world with
    ⟨⟨count | ⟨notes, r⟩, service'⟩, world'⟩
  · exact ⟨service', .inr rfl⟩
  · obtain ⟨service, isRunning, isOver⟩ := server
    cases isRunning with
    | true => exact ⟨service', .inl rfl⟩
    | false => exact ⟨service', .inr rfl⟩

/-- Once a server has ended, its service is closed, whatever it has ended with. -/
theorem closed_feed (h : server.isOver = true → server.service.pool = none) :
    ((server.feed host event).run world).1.1.isOver = true →
      ((server.feed host event).run world).1.1.service.pool = none := by
  cases hover : server.isOver with
  | true =>
    rw [Server.feed_of_isOver host server event hover]
    exact h
  | false =>
    by_cases hend : event.endsInput = true
    · obtain ⟨outputs, hfeed, -⟩ := feed_of_endsInput host world hover hend
      rw [hfeed]
      exact fun _ => rfl
    · cases event with
      | interrupt | failure | inputEnd => exact absurd rfl hend
      | stop =>
        rw [feed_stop host hover]
        exact h
      | line text =>
        by_cases htext : Server.trimmed text = ""
        · rw [feed_blank host hover htext]
          exact h
        · rw [feed_line host hover htext]
          obtain ⟨service', hgoes | hends⟩ :=
            takeLine_cases host world server text
          · rw [hgoes]
            intro hnot
            cases hover.symm.trans hnot
          · rw [hends]
            exact fun _ => rfl

/-- However events come, a server that has ended with them has closed its service. -/
theorem closed_feedAll (events : List Event)
    (h : server.isOver = true → server.service.pool = none) :
    ((server.feedAll host events).run world).1.1.isOver = true →
      ((server.feedAll host events).run world).1.1.service.pool = none := by
  induction events generalizing server world with
  | nil => exact h
  | cons event events ih => exact ih _ (closed_feed host world h)

/-! ## All events -/

/-- What a server comes to that answers lines: the responses are put out in the order of the lines,
    and the service is closed if the server ends. -/
structure Serves (host : Host (StateM σ)) (service : Service) (world : σ) (lines : List String)
    (ends : Bool) (server' : Server) (outputs : List Output) (world' : σ) : Prop where
  answers : ∃ rs left, Answers host service world lines rs left world' ∧
    responses outputs = rs.map (fun r => Json.write r.toValue) ∧
    server'.service = if ends then { left with pool := none } else left
  isOver : server'.isOver = ends

theorem Serves.cons {service service₁ : Service} {world₁ world' : σ} {lines : List String}
    {ends : Bool} {server' : Server} {outputs later : List Output} {notes : List String}
    {r : Response}
    (h : ((answer host text.toList).run service).run world = ((.ok (notes, r), service₁), world₁))
    (hout : responses outputs = [Json.write r.toValue])
    (hlater : Serves host service₁ world₁ lines ends server' later world') :
    Serves host service world (text :: lines) ends server' (outputs ++ later) world' := by
  obtain ⟨⟨rs, left, hrest, hresponses, hleft⟩, hover⟩ := hlater
  exact ⟨⟨r :: rs, left, .cons h hrest, by simp [responses_append, hout, hresponses], hleft⟩, hover⟩

theorem Serves.nil (server : Server) {outputs : List Output} (hout : responses outputs = []) :
    Serves host server.service world [] true server.closed outputs world :=
  ⟨⟨[], server.service, .nil _ _, hout, rfl⟩, rfl⟩

theorem Serves.skip {service : Service} {world' : σ} {lines : List String}
    {ends : Bool} {server' : Server} {outputs later : List Output} (hout : responses outputs = [])
    (hlater : Serves host service world lines ends server' later world') :
    Serves host service world lines ends server' (outputs ++ later) world' := by
  obtain ⟨⟨rs, left, hrest, hresponses, hleft⟩, hover⟩ := hlater
  exact ⟨⟨rs, left, hrest, by simp [responses_append, hout, hresponses], hleft⟩, hover⟩

/-- What events do to a server, one after the other. -/
theorem feedAll_serves (events : List Event) (hover : server.isOver = false)
    (hread : ∀ text ∈ stillAnswered server.isRunning events, IsReadable text) :
    ∃ server' outputs world',
      (server.feedAll host events).run world = ((server', outputs), world') ∧
        Serves host server.service world (stillAnswered server.isRunning events)
          (stillEnds server.isRunning events) server' outputs world' := by
  induction events generalizing server world with
  | nil =>
    refine ⟨server, [], world, rfl, ?_⟩
    have hnone : stillAnswered server.isRunning [] = [] ∧
        stillEnds server.isRunning [] = false := by
      cases server.isRunning <;> exact ⟨rfl, rfl⟩
    rw [hnone.1, hnone.2]
    exact ⟨⟨[], server.service, .nil _ _, rfl, rfl⟩, hover⟩
  | cons event events ih =>
    by_cases hend : event.endsInput = true
    · obtain ⟨outputs, hfeed, hout⟩ := feed_of_endsInput host world hover hend
      rw [(stillAnswered_of_endsInput hend).1, (stillAnswered_of_endsInput hend).2]
      exact ⟨_, _, _, feedAll_cons host world hfeed (feedAll_of_isOver host _ rfl events), by
        simpa using Serves.nil host world server hout⟩
    · cases event with
      | interrupt | failure | inputEnd => exact absurd rfl hend
      | stop =>
        rw [stillAnswered_stop.1] at hread ⊢
        rw [stillAnswered_stop.2]
        obtain ⟨server', later, world', hrest, hserves⟩ :=
          @ih { server with isRunning := false } world hover hread
        have hfeed : (server.feed host .stop).run world =
            (({ server with isRunning := false }, [.note "stop requested"]), world) := by
          rw [feed_stop host hover]
          rfl
        exact ⟨_, _, _, feedAll_cons host world hfeed hrest, hserves.skip host world rfl⟩
      | line text =>
        by_cases htext : Server.trimmed text = ""
        · rw [(stillAnswered_of_blank htext).1] at hread ⊢
          rw [(stillAnswered_of_blank htext).2]
          obtain ⟨server', later, world', hrest, hserves⟩ := ih world hover hread
          have hfeed : (server.feed host (.line text)).run world = ((server, []), world) := by
            rw [feed_blank host hover htext]
            rfl
          exact ⟨_, _, _, feedAll_cons host world hfeed hrest, hserves.skip host world rfl⟩
        · cases hrunning : server.isRunning with
          | true =>
            rw [hrunning, (stillAnswered_line htext).1] at hread
            rw [(stillAnswered_line htext).1, (stillAnswered_line htext).2]
            obtain ⟨notes, r, service₁, world₁, h⟩ := exists_response host server.service world
              (hread text List.mem_cons_self)
            obtain ⟨outputs, hfeed, hout⟩ := feed_of_answer host world hover hrunning htext h
            obtain ⟨server', later, world', hrest, hserves⟩ :=
              @ih { server with service := service₁ } world₁ hover
                (by simpa [hrunning] using fun t ht => hread t (List.mem_cons_of_mem _ ht))
            rw [show ({ server with service := service₁ } : Server).isRunning = true from hrunning]
              at hserves
            exact ⟨_, _, _, feedAll_cons host world hfeed hrest, hserves.cons host world h hout⟩
          | false =>
            rw [hrunning, (stillAnswered_last htext).1] at hread
            rw [(stillAnswered_last htext).1, (stillAnswered_last htext).2]
            obtain ⟨notes, r, service₁, world₁, h⟩ := exists_response host server.service world
              (hread text List.mem_cons_self)
            obtain ⟨outputs, hfeed, hout⟩ := feed_of_last_answer host world hover hrunning htext h
            exact ⟨_, _, _, feedAll_cons host world hfeed (feedAll_of_isOver host _ rfl events),
              Serves.cons host world h hout
                (Serves.nil host world₁ { server with service := service₁ } rfl)⟩

end Loop

/-- A server that starts puts out one response to each line that is to be answered, in their order:
    every line that is not blank and comes in before the input ends or reading fails, and no more
    than one after the server has been told to stop. A response carries the identifier of its
    request. The server ends with the input, or with the line after it has been told to stop, and
    then its service is closed. -/
theorem serves_of_readable {σ : Type} (host : Host (StateM σ)) (service : Service) (world : σ)
    (events : List Event) (h : ∀ text ∈ answered events, IsReadable text) :
    ∃ server' outputs rs left world',
      ((Server.start service).1.feedAll host events).run world = ((server', outputs), world') ∧
        Answers host service world (answered events) rs left world' ∧
        responses outputs = rs.map (fun r => Json.write r.toValue) ∧
        List.Forall₂ CarriesId (answered events) rs ∧
        server'.isOver = endsWith events ∧
        server'.service = if endsWith events then { left with pool := none } else left := by
  obtain ⟨server', outputs, world', hrun, ⟨rs, left, hanswers, hout, hleft⟩, hover⟩ :=
    @feedAll_serves _ host (Server.start service).1 world events rfl h
  exact ⟨server', outputs, rs, left, world', hrun, hanswers, hout, hanswers.carriesId, hover, hleft⟩

/-- A server with a pool is told to stop: it skips a blank line, answers one more, and leaves the
    next. -/
theorem serves_lastLine :
    let service := { standardServer.service with pool := some ⟨.null, false⟩ }
    let world : World := ⟨[], [], [], [], .ofInt 1000, ⟨2024, 5, 31⟩, []⟩
    let age := "\x7b\"jsonrpc\": \"2.0\", \"method\": \"get_config_age\", \"id\": 7\x7d\n"
    let events := [.line age, .stop, .line " \n", .line "[]\n", .line age]
    (answered events = [age, "[]\n"] ∧ endsWith events = true) ∧
      ∃ server' outputs rs left world',
        ((Server.start service).1.feedAll (World.host "/cache") events).run world =
            ((server', outputs), world') ∧
          Answers (World.host "/cache") service world (answered events) rs left world' ∧
          responses outputs = rs.map (fun r => Json.write r.toValue) ∧
          List.Forall₂ CarriesId (answered events) rs ∧
          server'.isOver = endsWith events ∧
          server'.service = if endsWith events then { left with pool := none } else left := by
  intro service world age events
  have hanswered : answered events = [age, "[]\n"] := by decide +kernel
  refine ⟨⟨hanswered, by decide +kernel⟩,
    serves_of_readable (World.host "/cache") service world events fun text htext => ?_⟩
  rw [hanswered] at htext
  apply isReadable_of_length
  rcases List.mem_pair.1 htext with rfl | rfl <;> decide +kernel

end FieldRules.Rpc
