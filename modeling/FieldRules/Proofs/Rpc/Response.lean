import FieldRules.Host.World
import FieldRules.Proofs.Json.DigitRun
import FieldRules.Rpc.Server

/-!
# Every request is answered

Whatever a line says and whatever goes wrong with it, the line is answered, and the server goes on:
a line that is no document, a request that is refused, and every fault of the service come back as
a response with an error. The exception is a line with an integer of more digits than are converted.
Such a line has no response, and the server ends with it.

Results:
* `response_toValue`: a response has the version, an identifier, and a result or an error.
* `answer_or_tooManyDigits`: which lines are answered, and which end the server.
-/

namespace FieldRules.Rpc

/-- A response as it is sent: an object with the version and an identifier, and with either a result
    or an error. -/
def IsResponse (v : Value) : Prop :=
  ∃ parts : Entries Value, v = .map parts ∧ parts.get? "jsonrpc" = some (.text version) ∧
    parts.has "id" = true ∧ parts.has "result" = !parts.has "error"

/-- A response has the version, an identifier, and a result or an error. -/
theorem response_toValue (r : Response) : IsResponse r.toValue := by
  obtain ⟨id, outcome⟩ := r
  refine ⟨_, rfl, rfl, rfl, ?_⟩
  cases outcome <;> rfl

section Answer

variable {σ : Type} (host : Host (StateM σ)) (service : Service) (world : σ) {line : List Char}

/-- A line is answered unless it has an integer with too many digits. -/
theorem exists_response (h : ∀ count, Json.read line ≠ .error (.tooManyDigits count)) :
    ∃ notes r service' world',
      ((answer host line).run service).run world = ((.ok (notes, r), service'), world') := by
  unfold answer
  rcases hread : Json.read line with (⟨cause, remaining⟩ | count) | v
  · exact ⟨_, _, _, _, rfl⟩
  · exact absurd hread (h count)
  · simp only
    rcases Request.read v with ⟨id, refusal⟩ | request
    · exact ⟨_, _, _, _, rfl⟩
    · simp only
      refine ⟨(((dispatch host request).run service).run world).1.1.1,
        ⟨request.id, (((dispatch host request).run service).run world).1.1.2⟩, _, _, rfl⟩

/-- The line is a request, and what it asks for is done with a result. -/
def Succeeds (line : List Char) (result : Value) (service' : Service) (world' : σ) : Prop :=
  ∃ v request call, Json.read line = .ok v ∧ Request.read v = .ok request ∧
    callOf request.method request.params = .ok call ∧
    ((perform host call).run.run service).run world = ((.ok result, service'), world')

/-- A request that has been read has a result only if what it asks for has one. -/
theorem perform_of_dispatch {request : Request} {notes : List String} {service' : Service}
    {world' : σ} {result : Value}
    (h : ((dispatch host request).run service).run world =
      (((notes, .ok result), service'), world')) :
    ∃ call, callOf request.method request.params = .ok call ∧
      ((perform host call).run.run service).run world = ((.ok result, service'), world') := by
  unfold dispatch at h
  split at h
  · cases h
  · cases h
  · rcases hcall : callOf request.method request.params with refusal | call
    · rw [hcall] at h
      cases h
    · rw [hcall] at h
      simp only [StateT.run_bind] at h
      refine ⟨call, rfl, ?_⟩
      rcases hperform : ((perform host call).run.run service).run world with ⟨⟨fault | v, s⟩, w⟩
      · rw [hperform] at h
        cases h
      · rw [hperform] at h
        cases h
        rfl

/-- A response has a result only if nothing has failed. -/
theorem succeeds_of_result {notes : List String} {r : Response} {service' : Service} {world' : σ}
    {result : Value}
    (h : ((answer host line).run service).run world = ((.ok (notes, r), service'), world'))
    (hr : r.outcome = .ok result) : Succeeds host service world line result service' world' := by
  unfold answer at h
  rcases hread : Json.read line with (⟨cause, remaining⟩ | count) | v
  · rw [hread] at h
    cases h
    cases hr
  · rw [hread] at h
    cases h
  · rw [hread] at h
    simp only at h
    rcases hrequest : Request.read v with ⟨id, refusal⟩ | request
    · rw [hrequest] at h
      cases h
      cases hr
    · rw [hrequest] at h
      simp only at h
      have hdispatch : ((dispatch host request).run service).run world =
          (((notes, .ok result), service'), world') := by
        simp only [StateT.run_bind] at h
        rcases hd : ((dispatch host request).run service).run world with ⟨⟨⟨_, outcome⟩, s⟩, w⟩
        rw [hd] at h
        cases h
        subst hr
        rfl
      obtain ⟨call, hcall, hperform⟩ := perform_of_dispatch host service world hdispatch
      exact ⟨v, request, call, hread, hrequest, hcall, hperform⟩

theorem answer_of_tooManyDigits {count : Nat}
    (h : Json.read line = .error (.tooManyDigits count)) :
    ((answer host line).run service).run world = ((.error count, service), world) := by
  unfold answer
  rw [h]
  rfl

end Answer

/-! ## Lines that are not blank -/

theorem isBlank_of_isDigit {c : Char} (h : c.isDigit = true) : Unicode.isBlank c = false := by
  simp only [Char.isDigit, ge_iff_le, Bool.and_eq_true, decide_eq_true_eq] at h
  obtain ⟨hlow, hhigh⟩ := h
  have h₁ : 48 ≤ c.toNat := hlow
  have h₂ : c.toNat ≤ 57 := hhigh
  simp only [Unicode.isBlank, Bool.or_eq_false_iff, Bool.and_eq_false_iff, decide_eq_false_iff_not,
    beq_eq_false_iff_ne]
  omega

/-- A text with a character that is no blank is not blank. -/
theorem trimmed_ne_empty {text : String} {c : Char} (hc : c ∈ text.toList)
    (hblank : Unicode.isBlank c = false) : Server.trimmed text ≠ "" := by
  intro h
  have hnil : Unicode.trim text.toList = [] := by
    simpa [Server.trimmed] using congrArg String.toList h
  have hfront : ∀ d ∈ text.toList.dropWhile Unicode.isBlank, Unicode.isBlank d = true := by
    simpa [Unicode.trim] using hnil
  have hall : text.toList.dropWhile Unicode.isBlank = [] := by
    cases hd : text.toList.dropWhile Unicode.isBlank with
    | nil => rfl
    | cons d rest =>
      have hhead := List.head_dropWhile_not (p := Unicode.isBlank) (l := text.toList) (by simp [hd])
      simp [hd, hfront d (by simp [hd])] at hhead
  rw [List.dropWhile_eq_nil_iff] at hall
  rw [hall c hc] at hblank
  cases hblank

theorem trimmed_of_hasDigitRun {text : String} {count : Nat}
    (h : Json.HasDigitRun count text.toList) (hpos : 0 < count) : Server.trimmed text ≠ "" := by
  obtain ⟨digits, hpart, rfl, hdigits⟩ := h
  obtain ⟨c, hc⟩ := List.exists_mem_of_length_pos hpos
  exact trimmed_ne_empty (hpart.subset hc) (isBlank_of_isDigit (hdigits c hc))

/-! ## The loop -/

/-- The lines of responses in what a server puts out. -/
def responses (outputs : List Output) : List String :=
  outputs.filterMap fun
    | .response line => some line
    | .note _ => none

section Loop

variable {σ : Type} (host : Host (StateM σ)) {server : Server} (world : σ) {text : String}

theorem feed_line (hover : server.isOver = false) (htext : Server.trimmed text ≠ "") :
    server.feed host (.line text) = server.takeLine host text := by
  simp [Server.feed, hover, htext]

theorem feed_of_answer {notes : List String} {r : Response} {service' : Service} {world' : σ}
    (hover : server.isOver = false) (hrunning : server.isRunning = true)
    (htext : Server.trimmed text ≠ "")
    (h : ((answer host text.toList).run server.service).run world =
      ((.ok (notes, r), service'), world')) :
    ∃ outputs, (server.feed host (.line text)).run world =
        (({ server with service := service' }, outputs), world') ∧
      responses outputs = [Json.write r.toValue] := by
  rw [feed_line host hover htext]
  unfold Server.takeLine
  simp only [StateT.run_bind]
  rw [h]
  simp only [hrunning, if_true]
  refine ⟨_, rfl, ?_⟩
  simp [responses, List.filterMap_append]

theorem feed_of_no_answer {count : Nat} (hover : server.isOver = false)
    (htext : Server.trimmed text ≠ "")
    (h : ((answer host text.toList).run server.service).run world =
      ((.error count, server.service), world)) :
    ((server.feed host (.line text)).run world).1.1.isOver = true ∧
      responses ((server.feed host (.line text)).run world).1.2 = [] := by
  rw [feed_line host hover htext]
  unfold Server.takeLine
  simp only [StateT.run_bind]
  rw [h]
  exact ⟨rfl, rfl⟩

end Loop

/-- Every line is answered with a response, which has a result only if nothing has failed, and a
    server that is to go on puts the response out and goes on; unless the line has an integer of
    more digits than are converted, which stand in it in a row. Such a line has no response, changes
    nothing, and ends the server. -/
theorem answer_or_tooManyDigits {σ : Type} (host : Host (StateM σ)) (text : String) :
    ((∀ count, Json.read text.toList ≠ .error (.tooManyDigits count)) →
      (∀ service world, ∃ notes r service' world',
        ((answer host text.toList).run service).run world = ((.ok (notes, r), service'), world') ∧
          IsResponse r.toValue ∧ ∀ result, r.outcome = .ok result →
            Succeeds host service world text.toList result service' world') ∧
      ∀ (server : Server) (world : σ), server.isOver = false → server.isRunning = true →
        Server.trimmed text ≠ "" →
        ∃ r : Response, IsResponse r.toValue ∧
          ((server.feed host (.line text)).run world).1.1.isOver = false ∧
          responses ((server.feed host (.line text)).run world).1.2 = [Json.write r.toValue]) ∧
    ∀ count, Json.read text.toList = .error (.tooManyDigits count) →
      (Json.digitLimit < count ∧ Json.HasDigitRun count text.toList) ∧
      (∀ service world,
        ((answer host text.toList).run service).run world = ((.error count, service), world)) ∧
      ∀ (server : Server) (world : σ), server.isOver = false →
        ((server.feed host (.line text)).run world).1.1.isOver = true ∧
          responses ((server.feed host (.line text)).run world).1.2 = [] := by
  constructor
  · intro hread
    constructor
    · intro service world
      obtain ⟨notes, r, service', world', h⟩ := exists_response host service world hread
      exact ⟨notes, r, service', world', h, response_toValue r,
        fun result => succeeds_of_result host service world h⟩
    · intro server world hover hrunning htext
      obtain ⟨notes, r, service', world', h⟩ := exists_response host server.service world hread
      obtain ⟨outputs, hfeed, hout⟩ := feed_of_answer host world hover hrunning htext h
      rw [hfeed]
      exact ⟨r, response_toValue r, hover, hout⟩
  · intro count hread
    obtain ⟨hlong, hrow⟩ := Json.hasDigitRun_of_read hread
    have hanswer := fun service world => answer_of_tooManyDigits host service world hread
    refine ⟨⟨hlong, hrow⟩, hanswer, fun server world hover => ?_⟩
    have htext := trimmed_of_hasDigitRun hrow (Nat.zero_lt_of_lt hlong)
    exact feed_of_no_answer host world hover htext (hanswer server.service world)

/-- A line of too many digits has no response, and ends the server. -/
theorem feed_digits {σ : Type} (host : Host (StateM σ)) {server : Server} (world : σ) {c : Char}
    {digits : List Char} (hover : server.isOver = false) (hc : c ≠ '0')
    (hd : ∀ d ∈ c :: digits, d.isDigit = true)
    (hlong : Json.digitLimit < (c :: digits).length) :
    ((server.feed host (.line (.ofList (c :: digits)))).run world).1.1.isOver = true ∧
      responses ((server.feed host (.line (.ofList (c :: digits)))).run world).1.2 = [] := by
  have hline : (String.ofList (c :: digits)).toList = c :: digits := String.toList_ofList
  have hmem : c ∈ (String.ofList (c :: digits)).toList := by
    rw [hline]
    exact List.mem_cons_self
  have htext := trimmed_ne_empty hmem (isBlank_of_isDigit (hd c List.mem_cons_self))
  have hread : Json.read (String.ofList (c :: digits)).toList =
      .error (.tooManyDigits (c :: digits).length) := by
    rw [hline]
    exact Json.read_digits hc hd hlong
  exact feed_of_no_answer host world hover htext (answer_of_tooManyDigits host _ world hread)

/-- A server at its start, with standard settings. -/
def standardServer : Server :=
  (Server.start
    ⟨none, ⟨⟨Settings.standardDocument, .standard, .ofInt 1000⟩,
      .standard Markup.Policy.standard⟩, none, none⟩).1

/-- A line of one digit more than are converted has no response, and ends a server that was to go
    on. -/
theorem feed_ones :
    let line := String.ofList ('1' :: List.replicate 4300 '1')
    let left := ((standardServer.feed (World.host "/cache") (.line line)).run
      ⟨[], [], [], [], .ofInt 1000, ⟨2024, 5, 31⟩, []⟩).1
    (standardServer.isOver = false ∧ standardServer.isRunning = true) ∧
      left.1.isOver = true ∧ responses left.2 = [] := by
  have hdigits : ∀ c ∈ '1' :: List.replicate 4300 '1', c.isDigit = true := by
    intro c hc
    rw [← List.replicate_succ] at hc
    rw [List.eq_of_mem_replicate hc]
    rfl
  have hlong : Json.digitLimit < ('1' :: List.replicate 4300 '1').length := by
    rw [List.length_cons, List.length_replicate]
    decide
  have hover : standardServer.isOver = false := rfl
  exact ⟨⟨hover, rfl⟩, feed_digits _ _ hover (by decide) hdigits hlong⟩

end FieldRules.Rpc
