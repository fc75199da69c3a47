import FieldRules.Proofs.Rpc.Response
import FieldRules.Proofs.Service.Leniency

/-!
# Parameters of the wrong shape

The parameters of a request that checks records have a shape: records are objects, fields are given
texts or objects with a text, and identifying fields are a list of texts. Of this, the server looks
at the kinds of the parameters that have to be there, and refuses them as parameters. What is wrong
further inside, or with the identifying fields, is left to the service: it fails with a fault of the
service or of a rule text, or it is not found.

Results:
* `callOf_cases`: what parameters ask for, and how others are refused.
* `takes_of_perform`: what the service has to do with, if it comes to a result.
* `answer_misshapen`: what requests are answered whose parameters have the wrong shape.
* `feed_numbers`: rules that are a number are an error of the service itself, and a batch without
  records has a result although its identifying fields are a number.
-/

namespace FieldRules.Rpc

/-! ## The shape of parameters -/

/-- A method that checks records. -/
inductive Method where
  | validate
  | batchValidate

/-- The name of a method. -/
def Method.name : Method → String
  | validate => "validate"
  | batchValidate => "batch_validate"

/-- What parameters of the right kinds ask for. Identifying fields may be left out. -/
inductive Asks : Method → Value → Call → Prop
  | validate {params data rules : Entries Value} (hdata : params.get? "data" = some (.map data))
    (hrules : params.get? "rules" = some (.map rules)) :
    Asks .validate (.map params) (.validate data rules)
  | batchValidate {params rules : Entries Value} {records : List Value}
    (hrecords : params.get? "records" = some (.list records))
    (hrules : params.get? "rules" = some (.map rules)) :
    Asks .batchValidate (.map params)
      (.batchValidate records rules ((params.get? "id_fields").getD (.list [])))

theorem Asks.exists_map {method : Method} {params : Value} {call : Call}
    (h : Asks method params call) : ∃ entries, params = .map entries := by
  cases h <;> exact ⟨_, rfl⟩

/-- A rule text, or an object with one. -/
inductive IsRuleText : Value → Prop
  | text (spec : String) : IsRuleText (.text spec)
  | object {parts : Entries Value} {spec : String} (h : parts.get? "rules" = some (.text spec)) :
    IsRuleText (.map parts)

/-- What is asked for has the right shape further inside too. -/
inductive IsShaped : Call → Prop
  | validate {data rules : Entries Value} (hrules : ∀ e ∈ rules, IsRuleText e.2) :
    IsShaped (.validate data rules)
  | batchValidate {records : List Value} {rules : Entries Value} {names : List String}
    (hrecords : ∀ record ∈ records, ∃ entries, record = .map entries)
    (hrules : ∀ e ∈ rules, IsRuleText e.2) :
    IsShaped (.batchValidate records rules (.list (names.map .text)))

/-- The parameters of a method have the right shape. -/
def HasShape (method : Method) (params : Value) : Prop :=
  ∃ call, Asks method params call ∧ IsShaped call

/-! ## Parameters that are refused -/

section Refused

variable {params : Entries Value} {name method : String}

theorem entriesIn?_eq_some_iff (v : Value) (entries : Entries Value) :
    entriesIn? v = some entries ↔ v = .map entries := by
  cases v <;> simp [entriesIn?]

theorem itemsIn?_eq_some_iff (v : Value) (items : List Value) :
    itemsIn? v = some items ↔ v = .list items := by
  cases v <;> simp [itemsIn?]

/-- A parameter that has to be there is found, or it is refused as a parameter. -/
def IsFoundOrRefused {α : Type} (make : α → Value) (params : Entries Value) (name : String)
    (outcome : Except Refusal α) : Prop :=
  (∃ found, params.get? name = some (make found) ∧ outcome = .ok found) ∨
    (∀ found, params.get? name ≠ some (make found)) ∧
      ∃ refusal, outcome = .error refusal ∧ refusal.code = -32602

theorem required_cases {α : Type} {read : Value → Option α} {make : α → Value}
    (hread : ∀ v found, read v = some found ↔ v = make found) (hnull : ∀ found, make found ≠ .null)
    (expected : String) (params : Entries Value) (name : String) :
    IsFoundOrRefused make params name (required read expected params name) := by
  unfold IsFoundOrRefused required
  rcases params.get? name with _ | v
  · exact .inr ⟨nofun, _, rfl, rfl⟩
  · rw [Option.getD_some]
    split
    · exact .inr ⟨fun found h => hnull found (Option.some.inj h).symm, _, rfl, rfl⟩
    · cases hv : read v with
      | some found => exact .inl ⟨found, congrArg some ((hread v found).1 hv), rfl⟩
      | none =>
        refine .inr ⟨fun found h => ?_, _, rfl, rfl⟩
        rw [(hread v found).2 (Option.some.inj h)] at hv
        cases hv

/-- Parameters ask for something, or they are refused as parameters. -/
theorem callOf_cases (method : Method) (params : Entries Value) :
    (∃ call, Asks method (.map params) call ∧ callOf (.text method.name) params = .ok call) ∨
      (∀ call, ¬ Asks method (.map params) call) ∧
        ∃ refusal, callOf (.text method.name) params = .error refusal ∧
          refusal.code = -32602 := by
  have hmap (name : String) : IsFoundOrRefused .map params name (requiredMap params name) :=
    required_cases entriesIn?_eq_some_iff nofun _ params name
  have hlist (name : String) : IsFoundOrRefused .list params name (requiredList params name) :=
    required_cases itemsIn?_eq_some_iff nofun _ params name
  cases method with
  | validate =>
    unfold callOf Method.name
    rcases hmap "data" with
      ⟨data, hdata, hfound⟩ | ⟨hno, refusal, hfound, hcode⟩
    · rcases hmap "rules" with ⟨rules, hrules, hfound'⟩ | ⟨hno, refusal, hfound', hcode⟩
      · exact .inl ⟨_, .validate hdata hrules, by simp only [hfound, hfound']; rfl⟩
      · refine .inr ⟨?_, refusal, by simp only [hfound, hfound']; rfl, hcode⟩
        rintro _ ⟨-, hrules⟩
        exact hno _ hrules
    · refine .inr ⟨?_, refusal, by simp only [hfound]; rfl, hcode⟩
      rintro _ ⟨hdata, -⟩
      exact hno _ hdata
  | batchValidate =>
    unfold callOf Method.name
    rcases hlist "records" with
      ⟨records, hrecords, hfound⟩ | ⟨hno, refusal, hfound, hcode⟩
    · rcases hmap "rules" with ⟨rules, hrules, hfound'⟩ | ⟨hno, refusal, hfound', hcode⟩
      · exact .inl ⟨_, .batchValidate hrecords hrules, by simp only [hfound, hfound']; rfl⟩
      · refine .inr ⟨?_, refusal, by simp only [hfound, hfound']; rfl, hcode⟩
        rintro _ (_ | ⟨-, hrules⟩)
        exact hno _ hrules
    · refine .inr ⟨?_, refusal, by simp only [hfound]; rfl, hcode⟩
      rintro _ (_ | ⟨hrecords, -⟩)
      exact hno _ hrecords

end Refused

/-! ## What the service does -/

/-- What a checker takes although it may have the wrong shape. Nobody looks at a batch without
    records. -/
inductive Takes (c : Checker) : Call → Prop
  | validate {data rules : Entries Value}
    (hrules : ∀ e ∈ rules, Checker.IsReadable c.registry e.2) : Takes c (.validate data rules)
  | batchValidate {records : List Value} {rules : Entries Value} {names : Value}
    (h : records = [] ∨ c.Takes records rules names) :
    Takes c (.batchValidate records rules names)

section Perform

variable {σ : Type} {host : Host (StateM σ)} {service service' : Service} {world world' : σ}
  {method : Method} {params result : Value} {call : Call}

/-- What the service does with a result is taken by the checker that has done it: that of the
    service, or the worker that it has then. -/
theorem takes_of_perform (hcall : Asks method params call)
    (h : ((perform host call).run.run service).run world = ((.ok result, service'), world')) :
    ∃ c : Checker, (c = service.checker ∨ service'.worker = some c) ∧ Takes c call := by
  cases hcall with
  | validate =>
    obtain ⟨_, _, _, htoday, h⟩ := Service.exists_of_run_bind h
    cases htoday
    obtain ⟨_, _, _, hget, h⟩ := Service.exists_of_run_bind h
    cases hget
    obtain ⟨report, _, _, hreport, -⟩ := Service.exists_of_run_bind h
    obtain ⟨hreport, -⟩ := Service.eq_of_run_lift hreport
    exact ⟨service.checker, .inl rfl, .validate (Checker.isReadable_of_validate hreport)⟩
  | @batchValidate _ _ records =>
    obtain ⟨⟨sessions, found⟩, service₁, world₁, hbatch, h⟩ := Service.exists_of_run_bind h
    obtain ⟨entries, service₂, world₂, hfound, h⟩ := Service.exists_of_run_bind h
    obtain ⟨rfl, rfl⟩ := Service.eq_of_run_lift hfound
    cases h
    rcases Service.exists_checker_of_run_batch hbatch with hnone | ⟨c, hc, hentries⟩
    · exact ⟨service.checker, .inl rfl, .batchValidate (.inl hnone)⟩
    · refine ⟨c, hc, .batchValidate ?_⟩
      by_cases hnone : records = []
      · exact .inl hnone
      · exact .inr (Checker.takes_of_validateEach hnone hentries.symm)

theorem run_perform_noRecords (host : Host (StateM σ)) (rules : Entries Value) (names : Value)
    (service : Service) (world : σ) :
    ((perform host (.batchValidate [] rules names)).run.run service).run world =
      ((.ok (.list []), service), (host.today.run world).2) := by
  show (Service.batch host [] rules names >>= _).run service world = _
  rw [Service.run_bind, Service.run_batch_nil]
  rfl

end Perform

/-! ## Requests -/

/-- The parameters of a request; without any, they are empty. -/
def paramsOf (parts : Entries Value) : Value := (parts.get? "params").getD (.map [])

/-- A line is a request with a method that checks records. -/
structure IsCheck (line : List Char) (parts : Entries Value) (method : Method) : Prop where
  isRead : Json.read line = .ok (.map parts)
  hasVersion : parts.get? "jsonrpc" = some (.text version)
  hasMethod : parts.get? "method" = some (.text method.name)

section Answer

variable {σ : Type} (host : Host (StateM σ)) (service : Service) (world : σ) {line : List Char}
  {parts : Entries Value} {method : Method}

/-- Parameters that are no object are refused as parameters. -/
theorem IsCheck.read_cases (h : IsCheck line parts method) :
    (∃ id params, paramsOf parts = .map params ∧
      Request.read (.map parts) = .ok ⟨id, .text method.name, params⟩) ∨
      (∀ params, paramsOf parts ≠ .map params) ∧ ∃ id refusal,
        Request.read (.map parts) = .error (id, refusal) ∧ refusal.code = -32602 := by
  have hversion : (Value.text version).same (.text version) = true := rfl
  have htruthy : (Value.text method.name).truthy = true := by cases method <;> rfl
  unfold Request.read paramsOf
  simp only [h.hasVersion, h.hasMethod, Option.getD_some, hversion, htruthy, Bool.not_true,
    Bool.false_eq_true, if_false]
  rcases (Entries.get? parts "params").getD (.map []) with _ | _ | _ | _ | _ | _ | params
  case map => exact .inl ⟨_, params, rfl, rfl⟩
  all_goals exact .inr ⟨nofun, _, _, rfl, rfl⟩

theorem code_problemOf (fault : Service.Fault) :
    (problemOf fault).code = -32000 ∨ (problemOf fault).code = -32001 := by
  unfold problemOf
  split
  · exact .inr rfl
  · exact .inl rfl

theorem dispatch_of_call (id : Value) {params : Entries Value} {call : Call}
    (hcall : callOf (.text method.name) params = .ok call) :
    ∃ notes outcome service' world',
      ((dispatch host ⟨id, .text method.name, params⟩).run service).run world =
          (((notes, outcome), service'), world') ∧
        ((∃ fault, ((perform host call).run.run service).run world =
            ((.error fault, service'), world') ∧ outcome = .error (problemOf fault)) ∨
          ∃ result, ((perform host call).run.run service).run world =
            ((.ok result, service'), world') ∧ outcome = .ok result) := by
  unfold dispatch
  simp only [hcall, StateT.run_bind]
  rcases hperform : ((perform host call).run.run service).run world with
    ⟨⟨fault | result, service'⟩, world'⟩
  · exact ⟨_, _, service', world', rfl, .inl ⟨fault, rfl, rfl⟩⟩
  · exact ⟨_, _, service', world', rfl, .inr ⟨result, rfl, rfl⟩⟩

theorem dispatch_of_refusal (id : Value) {params : Entries Value} {refusal : Refusal}
    (hcall : callOf (.text method.name) params = .error refusal) :
    ∃ notes, ((dispatch host ⟨id, .text method.name, params⟩).run service).run world =
      (((notes, .error (.ofRefusal refusal)), service), world) := by
  unfold dispatch
  simp only [hcall]
  exact ⟨_, rfl⟩

theorem answer_of_dispatch {v : Value} {request : Request} {notes : List String}
    {outcome : Except Problem Value} {service' : Service} {world' : σ}
    (hread : Json.read line = .ok v) (hrequest : Request.read v = .ok request)
    (h : ((dispatch host request).run service).run world =
      (((notes, outcome), service'), world')) :
    ((answer host line).run service).run world =
      ((.ok (notes, ⟨request.id, outcome⟩), service'), world') := by
  unfold answer
  rw [hread]
  simp only [hrequest, StateT.run_bind]
  rw [h]
  rfl

/-- What requests are answered whose parameters have the wrong shape. -/
inductive Misshapen (service service' : Service) (method : Method) (params : Value) :
    Except Problem Value → Prop
  /-- The parameters have the wrong kinds, and are refused as parameters. -/
  | refused {problem : Problem} (hkinds : ∀ call, ¬ Asks method params call)
    (hcode : problem.code = -32602) : Misshapen service service' method params (.error problem)
  /-- They have the right kinds, and the service fails, with a fault of its own or of a rule text.
      There is some record then. -/
  | failed {call : Call} {problem : Problem} (hcall : Asks method params call)
    (hshape : ¬ IsShaped call) (hsome : ∀ rules names, call ≠ .batchValidate [] rules names)
    (hcode : problem.code = -32000 ∨ problem.code = -32001) :
    Misshapen service service' method params (.error problem)
  /-- They have the right kinds, and nobody came to need what has the wrong shape. -/
  | taken {call : Call} {c : Checker} {result : Value} (hcall : Asks method params call)
    (hshape : ¬ IsShaped call) (hc : c = service.checker ∨ service'.worker = some c)
    (htakes : Takes c call) : Misshapen service service' method params (.ok result)

/-- Requests to check records whose parameters have the wrong shape are answered. They are refused
    as parameters just when a parameter that has to be there is missing or of the wrong kind. What
    is wrong further inside, or with the identifying fields, is an error of the service or of a rule
    text, or it has a result: with rules that can be read, records that can be looked at and
    identifying fields that can be gone through, and always if a batch has no records. -/
theorem answer_misshapen (h : IsCheck line parts method)
    (hshape : ¬ HasShape method (paramsOf parts)) :
    ∃ notes r service' world',
      ((answer host line).run service).run world = ((.ok (notes, r), service'), world') ∧
        Misshapen service service' method (paramsOf parts) r.outcome := by
  rcases h.read_cases with ⟨id, params, hparams, hrequest⟩ | ⟨hno, id, refusal, hrequest, hcode⟩
  · rw [hparams] at hshape ⊢
    rcases callOf_cases method params with ⟨call, hasks, hcall⟩ | ⟨hno, refusal, hcall, hcode⟩
    · have hcallshape : ¬ IsShaped call := fun hs => hshape ⟨call, hasks, hs⟩
      obtain ⟨notes, outcome, service', world', hdispatch, houtcome⟩ :=
        dispatch_of_call host service world id hcall
      have hanswer := answer_of_dispatch host service world h.isRead hrequest hdispatch
      refine ⟨_, _, _, _, hanswer, ?_⟩
      rcases houtcome with ⟨fault, hperform, rfl⟩ | ⟨result, hperform, rfl⟩
      · refine .failed hasks hcallshape ?_ (code_problemOf fault)
        rintro rules names rfl
        rw [run_perform_noRecords] at hperform
        cases hperform
      · obtain ⟨c, hc, htakes⟩ := takes_of_perform hasks hperform
        exact .taken hasks hcallshape hc htakes
    · obtain ⟨notes, hdispatch⟩ := dispatch_of_refusal host service world id hcall
      have hanswer := answer_of_dispatch host service world h.isRead hrequest hdispatch
      exact ⟨_, _, _, _, hanswer, .refused hno hcode⟩
  · have hanswer : ((answer host line).run service).run world =
        ((.ok ([], ⟨id, .error (.ofRefusal refusal)⟩), service), world) := by
      unfold answer
      rw [h.isRead]
      simp only [hrequest]
      rfl
    refine ⟨_, _, _, _, hanswer, .refused ?_ hcode⟩
    intro call hasks
    obtain ⟨params, hparams⟩ := hasks.exists_map
    exact hno params hparams

end Answer

/-! ## Rules that are a number -/

/-- A line that asks to check an empty record, with a number for the rules of a field. -/
def numberLine : String :=
  "\x7b\"jsonrpc\": \"2.0\", \"id\": 1, \"method\": \"validate\", " ++
    "\"params\": \x7b\"data\": \x7b\x7d, \"rules\": \x7b\"a\": 5\x7d\x7d\x7d"

/-- The parts of that request. -/
def numberParts : Entries Value :=
  [("jsonrpc", .text "2.0"), ("id", .int 1), ("method", .text "validate"),
    ("params", .map [("data", .map []), ("rules", .map [("a", .int 5)])])]

theorem isCheck_number : IsCheck numberLine.toList numberParts .validate where
  isRead := by with_unfolding_all rfl
  hasVersion := rfl
  hasMethod := rfl

theorem not_hasShape_number : ¬ HasShape .validate (paramsOf numberParts) := by
  have hparams : paramsOf numberParts =
      .map [("data", .map []), ("rules", .map [("a", .int 5)])] := rfl
  rw [hparams]
  rintro ⟨_, ⟨-, hrules⟩, hshape⟩
  cases hrules
  cases hshape with
  | validate hrules => cases hrules ("a", .int 5) (List.mem_singleton_self _)

/-- A service with standard settings, in a world without files, is asked this. -/
theorem answer_number :
    let service := standardServer.service
    let world : World := ⟨[], [], [], [], .ofInt 1000, ⟨2024, 5, 31⟩, []⟩
    (IsCheck numberLine.toList numberParts .validate ∧
      ¬ HasShape .validate (paramsOf numberParts)) ∧
      ∃ notes r service' world',
        ((answer (World.host "/cache") numberLine.toList).run service).run world =
          ((.ok (notes, r), service'), world') ∧
        Misshapen service service' .validate (paramsOf numberParts) r.outcome := by
  intro service world
  exact ⟨⟨isCheck_number, not_hasShape_number⟩,
    answer_misshapen (World.host "/cache") service world isCheck_number not_hasShape_number⟩

/-- A line that asks to check no records, with a number for the identifying fields. -/
def namesLine : String :=
  "\x7b\"jsonrpc\": \"2.0\", \"id\": 2, \"method\": \"batch_validate\", " ++
    "\"params\": \x7b\"records\": [], \"rules\": \x7b\x7d, \"id_fields\": 5\x7d\x7d"

/-- The parts of that request. -/
def namesParts : Entries Value :=
  [("jsonrpc", .text "2.0"), ("id", .int 2), ("method", .text "batch_validate"),
    ("params", .map [("records", .list []), ("rules", .map []), ("id_fields", .int 5)])]

theorem isCheck_names : IsCheck namesLine.toList namesParts .batchValidate where
  isRead := by with_unfolding_all rfl
  hasVersion := rfl
  hasMethod := rfl

theorem not_hasShape_names : ¬ HasShape .batchValidate (paramsOf namesParts) := by
  have hparams : paramsOf namesParts =
      .map [("records", .list []), ("rules", .map []), ("id_fields", .int 5)] := rfl
  rw [hparams]
  rintro ⟨_, ⟨-, -⟩, hshape⟩
  cases hshape

/-- The one is answered with an error of the service itself, and the other with a result. -/
theorem feed_numbers :
    let world : World := ⟨[], [], [], [], .ofInt 1000, ⟨2024, 5, 31⟩, []⟩
    let answers (text : String) : List String :=
      responses ((standardServer.feed (World.host "/cache") (.line text)).run world).1.2
    (∃ parts, IsCheck numberLine.toList parts .validate ∧
      ¬ HasShape .validate (paramsOf parts) ∧
      answers numberLine =
        ["\x7b\"jsonrpc\": \"2.0\", \"id\": 1, \"error\": \x7b\"code\": -32000, " ++
        "\"message\": \"Internal error: 'int' object has no attribute 'get'\"\x7d\x7d"]) ∧
      ∃ parts, IsCheck namesLine.toList parts .batchValidate ∧
        ¬ HasShape .batchValidate (paramsOf parts) ∧
        answers namesLine = ["\x7b\"jsonrpc\": \"2.0\", \"id\": 2, \"result\": []\x7d"] := by
  refine ⟨⟨numberParts, isCheck_number, not_hasShape_number, ?_⟩,
    namesParts, isCheck_names, not_hasShape_names, ?_⟩
  · decide +kernel
  · decide +kernel

end FieldRules.Rpc
