import NousKernel.Responses

/-!
How the two clients read one response. Each accepts what the daemon writes, and they
differ where one is stricter: the Rust client wants the whole envelope and a complete
error body but no status, the Python client wants a status and fills in what is missing.
-/

set_option autoImplicit false

namespace NousKernel

open Results Wire

/-- What a client makes of a response. The text of an error is its code and message. -/
inductive Reading where
  | rejected
  | success (payload : Value)
  | error (code text : String) (retryable : Bool)

def rustReading : Except RuntimeClient.ClientError Value → Reading
  | .ok payload => .success payload
  | .error (.NkiError body) => .error body.code body.display body.retryable
  | .error _ => .rejected

def pythonReading : Except PythonError Value → Reading
  | .ok payload => .success payload
  | .error (.NkiError error) => .error error.code error.text error.retryable
  | .error _ => .rejected

def NKIOutcome.reading : NKIOutcome → Reading
  | .Success payload => .success payload
  | .Error error => .error error.code error.display error.retryable

def outcomeReading : Except DecodeError NKIOutcome → Reading
  | .ok outcome => outcome.reading
  | .error _ => .rejected

/-! ### What a response holds -/

def Value.isString (value : Value) : Bool := value.asStr.isSome

def Value.isBool : Value → Bool
  | .bool _ => true
  | _ => false

def Value.isU32 : Value → Bool
  | .number (.PosInt value) => value < 2 ^ 32
  | _ => false

def Value.isI64 : Value → Bool
  | .number (.PosInt value) => value < 2 ^ 63
  | .number (.NegInt value) => -2 ^ 63 ≤ value && value < 0
  | _ => false

/-- What only the Rust client asks of the envelope: its depth, and two of its members. -/
def enveloped (response : Value) : Bool :=
  response.nesting < Value.recursionLimit &&
    (response.get "server_timestamp_us").any Value.isI64 && (response.get "trace_id").any Value.isString

/-- An error body with its code, message and flag, whose other members fit their types. -/
def errorMembers (error : Value) : Bool :=
  (error.get "code").any Value.isString && (error.get "message").any Value.isString &&
    (error.get "retryable").any Value.isBool && (error.get "failed_phase").all Value.isString &&
    (error.get "cause").all Value.isString && (error.get "recommended_delay_ms").all Value.isU32

/-- The same written as a sequence. -/
def errorItems (items : List Value) : Bool :=
  items[0]?.any Value.isString && items[1]?.any Value.isString && items[2]?.all Value.isString &&
    items[3]?.all Value.isString && items[4]?.any Value.isBool && items[5]?.all Value.isU32 &&
    items.length ≤ 6

def errorBody : Value → Bool
  | .object members => errorMembers (.object members)
  | .array items => errorItems items
  | _ => false

/-- `int` raises on the delay of an error. -/
def delayRaises (py : Builtins) (error : Value) : Bool :=
  (error.get "recommended_delay_ms").any fun value => !(py.int value).isOk

/-- The responses of the current version that both clients read alike. -/
def readAlike (py : Builtins) (response : Value) : Bool :=
  match (response.get "status").bind Value.asStr with
  | some status =>
      if status = "success" then enveloped response && (response.get "payload").isSome
      else if status = "error" then
        match response.get "error" with
        | some (.object members) =>
            enveloped response && errorMembers (.object members) ||
              delayRaises py (.object members)
        | some (.array items) => !(enveloped response && errorItems items)
        | _ => true
      else true
  | none =>
      !(enveloped response &&
        match response.get "error" with
        | some error => errorBody error
        | none => (response.get "payload").isSome)

/-! ### The decoders -/

section Decoders

theorem asString_ok {value : Value} {text : String} :
    asString value = .ok text ↔ value = .string text := by
  cases value <;> simp [asString]

theorem asBool_ok {value : Value} {flag : Bool} : asBool value = .ok flag ↔ value = .bool flag := by
  cases value <;> simp [asBool]

theorem asString_reads (value : Value) :
    (∃ text, asString value = .ok text) ↔ value.isString = true := by
  cases value <;> simp [asString, Value.isString, Value.asStr]

theorem asBool_reads (value : Value) : (∃ flag, asBool value = .ok flag) ↔ value.isBool = true := by
  cases value <;> simp [asBool, Value.isBool]

theorem guarded_reads {T : Type} {p : Prop} [Decidable p] {value : T} {e : DecodeError} :
    (∃ result, (if p then Except.ok value else Except.error e) = .ok result) ↔ p := by
  by_cases holds : p <;> simp [holds]

theorem asU32_reads (value : Value) : (∃ number, asU32 value = .ok number) ↔ value.isU32 = true := by
  cases value with
  | number number =>
      cases number with
      | PosInt value => rw [Value.isU32, decide_eq_true_eq]; exact guarded_reads
      | _ => simp [asU32, Value.isU32]
  | _ => simp [asU32, Value.isU32]

theorem asI64_reads (value : Value) : (∃ number, asI64 value = .ok number) ↔ value.isI64 = true := by
  cases value with
  | number number =>
      cases number with
      | PosInt value => rw [Value.isI64, decide_eq_true_eq]; exact guarded_reads
      | NegInt value =>
          rw [Value.isI64, Bool.and_eq_true, decide_eq_true_eq, decide_eq_true_eq]
          exact guarded_reads
      | Float value => simp [asI64, Value.isI64]
  | _ => simp [asI64, Value.isI64]

variable {T : Type} {read : Value → Except DecodeError T} {test : Value → Bool} {object : Value}
  {field : String} {items : List Value} {index : Nat}

theorem readMember_some {value : T} :
    readMember read object field = .ok (some value) ↔
      ∃ member, object.get field = some member ∧ read member = .ok value := by
  cases found : object.get field with
  | none => simp [readMember, found]
  | some member => cases answer : read member <;> simp [readMember, found, answer, Except.map]

theorem present_ok {found : Option T} {value : T} :
    present field found = .ok value ↔ found = some value := by
  cases found <;> simp [present]

variable (reads : ∀ value, (∃ result, read value = .ok result) ↔ test value = true)

include reads in
theorem readMember_reads :
    (∃ found, readMember read object field = .ok found) ↔ (object.get field).all test = true := by
  cases found : object.get field with
  | none => simp [readMember, found]
  | some member =>
      rw [Option.all_some, ← reads member]
      cases answer : read member <;> simp [readMember, found, answer, Except.map]

include reads in
theorem readMember_some_reads :
    (∃ value, readMember read object field = .ok (some value)) ↔
      (object.get field).any test = true := by
  cases found : object.get field with
  | none => simp [readMember, found]
  | some member =>
      rw [Option.any_some, ← reads member]
      cases answer : read member <;> simp [readMember, found, answer, Except.map]

include reads in
theorem element_reads :
    (∃ value, element read items index = .ok value) ↔ items[index]?.any test = true := by
  cases found : items[index]? with
  | none => simp [element, found]
  | some member => rw [Option.any_some, ← reads member, element, found]

include reads in
theorem elementOr_reads (default : T) :
    (∃ value, elementOr read default items index = .ok value) ↔ items[index]?.all test = true := by
  cases found : items[index]? with
  | none => simp [elementOr, found]
  | some member => rw [Option.all_some, ← reads member, elementOr, found]

end Decoders

section Bodies

variable {error : Value} {body : NKIErrorBody} {items : List Value}

theorem fromObject_ok :
    NKIErrorBody.fromObject error = .ok body ↔
      readMember asString error "code" = .ok (some body.code) ∧
        readMember asString error "message" = .ok (some body.message) ∧
        readMember asBool error "retryable" = .ok (some body.retryable) ∧
        (∃ phase, readMember asString error "failed_phase" = .ok phase ∧
          body.failedPhase = phase.getD "") ∧
        (∃ cause, readMember asString error "cause" = .ok cause ∧ body.cause = cause.getD "") ∧
        ∃ delay, readMember asU32 error "recommended_delay_ms" = .ok delay ∧
          body.recommendedDelayMs = delay.getD 0 := by
  simp only [NKIErrorBody.fromObject, bind_ok, present_ok, pure, Except.pure, Except.ok.injEq]
  constructor
  · rintro ⟨cause, causes, code, codes, phase, phases, message, messages, delay, delays, retryable,
      flags, _, rfl, _, rfl, _, rfl, rfl⟩
    exact ⟨codes, messages, flags, ⟨phase, phases, rfl⟩, ⟨cause, causes, rfl⟩, ⟨delay, delays, rfl⟩⟩
  · rintro ⟨codes, messages, flags, ⟨phase, phases, first⟩, ⟨cause, causes, second⟩, ⟨delay, delays, third⟩⟩
    refine ⟨cause, causes, _, codes, phase, phases, _, messages, delay, delays, _, flags, _, rfl, _,
      rfl, _, rfl, ?_⟩
    cases body
    simp_all

theorem fromObject_reads :
    (∃ body, NKIErrorBody.fromObject error = .ok body) ↔ errorMembers error = true := by
  simp only [errorMembers, Bool.and_eq_true, ← readMember_some_reads asString_reads,
    ← readMember_some_reads asBool_reads, ← readMember_reads asString_reads, ← readMember_reads asU32_reads]
  constructor
  · rintro ⟨body, decoded⟩
    obtain ⟨codes, messages, flags, ⟨phase, phases, -⟩, ⟨cause, causes, -⟩, ⟨delay, delays, -⟩⟩ :=
      fromObject_ok.mp decoded
    exact ⟨⟨⟨⟨⟨⟨_, codes⟩, ⟨_, messages⟩⟩, ⟨_, flags⟩⟩, ⟨_, phases⟩⟩, ⟨_, causes⟩⟩, ⟨_, delays⟩⟩
  · rintro ⟨⟨⟨⟨⟨⟨code, codes⟩, ⟨message, messages⟩⟩, ⟨flag, flags⟩⟩, ⟨phase, phases⟩⟩, ⟨cause, causes⟩⟩,
      ⟨delay, delays⟩⟩
    exact ⟨⟨code, message, phase.getD "", cause.getD "", flag, delay.getD 0⟩, fromObject_ok.mpr
      ⟨codes, messages, flags, ⟨phase, phases, rfl⟩, ⟨cause, causes, rfl⟩, ⟨delay, delays, rfl⟩⟩⟩

theorem fromArray_reads :
    (∃ body, NKIErrorBody.fromArray items = .ok body) ↔ errorItems items = true := by
  simp only [errorItems, Bool.and_eq_true, ← element_reads asString_reads,
    ← element_reads asBool_reads, ← elementOr_reads asString_reads "",
    ← elementOr_reads asU32_reads 0, decide_eq_true_eq]
  by_cases long : 6 < items.length
  · constructor
    · rintro ⟨body, decoded⟩
      simp [NKIErrorBody.fromArray, bind_ok, long, throw, throwThe, MonadExceptOf.throw] at decoded
    · intro fits
      omega
  · simp only [NKIErrorBody.fromArray, bind_ok, long, if_false, pure, Except.pure, Except.ok.injEq]
    constructor
    · rintro ⟨body, code, codes, message, messages, phase, phases, cause, causes, flag, flags, delay,
        delays, -⟩
      exact ⟨⟨⟨⟨⟨⟨⟨_, codes⟩, ⟨_, messages⟩⟩, ⟨_, phases⟩⟩, ⟨_, causes⟩⟩, ⟨_, flags⟩⟩, ⟨_, delays⟩⟩,
        by omega⟩
    · rintro ⟨⟨⟨⟨⟨⟨⟨code, codes⟩, ⟨message, messages⟩⟩, ⟨phase, phases⟩⟩, ⟨cause, causes⟩⟩,
        ⟨flag, flags⟩⟩, ⟨delay, delays⟩⟩, -⟩
      exact ⟨_, code, codes, message, messages, phase, phases, cause, causes, flag, flags, delay,
        delays, rfl⟩

theorem fromValue_reads :
    (∃ body, NKIErrorBody.fromValue error = .ok body) ↔ errorBody error = true := by
  cases error with
  | object members => exact fromObject_reads
  | array items => exact fromArray_reads
  | _ => simp [NKIErrorBody.fromValue, errorBody]

end Bodies

section Responses

variable {response : Value} {requestId : String}
  (named : response.get "request_id" = some (.string requestId))
  (current : response.get "nki_version" = some (.number (.PosInt 2)))

theorem fromSlice_ok {decoded : NKIResponse} :
    NKIResponse.fromSlice response = .ok decoded ↔
      response.nesting < Value.recursionLimit ∧ NKIResponse.deserialize response = .ok decoded := by
  unfold NKIResponse.fromSlice
  split_ifs with deep
  · simp [Nat.not_lt.mpr deep]
  · simp [Nat.not_le.mp deep]

include named current in
theorem deserialize_ok (decoded : NKIResponse) :
    NKIResponse.deserialize response = .ok decoded ↔
      decoded.requestId = requestId ∧ decoded.nkiVersion = nkiVersion ∧
        readMember asI64 response "server_timestamp_us" = .ok (some decoded.serverTimestampUs) ∧
        readMember asString response "trace_id" = .ok (some decoded.traceId) ∧
        NKIOutcome.deserialize response = .ok decoded.outcome := by
  have id : readMember asString response "request_id" = .ok (some requestId) := by
    simp [readMember, named, asString, Except.map]
  have version : readMember asU32 response "nki_version" = .ok (some nkiVersion) := by
    simp [readMember, current, asU32, Except.map, nkiVersion]
  simp only [NKIResponse.deserialize, bind_ok, present_ok, id, version, pure, Except.pure,
    Except.ok.injEq]
  constructor
  · rintro ⟨_, rfl, _, rfl, _, times, _, traces, _, same, _, number, _, rfl, _, rfl, outcome, read, rfl⟩
    cases same
    cases number
    exact ⟨rfl, rfl, times, traces, read⟩
  · rintro ⟨rfl, version, times, traces, read⟩
    exact ⟨_, rfl, _, rfl, _, times, _, traces, _, rfl, _, rfl, _, rfl, _, rfl, _, read, by
      rw [← version]⟩

include named current in
/-- The Rust client reads the outcome of a response whose envelope is whole. -/
theorem rustReading_eq :
    rustReading (requestInner requestId response) =
      if enveloped response then outcomeReading (NKIOutcome.deserialize response)
      else .rejected := by
  have whole : enveloped response = true ↔
      response.nesting < Value.recursionLimit ∧
        (∃ time, readMember asI64 response "server_timestamp_us" = .ok (some time)) ∧
        ∃ trace, readMember asString response "trace_id" = .ok (some trace) := by
    rw [enveloped, Bool.and_eq_true, Bool.and_eq_true, decide_eq_true_eq, and_assoc,
      readMember_some_reads asI64_reads, readMember_some_reads asString_reads]
  have decoded := deserialize_ok named current
  cases answer : NKIResponse.fromSlice response with
  | ok r =>
      obtain ⟨shallow, answered⟩ := fromSlice_ok.mp answer
      obtain ⟨id, version, times, traces, outcome⟩ := (decoded r).mp answered
      rw [if_pos (whole.mpr ⟨shallow, ⟨_, times⟩, ⟨_, traces⟩⟩), outcome]
      simp only [requestInner, answer, id, version]
      cases r.outcome <;> simp [rustReading, outcomeReading, NKIOutcome.reading]
  | error e =>
      have refused : rustReading (requestInner requestId response) = .rejected := by
        simp [requestInner, answer, rustReading]
      rw [refused]
      by_cases envelope : enveloped response = true
      · obtain ⟨shallow, ⟨time, times⟩, ⟨trace, traces⟩⟩ := whole.mp envelope
        rw [if_pos envelope]
        cases read : NKIOutcome.deserialize response with
        | error _ => rfl
        | ok outcome =>
            have found := fromSlice_ok.mpr ⟨shallow,
              (decoded ⟨requestId, nkiVersion, time, trace, outcome⟩).mpr
                ⟨rfl, rfl, times, traces, read⟩⟩
            rw [found] at answer
            cases answer
      · rw [if_neg envelope]

theorem outcomeReading_rejected {decoded : Except DecodeError NKIOutcome} :
    outcomeReading decoded = .rejected ↔ ¬∃ outcome, decoded = .ok outcome := by
  cases decoded with
  | ok outcome => cases outcome <;> simp [outcomeReading, NKIOutcome.reading]
  | error e => simp [outcomeReading]

end Responses

/-! ### The error bodies of Python -/

section Errors

variable (py : Builtins) {error : Value}

theorem errorOf_reads : (∃ raised, errorOf py error = .ok raised) ↔ delayRaises py error = false := by
  cases delay : error.get "recommended_delay_ms" with
  | none => simp [errorOf, delayRaises, delay]
  | some value =>
      cases answer : py.int value <;>
        simp [errorOf, delayRaises, delay, answer, bind, Except.bind, pure, Except.pure,
          Except.isOk, Except.toBool]

theorem errorOf_ok {raised : NkiError} (built : errorOf py error = .ok raised) :
    raised.code = ((error.get "code").map py.str).getD "UNKNOWN" ∧
      raised.text = ((error.get "code").map py.str).getD "UNKNOWN" ++ ": " ++
        ((error.get "message").map py.str).getD "kernel request failed" ∧
      raised.retryable = ((error.get "retryable").map Value.truth).getD false := by
  simp only [errorOf, pure, Except.pure] at built
  split at built
  · simp only [bind_ok, Except.ok.injEq] at built
    obtain ⟨delay, -, rfl⟩ := built
    exact ⟨rfl, rfl, rfl⟩
  · cases built
    exact ⟨rfl, rfl, rfl⟩

theorem asU32_value {value : Value} {number : UInt32} (read : asU32 value = .ok number) :
    ∃ natural : Nat, value = .number (.PosInt natural) := by
  have fits := (asU32_reads value).mp ⟨number, read⟩
  cases value with
  | number number =>
      cases number with
      | PosInt natural => exact ⟨natural, rfl⟩
      | _ => simp [Value.isU32] at fits
  | _ => simp [Value.isU32] at fits

/-- A body that the Rust client decodes is the error that Python raises. -/
theorem errorOf_agrees {body : NKIErrorBody} (decoded : NKIErrorBody.fromObject error = .ok body) :
    ∃ raised, errorOf py error = .ok raised ∧ raised.code = body.code ∧
      raised.text = body.display ∧ raised.retryable = body.retryable := by
  obtain ⟨codes, messages, flags, -, -, delay, delays, -⟩ := fromObject_ok.mp decoded
  obtain ⟨code, codeMember, codeRead⟩ := readMember_some.mp codes
  obtain ⟨message, messageMember, messageRead⟩ := readMember_some.mp messages
  obtain ⟨flag, flagMember, flagRead⟩ := readMember_some.mp flags
  rw [asString_ok] at codeRead messageRead
  rw [asBool_ok] at flagRead
  have converts : delayRaises py error = false := by
    cases found : error.get "recommended_delay_ms" with
    | none => simp [delayRaises, found]
    | some value =>
        rw [readMember, found] at delays
        cases read : asU32 value with
        | error e => simp [read, Except.map] at delays
        | ok number =>
            obtain ⟨natural, rfl⟩ := asU32_value read
            simp [delayRaises, found, py.int_natural, Except.isOk, Except.toBool]
  obtain ⟨raised, built⟩ := (errorOf_reads py).mpr converts
  obtain ⟨codeText, text, flagged⟩ := errorOf_ok py built
  rw [codeMember, codeRead, Option.map_some, py.str_string, Option.getD_some] at codeText text
  rw [messageMember, messageRead, Option.map_some, py.str_string, Option.getD_some] at text
  rw [flagMember, flagRead] at flagged
  exact ⟨raised, built, codeText, text, flagged⟩

end Errors

/-! ### Agreement -/

section Agreement

variable (py : Builtins) {response : Value} {requestId : String}
  (named : response.get "request_id" = some (.string requestId))
  (current : response.get "nki_version" = some (.number (.PosInt 2)))

/-- The reading of a response whose status is "error", by its error member. -/
def errorReading (py : Builtins) : Option Value → Reading
  | some (.object members) =>
      match errorOf py (.object members) with
      | .ok raised => .error raised.code raised.text raised.retryable
      | .error _ => .rejected
  | _ => .rejected

include named current in
theorem pythonReading_eq :
    pythonReading (parseResponse py response requestId) =
      if (response.get "status").bind Value.asStr = some "error" then
        errorReading py (response.get "error")
      else if (response.get "status").bind Value.asStr = some "success" then
        .success ((response.get "payload").getD .null)
      else .rejected := by
  cases response with
  | object members =>
      rw [parseResponse, named, current]
      simp only [Option.bind_some, Value.asStr, ne_eq, not_true_eq_false, if_false, Option.map_some,
        isNkiVersion, decide_true, Option.getD_some, Bool.not_true, Bool.false_eq_true]
      by_cases failed : ((Value.object members).get "status").bind Value.asStr = some "error"
      · rw [if_pos failed, if_pos failed]
        cases (Value.object members).get "error" with
        | none => rfl
        | some error =>
            cases error with
            | object parts =>
                simp only [errorReading]
                cases errorOf py (.object parts) <;> rfl
            | _ => rfl
      · rw [if_neg failed, if_neg failed]
        by_cases done : ((Value.object members).get "status").bind Value.asStr = some "success"
        · rw [if_neg (not_not.mpr done), if_pos done]
          rfl
        · rw [if_pos done, if_neg done]
          rfl
  | _ => simp [Value.get] at named

theorem rejected_iff {whole : Bool} {decoded : Except DecodeError NKIOutcome} :
    (if whole then outcomeReading decoded else .rejected) = .rejected ↔
      ¬(whole = true ∧ ∃ outcome, decoded = .ok outcome) := by
  cases whole
  · simp
  · simp only [if_true, true_and, outcomeReading_rejected]

theorem map_reads {decoded : Except DecodeError NKIErrorBody} :
    (∃ outcome, decoded.map NKIOutcome.Error = .ok outcome) ↔ ∃ body, decoded = .ok body := by
  cases decoded <;> simp [Except.map]

/-- Under the status "error" an object is read alike when Rust decodes it or Python raises
on its delay. -/
theorem alike_error {whole : Bool} (error : Value) :
    (if whole then outcomeReading ((NKIErrorBody.fromObject error).map .Error) else .rejected) =
        (match errorOf py error with
          | .ok raised => .error raised.code raised.text raised.retryable
          | .error _ => .rejected) ↔
      (whole && errorMembers error || delayRaises py error) = true := by
  cases body : NKIErrorBody.fromObject error with
  | ok body =>
      obtain ⟨raised, built, code, text, flag⟩ := errorOf_agrees py body
      have typed := fromObject_reads.mp ⟨_, body⟩
      have converts := (errorOf_reads py).mp ⟨raised, built⟩
      rw [built, typed, converts]
      cases whole <;> simp [outcomeReading, NKIOutcome.reading, Except.map, code, text, flag]
  | error e =>
      have untyped : errorMembers error = false := by
        rw [← Bool.not_eq_true, ← fromObject_reads, body]
        simp
      have refused : (if whole then outcomeReading ((Except.error e).map NKIOutcome.Error)
          else Reading.rejected) = .rejected := by
        cases whole <;> rfl
      rw [refused, untyped, Bool.and_false, Bool.false_or]
      cases built : errorOf py error with
      | ok raised => simp [(errorOf_reads py).mp ⟨raised, built⟩]
      | error exception =>
          have fails : delayRaises py error = true := by
            rw [← Bool.not_eq_false, ← errorOf_reads, built]
            simp
          simp [fails]

include named current in
theorem readAlike_iff :
    rustReading (requestInner requestId response) =
        pythonReading (parseResponse py response requestId) ↔ readAlike py response = true := by
  rw [rustReading_eq named current, pythonReading_eq py named current]
  cases response with
  | object members =>
      rw [NKIOutcome.deserialize, readAlike]
      cases tag : ((Value.object members).get "status").bind Value.asStr with
      | some status =>
          by_cases done : status = "success"
          · subst done
            cases enveloped (.object members) <;>
              cases (Value.object members).get "payload" <;>
                simp [outcomeReading, NKIOutcome.reading]
          · by_cases failed : status = "error"
            · subst failed
              simp only [done, if_false, if_true]
              cases (Value.object members).get "error" with
              | none => cases enveloped (.object members) <;> simp [errorReading, outcomeReading]
              | some error =>
                  cases error with
                  | object parts => exact alike_error py (.object parts)
                  | array items =>
                      simp only [errorReading, NKIErrorBody.fromValue, rejected_iff, map_reads,
                        fromArray_reads]
                      cases enveloped (.object members) <;> simp
                  | _ =>
                      cases enveloped (.object members) <;>
                        simp [errorReading, outcomeReading, NKIErrorBody.fromValue, Except.map]
            · simp only [Option.some.injEq, done, failed, if_false]
              cases enveloped (.object members) <;> simp [outcomeReading]
      | none =>
          simp only [reduceCtorEq, if_false, rejected_iff]
          cases (Value.object members).get "error" with
          | some error =>
              simp only [map_reads, fromValue_reads]
              cases enveloped (.object members) <;> simp
          | none => cases (Value.object members).get "payload" <;> simp
  | _ => simp [Value.get] at named

end Agreement

/-! ### What the daemon writes -/

theorem asU32_u32Value (value : UInt32) : asU32 (u32Value value) = .ok value := by
  have bound := value.toNat_lt
  simp [asU32, u32Value, bound]

theorem asI64_i64Value (value : Int64) : asI64 (i64Value value) = .ok value := by
  have low := value.le_toInt
  have high := value.toInt_lt
  by_cases positive : 0 ≤ value.toInt
  · have bound : value.toInt.toNat < 2 ^ 63 := by omega
    rw [i64Value, if_pos positive, asI64, if_pos bound, Int.toNat_of_nonneg positive,
      Int64.ofInt_toInt]
  · have bound : -2 ^ 63 ≤ value.toInt ∧ value.toInt < 0 := by omega
    rw [i64Value, if_neg positive, asI64, if_pos bound, Int64.ofInt_toInt]

theorem fromObject_toValue (body : NKIErrorBody) :
    NKIErrorBody.fromObject body.toValue = .ok body := by
  rw [fromObject_ok]
  refine ⟨?_, ?_, ?_, ⟨some body.failedPhase, ?_, rfl⟩, ⟨some body.cause, ?_, rfl⟩,
    ⟨some body.recommendedDelayMs, ?_, rfl⟩⟩
  all_goals
    simp [readMember, NKIErrorBody.toValue, Value.get, asString, asBool, asU32_u32Value, Except.map]

/-- The envelope adds an object around a payload, an error has none inside it. -/
theorem nesting_toValue (response : NKIResponse) :
    response.toValue.nesting < Value.recursionLimit ↔
      ∀ payload, response.outcome = .Success payload →
        payload.nesting + 1 < Value.recursionLimit := by
  have timestamp : (i64Value response.serverTimestampUs).nesting = 0 := by
    unfold i64Value
    split_ifs <;> rfl
  cases outcome : response.outcome with
  | Success payload =>
      simp only [NKIResponse.toValue, outcome, NKIOutcome.members, Value.nesting,
        Value.nestingMembers, List.cons_append, List.nil_append, timestamp, u32Value,
        NKIOutcome.Success.injEq, forall_eq', Nat.zero_max, Nat.max_zero, Nat.add_comm 1]
  | Error error =>
      simp [NKIResponse.toValue, outcome, NKIOutcome.members, NKIErrorBody.toValue, Value.nesting,
        Value.nestingMembers, timestamp, u32Value, Value.recursionLimit]

section Daemon

variable (py : Builtins) (response : NKIResponse) (current : response.nkiVersion = nkiVersion)

include current in
/-- The Python client reads the outcome of what the daemon writes, and the Rust client does
so up to the depth of the payload that it accepts. -/
theorem daemon_read :
    (rustReading (requestInner response.requestId response.toValue) = response.outcome.reading ↔
        ∀ payload, response.outcome = .Success payload →
          payload.nesting + 1 < Value.recursionLimit) ∧
      pythonReading (parseResponse py response.toValue response.requestId) =
        response.outcome.reading := by
  have named : response.toValue.get "request_id" = some (.string response.requestId) := by
    simp [NKIResponse.toValue, Value.get]
  have version : response.toValue.get "nki_version" = some (.number (.PosInt 2)) := by
    simp [NKIResponse.toValue, Value.get, current, u32Value, nkiVersion]
  have times : response.toValue.get "server_timestamp_us" =
      some (i64Value response.serverTimestampUs) := by
    simp [NKIResponse.toValue, Value.get]
  have traces : response.toValue.get "trace_id" = some (.string response.traceId) := by
    simp [NKIResponse.toValue, Value.get]
  have whole : enveloped response.toValue = true ↔
      response.toValue.nesting < Value.recursionLimit := by
    rw [enveloped, times, traces, Option.any_some, Option.any_some,
      (asI64_reads _).mp ⟨_, asI64_i64Value _⟩, Value.isString, Value.asStr, Option.isSome_some,
      Bool.and_true, Bool.and_true, decide_eq_true_eq]
  have accepted : response.outcome.reading ≠ .rejected := by
    cases response.outcome <;> exact Reading.noConfusion
  have outcome : outcomeReading (NKIOutcome.deserialize response.toValue) =
        response.outcome.reading ∧
      pythonReading (parseResponse py response.toValue response.requestId) =
        response.outcome.reading := by
    rw [pythonReading_eq py named version]
    cases outcome : response.outcome with
    | Success payload =>
        simp [NKIResponse.toValue, outcome, NKIOutcome.members, NKIOutcome.deserialize, Value.get,
          Value.asStr, outcomeReading, NKIOutcome.reading]
    | Error error =>
        have decoded := fromObject_toValue error
        obtain ⟨raised, built, code, text, flag⟩ := errorOf_agrees py decoded
        rw [NKIErrorBody.toValue] at decoded built
        simp [NKIResponse.toValue, outcome, NKIOutcome.members, NKIOutcome.deserialize, Value.get,
          Value.asStr, outcomeReading, NKIOutcome.reading, NKIErrorBody.toValue,
          NKIErrorBody.fromValue, decoded, Except.map, errorReading, built, code, text, flag]
  refine ⟨?_, outcome.2⟩
  rw [rustReading_eq named version, outcome.1, ← nesting_toValue, ← whole]
  split_ifs with envelope
  · exact iff_of_true rfl envelope
  · exact iff_of_false accepted.symm envelope

end Daemon

/-- A response of the current version without a status. -/
def untagged : Value :=
  .object [("nki_version", .number (.PosInt 2)), ("payload", .object []),
    ("request_id", .string "request-1"), ("server_timestamp_us", .number (.PosInt 0)),
    ("trace_id", .string "")]

/-- `str` and `int` on texts, constants and integers. -/
def plainBuiltins : Builtins where
  str
    | .string text => text
    | .null => "None"
    | .bool value => if value then "True" else "False"
    | .number (.PosInt value) => toString value
    | .number (.NegInt value) => toString value
    | _ => ""
  int
    | .number (.PosInt value) => .ok value
    | .number (.NegInt value) => .ok value
    | .bool value => .ok (if value then 1 else 0)
    | _ => .error (.TypeError "int() argument must be a string or a real number")
  str_string _ := rfl
  int_natural _ := rfl

end NousKernel
