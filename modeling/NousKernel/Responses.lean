import NousKernel.Contracts

/-!
The responses of the kernel and its two clients: the wire types with the decoder of an
outcome (`nous-nki/src/envelope.rs`), the Rust client (`nous-runtime-client/src/lib.rs`)
and the Python client (`sdk/python/src/nous_kernel/client.py`). Python's `str` and `int`
are parameters on what is no string and no natural number.
-/

set_option autoImplicit false

namespace NousKernel

def nkiVersion : UInt32 := 2

structure NKIErrorBody where
  code : String
  message : String
  failedPhase : String
  cause : String
  retryable : Bool
  recommendedDelayMs : UInt32
  deriving DecidableEq

def NKIErrorBody.display (self : NKIErrorBody) : String := self.code ++ ": " ++ self.message

inductive NKIOutcome where
  | Success (payload : Value)
  | Error (error : NKIErrorBody)

structure NKIResponse where
  requestId : String
  nkiVersion : UInt32
  serverTimestampUs : Int64
  traceId : String
  outcome : NKIOutcome

/-! ### Serialization -/

def i64Value (value : Int64) : Value :=
  if 0 ≤ value.toInt then .number (.PosInt value.toInt.toNat) else .number (.NegInt value.toInt)

def u32Value (value : UInt32) : Value := .number (.PosInt value.toNat)

def NKIErrorBody.toValue (self : NKIErrorBody) : Value :=
  .object [("cause", .string self.cause), ("code", .string self.code),
    ("failed_phase", .string self.failedPhase), ("message", .string self.message),
    ("recommended_delay_ms", u32Value self.recommendedDelayMs), ("retryable", .bool self.retryable)]

/-- The tag of an outcome and the member beside it. -/
def NKIOutcome.members : NKIOutcome → List (String × Value)
  | .Success payload => [("payload", payload), ("status", .string "success")]
  | .Error error => [("error", error.toValue), ("status", .string "error")]

def NKIResponse.toValue (self : NKIResponse) : Value :=
  .object ([("nki_version", u32Value self.nkiVersion), ("request_id", .string self.requestId),
    ("server_timestamp_us", i64Value self.serverTimestampUs), ("trace_id", .string self.traceId)] ++
    self.outcome.members)

/-! ### The decoders of the Rust client -/

inductive DecodeError where
  | missingField (field : String)
  | invalidType (expected : String)
  | invalidLength (length : Nat)
  | recursionLimitExceeded
  | custom (message : String)
  deriving DecidableEq

namespace Wire

def asString : Value → Except DecodeError String
  | .string text => .ok text
  | _ => .error (.invalidType "a string")

def asBool : Value → Except DecodeError Bool
  | .bool value => .ok value
  | _ => .error (.invalidType "a boolean")

def asU32 : Value → Except DecodeError UInt32
  | .number (.PosInt value) =>
      if value < 2 ^ 32 then .ok (UInt32.ofNat value) else .error (.invalidType "u32")
  | _ => .error (.invalidType "u32")

def asI64 : Value → Except DecodeError Int64
  | .number (.PosInt value) =>
      if value < 2 ^ 63 then .ok (Int64.ofInt value) else .error (.invalidType "i64")
  | .number (.NegInt value) =>
      if -2 ^ 63 ≤ value ∧ value < 0 then .ok (Int64.ofInt value) else .error (.invalidType "i64")
  | _ => .error (.invalidType "i64")

/-- A member that may be left out. -/
def readMember {T : Type} (read : Value → Except DecodeError T) (object : Value) (field : String) :
    Except DecodeError (Option T) :=
  match object.get field with
  | none => .ok none
  | some value => (read value).map some

def present {T : Type} (field : String) : Option T → Except DecodeError T
  | some value => .ok value
  | none => .error (.missingField field)

/-- An element that a sequence must have. -/
def element {T : Type} (read : Value → Except DecodeError T) (items : List Value) (index : Nat) :
    Except DecodeError T :=
  match items[index]? with
  | some value => read value
  | none => .error (.invalidLength index)

/-- An element that a sequence may end before. -/
def elementOr {T : Type} (read : Value → Except DecodeError T) (default : T) (items : List Value)
    (index : Nat) : Except DecodeError T :=
  match items[index]? with
  | some value => read value
  | none => .ok default

end Wire

namespace NKIErrorBody

open Wire

/-- The members are read in the order of the map, what is missing is noticed after them. -/
def fromObject (error : Value) : Except DecodeError NKIErrorBody := do
  let cause ← readMember asString error "cause"
  let code ← readMember asString error "code"
  let failedPhase ← readMember asString error "failed_phase"
  let message ← readMember asString error "message"
  let recommendedDelayMs ← readMember asU32 error "recommended_delay_ms"
  let retryable ← readMember asBool error "retryable"
  let code ← present "code" code
  let message ← present "message" message
  let retryable ← present "retryable" retryable
  return {
    code := code
    message := message
    failedPhase := failedPhase.getD ""
    cause := cause.getD ""
    retryable := retryable
    recommendedDelayMs := recommendedDelayMs.getD 0 }

/-- The derived decoder of a structure also reads its members one after another. -/
def fromArray (items : List Value) : Except DecodeError NKIErrorBody := do
  let code ← element asString items 0
  let message ← element asString items 1
  let failedPhase ← elementOr asString "" items 2
  let cause ← elementOr asString "" items 3
  let retryable ← element asBool items 4
  let recommendedDelayMs ← elementOr asU32 0 items 5
  if 6 < items.length then throw (.invalidLength items.length)
  return {
    code := code
    message := message
    failedPhase := failedPhase
    cause := cause
    retryable := retryable
    recommendedDelayMs := recommendedDelayMs }

def fromValue : Value → Except DecodeError NKIErrorBody
  | .object members => fromObject (.object members)
  | .array items => fromArray items
  | _ => .error (.invalidType "struct NKIErrorBody")

end NKIErrorBody

/-- `NKIOutcome::deserialize`, on the members beside those of the envelope. Without a
status that is a text, a response is read as before there was one. -/
def NKIOutcome.deserialize (value : Value) : Except DecodeError NKIOutcome :=
  match value with
  | .object _ =>
      match (value.get "status").bind Value.asStr with
      | some status =>
          if status = "success" then
            match value.get "payload" with
            | some payload => .ok (.Success payload)
            | none => .error (.missingField "payload")
          else if status = "error" then
            match value.get "error" with
            | some error => (NKIErrorBody.fromValue error).map .Error
            | none => .error (.missingField "error")
          else .error (.custom ("unknown NKI outcome status '" ++ status ++ "'"))
      | none =>
          match value.get "error" with
          | some error => (NKIErrorBody.fromValue error).map .Error
          | none =>
              match value.get "payload" with
              | some payload => .ok (.Success payload)
              | none => .error (.custom "NKI outcome requires status, payload, or error")
  | _ => .error (.custom "NKI outcome must be an object")

open Wire in
def NKIResponse.deserialize (value : Value) : Except DecodeError NKIResponse := do
  let requestId ← readMember asString value "request_id"
  let nkiVersion ← readMember asU32 value "nki_version"
  let serverTimestampUs ← readMember asI64 value "server_timestamp_us"
  let traceId ← readMember asString value "trace_id"
  let requestId ← present "request_id" requestId
  let nkiVersion ← present "nki_version" nkiVersion
  let serverTimestampUs ← present "server_timestamp_us" serverTimestampUs
  let traceId ← present "trace_id" traceId
  let outcome ← NKIOutcome.deserialize value
  return ⟨requestId, nkiVersion, serverTimestampUs, traceId, outcome⟩

/-- `from_slice` of a text of a response. -/
def NKIResponse.fromSlice (response : Value) : Except DecodeError NKIResponse :=
  if Value.recursionLimit ≤ response.nesting then .error .recursionLimitExceeded
  else NKIResponse.deserialize response

inductive RuntimeClient.ClientError where
  | Serialization (error : DecodeError)
  | Protocol (message : String)
  | NkiError (body : NKIErrorBody)

/-- What `request_inner` does with the response to a request. -/
def requestInner (requestId : String) (response : Value) : Except RuntimeClient.ClientError Value :=
  match NKIResponse.fromSlice response with
  | .error error => .error (.Serialization error)
  | .ok response =>
      if response.requestId ≠ requestId then
        .error (.Protocol "response request_id does not match request")
      else if response.nkiVersion ≠ nkiVersion then
        .error (.Protocol "response NKI version is unsupported")
      else
        match response.outcome with
        | .Success payload => .ok payload
        | .Error error => .error (.NkiError error)

/-! ### The Python client -/

/-- `NkiError`, whose text is the exception's. -/
structure NkiError where
  text : String
  code : String
  retryable : Bool
  failedPhase : String
  cause : String
  recommendedDelayMs : Int
  deriving DecidableEq

/-- The exceptions of the language. -/
inductive Exception where
  | TypeError (message : String)
  | ValueError (message : String)
  | OverflowError (message : String)
  deriving DecidableEq

inductive PythonError where
  | raised (exception : Exception)
  | NkiError (error : NkiError)
  deriving DecidableEq

/-- `str` and `int`: a text is its own, and a natural number converts to itself. -/
structure Builtins where
  str : Value → String
  int : Value → Except Exception Int
  str_string : ∀ text, str (.string text) = text
  int_natural : ∀ value : Nat, int (.number (.PosInt value)) = .ok value

/-- `bool`. -/
def Value.truth : Value → Bool
  | .null => false
  | .bool value => value
  | .number (.PosInt value) => value ≠ 0
  | .number (.NegInt value) => value ≠ 0
  | .number (.Float value) => value ≠ 0#64 && value ≠ 0x8000000000000000#64
  | .string text => text ≠ ""
  | .array items => !items.isEmpty
  | .object members => !members.isEmpty

/-- `value == NKI_VERSION`, where a float may equal an integer. -/
def isNkiVersion : Value → Bool
  | .number (.PosInt value) => value = 2
  | .number (.Float value) => value = 0x4000000000000000#64
  | _ => false

/-- `NkiError(..)` with the defaults of its members. -/
def errorOf (py : Builtins) (error : Value) : Except Exception NkiError := do
  let text (field default : String) : String := ((error.get field).map py.str).getD default
  let code := text "code" "UNKNOWN"
  let message := text "message" "kernel request failed"
  let recommendedDelayMs ← match error.get "recommended_delay_ms" with
    | some value => py.int value
    | none => .ok 0
  return {
    text := code ++ ": " ++ message
    code := code
    retryable := ((error.get "retryable").map Value.truth).getD false
    failedPhase := text "failed_phase" ""
    cause := text "cause" ""
    recommendedDelayMs := recommendedDelayMs }

/-- `_parse_response`. -/
def parseResponse (py : Builtins) (response : Value) (requestId : String) :
    Except PythonError Value :=
  match response with
  | .object _ =>
      if (response.get "request_id").bind Value.asStr ≠ some requestId then
        .error (.raised (.ValueError "NKI response request_id does not match the request"))
      else if !((response.get "nki_version").map isNkiVersion).getD false then
        .error (.raised (.ValueError "NKI response version is unsupported"))
      else
        let status := (response.get "status").bind Value.asStr
        if status = some "error" then
          match response.get "error" with
          | some (.object members) =>
              match errorOf py (.object members) with
              | .ok error => .error (.NkiError error)
              | .error exception => .error (.raised exception)
          | _ => .error (.raised (.ValueError "NKI error response has no structured error body"))
        else if status ≠ some "success" then
          .error (.raised (.ValueError "NKI response status is unsupported"))
        else .ok ((response.get "payload").getD .null)
  | _ => .error (.raised (.TypeError "NKI response must be an object"))

end NousKernel
