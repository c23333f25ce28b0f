import NousKernel.Emission
import NousKernel.ProviderProcess
import NousKernel.Ranking

/-!
The bundled worker (`providers/worker/src/main.rs`): one command on standard input, one
response on standard output, and at most one request handed to the HTTP client in between. This
client, the parsers of `serde_json` and of addresses and the arithmetic of floats are parameters.
The client follows redirects on its own: where a request goes from its address is not told here.
-/

set_option autoImplicit false

namespace NousKernel

structure Url where
  scheme : String
  username : String
  password : Option String
  host : Option String
  query : Option String
  fragment : Option String
  text : String
  deriving DecidableEq

/-- A request that the worker hands to its HTTP client. -/
structure HttpRequest where
  method : String
  url : Url
  bearer : Option String
  body : Option Value
  timeoutMs : Nat

/-- A reply with its status, and with what `error_for_status` says of it. -/
structure HttpReply where
  status : Nat
  reason : String
  refusal : String
  body : Except String Value

def HttpReply.isSuccess (reply : HttpReply) : Bool := 200 ≤ reply.status && reply.status < 300

structure ModelInvocationInput where
  schemaVersion : Nat
  capability : String
  messages : List Value
  input : Value
  tools : List Value
  responseFormat : Option Value
  maxOutputTokens : Option Nat
  temperature : Option Binary64

structure ModelInvocationOutput where
  schemaVersion : Nat
  content : Value
  usage : Value
  finishReason : String
  metadata : Value

/-- The arithmetic of floats. -/
structure Arithmetic where
  ofNumber : Number → Option Binary64
  add : Binary64 → Binary64 → Binary64
  mul : Binary64 → Binary64 → Binary64

structure WorkerHost where
  command : Bytes → Except String ProviderCommand
  response : ProviderResponse → Except String Bytes
  parse : String → Except String Value
  invocation : Value → Except String ModelInvocationInput
  output : ModelInvocationOutput → Except String String
  text : Value → Except String String
  parseUrl : String → Option Url
  client : Except String Unit
  /-- What the client comes back with, after the redirects it followed. -/
  exchange : HttpRequest → Except String HttpReply
  arithmetic : Arithmetic
  now : Int
  elapsedMs : Nat

/-- How a worker stops before it has a response. -/
inductive WorkerStop where
  | failed (error : KernelError)
  | crashed

abbrev Worker : Type → Type := Emission HttpRequest WorkerStop

namespace Worker

def refuse {α : Type} (reason : String) : Worker α := Emission.fail (.failed (.provider reason))

/-- `map_err(|error| KernelError::Provider(error.to_string()))`. -/
def tried {α : Type} (result : Except String α) : Worker α :=
  .ofExcept (result.mapError fun reason => .failed (.provider reason))

/-- `ok_or_else(|| KernelError::Provider(reason))`. -/
def require {α : Type} (found : Option α) (reason : String) : Worker α :=
  .ofExcept (match found with
    | some value => .ok value
    | none => .error (.failed (.provider reason)))

/-- `map_err(|error| KernelError::Serialization(error.to_string()))`. -/
def written {α : Type} (result : Except String α) : Worker α :=
  .ofExcept (result.mapError fun reason => .failed (.serialization reason))

end Worker

open Worker

/-! ### Model input and output -/

def ModelInvocationInput.validate (self : ModelInvocationInput) : Except String Unit :=
  if self.schemaVersion ≠ 1 then .error "model invocation schema_version must be 1"
  else if self.messages.isEmpty ∧ self.input.isNull then
    .error "model invocation requires messages or input"
  else if self.maxOutputTokens = some 0 then .error "max_output_tokens must be positive"
  else
    let outside (value : Binary64) : Bool := !value.isFinite || !(0 ≤ value.numberKey &&
      value.numberKey ≤ Binary64.numberKey 0x4000000000000000#64)
    if (self.temperature.map outside).getD false then .error "temperature must be between 0 and 2"
    else .ok ()

/-- A text that is not a model invocation is a prompt. -/
def decodeModelInput (host : WorkerHost) (input : String) : Worker (Option ModelInvocationInput) :=
  match host.parse input with
  | .error _ => pure none
  | .ok value =>
      if (value.get "schema_version").isNone ∨
          ((value.get "messages").isNone ∧ (value.get "input").isNone) then pure none
      else do
        let invalid (reason : String) := "invalid model invocation: " ++ reason
        let invocation ← tried ((host.invocation value).mapError invalid)
        tried (invocation.validate.mapError invalid)
        return some invocation

def modelMessages (invocation : ModelInvocationInput) : List Value :=
  if invocation.messages.isEmpty then
    [.object [("content", invocation.input), ("role", .string "user")]]
  else invocation.messages

/-- A number as `json!` writes it. -/
def jsonFloat (value : Binary64) : Value :=
  if value.isFinite then .number (.Float value) else .null

def openaiRequestBody (request : OperationRequest) : Option ModelInvocationInput → Value
  | none => .object [
      ("messages", .array [.object [("content", .string request.input), ("role", .string "user")]]),
      ("model", .string request.model)]
  | some invocation =>
      if invocation.capability = "embedding" then
        .object [("input", invocation.input), ("model", .string request.model)]
      else .object
        ((match invocation.maxOutputTokens with
          | some maxTokens => [("max_tokens", .number (.PosInt maxTokens))]
          | none => []) ++
        [("messages", .array (modelMessages invocation)), ("model", .string request.model)] ++
        (match invocation.responseFormat with
          | some responseFormat => [("response_format", responseFormat)]
          | none => []) ++
        (match invocation.temperature with
          | some temperature => [("temperature", jsonFloat temperature)]
          | none => []) ++
        (if invocation.tools.isEmpty then [] else [("tools", .array invocation.tools)]))

def ollamaRequestBody (request : OperationRequest) : Option ModelInvocationInput → Value
  | none => .object [("model", .string request.model), ("prompt", .string request.input),
      ("stream", .bool false)]
  | some invocation => .object (
      [("messages", .array (modelMessages invocation)), ("model", .string request.model)] ++
      (match invocation.temperature with
        | some temperature => [("options", .object [("temperature", jsonFloat temperature)])]
        | none => []) ++
      [("stream", .bool false)])

def encodeOpenaiOutput (host : WorkerHost) (body : Value) (invocation : ModelInvocationInput) :
    Worker String :=
  let usage := (body.get "usage").getD .null
  if invocation.capability = "embedding" then do
    let content ← require (body.pointer ["data", "0", "embedding"])
      "response contains no embedding"
    written (host.output ⟨1, content, usage, "completed",
      .object [("backend", .string "openai-compatible")]⟩)
  else do
    let message ← require (body.pointer ["choices", "0", "message"]) "response contains no message"
    written (host.output ⟨1, (message.get "content").getD .null, usage,
      ((body.pointer ["choices", "0", "finish_reason"]).bind Value.asStr).getD "completed",
      .object [("backend", .string "openai-compatible"),
        ("tool_calls", (message.get "tool_calls").getD .null)]⟩)

def encodeOllamaOutput (host : WorkerHost) (body : Value) : Worker String := do
  let content ← require (body.pointer ["message", "content"])
    "response contains no message content"
  written (host.output ⟨1, content,
    .object [("completion_tokens", (body.get "eval_count").getD .null),
      ("prompt_tokens", (body.get "prompt_eval_count").getD .null)],
    ((body.get "done_reason").bind Value.asStr).getD "completed",
    .object [("backend", .string "ollama")]⟩)

/-! ### Calls -/

def Url.isLoopback (url : Url) : Bool :=
  url.host = some "localhost" || url.host = some "127.0.0.1" || url.host = some "::1"

def trimEndSlashes (text : String) : String :=
  String.ofList ((text.toList.reverse.dropWhile (· = '/')).reverse)

/-- The address of a path of an endpoint. -/
def endpointPath (endpoint path : String) : String := trimEndSlashes endpoint ++ "/" ++ path

def checkedEndpoint (host : WorkerHost) (value : String) (allowLoopbackHttp : Bool) :
    Worker Url := do
  let url ← require (host.parseUrl value) "provider endpoint is invalid"
  if url.username ≠ "" ∨ url.password.isSome ∨ url.query.isSome ∨ url.fragment.isSome then
    refuse "provider endpoint must not contain credentials, query parameters, or fragments"
  else if url.scheme ≠ "https" ∧ !(allowLoopbackHttp && url.isLoopback) then
    refuse "provider endpoint must use HTTPS (HTTP is allowed only on loopback)"
  else return url

/-- `credential` and `probe_credential`. -/
def credential (environment : Environment) (credentialEnv : String) : Worker String :=
  if credentialEnv = "" then refuse "credential reference is required"
  else require (environment credentialEnv) "credential reference is unavailable"

/-- The bearer token of a request. An endpoint at the edge may do without. -/
def bearerToken (environment : Environment) (credentialEnv : String) (optional : Bool) :
    Worker (Option String) :=
  if credentialEnv = "" ∧ optional then pure none
  else do
    let secret ← credential environment credentialEnv
    return some secret

/-- `send` of the HTTP client: the one place where a request is handed to it. -/
def WorkerHost.handOver (host : WorkerHost) (request : HttpRequest) : Worker HttpReply :=
  .send request ((host.exchange request).mapError fun reason => .failed (.provider reason))

def ensureProviderHttpSuccess (reply : HttpReply) : Worker Unit :=
  if reply.isSuccess then pure ()
  else
    let code := if reply.status = 402 then "NOUS_PROVIDER_BALANCE_EXHAUSTED"
      else "NOUS_PROVIDER_HTTP_ERROR"
    refuse (code ++ ": HTTP " ++ reply.reason)

/-- `Response::error_for_status`. -/
def errorForStatus (reply : HttpReply) : Worker Unit :=
  if 400 ≤ reply.status ∧ reply.status < 600 then refuse reply.refusal else pure ()

def openaiCompatible (host : WorkerHost) (environment : Environment)
    (request : OperationRequest) : Worker String := do
  let allowLoopbackHttp : Bool := request.backend = "edge-openai-compatible"
  let invocation ← decodeModelInput host request.input
  let capability := (invocation.map (·.capability)).getD "chat"
  let path := if capability = "embedding" then "embeddings" else "chat/completions"
  let url ← checkedEndpoint host (endpointPath request.endpoint path) allowLoopbackHttp
  tried host.client
  let bearer ← bearerToken environment request.credentialEnv allowLoopbackHttp
  let reply ← host.handOver ⟨"POST", url, bearer, some (openaiRequestBody request invocation),
    max request.timeoutMs 1⟩
  ensureProviderHttpSuccess reply
  let body ← tried reply.body
  match invocation with
  | some invocation => encodeOpenaiOutput host body invocation
  | none =>
      let content := (body.pointer ["choices", "0", "message", "content"]).bind Value.asStr
      require content "response contains no message content"

def ollama (host : WorkerHost) (request : OperationRequest) : Worker String := do
  let invocation ← decodeModelInput host request.input
  let path := if invocation.isSome then "api/chat" else "api/generate"
  let url ← checkedEndpoint host (endpointPath request.endpoint path) true
  tried host.client
  let reply ← host.handOver ⟨"POST", url, none, some (ollamaRequestBody request invocation),
    max request.timeoutMs 1⟩
  errorForStatus reply
  let body ← tried reply.body
  match invocation with
  | some _ => encodeOllamaOutput host body
  | none => require ((body.get "response").bind Value.asStr) "response contains no generated text"

/-! ### Backends -/

def Value.asF64 (arithmetic : Arithmetic) : Value → Option Binary64
  | .number value => arithmetic.ofNumber value
  | _ => none

def Value.asArray : Value → Option (List Value)
  | .array items => some items
  | _ => none

def numberArray (host : WorkerHost) (value : Value) (field : String) : Worker (List Binary64) := do
  let items ← require ((value.get field).bind Value.asArray)
    ("numeric array '" ++ field ++ "' is required")
  require (items.mapM (Value.asF64 host.arithmetic)) ("'" ++ field ++ "' must be numeric")

def linearForm (host : WorkerHost) (request : Value) : Worker Binary64 := do
  let coefficients ← numberArray host request "coefficients"
  let values ← numberArray host request "input"
  if coefficients.length ≠ values.length then
    refuse "coefficients and input must have equal length"
  else
    let bias := ((request.get "bias").bind (Value.asF64 host.arithmetic)).getD 0#64
    return (coefficients.zip values).foldl
      (fun sum pair => host.arithmetic.add sum (host.arithmetic.mul pair.1 pair.2)) bias

def polynomial (host : WorkerHost) (request : Value) : Worker Binary64 := do
  let coefficients ← numberArray host request "coefficients"
  let value ← require ((request.get "input").bind (Value.asF64 host.arithmetic))
    "numeric input is required"
  return coefficients.reverse.foldl
    (fun result coefficient => host.arithmetic.add (host.arithmetic.mul result value) coefficient)
    0#64

def mathematicalResult (host : WorkerHost) (request : Value) (operation : String) :
    Worker Binary64 :=
  if operation = "linear" then linearForm host request
  else if operation = "polynomial" then polynomial host request
  else refuse ("unsupported mathematical operation: " ++ operation)

def referenceMath (host : WorkerHost) (input : String) : Worker String := do
  let request ← tried ((host.parse input).mapError ("invalid mathematical input: " ++ ·))
  let operation ← require ((request.get "operation").bind Value.asStr)
    "mathematical operation is required"
  let result ← mathematicalResult host request operation
  written (host.text (.object [("operation", .string operation), ("result", jsonFloat result)]))

def digestText (text : String) : String := digestBytes (asBytes text)

/-- A delay ends at the latest with the process, and has no other effect. -/
def executeBackend (host : WorkerHost) (environment : Environment)
    (request : OperationRequest) : Worker String :=
  if request.backend = "reference" then pure (digestText request.input)
  else if request.backend = "reference-crash" then Emission.fail .crashed
  else if request.backend = "reference-delay" then pure (digestText request.input)
  else if request.backend = "reference-math" then referenceMath host request.input
  else if request.backend = "openai-compatible" ∨ request.backend = "edge-openai-compatible" then
    openaiCompatible host environment request
  else if request.backend = "ollama" then ollama host request
  else refuse ("unsupported backend: " ++ request.backend)

/-! ### Probes -/

/-- The texts of one member of the items of a list. -/
def listed (body : Value) (list name : String) : List String :=
  (((body.get list).bind Value.asArray).getD []).filterMap fun item =>
    (item.get name).bind Value.asStr

/-- A probe over HTTP: what the models of the answer are called. -/
def probeEndpoint (host : WorkerHost) (request : ProviderProbeRequest) (path list name : String)
    (allowLoopbackHttp : Bool) (bearer : Worker (Option String)) : Worker (List String) := do
  let url ← checkedEndpoint host (endpointPath request.endpoint path) allowLoopbackHttp
  tried host.client
  let bearer ← bearer
  let reply ← host.handOver ⟨"GET", url, bearer, none, max request.timeoutMs 1⟩
  errorForStatus reply
  let body ← tried reply.body
  return listed body list name

/-- What answers a probe: its runtime class, its models and the warnings about it. -/
def probed (host : WorkerHost) (environment : Environment) (request : ProviderProbeRequest) :
    Worker (ProviderRuntimeClass × List String × List String) :=
  if request.backend = "reference" ∨ request.backend = "reference-delay" ∨
      request.backend = "reference-crash" ∨ request.backend = "reference-math" then
    pure (.reference, ["reference"], ["deterministic conformance backend; not a real model"])
  else if request.backend = "openai-compatible" then do
    let secret ← credential environment request.credentialEnv
    let models ← probeEndpoint host request "models" "data" "id" false (pure (some secret))
    return (.remote, models, [])
  else if request.backend = "ollama" then do
    let models ← probeEndpoint host request "api/tags" "models" "name" true (pure none)
    return (.local, models, [])
  else if request.backend = "edge-openai-compatible" then do
    let models ← probeEndpoint host request "models" "data" "id" true
      (bearerToken environment request.credentialEnv true)
    return (.edge, models, ["capabilities not returned by the endpoint remain UNKNOWN"])
  else refuse ("unsupported backend: " ++ request.backend)

def ProviderRuntimeClass.debug : ProviderRuntimeClass → String
  | .remote => "Remote"
  | .local => "Local"
  | .edge => "Edge"
  | .reference => "Reference"
  | .unknown => "Unknown"

def probeBackend (host : WorkerHost) (environment : Environment)
    (request : ProviderProbeRequest) : Worker ProviderProbeReport := do
  let (runtimeClass, availableModels, warnings) ← probed host environment request
  let unlisted := if request.model ≠ "" ∧ availableModels ≠ [] ∧
      request.model ∉ availableModels then
    ["configured model '" ++ request.model ++ "' was not reported by the provider"] else []
  let displaced := if request.executionDomain ≠ .unknown ∧
      request.executionDomain ≠ runtimeClass then
    ["configured execution domain '" ++ request.executionDomain.debug ++
      "' differs from probed domain '" ++ runtimeClass.debug ++ "'"] else []
  let isLocal : Bool := runtimeClass = .local ∨ runtimeClass = .edge ∨ runtimeClass = .reference
  return {
    reachable := true
    latencyMs := host.elapsedMs
    availableModels := availableModels
    capabilities := {
      provider := request.provider
      backend := request.backend
      model := request.model
      runtimeClass := runtimeClass
      chat := if runtimeClass = .reference then .supported else .unknown
      streaming := if runtimeClass = .reference then .unsupported else .unknown
      tools := .unknown
      structuredOutput := .unknown
      vision := .unknown
      embedding := .unknown
      reasoning := .unknown
      localExecution := if isLocal then .supported else .unsupported
      contextLength := none
      privacyLocal := isLocal }
    warnings := warnings ++ unlisted ++ displaced }

/-! ### The process -/

/-- What a command comes to. -/
def WorkerHost.obey (host : WorkerHost) (environment : Environment) :
    ProviderCommand → Worker ProviderResponse
  | .Health => pure (.accepted none none)
  | .Probe request => do
      let report ← probeBackend host environment request
      return .accepted none (some report)
  | .Execute request => do
      let result ← executeBackend host environment request
      return .accepted (some (externalReceipt request result host.now)) none

/-- `run`: the arguments follow the name of the program. -/
def WorkerHost.run (host : WorkerHost) (environment : Environment) (arguments : List String)
    (stdin : Bytes) : Worker ProviderResponse :=
  if arguments.head? ≠ some "--stdio-once" then refuse "expected --stdio-once"
  else do
    let command ← written (host.command stdin)
    host.obey environment command

/-- `main`: the exit code, and what is on standard output. -/
def WorkerHost.main (host : WorkerHost) (environment : Environment) (arguments : List String)
    (stdin : Bytes) : Nat × Bytes :=
  let answer (response : ProviderResponse) : Nat × Bytes :=
    match host.response response with
    | .error _ => (2, [])
    | .ok output => (if response.ok then 0 else 1, output)
  match (host.run environment arguments stdin).result with
  | .ok response => answer response
  | .error (.failed error) =>
      answer ⟨false, none, none, "PROVIDER_EXECUTION_FAILED", error.display⟩
  | .error .crashed => (70, [])

/-- The requests that a worker hands to its HTTP client, not those that redirects lead to. -/
def WorkerHost.requests (host : WorkerHost) (environment : Environment) (arguments : List String)
    (stdin : Bytes) : List HttpRequest := (host.run environment arguments stdin).sent

end NousKernel
