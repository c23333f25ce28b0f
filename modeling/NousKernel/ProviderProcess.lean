import NousKernel.Binding
import NousKernel.Compatibility
import NousKernel.Contracts
import NousKernel.Lease
import NousKernel.OpenRuntime

/-!
The kernel's side of a provider process (`ProcessProvider` in `nous-kernel-core/src/lib.rs`):
what is started with which variables, what it is told, and what is made of its output.
`serde_json` is a parameter, and so is what becomes of a child.
-/

set_option autoImplicit false

namespace NousKernel

inductive ProviderCommand where
  | Health
  | Probe (request : ProviderProbeRequest)
  | Execute (request : OperationRequest)
  deriving DecidableEq

structure ProviderResponse where
  ok : Bool
  receipt : Option OperationReceipt
  probe : Option ProviderProbeReport
  errorCode : String
  errorMessage : String
  deriving DecidableEq

/-- The variables of a process. -/
abbrev Environment : Type := String → Option String

structure Launch where
  program : String
  arguments : List String
  environment : Environment

structure ExitStatus where
  success : Bool
  text : String

/-- How a child ends for its parent. Its standard error is read as text. -/
inductive ProcessEnd where
  | unwritable (reason : String)
  | unwaitable (reason : String)
  | cancelled
  | expired
  | exited (status : ExitStatus) (stdout : Bytes) (stderr : String)

structure ProviderSerde where
  command : ProviderCommand → Except String Bytes
  value : Value → Except String Bytes
  response : Bytes → Except String ProviderResponse
  parse : Bytes → Except String Value

/-- A kernel's process, and what becomes of the children it starts. -/
structure ProviderHost where
  program : String
  environment : Environment
  serde : ProviderSerde
  spawn : Launch → Except String Unit
  child : Launch → Bytes → Nat → ProcessEnd
  now : Int

/-! ### What is started -/

def inheritedNames : List String := ["PATH", "SystemRoot", "WINDIR", "HOME", "TMP", "TEMP",
  "LOCALAPPDATA", "APPDATA", "USERPROFILE"]

/-- `str::trim`. -/
def trim (text : List Char) : List Char :=
  ((text.dropWhile isWhitespace).reverse.dropWhile isWhitespace).reverse

def ProviderCommand.externalEntrypoint : ProviderCommand → Option String
  | .Execute request =>
      if request.backend = "external-process" then some request.providerEntrypoint else none
  | .Probe request =>
      if request.backend = "external-process" then some request.providerEntrypoint else none
  | .Health => none

/-- The names in the list of the operator. -/
def allowedCredentials (environment : Environment) : List String :=
  (((environment "NOUS_ALLOWED_CREDENTIALS").getD "").toList.splitOn ',').map
    fun name => String.ofList (trim name)

/-- The credential a provider gets, or none where it asks for none. -/
def authorizedCredential (environment : Environment) (credentialEnv : String) :
    Except KernelError (Option String) :=
  if credentialEnv = "" then .ok none
  else
    match validateCredentialReference credentialEnv with
    | .error reason => .error (.admission reason)
    | .ok () =>
        if credentialEnv ∈ allowedCredentials environment then
          match environment credentialEnv with
          | some value => .ok (some value)
          | none => .error (.provider "credential reference is unavailable")
        else .error (.provider "credential reference is not authorized for provider use")

/-- The variables of a child: of all of the kernel's, the inherited ones and a credential. -/
def childEnvironment (environment : Environment) (credentialEnv : String)
    (credential : Option String) : Environment := fun name =>
  if credential.isSome ∧ name = credentialEnv then credential
  else if name ∈ inheritedNames then environment name
  else none

def ProviderHost.launch (host : ProviderHost) (command : ProviderCommand)
    (credentialEnv : String) (credential : Option String) : Launch where
  program :=
    match command.externalEntrypoint with
    | some entrypoint =>
        if [ '.', 'p', 'y'] <:+ entrypoint.toList then "python" else entrypoint
    | none => host.program
  arguments :=
    match command.externalEntrypoint with
    | some entrypoint => if [ '.', 'p', 'y'] <:+ entrypoint.toList then [entrypoint] else []
    | none => ["--stdio-once"]
  environment := childEnvironment host.environment credentialEnv credential

/-! ### What it is told and what it answers -/

/-- What an external process is told: nothing of the provider's configuration. -/
def externalProviderRequest : ProviderCommand → Value
  | .Execute request => .object [
      ("input", .string request.input),
      ("model", .string request.model),
      ("operation_id", .string request.operationId),
      ("schema_version", .number (.PosInt 1)),
      ("type", .string "execute")]
  | .Probe _ => .object [("schema_version", .number (.PosInt 1)), ("type", .string "probe")]
  | .Health => .object [("schema_version", .number (.PosInt 1)), ("type", .string "health")]

/-- The index that a token of a pointer is. -/
def arrayIndex (token : String) : Option Nat :=
  match token.toList with
  | '+' :: _ => none
  | '0' :: _ :: _ => none
  | digits => parseU64 digits

/-- `value.pointer(..)`, one token after another. -/
def Value.pointer : Value → List String → Option Value
  | value, [] => some value
  | .object members, token :: rest =>
      match (Value.object members).get token with
      | some member => member.pointer rest
      | none => none
  | .array items, token :: rest =>
      match (arrayIndex token).bind fun index => items[index]? with
      | some item => item.pointer rest
      | none => none
  | _, _ :: _ => none

def Value.isTrue : Value → Bool
  | .bool true => true
  | _ => false

def ProviderResponse.accepted (receipt : Option OperationReceipt)
    (probe : Option ProviderProbeReport) : ProviderResponse := ⟨true, receipt, probe, "", ""⟩

/-- What is known of the capabilities of an external process. -/
def externalProbe (request : ProviderProbeRequest) : ProviderProbeReport where
  reachable := true
  latencyMs := 0
  availableModels := []
  capabilities := {
    provider := request.provider
    backend := request.backend
    model := request.model
    runtimeClass := request.executionDomain
    chat := .unknown
    streaming := .unknown
    tools := .unknown
    structuredOutput := .unknown
    vision := .unknown
    embedding := .unknown
    reasoning := .unknown
    localExecution := .supported
    contextLength := none
    privacyLocal := true }
  warnings := ["generic capabilities are declared by ProviderManifest v1"]

def normalizeExternalProviderResponse (serde : ProviderSerde) (now : Int)
    (command : ProviderCommand) (output : Bytes) : Except KernelError ProviderResponse :=
  match serde.parse output with
  | .error reason => .error (.provider ("malformed provider response: " ++ reason))
  | .ok body =>
      if ((body.get "ok").map Value.isTrue).getD false = false then
        .ok {
          ok := false
          receipt := none
          probe := none
          errorCode := ((body.pointer ["error", "code"]).bind Value.asStr).getD
            "PROVIDER_EXECUTION_FAILED"
          errorMessage :=
            ((body.pointer ["error", "message"]).bind Value.asStr).getD
              "external provider rejected the request" }
      else
        match command with
        | .Execute request =>
            match (body.get "output").bind Value.asStr with
            | none => .error (.provider "external provider returned no string output")
            | some result => .ok (.accepted (some (externalReceipt request result now)) none)
        | .Probe request => .ok (.accepted none (some (externalProbe request)))
        | .Health => .ok (.accepted none none)

/-- What a child is told on its standard input. -/
def ProviderHost.stdin (host : ProviderHost) (command : ProviderCommand) : Except String Bytes :=
  match command.externalEntrypoint with
  | some _ => host.serde.value (externalProviderRequest command)
  | none => host.serde.command command

/-- What a child says on its standard output. -/
def ProviderHost.understand (host : ProviderHost) (command : ProviderCommand) (stdout : Bytes) :
    Except KernelError ProviderResponse :=
  match command.externalEntrypoint with
  | some _ => normalizeExternalProviderResponse host.serde host.now command stdout
  | none => (host.serde.response stdout).mapError .serialization

/-- What is said of a child that failed without a refusal of its own. -/
def exitFailure (status : ExitStatus) (stderr : String) : KernelError :=
  let text := String.ofList (trim stderr.toList)
  .provider (if text = "" then "provider process exited with status " ++ status.text else text)

/-- What the end of a child comes to. -/
def ProviderHost.concluded (host : ProviderHost) (command : ProviderCommand)
    (status : ExitStatus) (stdout : Bytes) (stderr : String) :
    Except KernelError ProviderResponse :=
  match host.understand command stdout with
  | .ok response =>
      if response.ok = false then
        .error (.provider (response.errorCode ++ ": " ++ response.errorMessage))
      else if status.success = false then .error (exitFailure status stderr)
      else .ok response
  | .error error =>
      if status.success = false then .error (exitFailure status stderr) else .error error

/-- The conversation with a child that is running. -/
def ProviderHost.converse (host : ProviderHost) (command : ProviderCommand) (launch : Launch)
    (timeoutMs : Nat) (operationId : String) : Except KernelError ProviderResponse :=
  match host.stdin command with
  | .error reason => .error (.serialization reason)
  | .ok stdin =>
      match host.child launch stdin (max timeoutMs 1) with
      | .unwritable reason => .error (.provider reason)
      | .unwaitable reason => .error (.provider reason)
      | .cancelled => .error (.cancelled operationId)
      | .expired => .error (.deadlineExceeded operationId)
      | .exited status stdout stderr => host.concluded command status stdout stderr

/-- One invocation: the process that was started, if any, and the response. -/
def ProviderHost.invoke (host : ProviderHost) (command : ProviderCommand)
    (credentialEnv : String) (timeoutMs : Nat) (operationId : String) :
    Option Launch × Except KernelError ProviderResponse :=
  match authorizedCredential host.environment credentialEnv with
  | .error error => (none, .error error)
  | .ok credential =>
      let launch := host.launch command credentialEnv credential
      match host.spawn launch with
      | .error reason => (none, .error (.provider reason))
      | .ok () => (some launch, host.converse command launch timeoutMs operationId)

def ProviderHost.execute (host : ProviderHost) (request : OperationRequest) :
    Except KernelError OperationReceipt :=
  match (host.invoke (.Execute request) request.credentialEnv request.timeoutMs
      request.operationId).2 with
  | .error error => .error error
  | .ok response =>
      match response.receipt with
      | none => .error (.provider "provider returned no receipt")
      | some receipt => .ok receipt

def ProviderHost.probe (host : ProviderHost) (request : ProviderProbeRequest) :
    Except KernelError ProviderProbeReport :=
  match (host.invoke (.Probe request) request.credentialEnv request.timeoutMs
      "provider-probe").2 with
  | .error error => .error error
  | .ok response =>
      match response.probe with
      | none => .error (.provider "provider returned no capability report")
      | some report => .ok report

end NousKernel
