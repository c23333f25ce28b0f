import NousKernel.Worker

/-!
Where a credential goes. Of the variables of the kernel a provider process gets the inherited
ones and the credential it was authorized for, so nothing else can matter to an invocation. The
bundled worker hands it to its HTTP client with one request for the endpoint of its command, or
with none. What this client does then, when it is redirected, is its own affair.
-/

set_option autoImplicit false

namespace NousKernel

open Emission Worker

def ProviderCommand.backend : ProviderCommand → String
  | .Health => ""
  | .Probe request => request.backend
  | .Execute request => request.backend

def ProviderCommand.endpoint : ProviderCommand → String
  | .Health => ""
  | .Probe request => request.endpoint
  | .Execute request => request.endpoint

def ProviderCommand.credentialEnv : ProviderCommand → String
  | .Health => ""
  | .Probe request => request.credentialEnv
  | .Execute request => request.credentialEnv

/-- The backends that may be reached without encryption on the same machine. -/
def allowsLoopbackHttp (backend : String) : Bool :=
  backend = "ollama" || backend = "edge-openai-compatible"

/-- An address that carries nothing but where to go, and goes there encrypted or stays on the
machine. -/
structure Url.Fit (loopbackHttp : Bool) (url : Url) : Prop where
  username : url.username = ""
  password : url.password = none
  query : url.query = none
  fragment : url.fragment = none
  guarded : url.scheme = "https" ∨ (loopbackHttp = true ∧ url.isLoopback = true)

/-- A request for the endpoint of a command, with its credential if with any. -/
structure HttpRequest.Spends (host : WorkerHost) (environment : Environment)
    (command : ProviderCommand) (handed : HttpRequest) : Prop where
  addressed : ∃ path, host.parseUrl (endpointPath command.endpoint path) = some handed.url
  fit : handed.url.Fit (allowsLoopbackHttp command.backend)
  bearer : ∀ token, handed.bearer = some token →
    command.credentialEnv ≠ "" ∧ environment command.credentialEnv = some token

/-! ### The worker -/

section Calls

variable {host : WorkerHost} {environment : Environment} {allowed : HttpRequest → Prop}

theorem checkedEndpoint_silent (value : String) (loopbackHttp : Bool) :
    AtMost 0 allowed (checkedEndpoint host value loopbackHttp) := by
  refine AtMost.check fun url _ => ?_
  split_ifs
  · exact atMost_fail _
  · exact atMost_fail _
  · exact atMost_pure url

theorem checkedEndpoint_ok {value : String} {loopbackHttp : Bool} {url : Url}
    (checked : (checkedEndpoint host value loopbackHttp).result = .ok url) :
    host.parseUrl value = some url ∧ url.Fit loopbackHttp := by
  obtain ⟨parsed, found, passes⟩ := bind_ok.mp checked
  cases known : host.parseUrl value with
  | none => simp [require, known] at found
  | some other =>
      simp only [require, known, ofExcept_result] at found
      cases found
      split_ifs at passes with extras open'
      · cases passes
      · cases passes
      · cases passes
        simp only [not_or, ne_eq, not_not, Bool.not_eq_true, Option.isSome_eq_false_iff,
          Option.isNone_iff_eq_none] at extras
        obtain ⟨username, password, query, fragment⟩ := extras
        refine ⟨rfl, username, password, query, fragment, ?_⟩
        by_cases encrypted : url.scheme = "https"
        · exact .inl encrypted
        · refine .inr ?_
          simpa [encrypted] using open'

theorem credential_silent (credentialEnv : String) :
    AtMost 0 allowed (credential environment credentialEnv) := by
  unfold credential
  split_ifs
  · exact atMost_fail _
  · exact atMost_ofExcept _

theorem credential_found {credentialEnv token : String}
    (found : (credential environment credentialEnv).result = .ok token) :
    credentialEnv ≠ "" ∧ environment credentialEnv = some token := by
  unfold credential at found
  split_ifs at found with absent
  · cases found
  · refine ⟨absent, ?_⟩
    cases known : environment credentialEnv with
    | none => simp [require, known] at found
    | some value =>
        simp only [require, known, ofExcept_result] at found
        cases found
        rfl

theorem decodeModelInput_silent (input : String) :
    AtMost 0 allowed (decodeModelInput host input) := by
  unfold decodeModelInput
  cases host.parse input with
  | error reason => exact atMost_pure none
  | ok value =>
      dsimp only
      split_ifs
      · exact atMost_pure none
      · refine AtMost.check fun invocation _ => ?_
        refine AtMost.check fun _ _ => ?_
        exact atMost_pure _

theorem encodeOpenaiOutput_silent (body : Value) (invocation : ModelInvocationInput) :
    AtMost 0 allowed (encodeOpenaiOutput host body invocation) := by
  unfold encodeOpenaiOutput
  dsimp only
  split_ifs
  · exact AtMost.check fun _ _ => atMost_ofExcept _
  · exact AtMost.check fun _ _ => atMost_ofExcept _

theorem encodeOllamaOutput_silent (body : Value) :
    AtMost 0 allowed (encodeOllamaOutput host body) :=
  AtMost.check fun _ _ => atMost_ofExcept _

theorem ensureProviderHttpSuccess_silent (reply : HttpReply) :
    AtMost 0 allowed (ensureProviderHttpSuccess reply) := by
  unfold ensureProviderHttpSuccess
  by_cases success : reply.isSuccess = true
  · rw [if_pos success]
    exact atMost_pure ()
  · rw [if_neg success]
    exact atMost_fail _

theorem errorForStatus_silent (reply : HttpReply) : AtMost 0 allowed (errorForStatus reply) := by
  unfold errorForStatus
  split_ifs
  · exact atMost_fail _
  · exact atMost_pure ()

theorem bearerToken_silent (credentialEnv : String) (optional : Bool) :
    AtMost 0 allowed (bearerToken environment credentialEnv optional) := by
  unfold bearerToken
  split_ifs
  · exact atMost_pure none
  · exact (credential_silent credentialEnv).after fun _ _ => atMost_pure _

/-- A bearer token is the credential. -/
theorem bearerToken_ok {credentialEnv : String} {optional : Bool} {bearer : Option String}
    (found : (bearerToken environment credentialEnv optional).result = .ok bearer)
    (token : String) (carried : bearer = some token) :
    credentialEnv ≠ "" ∧ environment credentialEnv = some token := by
  unfold bearerToken at found
  split_ifs at found
  · cases found
    cases carried
  · obtain ⟨value, known, same⟩ := bind_ok.mp found
    cases same
    cases carried
    exact credential_found known

/-! ### Commands -/

/-- What leads to a request: an address that was checked, and a bearer that is the credential. -/
theorem spends {command : ProviderCommand} {path : String} {url : Url} {bearer : Option String}
    {loopbackHttp : Bool} (method : String) (body : Option Value) (timeoutMs : Nat)
    (same : loopbackHttp = allowsLoopbackHttp command.backend)
    (checked : (checkedEndpoint host (endpointPath command.endpoint path) loopbackHttp).result =
      .ok url)
    (carried : ∀ token, bearer = some token →
      command.credentialEnv ≠ "" ∧ environment command.credentialEnv = some token) :
    HttpRequest.Spends host environment command ⟨method, url, bearer, body, timeoutMs⟩ := by
  obtain ⟨parsed, fit⟩ := checkedEndpoint_ok checked
  exact ⟨⟨path, parsed⟩, same ▸ fit, carried⟩

theorem openaiCompatible_requests {request : OperationRequest}
    (backend : request.backend = "openai-compatible" ∨ request.backend = "edge-openai-compatible") :
    AtMost 1 (HttpRequest.Spends host environment (.Execute request))
      (openaiCompatible host environment request) := by
  have same : decide (request.backend = "edge-openai-compatible") =
      allowsLoopbackHttp request.backend := by
    rcases backend with plain | edge
    · rw [plain]; decide
    · rw [edge]; decide
  refine (decodeModelInput_silent request.input).after fun invocation _ => ?_
  refine (checkedEndpoint_silent _ _).after fun url checked => ?_
  refine AtMost.check fun _ _ => ?_
  refine (bearerToken_silent request.credentialEnv _).after fun bearer found => ?_
  have due := @spends host environment (.Execute request) _ url bearer _ "POST"
    (some (openaiRequestBody request invocation)) (max request.timeoutMs 1) same checked
    (bearerToken_ok found)
  refine (atMost_send due _).before fun reply _ => ?_
  refine (ensureProviderHttpSuccess_silent reply).after fun _ _ => ?_
  refine AtMost.check fun body _ => ?_
  cases invocation with
  | none => exact atMost_ofExcept _
  | some invocation => exact encodeOpenaiOutput_silent body invocation

theorem ollama_requests {request : OperationRequest} (backend : request.backend = "ollama") :
    AtMost 1 (HttpRequest.Spends host environment (.Execute request)) (ollama host request) := by
  have same : true = allowsLoopbackHttp request.backend := by rw [backend]; decide
  refine (decodeModelInput_silent request.input).after fun invocation _ => ?_
  refine (checkedEndpoint_silent _ _).after fun url checked => ?_
  refine AtMost.check fun _ _ => ?_
  have due := @spends host environment (.Execute request) _ url none _ "POST"
    (some (ollamaRequestBody request invocation)) (max request.timeoutMs 1) same checked (by simp)
  refine (atMost_send due _).before fun reply _ => ?_
  refine (errorForStatus_silent reply).after fun _ _ => ?_
  refine AtMost.check fun body _ => ?_
  cases invocation with
  | none => exact atMost_ofExcept _
  | some invocation => exact encodeOllamaOutput_silent body

theorem referenceMath_silent (input : String) : AtMost 0 allowed (referenceMath host input) := by
  have numbers : ∀ value field, AtMost 0 allowed (numberArray host value field) :=
    fun _ _ => AtMost.check fun _ _ => atMost_ofExcept _
  refine AtMost.check fun request _ => ?_
  refine AtMost.check fun operation _ => ?_
  have result : AtMost 0 allowed (mathematicalResult host request operation) := by
    unfold mathematicalResult
    split_ifs
    · refine (numbers _ _).after fun coefficients _ => ?_
      refine (numbers _ _).after fun values _ => ?_
      split_ifs
      · exact atMost_fail _
      · exact atMost_pure _
    · refine (numbers _ _).after fun coefficients _ => ?_
      exact AtMost.check fun _ _ => atMost_pure _
    · exact atMost_fail _
  exact result.after fun _ _ => atMost_ofExcept _

theorem executeBackend_requests (request : OperationRequest) :
    AtMost 1 (HttpRequest.Spends host environment (.Execute request))
      (executeBackend host environment request) := by
  have quiet : ∀ {program : Worker String},
      AtMost 0 (HttpRequest.Spends host environment (.Execute request)) program →
      AtMost 1 (HttpRequest.Spends host environment (.Execute request)) program :=
    fun silent => silent.weaken (Nat.zero_le 1) fun _ => id
  unfold executeBackend
  split_ifs with _ _ _ _ openai ollama
  · exact atMost_pure _
  · exact atMost_fail _
  · exact atMost_pure _
  · exact quiet (referenceMath_silent request.input)
  · exact openaiCompatible_requests openai
  · exact ollama_requests ollama
  · exact atMost_fail _

theorem probeEndpoint_requests {request : ProviderProbeRequest} {path list name : String}
    {loopbackHttp : Bool} {bearer : Worker (Option String)}
    (same : loopbackHttp = allowsLoopbackHttp request.backend)
    (silent : AtMost 0 (HttpRequest.Spends host environment (.Probe request)) bearer)
    (carried : ∀ found, bearer.result = .ok found → ∀ token, found = some token →
      request.credentialEnv ≠ "" ∧ environment request.credentialEnv = some token) :
    AtMost 1 (HttpRequest.Spends host environment (.Probe request))
      (probeEndpoint host request path list name loopbackHttp bearer) := by
  refine (checkedEndpoint_silent _ _).after fun url checked => ?_
  refine AtMost.check fun _ _ => ?_
  refine silent.after fun bearer found => ?_
  have due := @spends host environment (.Probe request) path url bearer loopbackHttp "GET" none
    (max request.timeoutMs 1) same checked (carried bearer found)
  refine (atMost_send due _).before fun reply _ => ?_
  refine (errorForStatus_silent reply).after fun _ _ => ?_
  exact AtMost.check fun body _ => atMost_pure _

theorem probed_requests (request : ProviderProbeRequest) :
    AtMost 1 (HttpRequest.Spends host environment (.Probe request))
      (probed host environment request) := by
  unfold probed
  split_ifs with _ openai ollama edge
  · exact atMost_pure _
  · have same : false = allowsLoopbackHttp request.backend := by rw [openai]; decide
    refine (credential_silent request.credentialEnv).after fun secret found => ?_
    refine (probeEndpoint_requests same (atMost_pure _) ?_).before fun _ _ => atMost_pure _
    intro bearer returned token carried
    cases returned
    cases carried
    exact credential_found found
  · have same : true = allowsLoopbackHttp request.backend := by rw [ollama]; decide
    refine (probeEndpoint_requests same (atMost_pure _) ?_).before fun _ _ => atMost_pure _
    intro bearer returned token carried
    cases returned
    cases carried
  · have same : true = allowsLoopbackHttp request.backend := by rw [edge]; decide
    refine (probeEndpoint_requests same (bearerToken_silent _ _) ?_).before fun _ _ => atMost_pure _
    intro bearer found token carried
    exact bearerToken_ok found token carried
  · exact atMost_fail _

/-- A command has one request handed over at most, and spends no credential but its own. -/
theorem obey_requests (command : ProviderCommand) :
    AtMost 1 (HttpRequest.Spends host environment command) (host.obey environment command) := by
  cases command with
  | Health => exact atMost_pure _
  | Probe request =>
      refine AtMost.before ?_ fun _ _ => atMost_pure _
      exact (probed_requests request).before fun _ _ => atMost_pure _
  | Execute request => exact (executeBackend_requests request).before fun _ _ => atMost_pure _

end Calls

/-! ### The kernel -/

/-- A variable that the operator lets a provider have. -/
structure Authorized (environment : Environment) (name : String) : Prop where
  named : name ≠ ""
  wellFormed : validateCredentialReference name = .ok ()
  allowed : name ∈ allowedCredentials environment

section Kernel

variable {host : ProviderHost} {command : ProviderCommand} {credentialEnv : String}
  {credential : Option String}

theorem authorizedCredential_ok {environment : Environment}
    (authorized : authorizedCredential environment credentialEnv = .ok credential) :
    (credentialEnv = "" ∧ credential = none) ∨
      (Authorized environment credentialEnv ∧
        ∃ value, environment credentialEnv = some value ∧ credential = some value) := by
  unfold authorizedCredential at authorized
  by_cases absent : credentialEnv = ""
  · rw [if_pos absent] at authorized
    exact .inl ⟨absent, (Except.ok.inj authorized).symm⟩
  · rw [if_neg absent] at authorized
    cases valid : validateCredentialReference credentialEnv with
    | error reason =>
        rw [valid] at authorized
        cases authorized
    | ok passed =>
        rw [valid] at authorized
        dsimp only at authorized
        split_ifs at authorized with listed
        cases known : environment credentialEnv with
        | none =>
            rw [known] at authorized
            cases authorized
        | some value =>
            rw [known] at authorized
            exact .inr ⟨⟨absent, valid, listed⟩, value, rfl, (Except.ok.inj authorized).symm⟩

theorem childEnvironment_some {environment : Environment} {name value : String}
    (seen : childEnvironment environment credentialEnv credential name = some value) :
    (name ∈ inheritedNames ∧ environment name = some value) ∨
      (name = credentialEnv ∧ credential = some value) := by
  unfold childEnvironment at seen
  split_ifs at seen with own inherited
  · exact .inr ⟨own.2, seen⟩
  · exact .inl ⟨inherited, seen⟩

/-- What was started was authorized. -/
theorem invoke_launch {timeoutMs : Nat} {operationId : String} {launch : Launch}
    (launched : (host.invoke command credentialEnv timeoutMs operationId).1 = some launch) :
    ∃ credential, authorizedCredential host.environment credentialEnv = .ok credential ∧
      launch = host.launch command credentialEnv credential := by
  unfold ProviderHost.invoke at launched
  cases authorized : authorizedCredential host.environment credentialEnv with
  | error error => simp [authorized] at launched
  | ok credential =>
      simp only [authorized] at launched
      cases spawned : host.spawn (host.launch command credentialEnv credential) with
      | error reason => simp [spawned] at launched
      | ok passed =>
          simp only [spawned] at launched
          exact ⟨credential, rfl, (Option.some.inj launched).symm⟩

/-- The credential is all that the child's variables say of it. -/
theorem credential_of_child (authorized :
    authorizedCredential host.environment credentialEnv = .ok credential) {token : String}
    (asked : credentialEnv ≠ "")
    (seen : childEnvironment host.environment credentialEnv credential credentialEnv = some token) :
    Authorized host.environment credentialEnv ∧ host.environment credentialEnv = some token := by
  rcases authorizedCredential_ok authorized with ⟨absent, -⟩ | ⟨allowed, value, known, rfl⟩
  · exact absurd absent asked
  · refine ⟨allowed, ?_⟩
    have own : childEnvironment host.environment credentialEnv (some value) credentialEnv =
        some value := if_pos ⟨rfl, rfl⟩
    rw [own] at seen
    rw [known, seen]

/-- The variables of a child depend on the inherited ones and the credential only. -/
theorem childEnvironment_congr {environment other : Environment}
    (inherited : ∀ name ∈ inheritedNames, other name = environment name) :
    childEnvironment other credentialEnv credential =
      childEnvironment environment credentialEnv credential := by
  funext name
  unfold childEnvironment
  by_cases listed : name ∈ inheritedNames
  · simp only [inherited name listed]
  · simp only [listed, if_false]

/-- What the bundled worker is started with and told makes it obey the command. -/
theorem requests_launch {worker : WorkerHost} {stdin : Bytes}
    (bundled : command.externalEntrypoint = none)
    (decodes : worker.command stdin = .ok command) :
    worker.requests (host.launch command credentialEnv credential).environment
        (host.launch command credentialEnv credential).arguments stdin =
      (worker.obey (childEnvironment host.environment credentialEnv credential) command).sent := by
  unfold WorkerHost.requests WorkerHost.run ProviderHost.launch
  simp only [bundled, List.head?_cons, ne_eq, not_true_eq_false, if_false, decodes]
  rfl

end Kernel

/-- Of all its variables the kernel shows a provider process nine and the one credential that
was asked for and authorized, and an invocation depends on no other. The bundled worker then
hands at most one request to its HTTP client, for an address below the endpoint of its command,
encrypted or on the same machine, and the only secret it carries is this credential. -/
theorem credential_reaches_its_endpoint (host : ProviderHost) (worker : WorkerHost)
    (roundTrips : ∀ command stdin, host.serde.command command = .ok stdin →
      worker.command stdin = .ok command)
    (command : ProviderCommand) (timeoutMs : Nat) (operationId : String) :
    (∀ launch,
      (host.invoke command command.credentialEnv timeoutMs operationId).1 = some launch →
        (∀ name value, launch.environment name = some value →
          host.environment name = some value ∧ (name ∈ inheritedNames ∨
            (name = command.credentialEnv ∧ Authorized host.environment name))) ∧
        (command.externalEntrypoint = none → ∀ stdin, host.serde.command command = .ok stdin →
          (worker.requests launch.environment launch.arguments stdin).length ≤ 1 ∧
          ∀ handed ∈ worker.requests launch.environment launch.arguments stdin,
            (∃ path, worker.parseUrl (endpointPath command.endpoint path) = some handed.url) ∧
            handed.url.Fit (allowsLoopbackHttp command.backend) ∧
            ∀ token, handed.bearer = some token →
              Authorized host.environment command.credentialEnv ∧
                host.environment command.credentialEnv = some token)) ∧
      ∀ other : Environment, (∀ name ∈ inheritedNames, other name = host.environment name) →
        authorizedCredential other command.credentialEnv =
          authorizedCredential host.environment command.credentialEnv →
        ProviderHost.invoke { host with environment := other } command command.credentialEnv
            timeoutMs operationId =
          host.invoke command command.credentialEnv timeoutMs operationId := by
  constructor
  · intro launch launched
    obtain ⟨credential, authorized, rfl⟩ := invoke_launch launched
    constructor
    · intro name value seen
      rcases childEnvironment_some seen with ⟨inherited, known⟩ | ⟨rfl, carried⟩
      · exact ⟨known, .inl inherited⟩
      · rcases authorizedCredential_ok authorized with ⟨-, none⟩ | ⟨allowed, found, known, same⟩
        · rw [none] at carried
          cases carried
        · rw [same] at carried
          cases carried
          exact ⟨known, .inr ⟨rfl, allowed⟩⟩
    · intro bundled stdin told
      rw [requests_launch bundled (roundTrips command stdin told)]
      have obeys := @obey_requests worker
        (childEnvironment host.environment command.credentialEnv credential) command
      refine ⟨obeys.few, ?_⟩
      intro handed member
      obtain ⟨addressed, fit, bearer⟩ := obeys.allowed handed member
      refine ⟨addressed, fit, ?_⟩
      intro token carried
      obtain ⟨asked, seen⟩ := bearer token carried
      exact credential_of_child authorized asked seen
  · intro other inherited authorized
    unfold ProviderHost.invoke ProviderHost.launch
    rw [authorized]
    simp only [childEnvironment_congr inherited]
    rfl

/-! ### A probe -/

def remoteProbe : ProviderProbeRequest where
  provider := "remote"
  backend := "openai-compatible"
  executionDomain := .remote
  model := "model-1"
  endpoint := "https://models.test/v1"
  credentialEnv := "MODEL_API_KEY"
  providerEntrypoint := ""
  timeoutMs := 10000

def remoteProbeText : Bytes :=
  asBytes ("\x7b\"type\":\"probe\",\"request\":\x7b\"provider\":\"remote\"," ++
    "\"backend\":\"openai-compatible\",\"execution_domain\":\"remote\"," ++
    "\"model\":\"model-1\",\"endpoint\":\"https://models.test/v1\"," ++
    "\"credential_env\":\"MODEL_API_KEY\",\"provider_entrypoint\":\"\"," ++
    "\"timeout_ms\":10000\x7d\x7d")

/-- A kernel with a credential and another secret, whose children run too long. -/
def remoteHost : ProviderHost where
  program := "nous-provider-worker"
  environment := fun name =>
    if name = "MODEL_API_KEY" then some "key-1"
    else if name = "NOUS_ALLOWED_CREDENTIALS" then some "OTHER_KEY, MODEL_API_KEY"
    else if name = "NOUS_SESSION_TOKEN" then some "session-1"
    else if name = "PATH" then some "/usr/bin"
    else none
  serde := {
    command := fun command =>
      if command = .Probe remoteProbe then .ok remoteProbeText else .error "another command"
    value := fun _ => .error "another value"
    response := fun _ => .error "EOF while parsing a value at line 1 column 0"
    parse := fun _ => .error "EOF while parsing a value at line 1 column 0" }
  spawn := fun _ => .ok ()
  child := fun _ _ _ => .expired
  now := 1

def remoteWorker : WorkerHost where
  command := fun stdin =>
    if stdin = remoteProbeText then .ok (.Probe remoteProbe) else .error "another text"
  response := fun _ => .error "another response"
  parse := fun _ => .error "expected value at line 1 column 1"
  invocation := fun _ => .error "another value"
  output := fun _ => .error "another output"
  text := fun _ => .error "another value"
  parseUrl := fun text =>
    if text = "https://models.test/v1/models" then
      some ⟨"https", "", none, some "models.test", none, none, text⟩
    else none
  client := .ok ()
  exchange := fun _ => .error "operation timed out"
  arithmetic := ⟨fun _ => none, fun first _ => first, fun first _ => first⟩
  now := 1
  elapsedMs := 10000

theorem remote_roundTrips (command : ProviderCommand) (stdin : Bytes)
    (told : remoteHost.serde.command command = .ok stdin) :
    remoteWorker.command stdin = .ok command := by
  unfold remoteHost at told
  by_cases same : command = .Probe remoteProbe
  · simp only [same, if_true] at told
    cases told
    simp only [remoteWorker, if_true, same]
  · simp only [if_neg same] at told
    cases told

theorem credential_reaches_its_endpoint_remote :
    (∀ launch,
      (remoteHost.invoke (.Probe remoteProbe) "MODEL_API_KEY" 10000 "provider-probe").1 =
          some launch →
        (∀ name value, launch.environment name = some value →
          remoteHost.environment name = some value ∧ (name ∈ inheritedNames ∨
            (name = "MODEL_API_KEY" ∧ Authorized remoteHost.environment name))) ∧
        ((ProviderCommand.Probe remoteProbe).externalEntrypoint = none → ∀ stdin,
          remoteHost.serde.command (.Probe remoteProbe) = .ok stdin →
          (remoteWorker.requests launch.environment launch.arguments stdin).length ≤ 1 ∧
          ∀ handed ∈ remoteWorker.requests launch.environment launch.arguments stdin,
            (∃ path, remoteWorker.parseUrl (endpointPath "https://models.test/v1" path) =
              some handed.url) ∧
            handed.url.Fit (allowsLoopbackHttp "openai-compatible") ∧
            ∀ token, handed.bearer = some token →
              Authorized remoteHost.environment "MODEL_API_KEY" ∧
                remoteHost.environment "MODEL_API_KEY" = some token)) ∧
      ∀ other : Environment, (∀ name ∈ inheritedNames, other name = remoteHost.environment name) →
        authorizedCredential other "MODEL_API_KEY" =
          authorizedCredential remoteHost.environment "MODEL_API_KEY" →
        ProviderHost.invoke { remoteHost with environment := other } (.Probe remoteProbe)
            "MODEL_API_KEY" 10000 "provider-probe" =
          remoteHost.invoke (.Probe remoteProbe) "MODEL_API_KEY" 10000 "provider-probe" :=
  credential_reaches_its_endpoint remoteHost remoteWorker remote_roundTrips (.Probe remoteProbe)
    10000 "provider-probe"

end NousKernel
