import KratosSaml.Middleware
import KratosSaml.ErrorResponder

/-!
# The SAML HTTP handlers

A handler's run is the list of its writes to the client, in order, ended by a
panic if one happens. The collaborators' answers for the request are inputs.

`Strategy.handleCallback` is the ACS callback of the strategy. The handler the
strategy's file carries keeps the engine in the package variable
`samlMiddleware`, built on first use; its handlers return the variable as they
leave it. The handler of `flow/saml/handler.go` holds its engine as a field.

`processLoginOrRegister` is not among the sources. As the spec describes the
dispatcher, it either completes the flow, writing the completion itself, or fails
with an error, with or without a pointer to the flow.

`ResponseDiscipline` says what each handler writes on every path. One response is
written on some paths only: the code's slips (a ParseResponse failure written
twice, `*ff` on a nil flow, a nil error forwarded when a session exists, a failed
build dropped or forwarded before the handler goes on, the flow handler's closing
`OnError`, the nil assertion handed on) are kept as the code has them.
-/

namespace KratosSaml

/-- Modelled from the spec: how `processLoginOrRegister` ends. -/
inductive ProcessResult
  | completed
  | failed (ff : Option FlowValue) (err : GoError)

namespace Strategy

/-- The collaborators' answers `handleCallback` reads for one request. -/
structure CallbackCalls where
  tracked : List TrackedRequest
  parseResponse : List String → Except GoError Assertion
  providerEnv : ProviderEnv
  processLoginOrRegister : Provider → Claims → ProcessResult

/-- `Strategy.handleCallback`; `samlMiddleware` is the engine `*GetMiddleware()`
dereferences. -/
def handleCallback (samlMiddleware : Option Middleware) (calls : CallbackCalls) : List Event :=
  match samlMiddleware with
  | none => [.panic .nilEngine]
  | some m =>
    let (written, attributes) := getAttributesFromAssertion m calls.tracked calls.parseResponse
    match attributes with
    | .error err => written ++ [.write (forwardError .nil (some err))]
    | .ok attributes =>
      match provider calls.providerEnv with
      | .panic p => [.panic p]
      | .error err => [.write (forwardError .nil (some err))]
      | .ok prov =>
        match prov.claims attributes with
        | .error err => [.write (forwardError .nil (some err))]
        | .ok claims =>
          match calls.processLoginOrRegister prov claims with
          | .completed => [.write .completion]
          | .failed (some ff) err => [.write (forwardError ff (some err))]
          | .failed none _ => [.panic .nilFlow]

end Strategy

namespace Handler

/-- `Handler.submitMetadata`: the run, and `samlMiddleware` after it. A failed
build's error is dropped and the nil engine is asked for its metadata. -/
def submitMetadata (samlMiddleware : Option Middleware) (env : MiddlewareEnv) :
    List Event × Option Middleware :=
  match samlMiddleware with
  | some m => ([.write .metadata], some m)
  | none =>
    match instantiateMiddleware env with
    | .ok m => ([.write .metadata], some m)
    | .error _ => ([.panic .nilEngine], none)
    | .panic p => ([.panic p], none)

/-- The part of `Handler.loginWithIdp` after the engine check; `returnToPath` is
the path of the default return URL. -/
def startLogin (engine : Option Middleware) (session : Except GoError Session)
    (returnToPath : String) : List Event :=
  match session with
  | .error err =>
    if err.isNoActiveSession then
      match engine with
      | some _ => [.write .startAuthFlow]
      | none => [.panic .nilEngine]
    else [.write (.redirect returnToPath)]
  | .ok _ => [.write (.forward none)]

/-- `Handler.loginWithIdp`: a failed build is forwarded and the handler goes on. -/
def loginWithIdp (samlMiddleware : Option Middleware) (env : MiddlewareEnv)
    (session : Except GoError Session) (returnToPath : String) : List Event × Option Middleware :=
  match samlMiddleware with
  | some m => (startLogin (some m) session returnToPath, some m)
  | none =>
    match instantiateMiddleware env with
    | .ok m => (startLogin (some m) session returnToPath, some m)
    | .error err => (.write (.forward (some err)) :: startLogin none session returnToPath, none)
    | .panic p => ([.panic p], none)

end Handler

namespace FlowHandler

def submitMetadata (_h : FlowHandler) : List Event := [.write .metadata]

/-- `loginWithIdp` of `flow/saml/handler.go`; `selfPublicPath` is the public
URL's path. `OnError` is called on every path. -/
def loginWithIdp (_h : FlowHandler) (session : Except GoError Session)
    (selfPublicPath : String) : List Event :=
  let err : Option GoError := match session with
    | .error e => some e
    | .ok _ => none
  let first : List Event :=
    if errorsAsNoActiveSession err then [.write .startAuthFlow]
    else if err.isSome then []
    else [.write (.redirect selfPublicPath)]
  first ++ [.write (.onError err)]

/-- `serveAcs`: after a parse failure the nil assertion is handed to
`CreateSessionFromAssertion`. -/
def serveAcs (h : FlowHandler) (tracked : List TrackedRequest)
    (parseResponse : List String → Except GoError Assertion) : List Event :=
  match parseResponse (possibleRequestIDs h.samlMiddleware tracked) with
  | .error err => [.write (.onError (some err)), .panic .nilAssertion]
  | .ok assertion => [.write (.session assertion)]

end FlowHandler

/-- A ParseResponse failure is written by the engine's `OnError`, then again by
`forwardError` with no flow. -/
theorem handleCallback_parse_failure (m : Middleware) (calls : Strategy.CallbackCalls)
    {err : GoError} (h : calls.parseResponse (possibleRequestIDs m calls.tracked) = .error err) :
    Strategy.handleCallback (some m) calls =
      [.write (.onError (some err)), .write (Strategy.forwardError .nil (some err))] := by
  simp [Strategy.handleCallback, getAttributesFromAssertion, h]

example :
    Strategy.handleCallback (some ⟨⟨⟨""⟩, 0, ⟨""⟩, ⟨""⟩, true⟩, ⟨""⟩, ⟨""⟩, ⟨""⟩, "", false⟩)
      ⟨[], fun _ => .error (.other "invalid signature"),
        ⟨.error "unexpected end of JSON input", fun s => .ok ⟨s⟩, fun _ _ _ => .error (.other "")⟩,
        fun _ _ => .completed⟩ =
      [.write (.onError (some (.other "invalid signature"))),
       .write (.flowError .login none .saml (some (.other "invalid signature")))] := rfl

theorem completion_ne_forwardError (f : FlowValue) (err : Option GoError) :
    .completion ≠ Strategy.forwardError f err := by
  unfold Strategy.forwardError
  split <;> simp

/-- Only a completed `processLoginOrRegister` makes the callback write the
completion: every failure before or in it is written as an error, or panics. -/
theorem handleCallback_completion {g : Option Middleware} {calls : Strategy.CallbackCalls}
    (h : .write .completion ∈ Strategy.handleCallback g calls) :
    ∃ m a prov claims, g = some m ∧
      calls.parseResponse (possibleRequestIDs m calls.tracked) = .ok a ∧
      Strategy.provider calls.providerEnv = .ok prov ∧ prov.claims (collectAttributes a) = .ok claims ∧
      calls.processLoginOrRegister prov claims = .completed := by
  rcases g with _ | m
  · simp [Strategy.handleCallback] at h
  cases ha : calls.parseResponse (possibleRequestIDs m calls.tracked) with
  | error err =>
    simp [handleCallback_parse_failure m calls ha, completion_ne_forwardError] at h
  | ok a =>
    simp only [Strategy.handleCallback, getAttributesFromAssertion, ha] at h
    cases hp : Strategy.provider calls.providerEnv with
    | panic p => simp [hp] at h
    | error err => simp [hp, completion_ne_forwardError] at h
    | ok prov =>
      cases hc : prov.claims (collectAttributes a) with
      | error err => simp [hp, hc, completion_ne_forwardError] at h
      | ok claims =>
        cases hr : calls.processLoginOrRegister prov claims with
        | completed => exact ⟨m, a, prov, claims, rfl, ha, rfl, hc, hr⟩
        | failed ff err => cases ff <;> simp [hp, hc, hr, completion_ne_forwardError] at h

/-- The engine is there, or its build for this request succeeds. -/
def EngineAvailable (samlMiddleware : Option Middleware) (env : MiddlewareEnv) : Prop :=
  samlMiddleware.isSome ∨ ∃ m, Handler.instantiateMiddleware env = .ok m

theorem submitMetadata_of_available {g : Option Middleware} {env : MiddlewareEnv}
    (h : EngineAvailable g env) : (Handler.submitMetadata g env).1 = [.write .metadata] := by
  rcases g with _ | m
  · obtain ⟨m, hm⟩ := h.resolve_left (by simp)
    simp [Handler.submitMetadata, hm]
  · rfl

/-- With the engine there or built, `loginWithIdp` is the login start on it. -/
theorem loginWithIdp_of_available {g : Option Middleware} {env : MiddlewareEnv}
    (h : EngineAvailable g env) (session : Except GoError Session) (returnToPath : String) :
    ∃ m, (Handler.loginWithIdp g env session returnToPath).1 =
      Handler.startLogin (some m) session returnToPath := by
  rcases g with _ | m
  · obtain ⟨m, hm⟩ := h.resolve_left (by simp)
    exact ⟨m, by simp [Handler.loginWithIdp, hm]⟩
  · exact ⟨m, rfl⟩

/-- What each handler writes, on every path through it and for every combination
of the collaborators' outcomes. One response is written on some paths only: a
ParseResponse failure is written twice, a failing build is dropped or forwarded
before the handler goes on, a present session is forwarded as a nil error, the
flow handler's `loginWithIdp` always ends with `OnError`, and the nil engine, the
nil flow `*ff` and the nil assertion are used. -/
structure ResponseDiscipline : Prop where
  callbackNoEngine : ∀ calls, Strategy.handleCallback none calls = [.panic .nilEngine]
  callbackParseFailure : ∀ m calls err,
    calls.parseResponse (possibleRequestIDs m calls.tracked) = .error err →
    Strategy.handleCallback (some m) calls =
      [.write (.onError (some err)), .write (.flowError .login none .saml (some err))]
  callbackNoEntry : ∀ m calls a,
    calls.parseResponse (possibleRequestIDs m calls.tracked) = .ok a →
    calls.providerEnv.decoded = .ok ⟨[]⟩ →
    Strategy.handleCallback (some m) calls = [.panic .indexOutOfRange]
  callbackProviderError : ∀ m calls a err,
    calls.parseResponse (possibleRequestIDs m calls.tracked) = .ok a →
    Strategy.provider calls.providerEnv = .error err →
    Strategy.handleCallback (some m) calls = [.write (Strategy.forwardError .nil (some err))]
  callbackClaimsError : ∀ m calls a prov err,
    calls.parseResponse (possibleRequestIDs m calls.tracked) = .ok a →
    Strategy.provider calls.providerEnv = .ok prov → prov.claims (collectAttributes a) = .error err →
    Strategy.handleCallback (some m) calls = [.write (Strategy.forwardError .nil (some err))]
  callbackProcessError : ∀ m calls a prov claims ff err,
    calls.parseResponse (possibleRequestIDs m calls.tracked) = .ok a →
    Strategy.provider calls.providerEnv = .ok prov → prov.claims (collectAttributes a) = .ok claims →
    calls.processLoginOrRegister prov claims = .failed (some ff) err →
    Strategy.handleCallback (some m) calls = [.write (Strategy.forwardError ff (some err))]
  callbackNilFlow : ∀ m calls a prov claims err,
    calls.parseResponse (possibleRequestIDs m calls.tracked) = .ok a →
    Strategy.provider calls.providerEnv = .ok prov → prov.claims (collectAttributes a) = .ok claims →
    calls.processLoginOrRegister prov claims = .failed none err →
    Strategy.handleCallback (some m) calls = [.panic .nilFlow]
  callbackCompleted : ∀ m calls a prov claims,
    calls.parseResponse (possibleRequestIDs m calls.tracked) = .ok a →
    Strategy.provider calls.providerEnv = .ok prov → prov.claims (collectAttributes a) = .ok claims →
    calls.processLoginOrRegister prov claims = .completed →
    Strategy.handleCallback (some m) calls = [.write .completion]
  callbackCompletionOnly : ∀ g calls, .write .completion ∈ Strategy.handleCallback g calls →
    ∃ m a prov claims, g = some m ∧
      calls.parseResponse (possibleRequestIDs m calls.tracked) = .ok a ∧
      Strategy.provider calls.providerEnv = .ok prov ∧ prov.claims (collectAttributes a) = .ok claims ∧
      calls.processLoginOrRegister prov claims = .completed
  submitMetadata : ∀ g env, EngineAvailable g env →
    (Handler.submitMetadata g env).1 = [.write .metadata]
  loginWithIdpNoSession : ∀ g env err returnToPath, EngineAvailable g env →
    err.isNoActiveSession = true →
    (Handler.loginWithIdp g env (.error err) returnToPath).1 = [.write .startAuthFlow]
  loginWithIdpSessionError : ∀ g env err returnToPath, EngineAvailable g env →
    err.isNoActiveSession = false →
    (Handler.loginWithIdp g env (.error err) returnToPath).1 = [.write (.redirect returnToPath)]
  loginWithIdpSession : ∀ g env s returnToPath, EngineAvailable g env →
    (Handler.loginWithIdp g env (.ok s) returnToPath).1 = [.write (.forward none)]
  buildErrorMetadata : ∀ env err, Handler.instantiateMiddleware env = .error err →
    (Handler.submitMetadata none env).1 = [.panic .nilEngine]
  buildErrorNoSession : ∀ env err e returnToPath, Handler.instantiateMiddleware env = .error err →
    e.isNoActiveSession = true →
    (Handler.loginWithIdp none env (.error e) returnToPath).1 =
      [.write (.forward (some err)), .panic .nilEngine]
  buildErrorSessionError : ∀ env err e returnToPath,
    Handler.instantiateMiddleware env = .error err → e.isNoActiveSession = false →
    (Handler.loginWithIdp none env (.error e) returnToPath).1 =
      [.write (.forward (some err)), .write (.redirect returnToPath)]
  buildErrorSession : ∀ env err s returnToPath, Handler.instantiateMiddleware env = .error err →
    (Handler.loginWithIdp none env (.ok s) returnToPath).1 =
      [.write (.forward (some err)), .write (.forward none)]
  buildPanic : ∀ env p session returnToPath, Handler.instantiateMiddleware env = .panic p →
    (Handler.submitMetadata none env).1 = [.panic p] ∧
    (Handler.loginWithIdp none env session returnToPath).1 = [.panic p]
  flowSubmitMetadata : ∀ h, FlowHandler.submitMetadata h = [.write .metadata]
  flowServeAcs : ∀ h tracked parseResponse a,
    parseResponse (possibleRequestIDs h.samlMiddleware tracked) = .ok a →
    FlowHandler.serveAcs h tracked parseResponse = [.write (.session a)]
  flowServeAcsFailure : ∀ h tracked parseResponse err,
    parseResponse (possibleRequestIDs h.samlMiddleware tracked) = .error err →
    FlowHandler.serveAcs h tracked parseResponse =
      [.write (.onError (some err)), .panic .nilAssertion]
  flowLoginWithIdp : ∀ h err selfPublicPath, err.isNoActiveSession = false →
    FlowHandler.loginWithIdp h (.error err) selfPublicPath = [.write (.onError (some err))]
  flowLoginWithIdpNoSession : ∀ h err selfPublicPath, err.isNoActiveSession = true →
    FlowHandler.loginWithIdp h (.error err) selfPublicPath =
      [.write .startAuthFlow, .write (.onError (some err))]
  flowLoginWithIdpSession : ∀ h s selfPublicPath,
    FlowHandler.loginWithIdp h (.ok s) selfPublicPath =
      [.write (.redirect selfPublicPath), .write (.onError none)]

theorem handlers_responseDiscipline : ResponseDiscipline where
  callbackNoEngine _ := rfl
  callbackParseFailure m calls _ h := handleCallback_parse_failure m calls h
  callbackNoEntry m calls _ ha hd := by
    simp [Strategy.handleCallback, getAttributesFromAssertion, ha, provider_of_no_entry hd]
  callbackProviderError _ _ _ _ ha hp := by
    simp [Strategy.handleCallback, getAttributesFromAssertion, ha, hp]
  callbackClaimsError _ _ _ _ _ ha hp hc := by
    simp [Strategy.handleCallback, getAttributesFromAssertion, ha, hp, hc]
  callbackProcessError _ _ _ _ _ _ _ ha hp hc hr := by
    simp [Strategy.handleCallback, getAttributesFromAssertion, ha, hp, hc, hr]
  callbackNilFlow _ _ _ _ _ _ ha hp hc hr := by
    simp [Strategy.handleCallback, getAttributesFromAssertion, ha, hp, hc, hr]
  callbackCompleted _ _ _ _ _ ha hp hc hr := by
    simp [Strategy.handleCallback, getAttributesFromAssertion, ha, hp, hc, hr]
  callbackCompletionOnly _ _ h := handleCallback_completion h
  submitMetadata _ _ h := submitMetadata_of_available h
  loginWithIdpNoSession _ _ err returnToPath h hno := by
    obtain ⟨m, hm⟩ := loginWithIdp_of_available h (.error err) returnToPath
    simp [hm, Handler.startLogin, hno]
  loginWithIdpSessionError _ _ err returnToPath h hno := by
    obtain ⟨m, hm⟩ := loginWithIdp_of_available h (.error err) returnToPath
    simp [hm, Handler.startLogin, hno]
  loginWithIdpSession _ _ s returnToPath h := by
    obtain ⟨m, hm⟩ := loginWithIdp_of_available h (.ok s) returnToPath
    simp [hm, Handler.startLogin]
  buildErrorMetadata _ _ h := by simp [Handler.submitMetadata, h]
  buildErrorNoSession _ _ _ _ h hno := by simp [Handler.loginWithIdp, Handler.startLogin, h, hno]
  buildErrorSessionError _ _ _ _ h hno := by
    simp [Handler.loginWithIdp, Handler.startLogin, h, hno]
  buildErrorSession _ _ _ _ h := by simp [Handler.loginWithIdp, Handler.startLogin, h]
  buildPanic _ _ _ _ h := by simp [Handler.submitMetadata, Handler.loginWithIdp, h]
  flowSubmitMetadata _ := rfl
  flowServeAcs _ _ _ _ ha := by simp [FlowHandler.serveAcs, ha]
  flowServeAcsFailure _ _ _ _ herr := by simp [FlowHandler.serveAcs, herr]
  flowLoginWithIdp _ _ _ hno := by simp [FlowHandler.loginWithIdp, errorsAsNoActiveSession, hno]
  flowLoginWithIdpNoSession _ _ _ hno := by
    simp [FlowHandler.loginWithIdp, errorsAsNoActiveSession, hno]
  flowLoginWithIdpSession _ _ _ := rfl

end KratosSaml
