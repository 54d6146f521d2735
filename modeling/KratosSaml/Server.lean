import KratosSaml.LazyInit

/-!
# Requests served one after another

The strategy's ACS callback and the handler's metadata and login endpoints share
the package variable `samlMiddleware`: the two handlers build the engine when
they read nil, and `handleCallback` dereferences what `GetMiddleware` returns.
Here requests are served one at a time, each with the configuration and the
collaborators' answers it meets. A panic ends its own request only (`net/http`
recovers it), and the next request is served with the variable as the panicking
one left it.

What the variable does over a whole run is "the first successful build wins, for
good" (`firstBuilt`): a failed or panicking build leaves it nil, and the next
metadata or login request builds again; after the first success no request
builds, whatever configuration it meets, and every request, callbacks included,
is served from that engine.

`SerialAgrees` ties this to the concurrent model of `LazyInit`: scheduled one
request after another, its steps do what the server does. That model numbers
engines by construction and says only whether each build succeeds; a panicking
build is outside it, since there its request goes on where the handler's ends.
-/

namespace KratosSaml.Server

/-- One request to the SAML endpoints, with what its handler reads. -/
inductive Request
  | metadata (env : MiddlewareEnv)
  | login (env : MiddlewareEnv) (session : Except GoError Session) (returnToPath : String)
  | callback (calls : Strategy.CallbackCalls)

/-- The handler a request is routed to: its run, and `samlMiddleware` after it. -/
def serve (samlMiddleware : Option Middleware) : Request → List Event × Option Middleware
  | .metadata env => Handler.submitMetadata samlMiddleware env
  | .login env session returnToPath => Handler.loginWithIdp samlMiddleware env session returnToPath
  | .callback calls => (Strategy.handleCallback samlMiddleware calls, samlMiddleware)

/-- Requests served in order: each one's run, and `samlMiddleware` after the last. -/
def serveAll (samlMiddleware : Option Middleware) :
    List Request → List (List Event) × Option Middleware
  | [] => ([], samlMiddleware)
  | r :: rs =>
    let served := serve samlMiddleware r
    let rest := serveAll served.2 rs
    (served.1 :: rest.1, rest.2)

/-- The engine a request's own build returns, if it is one that builds. -/
def built : Request → Option Middleware
  | .metadata env | .login env _ _ =>
    match Handler.instantiateMiddleware env with
    | .ok m => some m
    | _ => none
  | .callback _ => none

/-- The engine held after `reqs`: the one held before, else the first one built. -/
def firstBuilt (samlMiddleware : Option Middleware) (reqs : List Request) : Option Middleware :=
  samlMiddleware.or (reqs.findSome? built)

@[simp] theorem serveAll_nil (g : Option Middleware) : serveAll g [] = ([], g) := rfl

@[simp] theorem serveAll_cons (g : Option Middleware) (r : Request) (rs : List Request) :
    serveAll g (r :: rs) =
      ((serve g r).1 :: (serveAll (serve g r).2 rs).1, (serveAll (serve g r).2 rs).2) := rfl

theorem firstBuilt_cons (g : Option Middleware) (r : Request) (rs : List Request) :
    firstBuilt g (r :: rs) = firstBuilt (g.or (built r)) rs := by
  cases g <;> cases h : built r <;> simp [firstBuilt, List.findSome?_cons, h]

/-- A request keeps a stored engine, and stores the one its build returns. -/
theorem serve_snd (g : Option Middleware) (r : Request) : (serve g r).2 = g.or (built r) := by
  cases g with
  | some m => cases r <;> rfl
  | none =>
    cases r with
    | metadata env | login env =>
      cases h : Handler.instantiateMiddleware env <;>
        simp [serve, built, Handler.submitMetadata, Handler.loginWithIdp, h]
    | callback => rfl

theorem serveAll_length (g : Option Middleware) (rs : List Request) :
    (serveAll g rs).1.length = rs.length := by
  induction rs generalizing g with
  | nil => rfl
  | cons r rs ih => simp [ih]

theorem serveAll_snd (g : Option Middleware) (rs : List Request) :
    (serveAll g rs).2 = firstBuilt g rs := by
  induction rs generalizing g with
  | nil => simp [firstBuilt]
  | cons r rs ih => rw [serveAll_cons, ih, serve_snd, firstBuilt_cons]

theorem serveAll_append (g : Option Middleware) (pre rs : List Request) :
    serveAll g (pre ++ rs) =
      ((serveAll g pre).1 ++ (serveAll (serveAll g pre).2 rs).1,
        (serveAll (serveAll g pre).2 rs).2) := by
  induction pre generalizing g with
  | nil => rfl
  | cons r pre ih => simp [ih]

/-- The server refines "the first successful build wins, for good": after any
sequence of requests the variable holds the engine it held before, else the first
engine a metadata or login request built; and each request is served by its
handler from exactly the engine the requests before it leave. -/
theorem serveAll_refines (g : Option Middleware) (reqs : List Request) :
    (serveAll g reqs).2 = firstBuilt g reqs ∧
      ∀ pre r post, reqs = pre ++ r :: post →
        (serveAll g reqs).1[pre.length]? = some (serve (firstBuilt g pre) r).1 := by
  refine ⟨serveAll_snd g reqs, fun pre r post h => ?_⟩
  subst h
  have hlen := serveAll_length g pre
  rw [serveAll_append, List.getElem?_append_right (by omega), hlen, Nat.sub_self,
    serveAll_snd]
  simp

/-- Whether request `i`'s build succeeds, `env i` being the configuration it meets. -/
def buildOk (env : Nat → MiddlewareEnv) (i : Nat) : Bool := (built (.metadata (env i))).isSome

theorem isSome_findSome?_built (env : Nat → MiddlewareEnv) (reqs : List Nat) :
    ((reqs.map fun i => Request.metadata (env i)).findSome? built).isSome = reqs.any (buildOk env) :=
  Bool.eq_iff_iff.mpr (by simp [List.findSome?_isSome_iff, buildOk])

/-- `submitMetadata` panics on the nil engine exactly when none is stored and its
own build fails without panicking. -/
theorem submitMetadata_nilEngine {g : Option Middleware} {env : MiddlewareEnv}
    (hnp : (Handler.instantiateMiddleware env).isPanic = false) :
    (Handler.submitMetadata g env).1 = [.panic .nilEngine] ↔
      g = none ∧ built (.metadata env) = none := by
  cases g
  · cases h : Handler.instantiateMiddleware env <;> simp_all [Handler.submitMetadata, built]
  · simp [Handler.submitMetadata]

/-- What the concurrent model, scheduled one request after another, shares with
the server serving the same requests at the metadata endpoint: a request uses the
nil engine exactly when `submitMetadata` panics on it, and the variable ends set
exactly when the server's does. -/
structure SerialAgrees (env : Nat → MiddlewareEnv) (reqs : List Nat) : Prop where
  stored :
    (LazyInit.runF (buildOk env) LazyInit.init (LazyInit.serial reqs)).samlMiddleware.isSome =
      (serveAll none (reqs.map fun i => .metadata (env i))).2.isSome
  nil_use : ∀ pre j post, reqs = pre ++ j :: post →
    ((LazyInit.runF (buildOk env) LazyInit.init (LazyInit.serial reqs)).pc j = .done none ↔
      (serveAll none (reqs.map fun i => .metadata (env i))).1[pre.length]? =
        some [.panic .nilEngine])

/-- The concurrent model refines the server on serial schedules, each build
succeeding exactly when `instantiateMiddleware` returns an engine for the
request's configuration. -/
theorem serial_refines_serveAll (env : Nat → MiddlewareEnv) {reqs : List Nat} (hnd : reqs.Nodup)
    (hnp : ∀ i ∈ reqs, (Handler.instantiateMiddleware (env i)).isPanic = false) :
    SerialAgrees env reqs := by
  obtain ⟨hcount, hpc⟩ := @LazyInit.runF_serial_of_unset LazyInit.init (buildOk env) reqs rfl hnd
    fun _ _ => rfl
  have hstored := (LazyInit.runF_init_guarantees (buildOk env) (LazyInit.serial reqs)).stored_newest
  refine ⟨?_, fun pre j post h => ?_⟩
  · rw [hstored, hcount, serveAll_snd, firstBuilt, Option.none_or, isSome_findSome?_built]
    cases reqs.any (buildOk env) <;> rfl
  · have hserved := (serveAll_refines none (reqs.map fun i => .metadata (env i))).2
      (pre.map fun i => .metadata (env i)) (.metadata (env j)) (post.map fun i => .metadata (env i))
      (by simp [h])
    rw [List.length_map] at hserved
    rw [hserved, hpc pre j post h, Option.some_inj, serve,
      submitMetadata_nilEngine (hnp j (by simp [h])), firstBuilt, Option.none_or,
      ← Option.not_isSome_iff_eq_none, isSome_findSome?_built]
    simp [buildOk]

theorem serial_refines_serveAll_retry :
    ([0, 1] : List Nat).Nodup ∧
      SerialAgrees (fun i =>
        { strategyConfig := "saml"
          decode := fun _ => if i = 0 then .error "unexpected end of JSON input" else
            .ok ⟨[⟨"", "", "sp.crt", "sp.key", [("idp_metadata_url", "https://idp.example/md")]⟩]⟩
          loadX509KeyPair := fun _ _ => .ok ⟨["leaf"], .rsa 1, by simp⟩
          parseCertificate := fun der => .ok ⟨der⟩
          urlParse := fun s => .ok ⟨s⟩
          fetchMetadata := fun u => .ok ⟨u.raw⟩
          readFile := fun _ => .error (.other "no such file")
          pemDecode := fun _ => none
          simulatedMetadata := fun _ u _ _ => ⟨u.raw⟩
          defaultReturnTo := "https://kratos.example/"
          selfPublicURL := "https://kratos.example/"
          samlspNew := fun o => .ok ⟨o, ⟨""⟩, ⟨""⟩, ⟨""⟩, "", false⟩ }) [0, 1] :=
  ⟨by decide, serial_refines_serveAll _ (by decide) (by decide)⟩

end KratosSaml.Server
