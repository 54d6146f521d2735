import KratosSaml.Config

/-!
# Building the engine

`Handler.instantiateMiddleware`, in the handler the strategy's file carries,
decodes the strategy's configuration, loads the key pair and the IDP metadata the
last provider entry names, builds the engine, and points its ACS and metadata
URLs under the public URL. Without an IDP metadata URL it simulates the IDP's
metadata from the entry's entity id, SSO and logout URLs and certificate file.

The handler of `flow/saml/handler.go` builds its engine from flat configuration
keys, once, in `NewHandler`, which panics when the build fails; its engine is
never nil.

The library calls are the functions of `MiddlewareEnv`. The code's own panics
are kept: the two indexings, the `*rsa.PrivateKey` type assertion,
`mustParseCertificate`, and the dereference of the metadata URL whose parse
error is dropped. The build is written as the code's steps (`loadKeyPair`,
`idpMetadata`, `newEngine`, `pointURLs`), so that each panic is stated where the
steps before it succeed, and shown to be the only ones (`BuildPanics`).
-/

namespace KratosSaml

/-- The configuration values `instantiateMiddleware` reads and the library calls
it makes. -/
structure MiddlewareEnv where
  strategyConfig : String
  decode : String → Except String ConfigurationCollection
  loadX509KeyPair : String → String → Except GoError KeyPair
  parseCertificate : String → Except GoError Certificate
  urlParse : String → Except GoError URL
  fetchMetadata : URL → Except GoError EntityDescriptor
  readFile : String → Except GoError String
  pemDecode : String → Option String
  simulatedMetadata : Certificate → URL → URL → URL → EntityDescriptor
  defaultReturnTo : String
  selfPublicURL : String
  samlspNew : Options → Except GoError Middleware

/-- `strings.Replace(s, old, new, 1)` for a non-empty `old`. -/
def replaceFirst (old new : List Char) : List Char → List Char
  | [] => []
  | c :: cs =>
    if old.isPrefixOf (c :: cs) then new ++ (c :: cs).drop old.length
    else c :: replaceFirst old new cs

def replaceOnce (s old new : String) : String := ⟨replaceFirst old.data new.data s.data⟩

/-- `mustParseCertificate`: `panic("cannot parse PEM")` when no PEM block is found,
`panic(err)` when the block is no certificate. -/
def mustParseCertificate (env : MiddlewareEnv) (pemStr : String) : Outcome Certificate :=
  match env.pemDecode pemStr with
  | none => .panic (.message "cannot parse PEM")
  | some block =>
    match env.parseCertificate block with
    | .ok cert => .ok cert
    | .error err => .panic (.error err)

/-- `keyPair.PrivateKey.(*rsa.PrivateKey)`. -/
def rsaKey : PrivateKey → Outcome Nat
  | .rsa key => .ok key
  | _ => .panic .notRSAKey

namespace Handler

def routeSamlMetadata : String := "/self-service/methods/saml/metadata"

def routeSamlAcs : String := "/self-service/methods/saml/acs"

/-- The IDP metadata of `instantiateMiddleware`: fetched from the entry's
metadata URL, or simulated from its IDP information. -/
def idpMetadata (env : MiddlewareEnv) (entry : ProviderEntry) : Outcome EntityDescriptor :=
  let info := mapIndex entry.idpInformation
  if info "idp_metadata_url" ≠ "" then do
    let idpMetadataURL ← Outcome.ofExcept (env.urlParse (info "idp_metadata_url"))
    Outcome.ofExcept (env.fetchMetadata idpMetadataURL)
  else do
    let entityIDURL ← Outcome.ofExcept (env.urlParse (info "idp_entity_id"))
    let idpSSOURL ← Outcome.ofExcept (env.urlParse (info "idp_sso_url"))
    let idpLogoutURL ← Outcome.ofExcept (env.urlParse (info "idp_logout_url"))
    let certificate ← Outcome.ofExcept
      (env.readFile (replaceOnce (info "idp_certificate_path") "file://" ""))
    let idpCertificate ← mustParseCertificate env certificate
    pure (env.simulatedMetadata idpCertificate entityIDURL idpSSOURL idpLogoutURL)

/-- The public URL without its trailing slash. `publicUrlString[len-1]` panics on
an empty URL; the last byte is `'/'` exactly when the last character is. -/
def trimmedPublicURL (publicUrlString : String) : Outcome String := do
  let last ← goIndex publicUrlString.data (publicUrlString.length - 1)
  if last ≠ '/' then pure publicUrlString else pure ⟨publicUrlString.data.dropLast⟩

/-- `url.Parse` whose error is dropped: `*metadata` dereferences nil on a failure. -/
def parseUnchecked (env : MiddlewareEnv) (s : String) : Outcome URL :=
  match env.urlParse s with
  | .ok u => .ok u
  | .error _ => .panic .nilURL

/-- The steps of `instantiateMiddleware` that load the provider's key pair: the
decoded configuration's last entry, the key pair its paths name, and the parsed
leaf certificate. -/
def loadKeyPair (env : MiddlewareEnv) : Outcome (ProviderEntry × KeyPair × Certificate) := do
  let c ← match env.decode env.strategyConfig with
    | .ok c => Outcome.ok c
    | .error msg => .error (.wrapf ("Unable to decode config " ++ env.strategyConfig) (.other msg))
  let entry ← middlewareEntry c
  let keyPair ← Outcome.ofExcept (env.loadX509KeyPair
    (replaceOnce entry.publicCertPath "file://" "") (replaceOnce entry.privateKeyPath "file://" ""))
  let leafDER ← goIndex keyPair.certificate 0
  let leaf ← Outcome.ofExcept (env.parseCertificate leafDER)
  pure (entry, keyPair, leaf)

/-- `samlsp.New` on the default return URL, the loaded key asserted to be RSA,
the leaf and the IDP metadata. -/
def newEngine (env : MiddlewareEnv) (keyPair : KeyPair) (leaf : Certificate)
    (idpMetadata : EntityDescriptor) : Outcome Middleware := do
  let rootURL ← Outcome.ofExcept (env.urlParse env.defaultReturnTo)
  let key ← rsaKey keyPair.privateKey
  Outcome.ofExcept (env.samlspNew ⟨rootURL, key, leaf, idpMetadata, true⟩)

/-- The engine's ACS and metadata URLs under the public URL, its entity id and
its name id format. -/
def pointURLs (env : MiddlewareEnv) (m : Middleware) : Outcome Middleware := do
  let publicUrlString ← trimmedPublicURL env.selfPublicURL
  let acsURL ← Outcome.ofExcept (env.urlParse (publicUrlString ++ routeSamlAcs))
  let metadata ← parseUnchecked env (publicUrlString ++ routeSamlMetadata)
  pure { m with acsURL := acsURL, metadataURL := metadata, entityID := metadata,
                authnNameIDFormat := unspecifiedNameIDFormat }

/-- `Handler.instantiateMiddleware`, its steps in the code's order; the store into
`samlMiddleware` is the caller's. -/
def instantiateMiddleware (env : MiddlewareEnv) : Outcome Middleware := do
  let (entry, keyPair, leaf) ← loadKeyPair env
  let idpMetadata ← idpMetadata env entry
  let m ← newEngine env keyPair leaf idpMetadata
  pointURLs env m

/-- `GetMiddleware`. -/
def getMiddleware (samlMiddleware : Option Middleware) : Except GoError Middleware :=
  match samlMiddleware with
  | none => .error (.other "The MiddleWare for SAML is null (Probably due to a backward step)")
  | some m => .ok m

end Handler

/-- The flat configuration keys of `flow/saml/handler.go`, as the paths and text
it reads from them. -/
structure FlatSamlConfig where
  samlPublicCertPath : String
  samlPrivateKeyPath : String
  samlIdpMetadataUrl : String

/-- The handler of `flow/saml/handler.go`: its engine is a field, never nil. -/
structure FlowHandler where
  samlMiddleware : Middleware

namespace FlowHandler

def routeSamlAcs : String := "/self-service/saml/acs"

def routeSamlMetadata : String := "/self-service/saml/metadata"

/-- `instantiateMiddleware` of `flow/saml/handler.go`. -/
def instantiateMiddleware (env : MiddlewareEnv) (conf : FlatSamlConfig) : Outcome Middleware := do
  let keyPair ← Outcome.ofExcept
    (env.loadX509KeyPair conf.samlPublicCertPath conf.samlPrivateKeyPath)
  let leafDER ← goIndex keyPair.certificate 0
  let leaf ← Outcome.ofExcept (env.parseCertificate leafDER)
  let idpMetadataURL ← Outcome.ofExcept (env.urlParse conf.samlIdpMetadataUrl)
  let idpMetadata ← Outcome.ofExcept (env.fetchMetadata idpMetadataURL)
  let rootURL ← Outcome.ofExcept (env.urlParse env.defaultReturnTo)
  let key ← rsaKey keyPair.privateKey
  let m ← Outcome.ofExcept (env.samlspNew ⟨rootURL, key, leaf, idpMetadata, true⟩)
  let u ← Outcome.ofExcept (env.urlParse (env.selfPublicURL ++ routeSamlAcs))
  pure { m with acsURL := u }

/-- `NewHandler`: `panic(err)` when the engine cannot be built. -/
def newHandler (env : MiddlewareEnv) (conf : FlatSamlConfig) : Outcome FlowHandler :=
  match instantiateMiddleware env conf with
  | .ok m => .ok ⟨m⟩
  | .error err => .panic (.error err)
  | .panic p => .panic p

end FlowHandler

open Outcome

/-- The panics the build has by design: the engine takes RSA keys only, and
`mustParseCertificate` panics on an IDP certificate it cannot parse. -/
def ByDesignPanic : Panic → Prop
  | .notRSAKey => True
  | .message msg => msg = "cannot parse PEM"
  | .error _ => True
  | _ => False

/-- `mustParseCertificate` panics exactly on a text with no PEM block, and with
x509's error on a block that holds no certificate. -/
theorem mustParseCertificate_eq_panic {env : MiddlewareEnv} {s : String} {p : Panic} :
    mustParseCertificate env s = .panic p ↔
      env.pemDecode s = none ∧ p = .message "cannot parse PEM" ∨
      ∃ block err, env.pemDecode s = some block ∧ env.parseCertificate block = .error err ∧
        p = .error err := by
  unfold mustParseCertificate
  cases hb : env.pemDecode s with
  | none => simp [@eq_comm _ p]
  | some block => cases hc : env.parseCertificate block <;> simp [hc, @eq_comm _ p]

theorem mustParseCertificate_panicsOnly (env : MiddlewareEnv) (s : String) :
    PanicsOnly ByDesignPanic (mustParseCertificate env s) := fun _ h => by
  rcases mustParseCertificate_eq_panic.mp h with ⟨-, rfl⟩ | ⟨_, _, -, -, rfl⟩ <;> trivial

/-- The type assertion `keyPair.PrivateKey.(*rsa.PrivateKey)` panics exactly on a
key that is not RSA. -/
theorem rsaKey_eq_panic {key : PrivateKey} {p : Panic} :
    rsaKey key = .panic p ↔ (∀ k, key ≠ .rsa k) ∧ p = .notRSAKey := by
  cases key <;> simp [rsaKey, eq_comm]

theorem rsaKey_panicsOnly (key : PrivateKey) : PanicsOnly ByDesignPanic (rsaKey key) :=
  fun _ h => by rw [(rsaKey_eq_panic.mp h).2]; trivial

/-- What `idpMetadata` needs to reach `mustParseCertificate` on `certificate`: the
entry names no IDP metadata URL, its entity id, SSO and logout URLs parse, and its
certificate file reads `certificate`. -/
structure SimulatedIDP (env : MiddlewareEnv) (entry : ProviderEntry) (certificate : String) :
    Prop where
  noMetadataURL : mapIndex entry.idpInformation "idp_metadata_url" = ""
  entityID : ∃ u, env.urlParse (mapIndex entry.idpInformation "idp_entity_id") = .ok u
  ssoURL : ∃ u, env.urlParse (mapIndex entry.idpInformation "idp_sso_url") = .ok u
  logoutURL : ∃ u, env.urlParse (mapIndex entry.idpInformation "idp_logout_url") = .ok u
  certificateRead :
    env.readFile (replaceOnce (mapIndex entry.idpInformation "idp_certificate_path") "file://" "") =
      .ok certificate

theorem idpMetadata_of_simulated {env : MiddlewareEnv} {entry : ProviderEntry}
    {certificate : String} (h : SimulatedIDP env entry certificate) {p : Panic}
    (hp : mustParseCertificate env certificate = .panic p) :
    Handler.idpMetadata env entry = .panic p := by
  obtain ⟨hurl, ⟨_, he⟩, ⟨_, hs⟩, ⟨_, hl⟩, hf⟩ := h
  simp [Handler.idpMetadata, hurl, he, hs, hl, hf, hp]

theorem idpMetadata_panicsOnly (env : MiddlewareEnv) (entry : ProviderEntry) :
    PanicsOnly ByDesignPanic (Handler.idpMetadata env entry) := by
  unfold Handler.idpMetadata
  dsimp only
  split
  · exact .bind (.ofExcept _) fun _ _ => .ofExcept _
  · exact .bind (.ofExcept _) fun _ _ => .bind (.ofExcept _) fun _ _ =>
      .bind (.ofExcept _) fun _ _ => .bind (.ofExcept _) fun _ _ =>
      .bind (mustParseCertificate_panicsOnly _ _) fun _ _ => .ok _

/-- `keyPair.Certificate[0]` exists: `LoadX509KeyPair` returns a block or fails. -/
theorem goIndex_certificate (kp : KeyPair) :
    goIndex kp.certificate 0 = .ok (kp.certificate.head kp.certificate_ne_nil) := by
  obtain ⟨_ | ⟨c, cs⟩, _, h⟩ := kp
  · exact absurd rfl h
  · rfl

/-- With a provider entry, loading the key pair never panics. -/
theorem loadKeyPair_panicsOnly {env : MiddlewareEnv} {c : ConfigurationCollection}
    (hdecode : env.decode env.strategyConfig = .ok c) (hne : c.samlProviders ≠ []) :
    PanicsOnly (fun _ => False) (Handler.loadKeyPair env) := by
  unfold Handler.loadKeyPair
  simp only [hdecode, ok_bind, middlewareEntry_of_ne_nil hne]
  refine .bind (.ofExcept _) fun kp _ => ?_
  rw [goIndex_certificate]
  exact .bind (.ok _) fun _ _ => .bind (.ofExcept _) fun _ _ => .ok _

theorem newEngine_panicsOnly (env : MiddlewareEnv) (kp : KeyPair) (leaf : Certificate)
    (md : EntityDescriptor) : PanicsOnly ByDesignPanic (Handler.newEngine env kp leaf md) :=
  .bind (.ofExcept _) fun _ _ => .bind (rsaKey_panicsOnly _) fun _ _ => .ofExcept _

/-- `publicUrlString[len-1]` panics exactly on the empty public URL. -/
theorem trimmedPublicURL_eq_panic {s : String} {p : Panic} :
    Handler.trimmedPublicURL s = .panic p ↔ s = "" ∧ p = .indexOutOfRange := by
  obtain ⟨_ | ⟨c, cs⟩⟩ := s
  · simp [Handler.trimmedPublicURL, goIndex_nil, eq_comm]
  · rw [Handler.trimmedPublicURL, String.length_mk, goIndex_last _ (List.cons_ne_nil c cs), ok_bind]
    split <;> simp [String.ext_iff]

theorem parseUnchecked_panicsOnly (env : MiddlewareEnv) (s : String) :
    PanicsOnly (· = .nilURL) (Handler.parseUnchecked env s) := by
  intro p h
  unfold Handler.parseUnchecked at h
  split at h <;> cases h; rfl

/-- Pointing the URLs panics only at the empty public URL, or where the metadata
URL's dropped parse error is dereferenced. -/
theorem pointURLs_panicsOnly {env : MiddlewareEnv} {P : Panic → Prop}
    (hindex : env.selfPublicURL = "" → P .indexOutOfRange)
    (hmeta : ∀ s u, env.urlParse (s ++ Handler.routeSamlAcs) = .ok u →
      PanicsOnly P (Handler.parseUnchecked env (s ++ Handler.routeSamlMetadata)))
    (m : Middleware) : PanicsOnly P (Handler.pointURLs env m) :=
  .bind (fun _ h => by obtain ⟨hs, rfl⟩ := trimmedPublicURL_eq_panic.mp h; exact hindex hs)
    fun s _ => .bind (.ofExcept _) fun u hu => .bind (hmeta s u (ofExcept_eq_ok.mp hu)) fun _ _ => .ok _

/-- Once the key pair is loaded, the build is its remaining steps. -/
theorem instantiateMiddleware_of_loaded {env : MiddlewareEnv} {entry : ProviderEntry}
    {kp : KeyPair} {leaf : Certificate} (h : Handler.loadKeyPair env = .ok (entry, kp, leaf)) :
    Handler.instantiateMiddleware env =
      Handler.idpMetadata env entry >>= fun md =>
        Handler.newEngine env kp leaf md >>= Handler.pointURLs env := by
  simp only [Handler.instantiateMiddleware, h, ok_bind]

/-- With a provider entry, the build panics only by design, at the empty public
URL, or at the metadata URL, whose parse is reached only after the ACS URL's
succeeded. -/
theorem instantiateMiddleware_panicsOnly {env : MiddlewareEnv} {c : ConfigurationCollection}
    (hdecode : env.decode env.strategyConfig = .ok c) (hne : c.samlProviders ≠ [])
    {P : Panic → Prop} (hdesign : ∀ p, ByDesignPanic p → P p)
    (hindex : env.selfPublicURL = "" → P .indexOutOfRange)
    (hmeta : ∀ s u, env.urlParse (s ++ Handler.routeSamlAcs) = .ok u →
      PanicsOnly P (Handler.parseUnchecked env (s ++ Handler.routeSamlMetadata))) :
    PanicsOnly P (Handler.instantiateMiddleware env) :=
  .bind ((loadKeyPair_panicsOnly hdecode hne).mono fun _ => False.elim) fun ⟨entry, kp, leaf⟩ _ =>
    .bind ((idpMetadata_panicsOnly env entry).mono hdesign) fun md _ =>
    .bind ((newEngine_panicsOnly env kp leaf md).mono hdesign) fun m _ =>
    pointURLs_panicsOnly hindex hmeta m

/-- `url.Parse` accepts the public URL followed by the metadata route whenever it
accepts it followed by the ACS route. Go's parser does: the two routes differ only
in the letters of their last path segment. -/
def ParsesAlike (urlParse : String → Except GoError URL) : Prop :=
  ∀ s u, urlParse (s ++ Handler.routeSamlAcs) = .ok u →
    ∃ u', urlParse (s ++ Handler.routeSamlMetadata) = .ok u'

theorem provider_of_no_entry {penv : Strategy.ProviderEnv} (hdecode : penv.decoded = .ok ⟨[]⟩) :
    Strategy.provider penv = .panic .indexOutOfRange := by
  simp [Strategy.provider, Strategy.config, hdecode, providerEntry_nil]

theorem instantiateMiddleware_of_no_entry {env : MiddlewareEnv}
    (hdecode : env.decode env.strategyConfig = .ok ⟨[]⟩) :
    Handler.instantiateMiddleware env = .panic .indexOutOfRange := by
  simp [Handler.instantiateMiddleware, Handler.loadKeyPair, hdecode, middlewareEntry_nil]

/-- What the build and the claims provider panic with, on one decoded
configuration `c`. With no entry, both index `SAMLProviders` out of range. With
one, the claims provider never panics; the build panics at each of its sites once
the steps before the site succeed (an IDP certificate with no PEM block or whose
block x509 rejects, a key that is not RSA, the empty public URL, the metadata
URL's dropped parse error), and nowhere else. -/
structure BuildPanics (env : MiddlewareEnv) (penv : Strategy.ProviderEnv)
    (c : ConfigurationCollection) : Prop where
  noEntry : c.samlProviders = [] →
    Handler.instantiateMiddleware env = .panic .indexOutOfRange ∧
    Strategy.provider penv = .panic .indexOutOfRange
  provider : c.samlProviders ≠ [] → PanicsOnly (fun _ => False) (Strategy.provider penv)
  noPEMBlock : ∀ entry kp leaf certificate, Handler.loadKeyPair env = .ok (entry, kp, leaf) →
    SimulatedIDP env entry certificate → env.pemDecode certificate = none →
    Handler.instantiateMiddleware env = .panic (.message "cannot parse PEM")
  notCertificate : ∀ entry kp leaf certificate block err,
    Handler.loadKeyPair env = .ok (entry, kp, leaf) → SimulatedIDP env entry certificate →
    env.pemDecode certificate = some block → env.parseCertificate block = .error err →
    Handler.instantiateMiddleware env = .panic (.error err)
  notRSAKey : ∀ entry kp leaf md rootURL, Handler.loadKeyPair env = .ok (entry, kp, leaf) →
    Handler.idpMetadata env entry = .ok md → env.urlParse env.defaultReturnTo = .ok rootURL →
    (∀ k, kp.privateKey ≠ .rsa k) → Handler.instantiateMiddleware env = .panic .notRSAKey
  emptyPublicURL : ∀ entry kp leaf md m, Handler.loadKeyPair env = .ok (entry, kp, leaf) →
    Handler.idpMetadata env entry = .ok md → Handler.newEngine env kp leaf md = .ok m →
    env.selfPublicURL = "" → Handler.instantiateMiddleware env = .panic .indexOutOfRange
  nilMetadataURL : ∀ entry kp leaf md m s acsURL err,
    Handler.loadKeyPair env = .ok (entry, kp, leaf) → Handler.idpMetadata env entry = .ok md →
    Handler.newEngine env kp leaf md = .ok m → Handler.trimmedPublicURL env.selfPublicURL = .ok s →
    env.urlParse (s ++ Handler.routeSamlAcs) = .ok acsURL →
    env.urlParse (s ++ Handler.routeSamlMetadata) = .error err →
    Handler.instantiateMiddleware env = .panic .nilURL
  build : c.samlProviders ≠ [] →
    PanicsOnly (fun p => ByDesignPanic p ∨ p = .nilURL ∨
      p = .indexOutOfRange ∧ env.selfPublicURL = "") (Handler.instantiateMiddleware env)
  buildParsesAlike : c.samlProviders ≠ [] → ParsesAlike env.urlParse →
    PanicsOnly (fun p => ByDesignPanic p ∨ p = .indexOutOfRange ∧ env.selfPublicURL = "")
      (Handler.instantiateMiddleware env)

/-- The strategy's file asks the engine to be built from the last provider entry
and the claims provider from the first: with two entries they differ. -/
theorem middlewareEntry_two_providers :
    middlewareEntry ⟨[⟨"https://idp-a.example/metadata", "https://idp-a.example/sso", "a.crt", "a.key",
        [("idp_metadata_url", "https://idp-a.example/metadata")]⟩,
      ⟨"https://idp-b.example/metadata", "https://idp-b.example/sso", "b.crt", "b.key",
        [("idp_metadata_url", "https://idp-b.example/metadata")]⟩]⟩ =
      .ok ⟨"https://idp-b.example/metadata", "https://idp-b.example/sso", "b.crt", "b.key",
        [("idp_metadata_url", "https://idp-b.example/metadata")]⟩ ∧
    providerEntry ⟨[⟨"https://idp-a.example/metadata", "https://idp-a.example/sso", "a.crt", "a.key",
        [("idp_metadata_url", "https://idp-a.example/metadata")]⟩,
      ⟨"https://idp-b.example/metadata", "https://idp-b.example/sso", "b.crt", "b.key",
        [("idp_metadata_url", "https://idp-b.example/metadata")]⟩]⟩ =
      .ok ⟨"https://idp-a.example/metadata", "https://idp-a.example/sso", "a.crt", "a.key",
        [("idp_metadata_url", "https://idp-a.example/metadata")]⟩ := ⟨rfl, rfl⟩

/-- An IDP certificate file without a PEM block: the build panics in
`mustParseCertificate` instead of returning an error. -/
theorem instantiateMiddleware_unparseable_certificate :
    Handler.instantiateMiddleware
      { strategyConfig := "{}"
        decode := fun _ => .ok ⟨[⟨"", "", "file:///sp.crt", "file:///sp.key",
          [("idp_entity_id", "https://idp.example"), ("idp_sso_url", "https://idp.example/sso"),
           ("idp_logout_url", "https://idp.example/slo"),
           ("idp_certificate_path", "file:///idp.crt")]⟩]⟩
        loadX509KeyPair := fun _ _ => .ok ⟨["leaf"], .rsa 1, by simp⟩
        parseCertificate := fun der => .ok ⟨der⟩
        urlParse := fun s => .ok ⟨s⟩
        fetchMetadata := fun u => .ok ⟨u.raw⟩
        readFile := fun _ => .ok "not a certificate"
        pemDecode := fun _ => none
        simulatedMetadata := fun _ u _ _ => ⟨u.raw⟩
        defaultReturnTo := "https://kratos.example/"
        selfPublicURL := "https://kratos.example/"
        samlspNew := fun o => .ok ⟨o, ⟨""⟩, ⟨""⟩, ⟨""⟩, "", false⟩ } =
      .panic (.message "cannot parse PEM") := rfl

theorem provider_panicsOnly {penv : Strategy.ProviderEnv} {c : ConfigurationCollection}
    (hdecode : penv.decoded = .ok c) (hne : c.samlProviders ≠ []) :
    PanicsOnly (fun _ => False) (Strategy.provider penv) := by
  obtain ⟨_ | ⟨e, es⟩⟩ := c
  · exact absurd rfl hne
  unfold Strategy.provider
  simp only [hdecode, Strategy.config, ofExcept_ok, ok_bind, providerEntry_cons]
  exact .bind (.ofExcept _) fun _ _ => .bind (.ofExcept _) fun _ _ => .ofExcept _

theorem build_panics_by_design {env : MiddlewareEnv} {penv : Strategy.ProviderEnv}
    {c : ConfigurationCollection} (hdecode : env.decode env.strategyConfig = .ok c)
    (hpdecode : penv.decoded = .ok c) : BuildPanics env penv c where
  noEntry hnil := by
    obtain ⟨es⟩ := c
    cases hnil
    exact ⟨instantiateMiddleware_of_no_entry hdecode, provider_of_no_entry hpdecode⟩
  provider hne := provider_panicsOnly hpdecode hne
  noPEMBlock _ _ _ _ hk hs hpem := by
    rw [instantiateMiddleware_of_loaded hk,
      idpMetadata_of_simulated hs (mustParseCertificate_eq_panic.mpr (.inl ⟨hpem, rfl⟩)),
      panic_bind]
  notCertificate _ _ _ _ _ _ hk hs hpem hx509 := by
    rw [instantiateMiddleware_of_loaded hk,
      idpMetadata_of_simulated hs (mustParseCertificate_eq_panic.mpr (.inr ⟨_, _, hpem, hx509, rfl⟩)),
      panic_bind]
  notRSAKey _ _ _ _ _ hk hmd hroot hkey := by
    rw [instantiateMiddleware_of_loaded hk, hmd, ok_bind]
    simp [Handler.newEngine, hroot, rsaKey_eq_panic.mpr ⟨hkey, rfl⟩]
  emptyPublicURL _ _ _ _ _ hk hmd hm hurl := by
    rw [instantiateMiddleware_of_loaded hk, hmd, ok_bind, hm, ok_bind]
    simp [Handler.pointURLs, trimmedPublicURL_eq_panic.mpr ⟨hurl, rfl⟩]
  nilMetadataURL _ _ _ _ _ _ _ _ hk hmd hm hs hacs hmeta := by
    rw [instantiateMiddleware_of_loaded hk, hmd, ok_bind, hm, ok_bind]
    simp [Handler.pointURLs, Handler.parseUnchecked, hs, hacs, hmeta]
  build hne := instantiateMiddleware_panicsOnly hdecode hne (fun _ => .inl)
    (fun h => .inr (.inr ⟨rfl, h⟩))
    fun _ _ _ => (parseUnchecked_panicsOnly env _).mono fun _ => .inr ∘ .inl
  buildParsesAlike hne halike := instantiateMiddleware_panicsOnly hdecode hne (fun _ => .inl)
    (fun h => .inr ⟨rfl, h⟩) fun s u hu => by
      obtain ⟨u', hu'⟩ := halike s u hu
      simp only [Handler.parseUnchecked, hu']
      exact .ok u'

theorem build_panics_by_design_one_entry :
    BuildPanics
      { strategyConfig := "{}"
        decode := fun _ => .ok ⟨[⟨"", "", "sp.crt", "sp.key",
          [("idp_metadata_url", "https://idp.example/metadata")]⟩]⟩
        loadX509KeyPair := fun _ _ => .ok ⟨["leaf"], .ecdsa 7, by simp⟩
        parseCertificate := fun der => .ok ⟨der⟩
        urlParse := fun s => .ok ⟨s⟩
        fetchMetadata := fun u => .ok ⟨u.raw⟩
        readFile := fun _ => .error (.other "no such file")
        pemDecode := fun _ => none
        simulatedMetadata := fun _ u _ _ => ⟨u.raw⟩
        defaultReturnTo := "https://kratos.example/"
        selfPublicURL := "https://kratos.example/"
        samlspNew := fun o => .ok ⟨o, ⟨""⟩, ⟨""⟩, ⟨""⟩, "", false⟩ }
      ⟨.ok ⟨[⟨"", "", "sp.crt", "sp.key",
          [("idp_metadata_url", "https://idp.example/metadata")]⟩]⟩,
        fun s => .ok ⟨s⟩, fun _ _ _ => .ok ⟨fun _ => .ok ⟨""⟩⟩⟩
      ⟨[⟨"", "", "sp.crt", "sp.key", [("idp_metadata_url", "https://idp.example/metadata")]⟩]⟩ :=
  build_panics_by_design rfl rfl

end KratosSaml
