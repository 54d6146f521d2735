import KratosSaml.Attributes

/-!
# Provider configuration and the claims provider

The strategy's configuration is decoded strictly from the `saml` method's config
on every call. `Strategy.provider` builds the claims provider from the first
entry of `SAMLProviders`; the engine is built from the last one
(`Handler.instantiateMiddleware`). Both indexings are Go's `s[i]` and panic on an
empty list.

`samlstrategy.ConfigurationCollection` and its `Provider` method are not among
the sources: the entry keeps the fields the code reads, and the provider
constructor is a collaborator.

`populateMethod` decodes the configuration only to fail with its error, and `uid`
is the identifier of a subject at a provider.
-/

namespace KratosSaml

/-- Modelled from the spec: a `samlstrategy.Configuration` entry, with the IDP
metadata URL, the IDP SSO URL, the signing certificate and key paths and the IDP
information map, as the code reads them. -/
structure ProviderEntry where
  idpMetadataURL : String
  idpSSOURL : String
  publicCertPath : String
  privateKeyPath : String
  idpInformation : List (String × String)
  deriving DecidableEq, Repr

/-- Modelled from the spec: `samlstrategy.ConfigurationCollection`. -/
structure ConfigurationCollection where
  samlProviders : List ProviderEntry
  deriving DecidableEq, Repr

/-- Go's `m[k]` on a `map[string]string`: the empty string for a missing key. -/
def mapIndex (m : List (String × String)) (k : String) : String := (m.lookup k).getD ""

/-- Identity claims mapped from the attributes. -/
structure Claims where
  subject : String
  deriving DecidableEq, Repr

/-- A claims provider: it maps attributes to claims by the provider's rules. -/
structure Provider where
  claims : Attributes → Except GoError Claims

/-- The entry `Strategy.provider` reads: `SAMLProviders[0]`. -/
def providerEntry (c : ConfigurationCollection) : Outcome ProviderEntry :=
  goIndex c.samlProviders 0

/-- The entry `instantiateMiddleware` reads: `SAMLProviders[len(SAMLProviders)-1]`. -/
def middlewareEntry (c : ConfigurationCollection) : Outcome ProviderEntry :=
  goIndex c.samlProviders (c.samlProviders.length - 1)

namespace Strategy

/-- `Strategy.Config`; `decoded` is the strict JSON decoder's result on the raw
config, its error by message. The logging of the raw config is not modelled. -/
def config (decoded : Except String ConfigurationCollection) :
    Except GoError ConfigurationCollection :=
  match decoded with
  | .ok c => .ok c
  | .error msg => .error (.withStack (.internalServerError
      ("Unable to decode SAML Identity Provider configuration: " ++ msg)))

/-- What `Strategy.provider` calls: the decoder's result, `url.Parse` and the
collection's `Provider` method. -/
structure ProviderEnv where
  decoded : Except String ConfigurationCollection
  urlParse : String → Except GoError URL
  newProvider : ConfigurationCollection → URL → URL → Except GoError Provider

/-- `Strategy.populateMethod`: the configuration is decoded only for its error,
and the container, changed in place, gets the CSRF token `GenerateCSRFToken`
returned. The container after the call, and the error returned. -/
def populateMethod (decoded : Except String ConfigurationCollection) (token : String)
    (c : Container) : Container × Option GoError :=
  match config decoded with
  | .error err => (c, some err)
  | .ok _ => (c.setCSRF token, none)

/-- `Strategy.provider`. -/
def provider (env : ProviderEnv) : Outcome Provider := do
  let c ← Outcome.ofExcept (config env.decoded)
  let entry ← providerEntry c
  let idpMetadataURL ← Outcome.ofExcept (env.urlParse entry.idpMetadataURL)
  let idpSSOURL ← Outcome.ofExcept (env.urlParse entry.idpSSOURL)
  Outcome.ofExcept (env.newProvider c idpMetadataURL idpSSOURL)

end Strategy

/-- `uid`: `fmt.Sprintf("%s:%s", provider, subject)`, the identifier of a
subject at a provider. -/
def uid (provider subject : String) : String := provider ++ ":" ++ subject

@[simp] theorem providerEntry_cons (e : ProviderEntry) (es : List ProviderEntry) :
    providerEntry ⟨e :: es⟩ = .ok e := rfl

theorem middlewareEntry_of_ne_nil {c : ConfigurationCollection} (h : c.samlProviders ≠ []) :
    middlewareEntry c = .ok (c.samlProviders.getLast h) :=
  goIndex_last _ h

theorem providerEntry_nil : providerEntry ⟨[]⟩ = .panic .indexOutOfRange := rfl

theorem middlewareEntry_nil : middlewareEntry ⟨[]⟩ = .panic .indexOutOfRange := rfl

/-- The two readings agree exactly when the list's first and last entries are
one and the same: always for a single entry, and for longer lists only when the
configuration repeats its first entry at the end. -/
theorem middlewareEntry_eq_providerEntry_iff {c : ConfigurationCollection}
    (h : c.samlProviders ≠ []) :
    middlewareEntry c = providerEntry c ↔ c.samlProviders.getLast h = c.samlProviders.head h := by
  obtain ⟨es⟩ := c
  cases es with
  | nil => exact absurd rfl h
  | cons e es => simp [middlewareEntry_of_ne_nil h]

/-- The first colon splits `provider ++ ':' :: subject` when the provider has none. -/
theorem append_colon_inj {p p' s s' : List Char} (hp : ':' ∉ p) (hp' : ':' ∉ p')
    (h : p ++ ':' :: s = p' ++ ':' :: s') : p = p' ∧ s = s' := by
  induction p generalizing p' with
  | nil =>
    cases p' with
    | nil => simpa using h
    | cons c p' =>
      obtain ⟨rfl, -⟩ := List.cons_eq_cons.mp h
      exact absurd (List.mem_cons_self _ _) hp'
  | cons c p ih =>
    cases p' with
    | nil =>
      obtain ⟨rfl, -⟩ := List.cons_eq_cons.mp h
      exact absurd (List.mem_cons_self _ _) hp
    | cons c' p' =>
      obtain ⟨rfl, htail⟩ := List.cons_eq_cons.mp h
      obtain ⟨rfl, rfl⟩ :=
        ih (List.not_mem_of_not_mem_cons hp) (List.not_mem_of_not_mem_cons hp') htail
      exact ⟨rfl, rfl⟩

/-- Two subjects at providers whose ids hold no colon share an identifier only when
they are the same subject at the same provider, whatever colons the subjects hold. -/
theorem uid_inj {provider provider' subject subject' : String} (h : ':' ∉ provider.data)
    (h' : ':' ∉ provider'.data) :
    uid provider subject = uid provider' subject' ↔ provider = provider' ∧ subject = subject' := by
  refine ⟨fun he => ?_, fun ⟨hp, hs⟩ => hp ▸ hs ▸ rfl⟩
  have hd := congrArg String.data he
  simp only [uid, String.data_append, List.append_assoc] at hd
  obtain ⟨hp, hs⟩ := append_colon_inj h h' hd
  exact ⟨String.ext hp, String.ext hs⟩

theorem uid_inj_two_providers :
    ':' ∉ "saml-okta".data ∧ ':' ∉ "saml-azure".data ∧
      (uid "saml-okta" "user:1" = uid "saml-azure" "user:1" ↔
        "saml-okta" = "saml-azure" ∧ "user:1" = "user:1") :=
  ⟨by decide, by decide, uid_inj (by decide) (by decide)⟩

/- With a colon in a provider id, two different subjects share an identifier. -/
example : uid "a:b" "c" = uid "a" "b:c" := by decide

end KratosSaml
