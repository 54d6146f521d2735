import KratosSaml.Flow

/-!
# The SAML service-provider engine as the code sees it

`crewjam/saml` is an external collaborator. Its types keep the fields the
strategy and the flow handler read or set: an assertion's attribute statements,
a tracked request's id, the key pair `tls.LoadX509KeyPair` loads, the options
`samlsp.New` is given and the service-provider fields the handler overwrites.
Signature checking, XML and redirect construction are out of scope.

What a handler writes to its `http.ResponseWriter` is a `Response`; its run is a
list of `Event`s, writes in order, ended by a panic if one happens.
-/

namespace KratosSaml

/-- A URL as `url.Parse` returns it, kept by its text. -/
structure URL where
  raw : String
  deriving DecidableEq, Repr

structure AttributeValue where
  value : String
  deriving DecidableEq, Repr

structure Attribute where
  friendlyName : String
  name : String
  values : List AttributeValue
  deriving DecidableEq, Repr

structure AttributeStatement where
  attributes : List Attribute
  deriving DecidableEq, Repr

structure Assertion where
  attributeStatements : List AttributeStatement
  deriving DecidableEq, Repr

structure TrackedRequest where
  samlRequestID : String
  deriving DecidableEq, Repr

/-- The private key types `tls.LoadX509KeyPair` parses. -/
inductive PrivateKey
  | rsa (key : Nat)
  | ecdsa (key : Nat)
  | ed25519 (key : Nat)
  deriving DecidableEq, Repr

/-- A parsed `x509.Certificate`, kept by its DER bytes. -/
structure Certificate where
  der : String
  deriving DecidableEq, Repr

/-- `tls.Certificate` as `LoadX509KeyPair` returns it on success: it fails with
"failed to find any PEM data in certificate input" rather than return no block. -/
structure KeyPair where
  certificate : List String
  privateKey : PrivateKey
  certificate_ne_nil : certificate ≠ []

/-- IDP metadata, `*saml.EntityDescriptor`. -/
structure EntityDescriptor where
  entityID : String
  deriving DecidableEq, Repr

/-- `samlsp.Options`; the key is the `*rsa.PrivateKey` the type assertion yields. -/
structure Options where
  url : URL
  key : Nat
  certificate : Certificate
  idpMetadata : EntityDescriptor
  signRequest : Bool
  deriving DecidableEq, Repr

/-- `*samlsp.Middleware` with the service-provider fields the code reads or sets. -/
structure Middleware where
  options : Options
  acsURL : URL
  metadataURL : URL
  entityID : URL
  authnNameIDFormat : String
  allowIDPInitiated : Bool
  deriving DecidableEq, Repr

/-- `saml.UnspecifiedNameIDFormat`. -/
def unspecifiedNameIDFormat : String :=
  "urn:oasis:names:tc:SAML:1.1:nameid-format:unspecified"

/-- The flow error handler a flow error is written through. -/
inductive ErrorWriter
  | login
  | registration
  deriving DecidableEq, Repr

/-- One write to the client. -/
inductive Response
  | onError (err : Option GoError)
  | flowError (via : ErrorWriter) (f : Option Flow) (group : Group) (err : Option GoError)
  | forward (err : Option GoError)
  | metadata
  | startAuthFlow
  | redirect (path : String)
  | session (assertion : Assertion)
  | completion
  deriving DecidableEq, Repr

inductive Event
  | write (r : Response)
  | panic (p : Panic)
  deriving DecidableEq, Repr

end KratosSaml
