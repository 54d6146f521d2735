import KratosSaml.Engine
import Mathlib.Data.List.AList

/-!
# Attribute extraction from a verified assertion

`getAttributesFromAssertion` builds the request ids the engine accepts, lets the
engine parse and verify the response, and folds the assertion's attribute
statements into a `map[string][]string`. The Go map is an `AList`; reading a
missing key gives the nil slice, `[]`.

The characterisation below is stated against a flat reading of the assertion:
the values filed under `k` are those of the attributes whose claim name is `k`,
in statement order and then attribute order.
-/

namespace KratosSaml

/-- `map[string][]string`, claim name to values. -/
abbrev Attributes := AList (fun _ : String => List String)

/-- `attributes[k]`: the nil slice for a missing key. -/
def lookupD (m : Attributes) (k : String) : List String := (m.lookup k).getD []

/-- `attributes[k] = append(attributes[k], v)`. -/
def appendValue (m : Attributes) (k v : String) : Attributes :=
  m.insert k (lookupD m k ++ [v])

/-- The friendly name, or the raw name when the friendly name is empty. -/
def claimName (attr : Attribute) : String :=
  if attr.friendlyName = "" then attr.name else attr.friendlyName

/-- The innermost loop: every value of one attribute. -/
def addAttribute (m : Attributes) (attr : Attribute) : Attributes :=
  attr.values.foldl (fun m value => appendValue m (claimName attr) value.value) m

/-- The nested loops over statements and their attributes. -/
def collectAttributes (assertion : Assertion) : Attributes :=
  assertion.attributeStatements.foldl
    (fun m statement => statement.attributes.foldl addAttribute m) ∅

/-- `possibleRequestIDs`: the empty id when IDP-initiated responses are allowed,
then the id of each tracked request. -/
def possibleRequestIDs (m : Middleware) (tracked : List TrackedRequest) : List String :=
  tracked.foldl (fun ids tr => ids ++ [tr.samlRequestID])
    (if m.allowIDPInitiated then [""] else [])

/-- `Strategy.getAttributesFromAssertion`: `tracked` is what the request tracker
returns for the request and `parseResponse` is `ServiceProvider.ParseResponse` on
it. A parse failure is written by the engine's `OnError` and returned. -/
def getAttributesFromAssertion (m : Middleware) (tracked : List TrackedRequest)
    (parseResponse : List String → Except GoError Assertion) :
    List Event × Except GoError Attributes :=
  match parseResponse (possibleRequestIDs m tracked) with
  | .error err => ([.write (.onError (some err))], .error err)
  | .ok assertion => ([], .ok (collectAttributes assertion))

theorem possibleRequestIDs_eq (m : Middleware) (tracked : List TrackedRequest) :
    possibleRequestIDs m tracked =
      (if m.allowIDPInitiated then [""] else []) ++ tracked.map (·.samlRequestID) := by
  suffices ∀ ids, tracked.foldl (fun ids tr => ids ++ [tr.samlRequestID]) ids =
      ids ++ tracked.map (·.samlRequestID) from this _
  induction tracked with
  | nil => simp
  | cons tr tracked ih => intro ids; simp [ih]

end KratosSaml
