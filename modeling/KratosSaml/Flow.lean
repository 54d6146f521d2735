import KratosSaml.Runtime

/-!
# Flows, their UI containers and the flow interface

A login, registration or settings flow is kept with the fields the SAML code reads
or writes: its id, its type and its UI container. Expiry and ownership are read
only by each flow's own `Valid`, a collaborator.

A value of the `flow.Flow` interface is nil, or one of the three flow pointer
types, or a flow of another self-service kind. A pointer in the interface can be
nil itself: Go does not compare such a typed nil equal to nil.

The UI helpers the strategy calls (`SetCSRF`, `AddProvider`,
`UpdateNodeValuesFromJSON`) are not among the sources; they are modelled from the
spec's description of the registration retry form.
-/

namespace KratosSaml

/-- A flow id, `uuid.UUID`: sixteen bytes. -/
structure UUID where
  bits : BitVec 128
  deriving DecidableEq, Repr

def UUID.nil : UUID := ⟨0⟩

/-- Modelled from the spec: `x.IsZeroUUID` is not among the sources; the resolver
"rejects zero/empty flow identifiers". -/
def isZeroUUID (id : UUID) : Bool := id == UUID.nil

theorem isZeroUUID_eq_false {id : UUID} (h : id ≠ UUID.nil) : isZeroUUID id = false := by
  simpa [isZeroUUID] using h

inductive FlowType
  | api
  | browser
  deriving DecidableEq, Repr

inductive Group
  | default
  | openIDConnect
  | saml
  deriving DecidableEq, Repr

/-- A UI node, as an input named by its id. -/
structure Node where
  group : Group
  name : String
  value : String
  deriving DecidableEq, Repr

structure Container where
  nodes : List Node
  deriving DecidableEq, Repr

/-- Modelled from the spec: `Nodes.Upsert` replaces the node of the same id, or appends. -/
def upsert (n : Node) : List Node → List Node
  | [] => [n]
  | m :: ns => if m.name = n.name then n :: ns else m :: upsert n ns

/-- Modelled from the spec: the hidden CSRF input `NewCSRFNode` builds. -/
def csrfNode (token : String) : Node := ⟨.default, "csrf_token", token⟩

/-- Modelled from the spec: `SetCSRF` "reissues a fresh CSRF token". -/
def Container.setCSRF (c : Container) (token : String) : Container :=
  ⟨upsert (csrfNode token) c.nodes⟩

/-- Modelled from the spec: the one "continue with provider" affordance. -/
def providerNode (provider : String) : Node := ⟨.saml, "provider", provider⟩

/-- Modelled from the spec: `AddProvider` appends the provider's continue button. -/
def addProvider (c : Container) (provider : String) : Container :=
  ⟨c.nodes ++ [providerNode provider]⟩

/-- Modelled from the spec: a trait input of group `g` named `pre.path` takes the
staged value at `path`; staged traits are the leaves `jsonx.Flatten` gives. -/
def fillNode (traits : List (String × String)) (pre : String) (g : Group) (n : Node) : Node :=
  if n.group = g then
    match traits.find? (fun kv => pre ++ "." ++ kv.1 == n.name) with
    | some kv => { n with value := kv.2 }
    | none => n
  else n

/-- Modelled from the spec: `UpdateNodeValuesFromJSON` pre-populates trait inputs. -/
def Container.updateNodeValuesFromJSON (c : Container) (traits : List (String × String))
    (pre : String) (g : Group) : Container :=
  ⟨c.nodes.map (fillNode traits pre g)⟩

@[simp] theorem upsert_nil (n : Node) : upsert n [] = [n] := rfl

@[simp] theorem fillNode_of_group_ne {traits : List (String × String)} {pre : String}
    {g : Group} {n : Node} (h : n.group ≠ g) : fillNode traits pre g n = n := by
  simp [fillNode, h]

/-- The fields of a self-service flow the SAML code reads or writes. -/
structure Flow where
  id : UUID
  type : FlowType
  ui : Container
  deriving DecidableEq, Repr

/-- A session found for the request; only settings flows' `Valid` reads it. -/
structure Session where
  id : UUID
  deriving DecidableEq, Repr

/-- A value of the `flow.Flow` interface; `none` inside is a typed nil pointer. -/
inductive FlowValue
  | nil
  | login (f : Option Flow)
  | registration (f : Option Flow)
  | settings (f : Option Flow)
  | other
  deriving DecidableEq, Repr

/-- Go's `f == nil` on the interface: a typed nil pointer is not nil. -/
def FlowValue.isNil : FlowValue → Bool
  | .nil => true
  | _ => false

/-- The flow the interface points to, if any. -/
def FlowValue.flow? : FlowValue → Option Flow
  | .login f | .registration f | .settings f => f
  | _ => none

end KratosSaml
