import KratosSaml.Engine

/-!
# The flow-typed error responder

`Strategy.handleError` leaves login and settings flows alone. A registration flow
gets a fresh retry form: its nodes are cleared, a new CSRF token and one
"continue" button for the provider are added, and, when traits were staged, the
default identity schema's trait nodes filled from them. The form depends only on
the provider, the staged traits, the token and the schema, never on the nodes
the flow had before.

`Strategy.forwardError` writes exactly one response, through the login or the
registration flow's error handler; any other value goes to the login handler
with no flow.
-/

namespace KratosSaml

/-- What `handleError` reads besides its arguments: the CSRF token generated for
the request and the trait nodes `NodesFromJSONSchema` builds from the default
identity traits schema. -/
structure ErrorDeps where
  csrfToken : String
  traitSchemaNodes : Except GoError (List Node)

namespace Strategy

/-- `Strategy.handleError`: the flow as it is after the call, and the error
returned. A nil `*registration.Flow` panics at `rf.UI`. -/
def handleError (d : ErrorDeps) (f : FlowValue) (provider : String)
    (traits : Option (List (String × String))) (err : Option GoError) :
    Except Panic (FlowValue × Option GoError) :=
  match f with
  | .login _ => .ok (f, err)
  | .registration none => .error .nilRegistrationFlow
  | .registration (some rf) =>
    let ui : Container := { rf.ui with nodes := [] }
    let ui := addProvider (ui.setCSRF d.csrfToken) provider
    match traits with
    | none => .ok (.registration (some { rf with ui := ui }), err)
    | some t =>
      match d.traitSchemaNodes with
      | .error schemaErr => .ok (.registration (some { rf with ui := ui }), some schemaErr)
      | .ok traitNodes =>
        let ui : Container := { ui with nodes := ui.nodes ++ traitNodes }
        let ui := ui.updateNodeValuesFromJSON t "traits" .openIDConnect
        .ok (.registration (some { rf with ui := ui }), err)
  | .settings _ => .ok (f, err)
  | _ => .ok (f, err)

/-- `Strategy.forwardError`: the one response written for `err`. -/
def forwardError (f : FlowValue) (err : Option GoError) : Response :=
  match f with
  | .login ff => .flowError .login ff .saml err
  | .registration ff => .flowError .registration ff .saml err
  | _ => .flowError .login none .saml err

end Strategy

/-- The registration retry form: the CSRF input, the provider's continue button,
then, iff traits are staged, the schema's trait nodes filled from them. -/
def retryNodes (token provider : String) (traits : Option (List (String × String)))
    (schema : Except GoError (List Node)) : List Node :=
  [csrfNode token, providerNode provider] ++
    match traits, schema with
    | some t, .ok traitNodes => traitNodes.map (fillNode t "traits" .openIDConnect)
    | _, _ => []

/-- The error `handleError` returns for a registration flow: the schema's failure
when traits are staged and the schema fails, else the error it was given. -/
def retryError (traits : Option (List (String × String))) (schema : Except GoError (List Node))
    (err : Option GoError) : Option GoError :=
  match traits, schema with
  | some _, .error schemaErr => some schemaErr
  | _, _ => err

/-- The CSRF input and the continue button are not trait inputs. -/
@[simp] theorem fillNode_csrfNode (t : List (String × String)) (token : String) :
    fillNode t "traits" .openIDConnect (csrfNode token) = csrfNode token := by
  simp [csrfNode]

@[simp] theorem fillNode_providerNode (t : List (String × String)) (provider : String) :
    fillNode t "traits" .openIDConnect (providerNode provider) = providerNode provider := by
  simp [providerNode]

theorem handleError_registration (d : ErrorDeps) (rf : Flow) (provider : String)
    (traits : Option (List (String × String))) (err : Option GoError) :
    Strategy.handleError d (.registration (some rf)) provider traits err =
      .ok (.registration (some { rf with ui := ⟨retryNodes d.csrfToken provider traits
        d.traitSchemaNodes⟩ }), retryError traits d.traitSchemaNodes err) := by
  rcases traits with _ | t
  · simp [Strategy.handleError, retryNodes, retryError, Container.setCSRF, addProvider]
  · rcases hs : d.traitSchemaNodes with schemaErr | traitNodes <;>
      simp [Strategy.handleError, retryNodes, retryError, Container.setCSRF, addProvider, hs,
        Container.updateNodeValuesFromJSON]

theorem handleError_of_not_registration {f : FlowValue} (hf : ∀ o, f ≠ .registration o)
    (d : ErrorDeps) (provider : String) (traits : Option (List (String × String)))
    (err : Option GoError) : Strategy.handleError d f provider traits err = .ok (f, err) := by
  cases f with
  | registration o => exact absurd rfl (hf o)
  | _ => rfl

/-- The error responder, for every flow value: a registration flow gets the retry
form, which no prior node of the flow survives into, and the others are returned
untouched with the error. A nil `*registration.Flow` has no form to reset. -/
theorem handleError_resets_registration (d : ErrorDeps) (provider : String)
    (traits : Option (List (String × String))) (err : Option GoError) :
    (∀ rf, Strategy.handleError d (.registration (some rf)) provider traits err =
      .ok (.registration (some { rf with ui := ⟨retryNodes d.csrfToken provider traits
        d.traitSchemaNodes⟩ }), retryError traits d.traitSchemaNodes err)) ∧
    (∀ rf nodes, Strategy.handleError d (.registration (some { rf with ui := ⟨nodes⟩ }))
        provider traits err =
      Strategy.handleError d (.registration (some rf)) provider traits err) ∧
    (∀ f, (∀ o, f ≠ .registration o) →
      Strategy.handleError d f provider traits err = .ok (f, err)) ∧
    Strategy.handleError d (.registration none) provider traits err =
      .error .nilRegistrationFlow :=
  ⟨fun rf => handleError_registration d rf provider traits err,
   fun rf nodes => by simp only [handleError_registration],
   fun _ hf => handleError_of_not_registration hf d provider traits err, rfl⟩

end KratosSaml
