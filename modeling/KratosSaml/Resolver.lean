import KratosSaml.Engine

/-!
# Flow resolution

`Strategy.validateFlow` probes the registration, login and settings stores in
that order and checks the first flow found: browser flows only, then the flow's
own `Valid`, which for a settings flow is given the session fetched from the
request. When no store holds the id, the settings lookup's result is returned as
it is: its error, and its nil `*settings.Flow` inside the `flow.Flow` interface.

The three probes are one `Probe` each. `resolve` probes any list of them; the
code's order is `storeProbes`. With at most one store holding the id, any order
of the probes gives the code's answer, except when no store holds it.
-/

namespace KratosSaml

/-- The stores', the flows' and the session manager's answers for one request. -/
structure FlowDeps where
  getRegistrationFlow : UUID → Except GoError Flow
  getLoginFlow : UUID → Except GoError Flow
  getSettingsFlow : UUID → Except GoError Flow
  registrationValid : Flow → Option GoError
  loginValid : Flow → Option GoError
  settingsValid : Flow → Session → Option GoError
  fetchFromRequest : Except GoError Session

/-- A flow found in its store: browser flows only, then its own verdict. -/
def checkFlow (wrap : Option Flow → FlowValue) (valid : Flow → Option GoError) (ar : Flow) :
    FlowValue × Option GoError :=
  if ar.type ≠ .browser then (wrap (some ar), some .apiFlowNotSupported)
  else (wrap (some ar), valid ar)

/-- A settings flow's `Valid`, given the session fetched from the request. -/
def settingsValidWithSession (d : FlowDeps) (ar : Flow) : Option GoError :=
  match d.fetchFromRequest with
  | .error err => some err
  | .ok sess => d.settingsValid ar sess

def invalidFlowIdReason : String :=
  "The session cookie contains invalid values and the flow could not be executed. Please try again."

namespace Strategy

/-- `Strategy.validateFlow`. -/
def validateFlow (d : FlowDeps) (rid : UUID) : FlowValue × Option GoError :=
  if isZeroUUID rid then (.nil, some (.withStack (.badRequest invalidFlowIdReason)))
  else
    match d.getRegistrationFlow rid with
    | .ok ar => checkFlow .registration d.registrationValid ar
    | .error _ =>
      match d.getLoginFlow rid with
      | .ok ar => checkFlow .login d.loginValid ar
      | .error _ =>
        match d.getSettingsFlow rid with
        | .ok ar => checkFlow .settings (settingsValidWithSession d) ar
        | .error err => (.settings none, some err)

/-- The payload the continuity manager restores, `authCodeContainer`; traits are
the staged JSON's leaves, `none` for a nil `json.RawMessage`. -/
structure AuthCodeContainer where
  flowID : String
  state : String
  traits : Option (List (String × String))
  deriving DecidableEq, Repr

def providerErrorReason (err description : String) : String :=
  "Unable to complete OpenID Connect flow because the OpenID Provider returned error \"" ++
    err ++ "\": " ++ description

/-- `Strategy.validateCallback`: `continued` is the continuity manager's answer,
`parseUUID` is `x.ParseUUID` and `query` the callback URL's query. -/
def validateCallback (d : FlowDeps) (continued : Except GoError AuthCodeContainer)
    (parseUUID : String → UUID) (query : String → String) :
    FlowValue × Option AuthCodeContainer × Option GoError :=
  match continued with
  | .error err => (.nil, none, some err)
  | .ok cntnr =>
    match validateFlow d (parseUUID cntnr.flowID) with
    | (_, some err) => (.nil, some cntnr, some err)
    | (req, none) =>
      if query "error" ≠ "" then
        (req, some cntnr, some (.withStack (.badRequest
          (providerErrorReason (query "error") (query "error_description")))))
      else (req, some cntnr, none)

end Strategy

/-- One flow store as the resolver probes it. -/
structure Probe where
  lookup : UUID → Except GoError Flow
  wrap : Option Flow → FlowValue
  valid : Flow → Option GoError

def Probe.holds (p : Probe) (rid : UUID) : Bool :=
  match p.lookup rid with
  | .ok _ => true
  | .error _ => false

theorem Probe.holds_iff {p : Probe} {rid : UUID} : p.holds rid ↔ ∃ f, p.lookup rid = .ok f := by
  unfold Probe.holds
  split <;> simp_all

/-- Probe `p`, then `ps`: the first store holding `rid` decides; when none does,
the last store's lookup is returned as it is. -/
def resolve (rid : UUID) (p : Probe) : List Probe → FlowValue × Option GoError
  | [] =>
    match p.lookup rid with
    | .ok ar => checkFlow p.wrap p.valid ar
    | .error err => (p.wrap none, some err)
  | q :: qs =>
    match p.lookup rid with
    | .ok ar => checkFlow p.wrap p.valid ar
    | .error _ => resolve rid q qs

/-- `resolve` over a list of probes in any order. -/
def resolveIn (rid : UUID) : List Probe → FlowValue × Option GoError
  | [] => (.nil, none)
  | p :: ps => resolve rid p ps

def registrationProbe (d : FlowDeps) : Probe :=
  ⟨d.getRegistrationFlow, .registration, d.registrationValid⟩

def loginProbe (d : FlowDeps) : Probe := ⟨d.getLoginFlow, .login, d.loginValid⟩

def settingsProbe (d : FlowDeps) : Probe :=
  ⟨d.getSettingsFlow, .settings, settingsValidWithSession d⟩

/-- The code's probes, in the code's order. -/
def storeProbes (d : FlowDeps) : List Probe := [registrationProbe d, loginProbe d, settingsProbe d]

/-- How many of the three stores hold `rid`. -/
def FlowDeps.holders (d : FlowDeps) (rid : UUID) : Nat :=
  (storeProbes d).countP (·.holds rid)

theorem validateFlow_eq_resolveIn (d : FlowDeps) {rid : UUID} (hrid : rid ≠ UUID.nil) :
    Strategy.validateFlow d rid = resolveIn rid (storeProbes d) := by
  simp only [Strategy.validateFlow, isZeroUUID_eq_false hrid, resolveIn, storeProbes, resolve]
  rfl

/-- When `p` is the only holder among the probes, `resolve` returns `p`'s check. -/
theorem resolve_of_sole_holder {rid : UUID} {p : Probe} {f : Flow} (hp : p.lookup rid = .ok f) :
    ∀ (q : Probe) (qs : List Probe), (q :: qs).filter (·.holds rid) = [p] →
      resolve rid q qs = checkFlow p.wrap p.valid f := by
  intro q qs
  induction qs generalizing q with
  | nil =>
    intro h
    cases hq : q.lookup rid with
    | error => simp [List.filter, Probe.holds, hq] at h
    | ok g =>
      simp only [List.filter, Probe.holds, hq, List.cons.injEq, and_true] at h
      subst h
      simp_all [resolve]
  | cons q' qs ih =>
    intro h
    cases hq : q.lookup rid with
    | error => simpa [resolve, hq] using ih q' (by simpa [List.filter, Probe.holds, hq] using h)
    | ok g =>
      simp only [List.filter_cons, Probe.holds, hq, if_true, List.cons.injEq] at h
      obtain ⟨rfl, -⟩ := h
      simp_all [resolve]

/-- With exactly one holder, every order of the probes gives the same answer. -/
theorem resolveIn_perm {rid : UUID} {ps ps' : List Probe} (hperm : ps.Perm ps')
    {p : Probe} (hsole : ps.filter (·.holds rid) = [p]) :
    resolveIn rid ps = resolveIn rid ps' := by
  have hsole' : ps'.filter (·.holds rid) = [p] :=
    List.perm_singleton.mp (hsole ▸ (hperm.filter _).symm)
  have hmem : p ∈ ps.filter (·.holds rid) := hsole ▸ List.mem_singleton_self p
  obtain ⟨f, hf⟩ := Probe.holds_iff.mp (List.mem_filter.mp hmem).2
  match ps, ps', hsole, hsole' with
  | q :: qs, q' :: qs', h, h' =>
    simp only [resolveIn, resolve_of_sole_holder hf q qs h, resolve_of_sole_holder hf q' qs' h']

theorem validateFlow_nil (d : FlowDeps) :
    Strategy.validateFlow d UUID.nil =
      (.nil, some (.withStack (.badRequest invalidFlowIdReason))) := rfl

/-- A holder among the three stores is the only one when at most one holds. -/
theorem filter_holds_eq_singleton {d : FlowDeps} {rid : UUID} {p : Probe} {f : Flow}
    (hmem : p ∈ storeProbes d) (hp : p.lookup rid = .ok f) (hunique : d.holders rid ≤ 1) :
    (storeProbes d).filter (·.holds rid) = [p] := by
  have hin : p ∈ (storeProbes d).filter (·.holds rid) :=
    List.mem_filter.mpr ⟨hmem, by simp [Probe.holds, hp]⟩
  have hlen : ((storeProbes d).filter (·.holds rid)).length ≤ 1 := by
    rw [← List.countP_eq_length_filter]; exact hunique
  generalize (storeProbes d).filter (·.holds rid) = l at hin hlen ⊢
  rcases l with _ | ⟨q, _ | ⟨r, l⟩⟩
  · simp at hin
  · rw [List.mem_singleton.mp hin]
  · simp at hlen

theorem validateFlow_of_holder {d : FlowDeps} {rid : UUID} (hrid : rid ≠ UUID.nil)
    (hunique : d.holders rid ≤ 1) {p : Probe} (hmem : p ∈ storeProbes d) {f : Flow}
    (hp : p.lookup rid = .ok f) :
    Strategy.validateFlow d rid = checkFlow p.wrap p.valid f := by
  rw [validateFlow_eq_resolveIn d hrid]
  exact resolve_of_sole_holder hp _ _ (filter_holds_eq_singleton hmem hp hunique)

/-- What the holding store's flow dictates, store by store, for a request whose
flow id `rid` is held by at most one store. -/
structure HolderDictates (d : FlowDeps) (rid : UUID) : Prop where
  zero : Strategy.validateFlow d UUID.nil =
    (.nil, some (.withStack (.badRequest invalidFlowIdReason)))
  registration : ∀ f, d.getRegistrationFlow rid = .ok f → Strategy.validateFlow d rid =
    (.registration (some f),
      if f.type = .browser then d.registrationValid f else some .apiFlowNotSupported)
  login : ∀ f, d.getLoginFlow rid = .ok f → Strategy.validateFlow d rid =
    (.login (some f), if f.type = .browser then d.loginValid f else some .apiFlowNotSupported)
  settings : ∀ f, d.getSettingsFlow rid = .ok f → Strategy.validateFlow d rid =
    (.settings (some f),
      if f.type = .browser then
        (match d.fetchFromRequest with
          | .error err => some err
          | .ok sess => d.settingsValid f sess)
      else some .apiFlowNotSupported)
  unheld : ∀ err, d.holders rid = 0 → d.getSettingsFlow rid = .error err →
    Strategy.validateFlow d rid = (.settings none, some err)
  anyOrder : 0 < d.holders rid →
    ∀ ps, ps.Perm (storeProbes d) → resolveIn rid ps = Strategy.validateFlow d rid

theorem checkFlow_eq (wrap : Option Flow → FlowValue) (valid : Flow → Option GoError) (f : Flow) :
    checkFlow wrap valid f =
      (wrap (some f), if f.type = .browser then valid f else some .apiFlowNotSupported) := by
  by_cases h : f.type = .browser <;> simp [checkFlow, h]

theorem holders_eq_zero {d : FlowDeps} {rid : UUID} (h : d.holders rid = 0) :
    (∃ e, d.getRegistrationFlow rid = .error e) ∧ (∃ e, d.getLoginFlow rid = .error e) := by
  simp only [FlowDeps.holders, storeProbes, registrationProbe, loginProbe, settingsProbe,
    List.countP_cons, List.countP_nil, Probe.holds] at h
  constructor
  · cases hr : d.getRegistrationFlow rid <;> simp_all
  · cases hl : d.getLoginFlow rid <;> simp_all

theorem validateFlow_holderDictates (d : FlowDeps) (rid : UUID) (hrid : rid ≠ UUID.nil)
    (hunique : d.holders rid ≤ 1) : HolderDictates d rid where
  zero := validateFlow_nil d
  registration f hf := by
    rw [validateFlow_of_holder hrid hunique (p := registrationProbe d) (by simp [storeProbes]) hf,
      checkFlow_eq]; rfl
  login f hf := by
    rw [validateFlow_of_holder hrid hunique (p := loginProbe d) (by simp [storeProbes]) hf,
      checkFlow_eq]; rfl
  settings f hf := by
    rw [validateFlow_of_holder hrid hunique (p := settingsProbe d) (by simp [storeProbes]) hf,
      checkFlow_eq]
    cases hs : d.fetchFromRequest <;> simp [settingsProbe, settingsValidWithSession, hs]
  unheld err h0 hs := by
    obtain ⟨⟨er, hr⟩, ⟨el, hl⟩⟩ := holders_eq_zero h0
    simp [Strategy.validateFlow, isZeroUUID_eq_false hrid, hr, hl, hs]
  anyOrder hpos ps hperm := by
    obtain ⟨p, hmem, hp⟩ := List.countP_pos_iff.mp hpos
    obtain ⟨f, hf⟩ := Probe.holds_iff.mp hp
    rw [validateFlow_eq_resolveIn d hrid]
    exact resolveIn_perm hperm.symm (filter_holds_eq_singleton hmem hf hunique) |>.symm

theorem validateFlow_holderDictates_registration :
    (⟨1⟩ : UUID) ≠ UUID.nil ∧
    FlowDeps.holders ⟨fun _ => .ok ⟨⟨1⟩, .browser, ⟨[]⟩⟩, fun _ => .error (.other "no rows"),
      fun _ => .error (.other "no rows"), fun _ => none, fun _ => none, fun _ _ => none,
      .error .noActiveSessionFound⟩ ⟨1⟩ ≤ 1 ∧
    HolderDictates ⟨fun _ => .ok ⟨⟨1⟩, .browser, ⟨[]⟩⟩, fun _ => .error (.other "no rows"),
      fun _ => .error (.other "no rows"), fun _ => none, fun _ => none, fun _ _ => none,
      .error .noActiveSessionFound⟩ ⟨1⟩ :=
  ⟨by decide, by decide, validateFlow_holderDictates _ _ (by decide) (by decide)⟩

/-- No store holds the id: the answer carries the settings lookup's nil pointer,
a typed nil that a `f == nil` check does not catch. -/
theorem validateFlow_unheld_typed_nil :
    Strategy.validateFlow ⟨fun _ => .error (.other "no rows"), fun _ => .error (.other "no rows"),
      fun _ => .error (.other "no rows"), fun _ => none, fun _ => none, fun _ _ => none,
      .error .noActiveSessionFound⟩ ⟨1⟩ = (.settings none, some (.other "no rows")) ∧
    FlowValue.isNil (.settings none) = false := ⟨by decide, rfl⟩

theorem checkFlow_accepted {wrap : Option Flow → FlowValue} {valid : Flow → Option GoError}
    {ar : Flow} {f : FlowValue} (h : checkFlow wrap valid ar = (f, none)) :
    f = wrap (some ar) ∧ ar.type = .browser := by
  unfold checkFlow at h
  split at h <;> simp_all

/-- A flow `validateFlow` returns without an error is a browser flow, never a nil
pointer. -/
theorem validateFlow_accepted {d : FlowDeps} {rid : UUID} {f : FlowValue}
    (h : Strategy.validateFlow d rid = (f, none)) :
    ∃ ar, f.flow? = some ar ∧ ar.type = .browser := by
  unfold Strategy.validateFlow at h
  split at h
  · cases h
  repeat' split at h
  all_goals first
    | cases h
    | obtain ⟨rfl, hb⟩ := checkFlow_accepted h; exact ⟨_, rfl, hb⟩

/-- `validateCallback` hands on a flow only when `validateFlow` accepted it: the
flow is nil after any failure, so the typed-nil settings flow of an unheld id never
leaves it. -/
theorem validateCallback_flow (d : FlowDeps) (continued : Except GoError Strategy.AuthCodeContainer)
    (parseUUID : String → UUID) (query : String → String) :
    (Strategy.validateCallback d continued parseUUID query).1 = .nil ∨
      ∃ cntnr ar, continued = .ok cntnr ∧
        Strategy.validateFlow d (parseUUID cntnr.flowID) =
          ((Strategy.validateCallback d continued parseUUID query).1, none) ∧
        (Strategy.validateCallback d continued parseUUID query).1.flow? = some ar ∧
        ar.type = .browser := by
  rcases continued with err | cntnr
  · exact .inl rfl
  rcases hv : Strategy.validateFlow d (parseUUID cntnr.flowID) with ⟨f, _ | err⟩
  · obtain ⟨ar, har, hb⟩ := validateFlow_accepted hv
    have hf : (Strategy.validateCallback d (.ok cntnr) parseUUID query).1 = f := by
      simp only [Strategy.validateCallback, hv]; split <;> rfl
    exact .inr ⟨cntnr, ar, rfl, by rw [hf, hv], by rw [hf, har], hb⟩
  · left; simp [Strategy.validateCallback, hv]

end KratosSaml
