import Mathlib.Data.List.Basic

/-!
# Go values of the SAML code paths

The errors the strategy and the flow handler create or pass on are the values of
Go's `error` interface below: the herodot errors with their reasons, the two
sentinel errors the code compares against, a collaborator's own error, and the
two wrappers of `github.com/pkg/errors`. A nil `error` is `none`.

A call that returns `(T, error)` and may panic ends in an `Outcome`. Go's `s[i]`
is `goIndex`, which panics outside the slice. Whether a panic is recovered by
`net/http` is not modelled: a panic ends the handler that raised it.
-/

namespace KratosSaml

/-- The values of Go's `error` interface on the SAML code paths. -/
inductive GoError
  | noActiveSessionFound
  | apiFlowNotSupported
  | badRequest (reason : String)
  | internalServerError (reason : String)
  | other (msg : String)
  | withStack (cause : GoError)
  | wrapf (msg : String) (cause : GoError)
  deriving DecidableEq, Repr

/-- `errors.As(err, &e)` for `e := new(session.ErrNoActiveSessionFound)`: the
unwrap chain of `err` holds a missing-session error. -/
def GoError.isNoActiveSession : GoError → Bool
  | .noActiveSessionFound => true
  | .withStack cause => cause.isNoActiveSession
  | .wrapf _ cause => cause.isNoActiveSession
  | _ => false

/-- `errors.As` on a possibly nil `error`; a nil error holds nothing. -/
def errorsAsNoActiveSession : Option GoError → Bool
  | none => false
  | some err => err.isNoActiveSession

@[simp] theorem isNoActiveSession_withStack (err : GoError) :
    (GoError.withStack err).isNoActiveSession = err.isNoActiveSession := rfl

@[simp] theorem isNoActiveSession_wrapf (msg : String) (err : GoError) :
    (GoError.wrapf msg err).isNoActiveSession = err.isNoActiveSession := rfl

/-- Why a handler panics: a runtime error, or an explicit `panic(v)` with a
string or an error. -/
inductive Panic
  | nilEngine
  | nilAssertion
  | nilFlow
  | nilRegistrationFlow
  | nilURL
  | indexOutOfRange
  | notRSAKey
  | message (msg : String)
  | error (err : GoError)
  deriving DecidableEq, Repr

/-- How a Go call returning `(T, error)` ends. -/
inductive Outcome (α : Type)
  | ok (a : α)
  | error (err : GoError)
  | panic (p : Panic)
  deriving DecidableEq, Repr

namespace Outcome

variable {α β : Type}

/-- Go's `if err != nil { return err }` after a call: a panic propagates too. -/
def bind : Outcome α → (α → Outcome β) → Outcome β
  | ok a, f => f a
  | error err, _ => error err
  | panic p, _ => panic p

instance : Monad Outcome where
  pure := ok
  bind := bind

/-- A call that cannot panic. -/
def ofExcept : Except GoError α → Outcome α
  | .ok a => ok a
  | .error err => error err

def isPanic : Outcome α → Bool
  | panic _ => true
  | _ => false

@[simp] theorem ok_bind (a : α) (f : α → Outcome β) : (ok a >>= f) = f a := rfl
@[simp] theorem error_bind (err : GoError) (f : α → Outcome β) :
    (error err >>= f : Outcome β) = error err := rfl
@[simp] theorem panic_bind (p : Panic) (f : α → Outcome β) :
    (panic p >>= f : Outcome β) = panic p := rfl
@[simp] theorem pure_eq (a : α) : (pure a : Outcome α) = ok a := rfl

@[simp] theorem ofExcept_ok (a : α) : ofExcept (.ok a : Except GoError α) = ok a := rfl
@[simp] theorem ofExcept_error (err : GoError) :
    ofExcept (.error err : Except GoError α) = error err := rfl

@[simp] theorem isPanic_ok (a : α) : (ok a).isPanic = false := rfl
@[simp] theorem isPanic_error (err : GoError) : (error err : Outcome α).isPanic = false := rfl
@[simp] theorem isPanic_panic (p : Panic) : (panic p : Outcome α).isPanic = true := rfl

/-- A bind panics exactly when its first call panics or the continuation does. -/
theorem bind_eq_panic {x : Outcome α} {f : α → Outcome β} {p : Panic} :
    (x >>= f) = panic p ↔ x = panic p ∨ ∃ a, x = ok a ∧ f a = panic p := by
  cases x <;> simp

theorem ofExcept_ne_panic (x : Except GoError α) (p : Panic) : ofExcept x ≠ panic p := by
  cases x <;> simp

@[simp] theorem ofExcept_eq_ok {x : Except GoError α} {a : α} : ofExcept x = ok a ↔ x = .ok a := by
  cases x <;> simp

/-- Every panic `x` can end in satisfies `P`. -/
def PanicsOnly (P : Panic → Prop) (x : Outcome α) : Prop := ∀ p, x = panic p → P p

variable {P : Panic → Prop}

theorem PanicsOnly.bind {x : Outcome α} {f : α → Outcome β} (hx : PanicsOnly P x)
    (hf : ∀ a, x = ok a → PanicsOnly P (f a)) : PanicsOnly P (x >>= f) := by
  intro p h
  rcases bind_eq_panic.mp h with h | ⟨a, ha, h⟩
  · exact hx p h
  · exact hf a ha p h

theorem PanicsOnly.ok (a : α) : PanicsOnly P (ok a) := by simp [PanicsOnly]

theorem PanicsOnly.error (err : GoError) : PanicsOnly P (error err : Outcome α) := by
  simp [PanicsOnly]

theorem PanicsOnly.ofExcept (x : Except GoError α) : PanicsOnly P (ofExcept x) :=
  fun p h => absurd h (ofExcept_ne_panic x p)

theorem PanicsOnly.mono {Q : Panic → Prop} {x : Outcome α} (h : PanicsOnly P x)
    (hPQ : ∀ p, P p → Q p) : PanicsOnly Q x :=
  fun p hp => hPQ p (h p hp)

end Outcome

/-- Go's `s[i]` with a signed index: out of `[0, len(s))` it panics. -/
def goIndex {α : Type} (s : List α) (i : Int) : Outcome α :=
  if 0 ≤ i then
    match s.get? i.toNat with
    | some a => .ok a
    | none => .panic .indexOutOfRange
  else .panic .indexOutOfRange

theorem goIndex_nil {α : Type} (i : Int) : goIndex ([] : List α) i = .panic .indexOutOfRange := by
  unfold goIndex; split <;> simp

/-- `s[len(s)-1]` is the last element of a non-empty slice. -/
theorem goIndex_last {α : Type} (s : List α) (h : s ≠ []) :
    goIndex s (s.length - 1) = .ok (s.getLast h) := by
  have hlen : 0 < s.length := List.length_pos.mpr h
  have hnat : ((s.length : Int) - 1).toNat = s.length - 1 := by omega
  simp only [goIndex, show (0 : Int) ≤ s.length - 1 by omega, if_true, hnat,
    List.get?_eq_getElem?, List.getElem?_eq_getElem (Nat.sub_lt hlen Nat.one_pos),
    List.getLast_eq_getElem]

end KratosSaml
