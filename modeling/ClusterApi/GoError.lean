/-!
# Go errors

Errors as the Go code builds and inspects them: `github.com/pkg/errors` messages and
wrappers, and the requeue error of the cluster-api controllers; and panics.
-/

namespace ClusterApi

/-- A non-nil Go `error`: a message (`errors.New`, `errors.Errorf`, `fmt.Errorf`), a message
wrapping a cause (`errors.Wrapf`), a request to requeue, or an error variable. -/
inductive GoError where
  | msg (text : String)
  | wrap (text : String) (cause : GoError)
  | requeueAfter (seconds : Nat)
  | sentinel (name text : String)
  deriving DecidableEq, Repr

/-- A Go panic, by its message: the call returns nothing to its caller. -/
structure GoPanic where
  message : String
  deriving DecidableEq, Repr

def errorsWrapf : Option GoError → String → Option GoError
  | none, _ => none
  | some e, text => some (.wrap text e)

def goReturn {α : Type} (value : α) : Option GoError → Except GoError α
  | none => .ok value
  | some e => .error e

def durationString (seconds : Nat) : String :=
  let h := seconds / 3600
  let m := seconds / 60 % 60
  let s := toString (seconds % 60) ++ "s"
  if 0 < h then toString h ++ "h" ++ toString m ++ "m" ++ s
  else if 0 < m then toString m ++ "m" ++ s
  else s

def GoError.error : GoError → String
  | .msg text => text
  | .wrap text cause => text ++ ": " ++ cause.error
  | .requeueAfter seconds => "requeue in: " ++ durationString seconds
  | .sentinel _ text => text

def GoError.cause : GoError → GoError
  | .wrap _ e => e.cause
  | e => e

def GoError.isRequeueAfter (e : GoError) : Bool :=
  match e.cause with
  | .requeueAfter _ => true
  | _ => false

theorem bind_eq_ok {ε α β : Type} {x : Except ε α} {f : α → Except ε β} {b : β}
    (h : x >>= f = .ok b) : ∃ a, x = .ok a ∧ f a = .ok b := by
  cases x with
  | error e => cases h
  | ok a => exact ⟨a, rfl, h⟩

theorem map_eq_ok {ε α β : Type} {x : Except ε α} {f : α → β} {b : β}
    (h : x.map f = .ok b) : ∃ a, x = .ok a ∧ f a = b := by
  cases x with
  | error e => cases h
  | ok a => cases h; exact ⟨a, rfl, rfl⟩

theorem map_eq_error {ε α β : Type} {x : Except ε α} {f : α → β} {e : ε}
    (h : x.map f = .error e) : x = .error e := by
  cases x with
  | error e' => cases h; rfl
  | ok a => cases h

end ClusterApi
