import Mathlib.Data.String.Basic
import ClusterApi.Unstructured
import ClusterApi.ClusterController

/-!
# The v1alpha2 Machine controller

`ReconcileMachine.reconcile` of `pkg/controller/machine` drives a Machine through its
external objects: the bootstrap config named by `Spec.Bootstrap.ConfigRef` and the
infrastructure object named by `Spec.InfrastructureRef`. Each is read as an unstructured
object, owned by the Machine (or deleted with it), and watched for `status.ready`; the
bootstrap config's `status.bootstrapData` becomes the Machine's bootstrap data. Then the phase
is set by a ladder of rules, each later one overriding the earlier.

One call is modelled by the answers the API server gives to its requests, and by the requests
it makes. Every answer is free, so the theorems hold for every Machine and every pattern of
missing objects and failures. A run is a sequence of calls on one Machine. From a new Machine,
the phase after every call is the highest rule that holds (`phaseOf`), and it never moves
back along pending, provisioning, provisioned, running, failed, deleting.
-/

namespace ClusterApi

/-! ## Values as `fmt` prints them -/

def quoted (s : String) : String := "\"" ++ s ++ "\""

def pathJoin (elem1 elem2 : String) : String := "/".intercalate ([elem1, elem2].filter (· != ""))

mutual
def goValueString : JSONValue → String
  | .null => "<nil>"
  | .bool b => toString b
  | .int64 i => toString i
  | .float64 text => text
  | .string s => s
  | .slice items => "[" ++ " ".intercalate (goValueStrings items) ++ "]"
  | .map m =>
    let entries := (goEntryStrings m).mergeSort fun e e' => decide (e.1 ≤ e'.1)
    "map[" ++ " ".intercalate (entries.map fun e => e.1 ++ ":" ++ e.2) ++ "]"

def goValueStrings : List JSONValue → List String
  | [] => []
  | v :: vs => goValueString v :: goValueStrings vs

def goEntryStrings : List (String × JSONValue) → List (String × String)
  | [] => []
  | (k, v) :: es => (k, goValueString v) :: goEntryStrings es
end

def AccessorError.toGoError (e : AccessorError) : GoError :=
  .msg (e.path ++ " accessor error: " ++ goValueString e.value ++ " is of the type " ++
    goTypeName (some e.value) ++ ", expected " ++ e.expected)

def nestedBool (obj : List (String × JSONValue)) (fields : List String) :
    Except AccessorError (Option Bool) :=
  match nestedFieldNoCopy obj fields with
  | .error e => .error e
  | .ok none => .ok none
  | .ok (some (.bool b)) => .ok (some b)
  | .ok (some val) => .error ⟨jsonPath fields, val, "bool"⟩

namespace MachineController

open ClusterController (APIError StatusReason)

/-! ## The Machine and its world -/

inductive MachinePhase where
  | pending
  | provisioning
  | provisioned
  | running
  | failed
  | deleting
  | other (phase : String)
  deriving DecidableEq, Repr

structure Bootstrap where
  configRef : Option ObjectReference
  data : Option String
  deriving DecidableEq, Repr

structure MachineSpec where
  bootstrap : Bootstrap
  infrastructureRef : ObjectReference
  deriving DecidableEq, Repr

structure MachineStatus where
  nodeRef : Option ObjectReference
  errorReason : Option String
  errorMessage : Option String
  phase : Option MachinePhase
  bootstrapReady : Option Bool
  infrastructureReady : Option Bool
  deriving DecidableEq, Repr

/-- A v1alpha2 Machine: its type and object meta, spec and status. A time is Go's count of
seconds since January 1 of year 1, so that `0` is the zero `time.Time`. -/
structure Machine where
  apiVersion : String
  kind : String
  name : String
  «namespace» : String
  uid : String
  deletionTimestamp : Option Nat
  spec : MachineSpec
  status : MachineStatus
  deriving DecidableEq, Repr

structure OwnerReference where
  apiVersion : String
  kind : String
  name : String
  uid : String
  deriving DecidableEq, Repr

/-- Two accessors of apimachinery and cluster-api that the controller applies to an external
object, taken as given: `GetDeletionTimestamp().IsZero()`, which parses a time, and
`util.HasOwnerRef(obj.GetOwnerReferences(), ref)`. -/
structure Accessors where
  deletionTimestampIsZero : Unstructured → Bool
  hasOwnerRef : Unstructured → OwnerReference → Bool

structure ExternalAnswers where
  get : Except APIError Unstructured
  delete : Option GoError
  patch : Except GoError Unstructured

/-- The objects the API server gives back for one reference, read by the `Get` or written
back by the `Patch`, are not being deleted. -/
def ExternalAnswers.ObjectsLive (acc : Accessors) (ext : ExternalAnswers) : Prop :=
  ∀ obj, ext.get = .ok obj ∨ ext.patch = .ok obj → acc.deletionTimestampIsZero obj = true

structure Answers where
  bootstrap : ExternalAnswers
  infrastructure : ExternalAnswers

inductive Request where
  | get (name «namespace» : String)
  | delete (obj : Unstructured)
  | patchOwnerRef (obj : Unstructured) (owner : OwnerReference)

structure ExternalResult where
  machine : Machine
  object : Except GoError (Option Unstructured)
  requests : List Request

structure Outcome where
  machine : Machine
  err : Option GoError
  requests : List Request

namespace Machine

def deletionTimestampIsZero (m : Machine) : Bool :=
  match m.deletionTimestamp with
  | none => true
  | some t => t == 0

def setTypedPhase (m : Machine) (p : MachinePhase) : Machine :=
  { m with status.phase := some p }

def setBootstrapReady (m : Machine) (ready : Bool) : Machine :=
  { m with status.bootstrapReady := some ready }

def setExternalErrors (m : Machine) (errorReason errorMessage : String) : Machine :=
  let m := if errorReason != "" then { m with status.errorReason := some errorReason } else m
  if errorMessage != "" then { m with status.errorMessage := some errorMessage } else m

def ownerRef (m : Machine) : OwnerReference := ⟨m.apiVersion, m.kind, m.name, m.uid⟩

end Machine

/-! ## The controller -/

section Controller

variable (acc : Accessors)

def objectText (obj : Unstructured) : String :=
  pathJoin obj.getAPIVersion obj.getKind ++ " " ++ quoted obj.getName

def describeExternal (ref : ObjectReference) (m : Machine) : String :=
  pathJoin ref.apiVersion ref.kind ++ " " ++ quoted ref.name ++ " for Machine " ++ quoted m.name ++
    " in namespace " ++ quoted m.namespace

def forMachine (m : Machine) : String :=
  "for Machine " ++ quoted m.name ++ " in namespace " ++ quoted m.namespace

def isExternalReady (obj : Unstructured) : Except GoError Bool :=
  match nestedBool obj.unstructuredContent ["status", "ready"] with
  | .error e => .error (.wrap ("failed to determine " ++ objectText obj ++ " readiness") e.toGoError)
  | .ok ready => .ok (ready.getD false)

def externalStatusString (obj : Unstructured) (field : String) : Except GoError String :=
  match nestedString obj.unstructuredContent ["status", field] with
  | .error e => .error (.wrap ("failed to determine " ++ field ++ " on " ++ objectText obj) e.toGoError)
  | .ok s => .ok (s.getD "")

def getExternalErrors (obj : Unstructured) : Except GoError (String × String) := do
  let errorReason ← externalStatusString obj "errorReason"
  let errorMessage ← externalStatusString obj "errorMessage"
  pure (errorReason, errorMessage)

def reportExternalErrors (m : Machine) (obj : Unstructured) (requests : List Request) :
    ExternalResult :=
  match getExternalErrors obj with
  | .error e => ⟨m, .error e, requests⟩
  | .ok (errorReason, errorMessage) =>
    ⟨m.setExternalErrors errorReason errorMessage, .ok (some obj), requests⟩

/-- `reconcileExternal`, with `getExternal` (a `Get` by the reference's name in the Machine's
namespace). It returns no object and no error only for a missing object of a Machine being
deleted. -/
def reconcileExternal (ext : ExternalAnswers) (m : Machine) (ref : ObjectReference) :
    ExternalResult :=
  let get := Request.get ref.name m.namespace
  match ext.get with
  | .error e =>
    if e.reason = .notFound && !m.deletionTimestampIsZero then ⟨m, .ok none, [get]⟩
    else if e.reason = .notFound then
      ⟨m, .error (.wrap ("could not find " ++ describeExternal ref m ++ ", requeuing")
        (.requeueAfter 30)), [get]⟩
    else ⟨m, .error e.toGoError, [get]⟩
  | .ok obj =>
    if !m.deletionTimestampIsZero then
      match ext.delete with
      | some e => ⟨m, .error (.wrap ("failed to delete " ++ describeExternal ref m) e), [get, .delete obj]⟩
      | none => ⟨m, .ok (some obj), [get, .delete obj]⟩
    else if acc.hasOwnerRef obj m.ownerRef then reportExternalErrors m obj [get]
    else
      let patch := Request.patchOwnerRef obj m.ownerRef
      match ext.patch with
      | .error e =>
        ⟨m, .error (.wrap ("failed to set OwnerReference on " ++ describeExternal ref m) e), [get, patch]⟩
      | .ok obj => reportExternalErrors m obj [get, patch]

def reconcileBootstrap (a : Answers) (m : Machine) : Outcome :=
  match m.spec.bootstrap.configRef, m.spec.bootstrap.data with
  | none, none =>
    ⟨m, some (.msg ("Expected at least one of `Bootstrap.ConfigRef` or `Bootstrap.Data` to be populated " ++
      forMachine m)), []⟩
  | _, some _ => ⟨m.setBootstrapReady true, none, []⟩
  | some ref, none =>
    let r := reconcileExternal acc a.bootstrap m ref
    let m := r.machine
    match r.object with
    | .ok none => ⟨m.setBootstrapReady false, none, r.requests⟩
    | .error e => ⟨m, some e, r.requests⟩
    | .ok (some config) =>
      if !acc.deletionTimestampIsZero config then ⟨m, none, r.requests⟩
      else
        match isExternalReady config with
        | .error e => ⟨m, some e, r.requests⟩
        | .ok false => ⟨m, some (.requeueAfter 30), r.requests⟩
        | .ok true =>
          match nestedString config.unstructuredContent ["status", "bootstrapData"] with
          | .error e =>
            ⟨m, some (.wrap ("failed to retrieve data from bootstrap provider " ++ forMachine m)
              e.toGoError), r.requests⟩
          | .ok data =>
            let data := data.getD ""
            if data = "" then
              ⟨m, some (.msg ("retrieved empty data from bootstrap provider " ++ forMachine m)), r.requests⟩
            else ⟨{ m with spec.bootstrap.data := some data, status.bootstrapReady := some true }, none,
              r.requests⟩

def reconcileInfrastructure (a : Answers) (m : Machine) : Outcome :=
  let r := reconcileExternal acc a.infrastructure m m.spec.infrastructureRef
  let m := r.machine
  match r.object with
  | .ok none => ⟨m, none, r.requests⟩
  | .error e => ⟨m, some e, r.requests⟩
  | .ok (some infraConfig) =>
    if m.status.infrastructureReady = some true || !acc.deletionTimestampIsZero infraConfig then
      ⟨m, none, r.requests⟩
    else
      match isExternalReady infraConfig with
      | .error e => ⟨m, some e, r.requests⟩
      | .ok false => ⟨m, some (.requeueAfter 30), r.requests⟩
      | .ok true => ⟨{ m with status.infrastructureReady := some true }, none, r.requests⟩

/-- The phase rules of `reconcile`, in their order: each rule that holds overrides the ones
before it. -/
def reconcilePhase (m : Machine) : Machine :=
  let m := if m.status.phase.isNone then m.setTypedPhase .pending else m
  let m := if m.status.bootstrapReady = some true && m.status.infrastructureReady != some true then
    m.setTypedPhase .provisioning else m
  let m := if m.status.infrastructureReady = some true then m.setTypedPhase .provisioned else m
  let m := if m.status.nodeRef.isSome && m.status.infrastructureReady = some true then
    m.setTypedPhase .running else m
  let m := if m.status.errorReason.isSome || m.status.errorMessage.isSome then
    m.setTypedPhase .failed else m
  if !m.deletionTimestampIsZero then m.setTypedPhase .deleting else m

/-- The error `reconcile` returns: the bootstrap error, unless there is none or it is a
requeue and the infrastructure has one. -/
def reconcileError (bootstrapErr infrastructureErr : Option GoError) : Option GoError :=
  let err := bootstrapErr
  match infrastructureErr with
  | some e => if err.isNone || err.any GoError.isRequeueAfter then some e else err
  | none => err

def reconcile (a : Answers) (m : Machine) : Outcome :=
  let b := reconcileBootstrap acc a m
  let i := reconcileInfrastructure acc a b.machine
  ⟨reconcilePhase i.machine, reconcileError b.err i.err, b.requests ++ i.requests⟩

def reconcileRun (m : Machine) : List Answers → Machine
  | [] => m
  | a :: as => reconcileRun (reconcile acc a m).machine as

end Controller


/-! ## What a call writes -/

namespace Machine

/-- The Machine with the fields the controller writes cleared: what every call leaves as it
is. -/
def unwritten (m : Machine) : Machine :=
  { m with
    spec.bootstrap.data := none
    status.errorReason := none
    status.errorMessage := none
    status.phase := none
    status.bootstrapReady := none
    status.infrastructureReady := none }

theorem setExternalErrors_eq (m : Machine) (errorReason errorMessage : String) :
    m.setExternalErrors errorReason errorMessage =
      { m with
        status.errorReason := if errorReason != "" then some errorReason else m.status.errorReason
        status.errorMessage := if errorMessage != "" then some errorMessage else m.status.errorMessage } := by
  unfold setExternalErrors
  split_ifs <;> rfl

end Machine

/-- `m'` is `m` after writes of the controller: the fields it never writes are the same, the
bootstrap data and the infrastructure readiness are kept once set, the readiness of the
bootstrap is kept while the Machine is not being deleted, and a reported error is never
cleared. -/
structure Advances (m m' : Machine) : Prop where
  unwritten : m'.unwritten = m.unwritten
  data : m.spec.bootstrap.data.isSome → m'.spec.bootstrap.data = m.spec.bootstrap.data
  bootstrapReady : m.deletionTimestampIsZero → m.status.bootstrapReady = some true →
    m'.status.bootstrapReady = some true
  infrastructureReady : m.status.infrastructureReady = some true →
    m'.status.infrastructureReady = some true
  errorReason : m.status.errorReason.isSome → m'.status.errorReason.isSome
  errorMessage : m.status.errorMessage.isSome → m'.status.errorMessage.isSome

namespace Advances

@[refl] theorem refl (m : Machine) : Advances m m :=
  ⟨rfl, fun _ => rfl, fun _ h => h, id, id, id⟩

theorem deletionTimestampIsZero {m m' : Machine} (h : Advances m m') :
    m'.deletionTimestampIsZero = m.deletionTimestampIsZero :=
  congrArg (·.deletionTimestampIsZero) h.unwritten

theorem nodeRef {m m' : Machine} (h : Advances m m') : m'.status.nodeRef = m.status.nodeRef :=
  congrArg (·.status.nodeRef) h.unwritten

@[trans] theorem trans {m₁ m₂ m₃ : Machine} (h₁ : Advances m₁ m₂) (h₂ : Advances m₂ m₃) :
    Advances m₁ m₃ where
  unwritten := h₂.unwritten.trans h₁.unwritten
  data hd := by
    have := h₁.data hd
    exact (h₂.data (by rw [this]; exact hd)).trans this
  bootstrapReady hz hr := h₂.bootstrapReady (h₁.deletionTimestampIsZero ▸ hz) (h₁.bootstrapReady hz hr)
  infrastructureReady hr := h₂.infrastructureReady (h₁.infrastructureReady hr)
  errorReason hr := h₂.errorReason (h₁.errorReason hr)
  errorMessage hr := h₂.errorMessage (h₁.errorMessage hr)

end Advances

theorem advances_setExternalErrors (m : Machine) (errorReason errorMessage : String) :
    Advances m (m.setExternalErrors errorReason errorMessage) := by
  rw [Machine.setExternalErrors_eq]
  refine ⟨rfl, fun _ => rfl, fun _ h => h, id, ?_, ?_⟩ <;> split_ifs <;> simp_all


/-! ## The external objects -/

/-- What a request may be for a Machine that is live (`true`) or being deleted (`false`):
an object is deleted only with its Machine, and an owner reference is set only by a live one. -/
def Request.AllowedFor (live : Bool) : Request → Prop
  | .get _ _ => True
  | .delete _ => live = false
  | .patchOwnerRef _ _ => live = true

section External

variable (acc : Accessors) (ext : ExternalAnswers) (m : Machine) (ref : ObjectReference)

theorem reportExternalErrors_machine (obj : Unstructured) (requests : List Request) :
    ∃ errorReason errorMessage,
      (reportExternalErrors m obj requests).machine = m.setExternalErrors errorReason errorMessage := by
  unfold reportExternalErrors
  split
  · exact ⟨"", "", rfl⟩
  · exact ⟨_, _, rfl⟩

theorem reportExternalErrors_object (obj : Unstructured) (requests : List Request) :
    (reportExternalErrors m obj requests).object ≠ .ok none := by
  unfold reportExternalErrors
  split <;> simp

theorem eq_of_reportExternalErrors_object {obj obj' : Unstructured} {requests : List Request}
    (h : (reportExternalErrors m obj requests).object = .ok (some obj')) : obj' = obj := by
  unfold reportExternalErrors at h
  split at h
  · cases h
  · cases h; rfl

theorem reconcileExternal_object_some {obj : Unstructured}
    (h : (reconcileExternal acc ext m ref).object = .ok (some obj)) :
    ext.get = .ok obj ∨ ext.patch = .ok obj := by
  unfold reconcileExternal at h
  split at h
  · split_ifs at h
    cases h
  rename_i obj' hget
  split_ifs at h
  · split at h <;> cases h
    exact .inl hget
  · exact .inl (hget.trans (congrArg _ (eq_of_reportExternalErrors_object m h).symm))
  · split at h
    · cases h
    · rename_i hpatch
      exact .inr (hpatch.trans (congrArg _ (eq_of_reportExternalErrors_object m h).symm))

theorem reconcileExternal_machine :
    ∃ errorReason errorMessage,
      (reconcileExternal acc ext m ref).machine = m.setExternalErrors errorReason errorMessage := by
  unfold reconcileExternal
  split
  · split_ifs <;> exact ⟨"", "", rfl⟩
  · split_ifs
    · split <;> exact ⟨"", "", rfl⟩
    · exact reportExternalErrors_machine ..
    · split
      · exact ⟨"", "", rfl⟩
      · exact reportExternalErrors_machine ..

theorem advances_reconcileExternal : Advances m (reconcileExternal acc ext m ref).machine := by
  obtain ⟨errorReason, errorMessage, h⟩ := reconcileExternal_machine acc ext m ref
  exact h ▸ advances_setExternalErrors m errorReason errorMessage

theorem reconcileExternal_object_none (h : (reconcileExternal acc ext m ref).object = .ok none) :
    m.deletionTimestampIsZero = false := by
  unfold reconcileExternal at h
  split at h
  · split_ifs at h with h₁
    exact (by simpa using h₁ : _ ∧ _).2
  · split_ifs at h with h₁ h₂
    · simpa using h₁
    · exact (reportExternalErrors_object m _ _ h).elim
    · split at h
      · cases h
      · exact (reportExternalErrors_object m _ _ h).elim

theorem reconcileExternal_requests :
    ∀ req ∈ (reconcileExternal acc ext m ref).requests, req.AllowedFor m.deletionTimestampIsZero := by
  have hreport : ∀ obj (requests : List Request),
      (reportExternalErrors m obj requests).requests = requests := by
    intro obj requests; unfold reportExternalErrors; split <;> rfl
  unfold reconcileExternal
  cases m.deletionTimestampIsZero <;>
    simp only [Bool.not_false, Bool.not_true, Bool.and_true, Bool.and_false, Bool.false_eq_true,
      if_true, if_false] <;>
    split <;> (try split_ifs) <;> (try split) <;>
    simp only [hreport, List.forall_mem_cons, List.not_mem_nil, false_implies, implies_true,
      Request.AllowedFor, and_self]

theorem reconcileExternal_deletes (hdel : m.deletionTimestampIsZero = false) {obj : Unstructured}
    (hget : ext.get = .ok obj) : Request.delete obj ∈ (reconcileExternal acc ext m ref).requests := by
  unfold reconcileExternal
  rw [hget]
  simp only [hdel, Bool.not_false, if_true]
  split <;> simp

end External


/-! ## Bootstrap and infrastructure -/

section Reconcile

variable (acc : Accessors) (a : Answers) (m : Machine)

theorem reconcileBootstrap_cases :
    (m.spec.bootstrap.configRef = none ∧ m.spec.bootstrap.data = none ∧
      reconcileBootstrap acc a m = ⟨m, (reconcileBootstrap acc a m).err, []⟩ ∧
      (reconcileBootstrap acc a m).err.isSome) ∨
    (m.spec.bootstrap.data.isSome ∧ reconcileBootstrap acc a m = ⟨m.setBootstrapReady true, none, []⟩) ∨
    ∃ ref, m.spec.bootstrap.configRef = some ref ∧ m.spec.bootstrap.data = none ∧
      (reconcileBootstrap acc a m).requests = (reconcileExternal acc a.bootstrap m ref).requests ∧
      ((reconcileExternal acc a.bootstrap m ref).object = .ok none ∧
          (reconcileBootstrap acc a m).machine =
            (reconcileExternal acc a.bootstrap m ref).machine.setBootstrapReady false ∧
          (reconcileBootstrap acc a m).err = none ∨
        (reconcileBootstrap acc a m).machine = (reconcileExternal acc a.bootstrap m ref).machine ∧
          (reconcileBootstrap acc a m).err.isSome ∨
        (∃ config, (reconcileExternal acc a.bootstrap m ref).object = .ok (some config) ∧
          acc.deletionTimestampIsZero config = false ∧
          (reconcileBootstrap acc a m).machine = (reconcileExternal acc a.bootstrap m ref).machine ∧
          (reconcileBootstrap acc a m).err = none) ∨
        ∃ data, data ≠ "" ∧ (reconcileBootstrap acc a m).err = none ∧
          (reconcileBootstrap acc a m).machine =
            { (reconcileExternal acc a.bootstrap m ref).machine with
              spec.bootstrap.data := some data
              status.bootstrapReady := some true }) := by
  rcases hc : m.spec.bootstrap.configRef with _ | ref <;>
    rcases hd : m.spec.bootstrap.data with _ | d
  · exact .inl (by simp only [reconcileBootstrap, hc, hd, Option.isSome_some, and_self])
  rotate_left
  all_goals try exact .inr (.inl ⟨rfl, by simp only [reconcileBootstrap, hc, hd]⟩)
  refine .inr (.inr ⟨ref, rfl, rfl, ?_⟩)
  simp only [reconcileBootstrap, hc, hd]
  generalize reconcileExternal acc a.bootstrap m ref = r
  rcases r with ⟨m', _ | _ | config, requests⟩
  · exact ⟨rfl, .inr (.inl ⟨rfl, rfl⟩)⟩
  · exact ⟨rfl, .inl ⟨rfl, rfl, rfl⟩⟩
  simp only [Bool.not_eq_true']
  split_ifs with hz
  · exact ⟨rfl, .inr (.inr (.inl ⟨config, rfl, hz, rfl, rfl⟩))⟩
  split
  · exact ⟨rfl, .inr (.inl ⟨rfl, rfl⟩)⟩
  · exact ⟨rfl, .inr (.inl ⟨rfl, rfl⟩)⟩
  split
  · exact ⟨rfl, .inr (.inl ⟨rfl, rfl⟩)⟩
  split_ifs with he
  · exact ⟨rfl, .inr (.inl ⟨rfl, rfl⟩)⟩
  · exact ⟨rfl, .inr (.inr (.inr ⟨_, he, rfl, rfl⟩))⟩

theorem reconcileInfrastructure_cases :
    (reconcileInfrastructure acc a m).requests =
        (reconcileExternal acc a.infrastructure m m.spec.infrastructureRef).requests ∧
      ((reconcileInfrastructure acc a m).machine =
          (reconcileExternal acc a.infrastructure m m.spec.infrastructureRef).machine ∧
        ((reconcileInfrastructure acc a m).err.isSome ∨
          (reconcileExternal acc a.infrastructure m m.spec.infrastructureRef).object = .ok none ∨
          (reconcileExternal acc a.infrastructure m m.spec.infrastructureRef).machine.status.infrastructureReady =
            some true ∨
          ∃ obj, (reconcileExternal acc a.infrastructure m m.spec.infrastructureRef).object = .ok (some obj) ∧
            acc.deletionTimestampIsZero obj = false) ∨
      (reconcileInfrastructure acc a m).err = none ∧
        (reconcileInfrastructure acc a m).machine =
          { (reconcileExternal acc a.infrastructure m m.spec.infrastructureRef).machine with
            status.infrastructureReady := some true }) := by
  simp only [reconcileInfrastructure]
  generalize reconcileExternal acc a.infrastructure m m.spec.infrastructureRef = r
  rcases r with ⟨m', _ | _ | obj, requests⟩
  · exact ⟨rfl, .inl ⟨rfl, .inl rfl⟩⟩
  · exact ⟨rfl, .inl ⟨rfl, .inr (.inl rfl)⟩⟩
  simp only [Bool.or_eq_true, decide_eq_true_eq, Bool.not_eq_true']
  split_ifs with h
  · exact ⟨rfl, .inl ⟨rfl, .inr (.inr (h.imp id fun h => ⟨obj, rfl, h⟩))⟩⟩
  split
  · exact ⟨rfl, .inl ⟨rfl, .inl rfl⟩⟩
  · exact ⟨rfl, .inl ⟨rfl, .inl rfl⟩⟩
  · exact ⟨rfl, .inr ⟨rfl, rfl⟩⟩

theorem advances_setBootstrapReady {ready : Bool} (h : ready = true ∨ m.deletionTimestampIsZero = false) :
    Advances m (m.setBootstrapReady ready) := by
  refine ⟨rfl, fun _ => rfl, fun hz _ => ?_, id, id, id⟩
  rcases h with rfl | h
  · rfl
  · simp_all

theorem advances_setBootstrapData (h : m.spec.bootstrap.data = none) (data : String) :
    Advances m { m with spec.bootstrap.data := some data, status.bootstrapReady := some true } :=
  ⟨rfl, by simp [h], fun _ _ => rfl, id, id, id⟩

theorem advances_setInfrastructureReady :
    Advances m { m with status.infrastructureReady := some true } :=
  ⟨rfl, fun _ => rfl, fun _ h => h, fun _ => rfl, id, id⟩

theorem advances_reconcileBootstrap : Advances m (reconcileBootstrap acc a m).machine := by
  rcases reconcileBootstrap_cases acc a m with ⟨-, -, h, -⟩ | ⟨-, h⟩ | ⟨ref, -, hd, -, h⟩
  · rw [h]
  · rw [h]; exact advances_setBootstrapReady m (.inl rfl)
  · have hr := advances_reconcileExternal acc a.bootstrap m ref
    rcases h with ⟨hn, h, -⟩ | ⟨h, -⟩ | ⟨_, -, -, h, -⟩ | ⟨data, -, -, h⟩ <;> rw [h]
    · exact hr.trans (advances_setBootstrapReady _
        (.inr (hr.deletionTimestampIsZero.trans (reconcileExternal_object_none acc _ m ref hn))))
    · exact hr
    · exact hr
    · obtain ⟨errorReason, errorMessage, hm⟩ := reconcileExternal_machine acc a.bootstrap m ref
      refine hr.trans (advances_setBootstrapData _ ?_ data)
      rw [hm, Machine.setExternalErrors_eq]
      exact hd

theorem advances_reconcileInfrastructure : Advances m (reconcileInfrastructure acc a m).machine := by
  have hr := advances_reconcileExternal acc a.infrastructure m m.spec.infrastructureRef
  rcases (reconcileInfrastructure_cases acc a m).2 with ⟨h, -⟩ | ⟨-, h⟩ <;> rw [h]
  · exact hr
  · exact hr.trans (advances_setInfrastructureReady _)

theorem reconcileBootstrap_frame :
    (reconcileBootstrap acc a m).machine =
      { m with
        spec.bootstrap.data := (reconcileBootstrap acc a m).machine.spec.bootstrap.data
        status.errorReason := (reconcileBootstrap acc a m).machine.status.errorReason
        status.errorMessage := (reconcileBootstrap acc a m).machine.status.errorMessage
        status.bootstrapReady := (reconcileBootstrap acc a m).machine.status.bootstrapReady } := by
  rcases reconcileBootstrap_cases acc a m with ⟨-, -, h, -⟩ | ⟨-, h⟩ | ⟨ref, -, -, -, h⟩
  · rw [h]
  · rw [h]; rfl
  · obtain ⟨errorReason, errorMessage, hm⟩ := reconcileExternal_machine acc a.bootstrap m ref
    rcases h with ⟨-, h, -⟩ | ⟨h, -⟩ | ⟨_, -, -, h, -⟩ | ⟨data, -, -, h⟩ <;>
      rw [h, hm, Machine.setExternalErrors_eq]
    rfl

theorem reconcileInfrastructure_frame :
    (reconcileInfrastructure acc a m).machine =
      { m with
        status.errorReason := (reconcileInfrastructure acc a m).machine.status.errorReason
        status.errorMessage := (reconcileInfrastructure acc a m).machine.status.errorMessage
        status.infrastructureReady :=
          (reconcileInfrastructure acc a m).machine.status.infrastructureReady } := by
  obtain ⟨errorReason, errorMessage, hm⟩ :=
    reconcileExternal_machine acc a.infrastructure m m.spec.infrastructureRef
  rcases (reconcileInfrastructure_cases acc a m).2 with ⟨h, -⟩ | ⟨-, h⟩ <;>
    rw [h, hm, Machine.setExternalErrors_eq]

theorem reconcileBootstrap_bootstrapReady
    (hb : m.status.bootstrapReady = some true → m.spec.bootstrap.data.isSome) :
    (reconcileBootstrap acc a m).machine.status.bootstrapReady = some true ↔
      (reconcileBootstrap acc a m).machine.spec.bootstrap.data.isSome := by
  rcases reconcileBootstrap_cases acc a m with ⟨-, hd, h, -⟩ | ⟨hd, h⟩ | ⟨ref, -, hd, -, h⟩
  · rw [h]; simp_all
  · rw [h]; simp [Machine.setBootstrapReady, hd]
  · obtain ⟨errorReason, errorMessage, hm⟩ := reconcileExternal_machine acc a.bootstrap m ref
    rcases h with ⟨-, h, -⟩ | ⟨h, -⟩ | ⟨_, -, -, h, -⟩ | ⟨data, -, -, h⟩ <;>
      rw [h, hm, Machine.setExternalErrors_eq] <;> simp_all [Machine.setBootstrapReady]

section Live

variable (hlive : m.deletionTimestampIsZero = true)
include hlive

theorem reconcileBootstrap_ok (hobjs : a.bootstrap.ObjectsLive acc)
    (hok : (reconcileBootstrap acc a m).err = none) :
    (reconcileBootstrap acc a m).machine.spec.bootstrap.data.isSome ∧
      (reconcileBootstrap acc a m).machine.status.bootstrapReady = some true := by
  rcases reconcileBootstrap_cases acc a m with ⟨-, -, -, he⟩ | ⟨hd, h⟩ | ⟨ref, -, -, -, h⟩
  · simp_all
  · rw [h]; exact ⟨hd, rfl⟩
  · rcases h with ⟨hn, -, -⟩ | ⟨-, he⟩ | ⟨config, hc, hz, -, -⟩ | ⟨data, -, -, h⟩
    · simp [reconcileExternal_object_none acc _ m ref hn] at hlive
    · simp_all
    · rw [hobjs config (reconcileExternal_object_some acc _ m ref hc)] at hz
      cases hz
    · rw [h]; exact ⟨rfl, rfl⟩

theorem reconcileInfrastructure_ok (hobjs : a.infrastructure.ObjectsLive acc)
    (hok : (reconcileInfrastructure acc a m).err = none) :
    (reconcileInfrastructure acc a m).machine.status.infrastructureReady = some true := by
  rcases (reconcileInfrastructure_cases acc a m).2 with ⟨h, he | hn | hi | ⟨obj, ho, hz⟩⟩ | ⟨-, h⟩
  · simp_all
  · simp [reconcileExternal_object_none acc _ m _ hn] at hlive
  · rw [h]; exact hi
  · rw [hobjs obj (reconcileExternal_object_some acc _ m _ ho)] at hz
    cases hz
  · rw [h]

end Live

theorem reconcileBootstrap_requests :
    ∀ req ∈ (reconcileBootstrap acc a m).requests, req.AllowedFor m.deletionTimestampIsZero := by
  rcases reconcileBootstrap_cases acc a m with ⟨-, -, h, -⟩ | ⟨-, h⟩ | ⟨ref, -, -, h, -⟩
  · rw [h]; simp
  · rw [h]; simp
  · rw [h]; exact reconcileExternal_requests acc _ m ref

theorem reconcileInfrastructure_requests :
    ∀ req ∈ (reconcileInfrastructure acc a m).requests, req.AllowedFor m.deletionTimestampIsZero := by
  rw [(reconcileInfrastructure_cases acc a m).1]
  exact reconcileExternal_requests acc _ m _

end Reconcile

/-! ## The phase -/

/-- The phase the rules of `reconcile` give a Machine: the last rule that holds, pending when
none does. -/
def phaseOf (m : Machine) : MachinePhase :=
  if !m.deletionTimestampIsZero then .deleting
  else if m.status.errorReason.isSome || m.status.errorMessage.isSome then .failed
  else if m.status.nodeRef.isSome && m.status.infrastructureReady = some true then .running
  else if m.status.infrastructureReady = some true then .provisioned
  else if m.status.bootstrapReady = some true then .provisioning
  else .pending

def MachinePhase.rank : MachinePhase → Nat
  | .pending => 0
  | .provisioning => 1
  | .provisioned => 2
  | .running => 3
  | .failed => 4
  | .deleting => 5
  | .other _ => 0

theorem reconcilePhase_eq (m : Machine) :
    reconcilePhase m = m.setTypedPhase
      (if phaseOf m = .pending then m.status.phase.getD .pending else phaseOf m) := by
  have rung : ∀ (c : Prop) [Decidable c] (p : MachinePhase) (m : Machine),
      (if c then m.setTypedPhase p else m) =
        { m with status.phase := if c then some p else m.status.phase } := by
    intros; split_ifs <;> rfl
  have zero : ∀ (m : Machine) phase,
      ({ m with status.phase := phase } : Machine).deletionTimestampIsZero = m.deletionTimestampIsZero :=
    fun _ _ => rfl
  simp only [reconcilePhase, rung, zero]
  simp only [Machine.setTypedPhase, phaseOf]
  congr 2
  by_cases hd : m.deletionTimestampIsZero = false
  · simp [hd]
  by_cases he : (m.status.errorReason.isSome || m.status.errorMessage.isSome) = true
  · simp [hd, he]
  by_cases hi : m.status.infrastructureReady = some true
  · by_cases hn : m.status.nodeRef.isSome = true <;> simp [hd, he, hi, hn]
  by_cases hb : m.status.bootstrapReady = some true
  · simp [hd, he, hi, hb]
  · cases hp : m.status.phase <;> simp [hd, he, hi, hb, hp]

theorem le_rank_phaseOf_failed {m : Machine}
    (h : (m.status.errorReason.isSome || m.status.errorMessage.isSome) = true) :
    4 ≤ (phaseOf m).rank := by
  unfold phaseOf
  cases m.deletionTimestampIsZero <;> simp [h, MachinePhase.rank]

theorem le_rank_phaseOf_running {m : Machine} (hn : m.status.nodeRef.isSome)
    (hi : m.status.infrastructureReady = some true) : 3 ≤ (phaseOf m).rank := by
  unfold phaseOf
  cases m.deletionTimestampIsZero <;> cases m.status.errorReason.isSome || m.status.errorMessage.isSome <;>
    simp [hn, hi, MachinePhase.rank]

theorem le_rank_phaseOf_provisioned {m : Machine} (hi : m.status.infrastructureReady = some true) :
    2 ≤ (phaseOf m).rank := by
  unfold phaseOf
  cases m.deletionTimestampIsZero <;> cases m.status.errorReason.isSome || m.status.errorMessage.isSome <;>
    cases m.status.nodeRef.isSome <;> simp [hi, MachinePhase.rank]

theorem le_rank_phaseOf_provisioning {m : Machine} (hb : m.status.bootstrapReady = some true) :
    1 ≤ (phaseOf m).rank := by
  unfold phaseOf
  cases m.deletionTimestampIsZero <;> cases m.status.errorReason.isSome || m.status.errorMessage.isSome <;>
    cases m.status.nodeRef.isSome <;> by_cases hi : m.status.infrastructureReady = some true <;>
    simp [hb, hi, MachinePhase.rank]

theorem phaseOf_of_infrastructureReady {m : Machine} (hlive : m.deletionTimestampIsZero = true)
    (hi : m.status.infrastructureReady = some true) :
    phaseOf m ∈ [.provisioned, .running, .failed] := by
  unfold phaseOf; split_ifs <;> simp_all

theorem rank_phaseOf_le {m m' : Machine} (h : Advances m m') :
    (phaseOf m).rank ≤ (phaseOf m').rank := by
  by_cases hd : m.deletionTimestampIsZero = false
  · simp [phaseOf, hd, h.deletionTimestampIsZero]
  by_cases he : m.status.errorReason.isSome ∨ m.status.errorMessage.isSome
  · rw [show phaseOf m = .failed by simp_all [phaseOf]]
    exact le_rank_phaseOf_failed (by simpa using he.imp h.errorReason h.errorMessage)
  by_cases hi : m.status.infrastructureReady = some true
  · by_cases hn : m.status.nodeRef.isSome
    · rw [show phaseOf m = .running by simp_all [phaseOf]]
      exact le_rank_phaseOf_running (h.nodeRef ▸ hn) (h.infrastructureReady hi)
    · rw [show phaseOf m = .provisioned by simp_all [phaseOf]]
      exact le_rank_phaseOf_provisioned (h.infrastructureReady hi)
  by_cases hb : m.status.bootstrapReady = some true
  · rw [show phaseOf m = .provisioning by simp_all [phaseOf]]
    exact le_rank_phaseOf_provisioning (h.bootstrapReady (by simpa using hd) hb)
  · rw [show phaseOf m = .pending by simp_all [phaseOf]]
    exact Nat.zero_le _

/-! ## Whole runs -/

section Run

variable (acc : Accessors)

@[simp] theorem phaseOf_setTypedPhase (m : Machine) (p : MachinePhase) :
    phaseOf (m.setTypedPhase p) = phaseOf m := rfl

theorem phaseOf_eq_pending {m : Machine} (h : (phaseOf m).rank = 0) : phaseOf m = .pending := by
  revert h; unfold phaseOf; repeat' split
  all_goals decide

theorem advances_reconcilePhase (m : Machine) : Advances m (reconcilePhase m) := by
  rw [reconcilePhase_eq]
  exact ⟨rfl, fun _ => rfl, fun _ h => h, id, id, id⟩

theorem advances_reconcile (a : Answers) (m : Machine) : Advances m (reconcile acc a m).machine :=
  ((advances_reconcileBootstrap acc a m).trans (advances_reconcileInfrastructure acc a _)).trans
    (advances_reconcilePhase _)

theorem reconcileRun_append (m : Machine) (run₁ run₂ : List Answers) :
    reconcileRun acc m (run₁ ++ run₂) = reconcileRun acc (reconcileRun acc m run₁) run₂ := by
  induction run₁ generalizing m with
  | nil => rfl
  | cons a run₁ ih => exact ih _

/-- Along any run, the controller keeps what it found: bootstrap data once set is never
changed, readiness is never withdrawn (the bootstrap's only for a Machine being deleted), an
error reported is never cleared, and nothing but these fields and the phase is written. -/
theorem reconcileRun_advances (m : Machine) (run : List Answers) :
    Advances m (reconcileRun acc m run) := by
  induction run generalizing m with
  | nil => exact .refl m
  | cons a run ih => exact (advances_reconcile acc a m).trans (ih _)

theorem rank_phaseOf_reconcileRun (m : Machine) (run : List Answers) :
    (phaseOf m).rank ≤ (phaseOf (reconcileRun acc m run)).rank := by
  induction run generalizing m with
  | nil => exact le_rfl
  | cons a run ih => exact (rank_phaseOf_le (advances_reconcile acc a m)).trans (ih _)

/-- What holds of a Machine after each call of `reconcile` from its creation on: its phase is
the one the rules give, and it is bootstrap-ready exactly when it has bootstrap data. -/
structure Reconciled (m : Machine) : Prop where
  phase : m.status.phase = some (phaseOf m)
  bootstrapReady : m.status.bootstrapReady = some true ↔ m.spec.bootstrap.data.isSome

theorem reconciled_reconcile (a : Answers) (m : Machine)
    (hb : m.status.bootstrapReady = some true → m.spec.bootstrap.data.isSome)
    (hp : m.status.phase = none ∨ m.status.phase = some (phaseOf m)) :
    Reconciled (reconcile acc a m).machine := by
  have hB := reconcileBootstrap_frame acc a m
  have hI := reconcileInfrastructure_frame acc a (reconcileBootstrap acc a m).machine
  have hadv : Advances m (reconcileInfrastructure acc a (reconcileBootstrap acc a m).machine).machine :=
    (advances_reconcileBootstrap acc a m).trans (advances_reconcileInfrastructure acc a _)
  generalize hmb : (reconcileBootstrap acc a m).machine = mb at hB hI hadv
  generalize hmi : (reconcileInfrastructure acc a mb).machine = mi at hI hadv
  have hphase : mi.status.phase = m.status.phase :=
    (congrArg (·.status.phase) hI).trans (congrArg (·.status.phase) hB)
  have hready : mi.status.bootstrapReady = mb.status.bootstrapReady := congrArg (·.status.bootstrapReady) hI
  have hdata : mi.spec.bootstrap.data = mb.spec.bootstrap.data := congrArg (·.spec.bootstrap.data) hI
  have hbi := reconcileBootstrap_bootstrapReady acc a m hb
  rw [hmb] at hbi
  simp only [reconcile, hmb, hmi, reconcilePhase_eq]
  refine ⟨?_, ?_⟩
  · rw [phaseOf_setTypedPhase]
    simp only [Machine.setTypedPhase, Option.some.injEq]
    split_ifs with hpend
    · rw [hpend, hphase]
      rcases hp with hp | hp
      · rw [hp]; rfl
      · have := phaseOf_eq_pending (Nat.le_zero.mp (hpend ▸ rank_phaseOf_le hadv))
        rw [hp, this]; rfl
    · rfl
  · simpa only [Machine.setTypedPhase, hready, hdata] using hbi

theorem reconciled_reconcileRun (m : Machine) (h : Reconciled m) (run : List Answers) :
    Reconciled (reconcileRun acc m run) := by
  induction run generalizing m with
  | nil => exact h
  | cons a run ih =>
    exact ih _ (reconciled_reconcile acc a m (fun hr => h.bootstrapReady.mp hr) (.inr h.phase))

/-- From a new Machine (no phase yet, and not bootstrap-ready without data), after every call
of a run the phase is the one the rules give, and the phase only moves forward along pending,
provisioning, provisioned, running, failed, deleting. -/
theorem reconcileRun_phase_forward (m : Machine) (hPhase : m.status.phase = none)
    (hReady : m.status.bootstrapReady = some true → m.spec.bootstrap.data.isSome)
    (run₁ run₂ : List Answers) (h₁ : run₁ ≠ []) :
    Reconciled (reconcileRun acc m run₁) ∧ Reconciled (reconcileRun acc m (run₁ ++ run₂)) ∧
      (phaseOf (reconcileRun acc m run₁)).rank ≤ (phaseOf (reconcileRun acc m (run₁ ++ run₂))).rank := by
  obtain ⟨a, run, rfl⟩ := List.exists_cons_of_ne_nil h₁
  have h := reconciled_reconcileRun acc _ (reconciled_reconcile acc a m hReady (.inl hPhase)) run
  rw [reconcileRun_append]
  exact ⟨h, reconciled_reconcileRun acc _ h run₂,
    rank_phaseOf_reconcileRun acc _ run₂⟩

end Run

def sampleMachine : Machine where
  apiVersion := "cluster.x-k8s.io/v1alpha2"
  kind := "Machine"
  name := "machine-0"
  «namespace» := "default"
  uid := "uid-0"
  deletionTimestamp := none
  spec := ⟨⟨some ⟨"KubeadmConfig", "default", "config-0", "", "bootstrap.cluster.x-k8s.io/v1alpha2", "", ""⟩,
    none⟩, ⟨"AWSMachine", "default", "infra-0", "", "infrastructure.cluster.x-k8s.io/v1alpha2", "", ""⟩⟩
  status := ⟨none, none, none, none, none, none⟩

def readyObject : Unstructured :=
  ⟨some [("status", .map [("ready", .bool true), ("bootstrapData", .string "data")])]⟩

def sampleAccessors : Accessors := ⟨fun _ => true, fun _ _ => true⟩

def readyAnswers : Answers :=
  ⟨⟨.ok readyObject, none, .ok readyObject⟩, ⟨.ok readyObject, none, .ok readyObject⟩⟩

theorem sampleMachine_phase_forward :
    Reconciled (reconcileRun sampleAccessors sampleMachine [readyAnswers]) ∧
      Reconciled (reconcileRun sampleAccessors sampleMachine ([readyAnswers] ++ [readyAnswers])) ∧
      (phaseOf (reconcileRun sampleAccessors sampleMachine [readyAnswers])).rank ≤
        (phaseOf (reconcileRun sampleAccessors sampleMachine ([readyAnswers] ++ [readyAnswers]))).rank :=
  reconcileRun_phase_forward sampleAccessors sampleMachine rfl (by decide) [readyAnswers] [readyAnswers]
    (List.cons_ne_nil _ _)

/-! ## One call -/

section Call

variable (acc : Accessors) (a : Answers) (m : Machine)

theorem reconcileError_none (b i : Option GoError) :
    reconcileError b i = none ↔ b = none ∧ i = none := by
  rcases b with _ | e <;> rcases i with _ | e' <;> simp [reconcileError]
  split_ifs <;> simp

/-- A call deletes external objects only of a Machine being deleted, and sets owner references
only on behalf of a live one; a Machine being deleted has its infrastructure object deleted. -/
theorem reconcile_deletes_only_while_deleting :
    (∀ req ∈ (reconcile acc a m).requests, req.AllowedFor m.deletionTimestampIsZero) ∧
      (m.deletionTimestampIsZero = false → ∀ obj, a.infrastructure.get = .ok obj →
        Request.delete obj ∈ (reconcile acc a m).requests) := by
  have hz := (advances_reconcileBootstrap acc a m).deletionTimestampIsZero
  refine ⟨fun req hreq => ?_, fun hdel obj hget => ?_⟩
  · rcases List.mem_append.mp hreq with h | h
    · exact reconcileBootstrap_requests acc a m req h
    · exact hz ▸ reconcileInfrastructure_requests acc a _ req h
  · refine List.mem_append_right _ ?_
    rw [(reconcileInfrastructure_cases acc a _).1]
    exact reconcileExternal_deletes acc _ _ _ (hz ▸ hdel) hget

/-- A call that returns no error, on a live Machine whose external objects are not being
deleted, leaves it provisioned: with bootstrap data, both readinesses, and the phase
provisioned, running or failed. -/
theorem reconcile_ok_provisioned (hlive : m.deletionTimestampIsZero = true)
    (hboot : a.bootstrap.ObjectsLive acc) (hinfra : a.infrastructure.ObjectsLive acc)
    (hok : (reconcile acc a m).err = none) :
    (reconcile acc a m).machine.spec.bootstrap.data.isSome ∧
      (reconcile acc a m).machine.status.bootstrapReady = some true ∧
      (reconcile acc a m).machine.status.infrastructureReady = some true ∧
      (reconcile acc a m).machine.status.phase ∈
        [some .provisioned, some .running, some .failed] := by
  obtain ⟨hb, hi⟩ := (reconcileError_none _ _).mp hok
  obtain ⟨hdata, hready⟩ := reconcileBootstrap_ok acc a m hlive hboot hb
  have hlive' := (advances_reconcileBootstrap acc a m).deletionTimestampIsZero.trans hlive
  have hready' := reconcileInfrastructure_ok acc a _ hlive' hinfra hi
  have hI := reconcileInfrastructure_frame acc a (reconcileBootstrap acc a m).machine
  have hlive'' := (advances_reconcileInfrastructure acc a _).deletionTimestampIsZero.trans hlive'
  simp only [reconcile]
  generalize (reconcileInfrastructure acc a (reconcileBootstrap acc a m).machine).machine = mi
    at hI hready' hlive'' ⊢
  have hphase := phaseOf_of_infrastructureReady hlive'' hready'
  have hpend : phaseOf mi ≠ .pending := by intro h; simp [h] at hphase
  simp only [reconcilePhase_eq, hpend, if_false, Machine.setTypedPhase]
  refine ⟨?_, ?_, hready', by simpa using hphase⟩
  · rw [hI]; exact hdata
  · rw [hI]; exact hready

def timestampAccessors : Accessors :=
  ⟨fun obj => getNestedString obj.unstructuredContent ["metadata", "deletionTimestamp"] == "",
    fun _ _ => true⟩

theorem sampleMachine_provisioned :
    (reconcile timestampAccessors readyAnswers sampleMachine).machine.spec.bootstrap.data.isSome ∧
      (reconcile timestampAccessors readyAnswers sampleMachine).machine.status.bootstrapReady =
        some true ∧
      (reconcile timestampAccessors readyAnswers sampleMachine).machine.status.infrastructureReady =
        some true ∧
      (reconcile timestampAccessors readyAnswers sampleMachine).machine.status.phase ∈
        [some .provisioned, some .running, some .failed] :=
  reconcile_ok_provisioned timestampAccessors readyAnswers sampleMachine rfl
    (fun _ h => by rcases h with h | h <;> (cases h; rfl))
    (fun _ h => by rcases h with h | h <;> (cases h; rfl)) (by decide)

end Call

end MachineController

end ClusterApi
