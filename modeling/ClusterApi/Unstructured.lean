import ClusterApi.GoError
import ClusterApi.Schema

/-!
# Unstructured objects and nested references

`unstructured.Unstructured` holds an object as the tree `encoding/json` decodes into an
`interface{}`: maps from strings to values, slices, strings, numbers, booleans and nil. The
topology controller reads and writes object references inside such trees with
`getNestedRef` and `setNestedRef`, through `unstructured.NestedMap` and
`unstructured.SetNestedField` of apimachinery.

A Go map is a reference, and `SetNestedField` writes into the maps it walks; here an object
is a tree, and a write returns the new tree. `UnstructuredContent` returns the object's own
map, or a fresh map when the object has none: what is written into that one is lost.
-/

namespace ClusterApi

/-- A value of an unstructured object, of the types `runtime.DeepCopyJSONValue` accepts. A
`float64` is kept by its `%v` text: nothing here reads it. -/
inductive JSONValue where
  | null
  | bool (b : Bool)
  | int64 (i : Int)
  | float64 (text : String)
  | string (s : String)
  | slice (items : List JSONValue)
  | map (m : List (String × JSONValue))

def mapAssign (m : List (String × JSONValue)) (k : String) (v : JSONValue) :
    List (String × JSONValue) :=
  (k, v) :: m.filter (·.1 != k)

@[simp] theorem lookup_mapAssign (m : List (String × JSONValue)) (k : String) (v : JSONValue) :
    (mapAssign m k v).lookup k = some v := by
  simp [mapAssign, List.lookup_cons]

def jsonPath (fields : List String) : String :=
  "." ++ ".".intercalate fields

/-! ## Reading a nested field -/

structure AccessorError where
  path : String
  value : JSONValue
  expected : String

/-- The loop of `unstructured.NestedFieldNoCopy` at the value `val`, reached along `seen`: a nil
value has no fields, a map is looked into, anything else is an error. -/
def nestedFieldFrom (seen : List String) : JSONValue → List String →
    Except AccessorError (Option JSONValue)
  | val, [] => .ok (some val)
  | .null, _ :: _ => .ok none
  | .map m, field :: fields =>
    match m.lookup field with
    | none => .ok none
    | some val => nestedFieldFrom (seen ++ [field]) val fields
  | val, field :: _ => .error ⟨jsonPath (seen ++ [field]), val, "map[string]interface\x7b\x7d"⟩

def nestedFieldNoCopy (obj : List (String × JSONValue)) (fields : List String) :
    Except AccessorError (Option JSONValue) :=
  nestedFieldFrom [] (.map obj) fields

def nestedMap (obj : List (String × JSONValue)) (fields : List String) :
    Except AccessorError (Option (List (String × JSONValue))) :=
  match nestedFieldNoCopy obj fields with
  | .error e => .error e
  | .ok none => .ok none
  | .ok (some (.map m)) => .ok (some m)
  | .ok (some val) => .error ⟨jsonPath fields, val, "map[string]interface\x7b\x7d"⟩

def nestedString (obj : List (String × JSONValue)) (fields : List String) :
    Except AccessorError (Option String) :=
  match nestedFieldNoCopy obj fields with
  | .error e => .error e
  | .ok none => .ok none
  | .ok (some (.string s)) => .ok (some s)
  | .ok (some val) => .error ⟨jsonPath fields, val, "string"⟩

def getNestedString (obj : List (String × JSONValue)) (fields : List String) : String :=
  match nestedString obj fields with
  | .ok (some s) => s
  | _ => ""

/-! ## Writing a nested field -/

def setNestedFieldFrom (value : JSONValue) (seen : List String) (m : List (String × JSONValue)) :
    List String → Except GoError (List (String × JSONValue))
  | [] => .ok m
  | field :: fields =>
    if fields = [] then .ok (mapAssign m field value)
    else match m.lookup field with
      | some (.map child) =>
        (setNestedFieldFrom value (seen ++ [field]) child fields).map (mapAssign m field <| .map ·)
      | some .null | none =>
        (setNestedFieldFrom value (seen ++ [field]) [] fields).map (mapAssign m field <| .map ·)
      | some _ => .error (.msg ("value cannot be set because " ++ jsonPath (seen ++ [field]) ++
          " is not a map[string]interface\x7b\x7d"))

/-- `unstructured.SetNestedField`: the map after the write, or the error. With no field, the
slice `fields[:len(fields)-1]` panics. -/
def setNestedField (obj : List (String × JSONValue)) (value : JSONValue) (fields : List String) :
    Except GoPanic (Except GoError (List (String × JSONValue))) :=
  if fields = [] then .error ⟨"runtime error: slice bounds out of range [:-1]"⟩
  else .ok (setNestedFieldFrom value [] obj fields)

/-! ## Objects and references -/

structure Unstructured where
  object : Option (List (String × JSONValue))

namespace Unstructured

def unstructuredContent (u : Unstructured) : List (String × JSONValue) := u.object.getD []

/-- The object after a call wrote `content` into the map `UnstructuredContent` returned: its
own map, or the fresh map of a nil `Object`, which nothing keeps. -/
def afterContentWrite (u : Unstructured) (content : List (String × JSONValue)) : Unstructured :=
  match u.object with
  | some _ => ⟨some content⟩
  | none => u

def getKind (u : Unstructured) : String := getNestedString u.unstructuredContent ["kind"]

def getAPIVersion (u : Unstructured) : String := getNestedString u.unstructuredContent ["apiVersion"]

def getNamespace (u : Unstructured) : String :=
  getNestedString u.unstructuredContent ["metadata", "namespace"]

def getName (u : Unstructured) : String := getNestedString u.unstructuredContent ["metadata", "name"]

end Unstructured

def goTypeName : Option JSONValue → String
  | none | some .null => "nil"
  | some (.bool _) => "bool"
  | some (.int64 _) => "int64"
  | some (.float64 _) => "float64"
  | some (.string _) => "string"
  | some (.slice _) => "[]interface \x7b\x7d"
  | some (.map _) => "map[string]interface \x7b\x7d"

def assertString : Option JSONValue → Except GoPanic String
  | some (.string s) => .ok s
  | v => .error ⟨"interface conversion: interface \x7b\x7d is " ++ goTypeName v ++ ", not string"⟩

/-- `getNestedRef`: the reference in the map at the path, if there is a map there. Its four
fields must be strings, or the type assertions panic. -/
def getNestedRef (obj : Option Unstructured) (fields : List String) :
    Except GoPanic (Option ObjectReference) :=
  match obj with
  | none => .ok none
  | some obj =>
    match nestedMap obj.unstructuredContent fields with
    | .ok (some ref) => do
      let kind ← assertString (ref.lookup "kind")
      let «namespace» ← assertString (ref.lookup "namespace")
      let name ← assertString (ref.lookup "name")
      let apiVersion ← assertString (ref.lookup "apiVersion")
      pure (some ⟨kind, «namespace», name, "", apiVersion, "", ""⟩)
    | _ => .ok none

def refMap (refObj : Unstructured) : List (String × JSONValue) :=
  [("kind", .string refObj.getKind), ("namespace", .string refObj.getNamespace),
    ("name", .string refObj.getName), ("apiVersion", .string refObj.getAPIVersion)]

def setNestedRef (obj refObj : Unstructured) (fields : List String) :
    Except GoPanic (Unstructured × Option GoError) :=
  (setNestedField obj.unstructuredContent (.map (refMap refObj)) fields).map fun
    | .ok content => (obj.afterContentWrite content, none)
    | .error e => (obj, some e)

/-! ## Round trip -/

@[simp] theorem nestedFieldFrom_nil (seen : List String) (val : JSONValue) :
    nestedFieldFrom seen val [] = .ok (some val) := by
  cases val <;> rfl

theorem nestedFieldFrom_map_cons {seen : List String} {m : List (String × JSONValue)}
    {field : String} {fields : List String} {val : JSONValue} (h : m.lookup field = some val) :
    nestedFieldFrom seen (.map m) (field :: fields) = nestedFieldFrom (seen ++ [field]) val fields := by
  simp only [nestedFieldFrom, h]

@[simp] theorem setNestedFieldFrom_single (value : JSONValue) (seen : List String)
    (m : List (String × JSONValue)) (field : String) :
    setNestedFieldFrom value seen m [field] = .ok (mapAssign m field value) := rfl

theorem setNestedFieldFrom_walk {value : JSONValue} {seen : List String}
    {m : List (String × JSONValue)} {field : String} {fields : List String}
    {r : Except GoError (List (String × JSONValue))} (hne : fields ≠ [])
    (h : setNestedFieldFrom value seen m (field :: fields) = r) :
    (∃ child, (m.lookup field = some (.map child) ∨
        child = [] ∧ (m.lookup field = some .null ∨ m.lookup field = none)) ∧
      r = (setNestedFieldFrom value (seen ++ [field]) child fields).map
        (mapAssign m field <| .map ·)) ∨
    (∃ val, m.lookup field = some val) ∧
      r = .error (.msg ("value cannot be set because " ++ jsonPath (seen ++ [field]) ++
        " is not a map[string]interface\x7b\x7d")) := by
  simp only [setNestedFieldFrom, if_neg hne] at h
  split at h
  · rename_i child hc
    exact .inl ⟨child, .inl hc, h.symm⟩
  · rename_i hc
    exact .inl ⟨[], .inr ⟨rfl, .inl hc⟩, h.symm⟩
  · rename_i hc
    exact .inl ⟨[], .inr ⟨rfl, .inr hc⟩, h.symm⟩
  · rename_i val _ _ _
    exact .inr ⟨⟨val, ‹_›⟩, h.symm⟩

theorem nestedFieldFrom_setNestedFieldFrom {value : JSONValue} {seen seen' : List String}
    {m m' : List (String × JSONValue)} {fields : List String} (hne : fields ≠ [])
    (h : setNestedFieldFrom value seen m fields = .ok m') :
    nestedFieldFrom seen' (.map m') fields = .ok (some value) := by
  induction fields generalizing seen seen' m m' with
  | nil => exact absurd rfl hne
  | cons field fields ih =>
    by_cases hf : fields = []
    · subst hf
      simp only [setNestedFieldFrom_single, Except.ok.injEq] at h
      subst h
      rw [nestedFieldFrom_map_cons (lookup_mapAssign _ _ _), nestedFieldFrom_nil]
    · rcases setNestedFieldFrom_walk hf h with ⟨child, -, hr⟩ | ⟨-, hr⟩
      · obtain ⟨child', hc, rfl⟩ := map_eq_ok hr.symm
        rw [nestedFieldFrom_map_cons (lookup_mapAssign _ _ _)]
        exact ih hf hc
      · cases hr

/-- **A reference `setNestedRef` writes, `getNestedRef` reads back**, on an object that has a
map: its kind, namespace, name and API version are those of `refObj`. -/
theorem getNestedRef_setNestedRef {obj refObj obj' : Unstructured} {fields : List String}
    (hobj : obj.object.isSome) (h : setNestedRef obj refObj fields = .ok (obj', none)) :
    getNestedRef (some obj') fields = .ok (some
      ⟨refObj.getKind, refObj.getNamespace, refObj.getName, "", refObj.getAPIVersion, "", ""⟩) := by
  obtain ⟨m, hm⟩ := Option.isSome_iff_exists.1 hobj
  by_cases hne : fields = []
  · simp [setNestedRef, setNestedField, hne, Except.map] at h
  obtain ⟨r, hr, h⟩ := map_eq_ok h
  simp only [setNestedField, hne, if_false, Except.ok.injEq] at hr
  subst hr
  cases hset : setNestedFieldFrom (.map (refMap refObj)) [] obj.unstructuredContent fields with
  | error e => simp [hset] at h
  | ok content =>
    simp only [hset, Prod.mk.injEq, Unstructured.afterContentWrite, hm] at h
    obtain ⟨rfl, -⟩ := h
    have hmap : nestedMap content fields = .ok (some (refMap refObj)) := by
      simp [nestedMap, nestedFieldNoCopy, nestedFieldFrom_setNestedFieldFrom hne hset]
    simp only [getNestedRef, Unstructured.unstructuredContent, Option.getD_some, hmap]
    rfl

/-! ## A nil map -/

theorem setNestedFieldFrom_nil_ok (value : JSONValue) (seen fields : List String) :
    ∃ m', setNestedFieldFrom value seen [] fields = .ok m' := by
  induction fields generalizing seen with
  | nil => exact ⟨_, rfl⟩
  | cons field fields ih =>
    by_cases hf : fields = []
    · subst hf
      exact ⟨_, rfl⟩
    · rcases setNestedFieldFrom_walk hf (rfl : setNestedFieldFrom value seen [] _ = _) with
        ⟨child, hchild, hr⟩ | ⟨⟨_, hv⟩, -⟩
      · obtain hc | ⟨rfl, -⟩ := hchild
        · cases hc
        obtain ⟨m', hm'⟩ := ih (seen ++ [field])
        exact ⟨_, by rw [hr, hm']; rfl⟩
      · cases hv

theorem setNestedRef_of_nil_object (refObj : Unstructured) {fields : List String}
    (hne : fields ≠ []) :
    setNestedRef ⟨none⟩ refObj fields = .ok (⟨none⟩, none) ∧
      getNestedRef (some ⟨none⟩) fields = .ok none := by
  obtain ⟨m', hm'⟩ := setNestedFieldFrom_nil_ok (.map (refMap refObj)) [] fields
  refine ⟨?_, ?_⟩
  · simp [setNestedRef, setNestedField, hne, Unstructured.unstructuredContent, hm',
      Except.map, Unstructured.afterContentWrite]
  · obtain ⟨f, fs, rfl⟩ := List.exists_cons_of_ne_nil hne
    rfl

def dockerClusterObj : Unstructured :=
  ⟨some [("apiVersion", .string "infrastructure.cluster.x-k8s.io/v1alpha4"),
    ("kind", .string "DockerCluster"),
    ("metadata", .map [("name", .string "my-cluster-abcde"), ("namespace", .string "default")])]⟩

/-- Setting `spec.infrastructureRef` of an `Unstructured` with a nil map returns nil, and no
reference can be read there afterwards. -/
theorem setNestedRef_loses_reference_on_empty_object :
    setNestedRef ⟨none⟩ dockerClusterObj ["spec", "infrastructureRef"] = .ok (⟨none⟩, none) ∧
      getNestedRef (some ⟨none⟩) ["spec", "infrastructureRef"] = .ok none :=
  setNestedRef_of_nil_object dockerClusterObj (List.cons_ne_nil _ _)

def clusterObj : Unstructured :=
  ⟨some [("apiVersion", .string "cluster.x-k8s.io/v1alpha4"), ("kind", .string "Cluster")]⟩

theorem clusterObj_infrastructureRef_round_trip :
    ∃ obj', setNestedRef clusterObj dockerClusterObj ["spec", "infrastructureRef"] =
        .ok (obj', none) ∧
      getNestedRef (some obj') ["spec", "infrastructureRef"] = .ok (some
        ⟨dockerClusterObj.getKind, dockerClusterObj.getNamespace, dockerClusterObj.getName, "",
          dockerClusterObj.getAPIVersion, "", ""⟩) :=
  ⟨_, rfl, getNestedRef_setNestedRef (show clusterObj.object.isSome from rfl) rfl⟩

end ClusterApi
