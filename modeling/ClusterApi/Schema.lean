import Mathlib.Data.List.Defs

/-!
# Group versions, object references and data objects

The pieces of `k8s.io/apimachinery` the webhooks and the kubeadm mappers call:
`schema.ParseGroupVersion`, the group-version-kind of an object reference, and the
string tests they make; and the ConfigMaps and Secrets whose data the controllers read.
Strings are taken apart as lists of characters, so that every function here evaluates by
`decide`.
-/

namespace ClusterApi

structure GroupVersion where
  group : String
  version : String
  deriving DecidableEq, Repr

structure GroupVersionKind where
  group : String
  version : String
  kind : String
  deriving DecidableEq, Repr

structure GroupKind where
  group : String
  kind : String
  deriving DecidableEq, Repr

def GroupVersion.withKind (gv : GroupVersion) (kind : String) : GroupVersionKind :=
  ⟨gv.group, gv.version, kind⟩

def GroupVersionKind.groupKind (gvk : GroupVersionKind) : GroupKind := ⟨gvk.group, gvk.kind⟩

/-- `schema.ParseGroupVersion`: the empty string and `/` are the empty group version; no
slash is a version of the core group, one slash separates group and version, more is an
error. -/
def parseGroupVersion (gv : String) : Except String GroupVersion :=
  if gv = "" ∨ gv = "/" then .ok ⟨"", ""⟩
  else match gv.toList.splitOn '/' with
    | [version] => .ok ⟨"", String.mk version⟩
    | [group, version] => .ok ⟨String.mk group, String.mk version⟩
    | _ => .error ("unexpected GroupVersion string: " ++ gv)

def fromAPIVersionAndKind (apiVersion kind : String) : GroupVersionKind :=
  match parseGroupVersion apiVersion with
  | .ok gv => gv.withKind kind
  | .error _ => ⟨"", "", kind⟩

structure ObjectReference where
  kind : String
  «namespace» : String
  name : String
  uid : String
  apiVersion : String
  resourceVersion : String
  fieldPath : String
  deriving DecidableEq, Repr

def ObjectReference.groupVersionKind (ref : ObjectReference) : GroupVersionKind :=
  fromAPIVersionAndKind ref.apiVersion ref.kind

structure ConfigMap where
  name : String
  «namespace» : String
  data : List (String × String)
  deriving DecidableEq, Repr

structure Secret where
  name : String
  «namespace» : String
  data : List (String × String)
  deriving DecidableEq, Repr

def hasSuffixLower (s suffix : String) : Bool :=
  suffix.toList.isSuffixOf (s.toList.map Char.toLower)

end ClusterApi
