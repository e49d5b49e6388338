import Mathlib.Data.String.Basic

/-!
# Semantic versions

The part of `k8s.io/apimachinery/pkg/util/version` the upgrader and the operator rely on:
`ParseSemantic` and the order of versions, and the release series of a provider's
metadata (`clusterctlv1.Metadata`), which map a `major.minor` to a contract.
-/

namespace ClusterApi

structure SemVer where
  major : Nat
  minor : Nat
  patch : Nat
  preRelease : String
  deriving DecidableEq, Repr

def digitsValue (cs : List Char) : Nat :=
  cs.foldl (fun n c => 10 * n + (c.toNat - '0'.toNat)) 0

def parseComponent (cs : List Char) : Option Nat :=
  if cs = [] ∨ cs.any (!·.isDigit) ∨ (cs.head? = some '0' ∧ cs ≠ ['0']) then none
  else some (digitsValue cs)

/-- `version.ParseSemantic` on versions `[v]MAJOR.MINOR.PATCH[-PRERELEASE]`; build metadata
and surrounding blanks, which no version here carries, are not modelled. -/
def parseSemantic (str : String) : Option SemVer :=
  let s := match str.toList with
    | 'v' :: rest => rest
    | cs => cs
  let numbers := s.takeWhile fun c => c.isDigit || c == '.'
  let extra := s.drop numbers.length
  match numbers.splitOn '.' with
  | [ma, mi, pa] => do
    let major ← parseComponent ma
    let minor ← parseComponent mi
    let patch ← parseComponent pa
    match extra with
    | [] => some ⟨major, minor, patch, ""⟩
    | '-' :: pre => if pre = [] then none else some ⟨major, minor, patch, String.mk pre⟩
    | _ => none
  | _ => none

/-- `Version.LessThan`: numeric components first; on equal components a pre-release comes
before the release, and two pre-releases compare as strings. -/
def SemVer.lessThan (a b : SemVer) : Bool :=
  if a.major != b.major then a.major < b.major
  else if a.minor != b.minor then a.minor < b.minor
  else if a.patch != b.patch then a.patch < b.patch
  else if a.preRelease == b.preRelease then false
  else if a.preRelease == "" then false
  else if b.preRelease == "" then true
  else a.preRelease < b.preRelease

structure ReleaseSeries where
  major : Nat
  minor : Nat
  contract : String
  deriving DecidableEq, Repr

/-- Modelled from the spec: `Metadata.GetReleaseSeriesForVersion` (clusterctl API, not in
the sources), the series of the version's `major.minor`. -/
def getReleaseSeriesForVersion (releaseSeries : List ReleaseSeries) (v : SemVer) :
    Option ReleaseSeries :=
  releaseSeries.find? fun r => r.major == v.major && r.minor == v.minor

end ClusterApi
