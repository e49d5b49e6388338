import ClusterApi.JsonDecoder
import ClusterApi.Unstructured

/-!
# Reading a machines file

`ParseMachinesYaml` of the v1alpha1 deployer reads the machines of a file in two passes over
one `YAMLOrJSONDecoder`: the items of every `MachineList` document, by `decodeMachineLists`,
then, after seeking the file back to its start, every document of kind `Machine`, by
`decodeClusterV1Kinds`. Both loop on `Decode` until it returns `io.EOF`;
`decodeClusterV1Kinds` also stops at any other error, `decodeMachineLists` does not.

What is left to read bounds both loops, and a failed `Decode` fails again at every later
call. So the YAML path, whose only error is `io.EOF`, always ends, and so does
`decodeClusterV1Kinds`. On a JSON stream `ParseMachinesYaml` returns exactly when
`decodeMachineLists` does, and on a JSON machines file cut off inside a value `Decode`
returns `io.ErrUnexpectedEOF` at every call, so `ParseMachinesYaml` does not return.

`ParseClusterYaml` reads the first document of kind `Cluster` with `decodeClusterV1Kinds`;
it always returns, and on a file that has none `bytes[0]` panics.
-/

namespace ClusterApi

structure MachineList (Machine : Type) where
  items : List Machine

def schemeGroupVersion : String := "cluster.k8s.io/v1alpha1"

def stringsContains (s substr : String) : Bool :=
  s.toList.tails.any fun t => substr.toList.isPrefixOf t

def isMissingKind (err : GoError) : Bool :=
  stringsContains err.error "Object \x27Kind\x27 is missing in"

/-- `decodeMachineLists`, for at most `fuel` rounds of its loop: the items of every list
decoded, until `Decode` returns `io.EOF`; any other error is passed over. -/
def decodeMachineLists {Machine : Type} (decodeList : Document → MachineList Machine × Option GoError) :
    Nat → YAMLOrJSONDecoder → List Machine → Option (List Machine × YAMLOrJSONDecoder)
  | 0, _, _ => none
  | fuel + 1, d, outs =>
    match decodeInto decodeList ⟨[]⟩ d with
    | ((_, some .eof), d') => some (outs, d')
    | ((out, _), d') => decodeMachineLists decodeList fuel d' (outs ++ out.items)

section MachineLists

variable {Machine : Type} {decodeList : Document → MachineList Machine × Option GoError}
  {fuel : Nat} {d : YAMLOrJSONDecoder} {outs : List Machine}

theorem decodeMachineLists_of_eof (h : d.decode.1 = .error .eof) :
    decodeMachineLists decodeList (fuel + 1) d outs = some (outs, d.decode.2) := by
  simp [decodeMachineLists, decodeInto_of_error h]

theorem decodeMachineLists_of_error {e : DecodeError} (h : d.decode.1 = .error e) (he : e ≠ .eof) :
    decodeMachineLists decodeList (fuel + 1) d outs = decodeMachineLists decodeList fuel d.decode.2 outs := by
  rw [decodeMachineLists, decodeInto_of_error h]
  cases e with
  | eof => exact absurd rfl he
  | _ => simp

theorem decodeMachineLists_of_ok {doc : Document} (h : d.decode.1 = .ok doc) :
    decodeMachineLists decodeList (fuel + 1) d outs =
      decodeMachineLists decodeList fuel d.decode.2 (outs ++ (decodeList doc).1.items) := by
  rw [decodeMachineLists, decodeInto_of_ok h]
  rcases decodeList doc with ⟨out, _ | g⟩
  · rfl
  · cases doc <;> rfl

theorem decodeMachineLists_of_stuck {e : DecodeError} (he : e ≠ .eof) :
    ∀ fuel (d : YAMLOrJSONDecoder) outs, d.decode.1 = .error e →
      decodeMachineLists decodeList fuel d outs = none
  | 0, _, _, _ => rfl
  | fuel + 1, d, outs, h => by
    rw [decodeMachineLists_of_error h he]
    exact decodeMachineLists_of_stuck he fuel _ outs (by rw [YAMLOrJSONDecoder.decode_error_again h])

theorem decodeMachineLists_some {ms : List Machine} {d' : YAMLOrJSONDecoder} :
    ∀ {fuel d outs}, decodeMachineLists decodeList fuel d outs = some (ms, d') →
      d'.decode.1 = .error .eof ∧ d'.stream = d.stream ∧ d'.chosen.isJson = d.chosen.isJson
  | 0, _, _, h => nomatch h
  | fuel + 1, d, outs, h => by
    rcases hd : d.decode.1 with e | doc
    · by_cases he : e = .eof
      · subst he
        rw [decodeMachineLists_of_eof hd] at h
        cases h
        exact ⟨by rw [YAMLOrJSONDecoder.decode_error_again hd], rfl, by simp [YAMLOrJSONDecoder.decode]⟩
      · rw [decodeMachineLists_of_error hd he] at h
        simpa [YAMLOrJSONDecoder.decode] using decodeMachineLists_some h
    · rw [decodeMachineLists_of_ok hd] at h
      simpa [YAMLOrJSONDecoder.decode] using decodeMachineLists_some h

theorem decodeMachineLists_yaml_ends (d : YAMLOrJSONDecoder) (outs : List Machine)
    (hy : d.chosen.isJson = false) :
    ∀ fuel, d.pending < fuel → decodeMachineLists decodeList fuel d outs ≠ none := by
  obtain ⟨lines, hl⟩ : ∃ lines, d.chosen = .yaml lines := by
    cases h : d.chosen <;> simp_all [ChosenDecoder.isJson]
  intro fuel hf
  obtain ⟨fuel, rfl⟩ : ∃ k, fuel = k + 1 := ⟨fuel - 1, by omega⟩
  rcases hd : d.decode.1 with e | doc
  · obtain rfl : e = .eof := (ChosenDecoder.decode_yaml lines).2 e (by rw [← hl]; exact hd)
    simp [decodeMachineLists_of_eof hd]
  · have hlt := YAMLOrJSONDecoder.decode_ok_pending hd
    rw [decodeMachineLists_of_ok hd]
    exact decodeMachineLists_yaml_ends d.decode.2 _ (by simp [YAMLOrJSONDecoder.decode, hy]) fuel
      (by omega)
termination_by d.pending

end MachineLists

/-- `decodeClusterV1Kinds`, for at most `fuel` rounds of its loop: the JSON of every document
of the given kind and of the v1alpha1 API, until `Decode` returns `io.EOF`; on another error
of `Decode` nothing, and on an error of `MarshalJSON` what was collected before it. -/
def decodeClusterV1Kinds (decodeUnstructured : Document → Unstructured × Option GoError)
    (marshalJSON : Unstructured → Except GoError (List UInt8)) (kind : String) :
    Nat → YAMLOrJSONDecoder → List (List UInt8) → Option (List (List UInt8) × Option GoError)
  | 0, _, _ => none
  | fuel + 1, d, outs =>
    match decodeInto decodeUnstructured ⟨none⟩ d with
    | ((_, some .eof), _) => some (outs, none)
    | ((_, some e), _) => some ([], some e.toGoError)
    | ((out, none), d') =>
      if out.getKind = kind ∧ out.getAPIVersion = schemeGroupVersion then
        match marshalJSON out with
        | .error e => some (outs, some e)
        | .ok marshaled =>
          decodeClusterV1Kinds decodeUnstructured marshalJSON kind fuel d' (outs ++ [marshaled])
      else decodeClusterV1Kinds decodeUnstructured marshalJSON kind fuel d' outs

theorem decodeClusterV1Kinds_ends {decodeUnstructured : Document → Unstructured × Option GoError}
    {marshalJSON : Unstructured → Except GoError (List UInt8)} {kind : String}
    (d : YAMLOrJSONDecoder) (outs : List (List UInt8)) :
    ∀ fuel, d.pending < fuel →
      decodeClusterV1Kinds decodeUnstructured marshalJSON kind fuel d outs ≠ none := by
  intro fuel hf
  obtain ⟨fuel, rfl⟩ : ∃ k, fuel = k + 1 := ⟨fuel - 1, by omega⟩
  rw [decodeClusterV1Kinds]
  rcases hd : d.decode.1 with e | doc
  · rw [decodeInto_of_error hd]
    cases e <;> simp
  · have hlt := YAMLOrJSONDecoder.decode_ok_pending hd
    have ih : ∀ outs', decodeClusterV1Kinds decodeUnstructured marshalJSON kind fuel d.decode.2 outs' ≠ none :=
      fun outs' => decodeClusterV1Kinds_ends d.decode.2 outs' fuel (by omega)
    rw [decodeInto_of_ok hd]
    rcases decodeUnstructured doc with ⟨out, _ | g⟩
    · dsimp only [Option.map]
      split
      · split
        · simp
        · exact ih _
      · exact ih outs
    · cases doc <;> simp [Document.wrapError]
termination_by d.pending

/-- `reader.Seek(0, 0)` under a decoder that has read its stream to the end. The buffered
readers under the YAML reader hold nothing and read the file again from its start; the JSON
decoder keeps its error and reads nothing more. -/
def YAMLOrJSONDecoder.seekStart (d : YAMLOrJSONDecoder) : YAMLOrJSONDecoder :=
  match d.chosen with
  | .yaml _ => { d with decoder := some (.yaml (bufioLines d.stream)) }
  | .json _ => d

theorem YAMLOrJSONDecoder.seekStart_json {d : YAMLOrJSONDecoder} (h : d.chosen.isJson = true) :
    d.seekStart = d := by
  cases hc : d.chosen <;> simp_all [YAMLOrJSONDecoder.seekStart, ChosenDecoder.isJson]

theorem YAMLOrJSONDecoder.seekStart_yaml {d : YAMLOrJSONDecoder} (h : d.chosen.isJson = false) :
    d.seekStart.pending = (bufioLines d.stream).length := by
  cases hc : d.chosen <;>
    simp_all [YAMLOrJSONDecoder.seekStart, ChosenDecoder.isJson, YAMLOrJSONDecoder.pending,
      ChosenDecoder.pending]

theorem guessJSONStream_isJson (stream : List UInt8) :
    (guessJSONStream stream).isJson = hasJSONPrefix (stream.take 32) := by
  unfold guessJSONStream
  split <;> simp_all [ChosenDecoder.isJson]

structure MachineCodecs (Machine : Type) where
  decodeList : Document → MachineList Machine × Option GoError
  decodeUnstructured : Document → Unstructured × Option GoError
  marshalJSON : Unstructured → Except GoError (List UInt8)
  unmarshalMachine : List UInt8 → Except GoError Machine

def discardingCodecs : MachineCodecs Unit :=
  ⟨fun _ => (⟨[]⟩, none), fun _ => (⟨none⟩, none), fun _ => .ok [], fun _ => .ok ()⟩

def yamlFile : List UInt8 :=
  ("kind: Cluster\napiVersion: cluster.k8s.io/v1alpha1\nmetadata: \x7b\x7d\n").toList.map
    fun c => c.toNat.toUInt8

/-- `ParseClusterYaml`, for at most `fuel` rounds of the loop. `file` is what `os.Open` gives;
the first document of kind `Cluster` is unmarshalled by `unmarshalCluster`. A file read to its
end without one leaves `bytes` empty, and `bytes[0]` panics. -/
def parseClusterYaml {Cluster : Type} (decodeUnstructured : Document → Unstructured × Option GoError)
    (marshalJSON : Unstructured → Except GoError (List UInt8))
    (unmarshalCluster : List UInt8 → Except GoError Cluster) (file : Except GoError (List UInt8))
    (fuel : Nat) : Option (Except GoPanic (Except GoError Cluster)) :=
  match file with
  | .error e => some (.ok (.error e))
  | .ok stream =>
    (decodeClusterV1Kinds decodeUnstructured marshalJSON "Cluster" fuel (newYAMLOrJSONDecoder stream)
        []).map fun (bytes, err) =>
      match err, bytes with
      | some e, _ => .ok (.error e)
      | none, [] => .error ⟨"runtime error: index out of range [0] with length 0"⟩
      | none, b :: _ => .ok (unmarshalCluster b)

section ParseClusterYaml

variable {Cluster : Type} {decodeUnstructured : Document → Unstructured × Option GoError}
  {marshalJSON : Unstructured → Except GoError (List UInt8)}
  {unmarshalCluster : List UInt8 → Except GoError Cluster} {stream : List UInt8} {fuel : Nat}

/-- `ParseClusterYaml` returns on every file, given one round more than there is to read. -/
theorem parseClusterYaml_ends (hf : (newYAMLOrJSONDecoder stream).pending < fuel) :
    parseClusterYaml decodeUnstructured marshalJSON unmarshalCluster (.ok stream) fuel ≠ none := by
  simpa [parseClusterYaml] using decodeClusterV1Kinds_ends (newYAMLOrJSONDecoder stream) [] fuel hf

end ParseClusterYaml

theorem yamlFile_cluster_ends :
    (newYAMLOrJSONDecoder yamlFile).pending < 4 ∧
      parseClusterYaml discardingCodecs.decodeUnstructured discardingCodecs.marshalJSON
        discardingCodecs.unmarshalMachine (.ok yamlFile) 4 ≠ none :=
  ⟨by decide, parseClusterYaml_ends (by decide)⟩

/-- `ParseMachinesYaml`, for at most `fuel` rounds of each loop. `file` is what `os.Open`
gives: the bytes of the file, or the error. The machines of kind `Machine` come first, then
the items of the lists; a missing kind is no error. -/
def parseMachinesYaml {Machine : Type} (codecs : MachineCodecs Machine)
    (file : Except GoError (List UInt8)) (fuel : Nat) : Option (Except GoError (List Machine)) :=
  match file with
  | .error e => some (.error e)
  | .ok stream =>
    (decodeMachineLists codecs.decodeList fuel (newYAMLOrJSONDecoder stream) []).bind
      fun (machineList, d) =>
        (decodeClusterV1Kinds codecs.decodeUnstructured codecs.marshalJSON "Machine" fuel
            d.seekStart []).map fun (bytes, err) => do
          if let some e := err then
            if !isMissingKind e then throw e
          let machines ← bytes.mapM codecs.unmarshalMachine
          pure (machines ++ machineList)

section ParseMachinesYaml

variable {Machine : Type} (codecs : MachineCodecs Machine) (stream : List UInt8)

/-- A machines file that does not start with `{` is read as YAML, and `ParseMachinesYaml`
returns on it, given one round of each loop more than the file has lines. -/
theorem parseMachinesYaml_yaml_ends (hy : hasJSONPrefix (stream.take 32) = false) (fuel : Nat)
    (hf : (bufioLines stream).length < fuel) : parseMachinesYaml codecs (.ok stream) fuel ≠ none := by
  have hc : (newYAMLOrJSONDecoder stream).chosen = .yaml (bufioLines stream) := by
    simp [newYAMLOrJSONDecoder, YAMLOrJSONDecoder.chosen, guessJSONStream, hy]
  have hl : decodeMachineLists codecs.decodeList fuel (newYAMLOrJSONDecoder stream) [] ≠ none :=
    decodeMachineLists_yaml_ends _ [] (by simp [hc, ChosenDecoder.isJson]) fuel
      (by simpa [YAMLOrJSONDecoder.pending, hc, ChosenDecoder.pending] using hf)
  obtain ⟨⟨ms, d'⟩, hm⟩ := Option.ne_none_iff_exists'.mp hl
  obtain ⟨-, hs, hj⟩ := decodeMachineLists_some hm
  have hk : decodeClusterV1Kinds codecs.decodeUnstructured codecs.marshalJSON "Machine" fuel
      d'.seekStart [] ≠ none :=
    decodeClusterV1Kinds_ends _ [] fuel (by
      rw [YAMLOrJSONDecoder.seekStart_yaml (by rw [hj, hc]; rfl), hs]
      exact hf)
  simpa [parseMachinesYaml, hm] using hk

theorem yamlFile_machines_end :
    hasJSONPrefix (yamlFile.take 32) = false ∧ (bufioLines yamlFile).length < 4 ∧
      parseMachinesYaml discardingCodecs (.ok yamlFile) 4 ≠ none :=
  ⟨by decide, by decide, parseMachinesYaml_yaml_ends discardingCodecs yamlFile (by decide) 4 (by decide)⟩

theorem parseMachinesYaml_json_none_iff (hj : hasJSONPrefix (stream.take 32) = true) (fuel : Nat) :
    parseMachinesYaml codecs (.ok stream) fuel = none ↔
      decodeMachineLists codecs.decodeList fuel (newYAMLOrJSONDecoder stream) [] = none := by
  rcases hm : decodeMachineLists codecs.decodeList fuel (newYAMLOrJSONDecoder stream) [] with
    _ | ⟨ms, d'⟩
  · simp [parseMachinesYaml, hm]
  · obtain ⟨heof, -, hjs⟩ := decodeMachineLists_some hm
    have hseek : d'.seekStart = d' := YAMLOrJSONDecoder.seekStart_json (by
      rw [hjs]
      simpa [newYAMLOrJSONDecoder, YAMLOrJSONDecoder.chosen, guessJSONStream_isJson] using hj)
    cases fuel with
    | zero => cases hm
    | succ fuel => simp [parseMachinesYaml, hm, hseek, decodeClusterV1Kinds, decodeInto_of_error heof]

end ParseMachinesYaml

/-- A JSON machines file cut off inside its list of items; its text is ASCII, so its bytes
are its characters. -/
def truncatedMachineList : List UInt8 :=
  ("\x7b\"apiVersion\": \"cluster.k8s.io/v1alpha1\", \"kind\": \"MachineList\", \"items\": [").toList.map
    fun c => c.toNat.toUInt8

/-- On a truncated JSON machines file, whatever the documents unmarshal into, the first
`Decode` returns `io.ErrUnexpectedEOF` and so does every later one: `decodeMachineLists`
never sees `io.EOF`, and `ParseMachinesYaml` does not return, for any number of rounds. -/
theorem parseMachinesYaml_diverges_on_truncated_json {Machine : Type} (codecs : MachineCodecs Machine)
    (fuel : Nat) :
    decodeMachineLists codecs.decodeList fuel (newYAMLOrJSONDecoder truncatedMachineList) [] = none ∧
      parseMachinesYaml codecs (.ok truncatedMachineList) fuel = none := by
  have hd : (newYAMLOrJSONDecoder truncatedMachineList).decode.1 = .error .unexpectedEOF := by rfl
  have hm : decodeMachineLists codecs.decodeList fuel (newYAMLOrJSONDecoder truncatedMachineList) [] =
      none := decodeMachineLists_of_stuck (by decide) fuel _ [] hd
  exact ⟨hm, (parseMachinesYaml_json_none_iff codecs _ (by decide) fuel).2 hm⟩

end ClusterApi
