/-
What `load_cluster_config` promises about the document in a file, and the
documents for which it does not keep the promise: those that are no object,
those with `true` for a port, and those that `json.loads` does not get through.
-/

import ImagePipeline.Benchmark.NodeConfig

namespace ImagePipeline.Properties.ClusterValidation

open Common Benchmark

def PositivePort (port : Json) : Prop := ∃ value : Int, 0 < value ∧ port = .int value

/-- A configuration that is returned is the valid one of the document, a refusal
is a `ValueError`, and what describes a valid configuration is accepted. -/
structure ValidationExact (decoder : JsonDecoder) (path text : Str) : Prop where
  sound : ∀ cluster, loadClusterConfig decoder path (some text) = .ok cluster →
    ∃ document, Denotes decoder text document ∧
      Describes document cluster ∧ ValidCluster PositivePort cluster
  raises : ∀ raised, loadClusterConfig decoder path (some text) = .error raised →
    raised.isValueError = true
  complete : ∀ document cluster, Denotes decoder text document →
    Describes document cluster → ValidCluster PositivePort cluster →
    loadClusterConfig decoder path (some text) = .ok cluster

/-- Some node of an otherwise valid document has `true` for its port. -/
def TruePort (document : Json) : Prop :=
  ∃ cluster, Describes document cluster ∧ ValidCluster AcceptedPort cluster ∧
    ∃ node ∈ cluster.nodes, node.sshPort = .bool true

/-- The document would be accepted if all the digits in it were read. -/
def ValidBeyondDigits (decoder : JsonDecoder) (text : Str) : Prop :=
  jsonLoads decoder text = .error .valueError ∧
    ∃ document cluster, Denotes decoder text document ∧ Describes document cluster ∧
      ValidCluster PositivePort cluster

variable {decoder : JsonDecoder} {path text : Str}

theorem acceptedPort_iff {port : Json} :
    AcceptedPort port ↔ PositivePort port ∨ port = .bool true := isPositiveInt_iff

theorem ValidationExact.no_truePort {document : Json} (exact : ValidationExact decoder path text)
    (loaded : jsonLoads decoder text = .ok document) : ¬ TruePort document := by
  intro ⟨cluster, describes, valid, node, member, truePort⟩
  have returned : loadClusterConfig decoder path (some text) = .ok cluster := by
    rw [loadClusterConfig_of_loads loaded]
    exact parseCluster_ok.mpr ⟨describes, valid⟩
  obtain ⟨_, _, _, positive⟩ := exact.sound cluster returned
  obtain ⟨value, _, isInt⟩ := (positive.nodes node member).sshPort
  rw [truePort] at isInt
  cases isInt

theorem ValidationExact.isObject {document : Json} (exact : ValidationExact decoder path text)
    (loaded : jsonLoads decoder text = .ok document) : ∃ fields, document = .obj fields := by
  cases document with
  | obj fields => exact ⟨fields, rfl⟩
  | null | bool | int | float | str | arr =>
      have impossible := exact.raises .attributeError (by rw [loadClusterConfig_of_loads loaded]; rfl)
      cases impossible

/-- Once `json.loads` gives an object without such a port, validation is exact. -/
theorem exact_of_loads {fields : Dict} (loaded : jsonLoads decoder text = .ok (.obj fields))
    (noTruePort : ¬ TruePort (.obj fields)) : ValidationExact decoder path text := by
  constructor <;> rw [loadClusterConfig_of_loads loaded]
  · intro cluster returned
    obtain ⟨describes, valid⟩ := parseCluster_ok.mp returned
    refine ⟨.obj fields, denotes_of_loads loaded, describes,
      valid.mono fun node member accepted => ?_⟩
    rcases acceptedPort_iff.mp accepted with positive | isTrue
    · exact positive
    · exact absurd ⟨cluster, describes, valid, node, member, isTrue⟩ noTruePort
  · intro raised failed
    obtain ⟨_, rfl⟩ := parseCluster_error failed
    rfl
  · intro document cluster denotes describes valid
    cases denotes.unique (denotes_of_loads loaded)
    refine parseCluster_ok.mpr ⟨describes, valid.mono fun node _ positive => ?_⟩
    exact acceptedPort_iff.mpr (.inl positive)

/-- What `json.loads` raises is raised, and nothing is returned. -/
theorem exact_of_raises {raised : LoadsError} (failed : jsonLoads decoder text = .error raised)
    (noRecursion : raised ≠ .recursionError)
    (nothing : ∀ document cluster, Denotes decoder text document →
      Describes document cluster → ¬ ValidCluster PositivePort cluster) :
    ValidationExact decoder path text := by
  constructor <;> rw [loadClusterConfig_of_raises failed]
  · intro cluster impossible
    cases impossible
  · intro other same
    cases same
    exact decide_eq_true noRecursion
  · intro document cluster denotes describes valid
    exact absurd valid (nothing document cluster denotes describes)

theorem validation_exact_iff (decoder : JsonDecoder) (path text : Str) :
    ValidationExact decoder path text ↔
      jsonLoads decoder text ≠ .error .recursionError ∧
      ¬ ValidBeyondDigits decoder text ∧
      ∀ document, jsonLoads decoder text = .ok document →
        (∃ fields, document = .obj fields) ∧ ¬ TruePort document := by
  constructor
  · intro exact
    refine ⟨fun failed => ?_, fun ⟨failed, document, cluster, denotes, describes, valid⟩ => ?_,
      fun document loaded => ⟨exact.isObject loaded, exact.no_truePort loaded⟩⟩
    · have impossible := exact.raises _ (loadClusterConfig_of_raises failed)
      cases impossible
    · have accepted := exact.complete document cluster denotes describes valid
      rw [loadClusterConfig_of_raises failed] at accepted
      cases accepted
  · intro ⟨noRecursion, digits, objects⟩
    cases loaded : jsonLoads decoder text with
    | ok document =>
        obtain ⟨⟨fields, rfl⟩, noTruePort⟩ := objects document loaded
        exact exact_of_loads loaded noTruePort
    | error raised =>
        refine exact_of_raises loaded (fun recursion => noRecursion (recursion ▸ loaded)) ?_
        intro document cluster denotes describes valid
        cases raised with
        | recursionError => exact noRecursion loaded
        | jsonDecodeError => exact not_denotes_of_decodeError loaded denotes
        | valueError => exact digits ⟨loaded, document, cluster, denotes, describes, valid⟩

def labDecoder : JsonDecoder := { recursionLimit := 990, floatOfStr := fun _ => .finite 0 }

/-- One node, and its port is `true`. -/
def truePortText : Str :=
  str "\x7b\"name\": \"lab\", \"api_url\": \"http://10.0.0.1:8000\", " ++
    str "\"nodes\": [\x7b\"name\": \" main-1 \", \"role\": \"main\", " ++
    str "\"host\": \"10.0.0.1\", \"ssh_user\": \"bench\", \"ssh_port\": true\x7d]\x7d"

def isTrue : Json → Bool
  | .bool value => value
  | _ => false

def returnsTruePort : Except ConfigError ClusterConfig → Bool
  | .ok cluster => cluster.nodes.any (fun node => isTrue node.sshPort)
  | .error _ => false

theorem returnsTruePort_iff {returned : Except ConfigError ClusterConfig} :
    returnsTruePort returned = true ↔
      ∃ cluster, returned = .ok cluster ∧ ∃ node ∈ cluster.nodes, node.sshPort = .bool true := by
  cases returned with
  | error raised => simp [returnsTruePort]
  | ok cluster =>
      have atPort (port : Json) : isTrue port = true ↔ port = .bool true := by
        cases port <;> simp [isTrue]
      simp [returnsTruePort, atPort]

/-- A list has no `get`, and a port may be `true`. -/
theorem list_and_truePort_mishandled :
    loadClusterConfig labDecoder (str "lab.json") (some (str "[]")) = .error .attributeError ∧
    ¬ ValidationExact labDecoder (str "lab.json") (str "[]") ∧
    (∃ cluster, loadClusterConfig labDecoder (str "lab.json") (some truePortText) = .ok cluster ∧
      ∃ node ∈ cluster.nodes, node.sshPort = .bool true) ∧
    ¬ ValidationExact labDecoder (str "lab.json") truePortText := by
  have accepted := returnsTruePort_iff.mp (show returnsTruePort
    (loadClusterConfig labDecoder (str "lab.json") (some truePortText)) = true by decide +kernel)
  refine ⟨rfl, fun exact => ?_, accepted, fun exact => ?_⟩
  · have impossible := exact.raises .attributeError rfl
    cases impossible
  · obtain ⟨cluster, returned, node, member, truePort⟩ := accepted
    obtain ⟨_, _, _, valid⟩ := exact.sound cluster returned
    obtain ⟨value, _, isInt⟩ := (valid.nodes node member).sshPort
    rw [truePort] at isInt
    cases isInt

end ImagePipeline.Properties.ClusterValidation
