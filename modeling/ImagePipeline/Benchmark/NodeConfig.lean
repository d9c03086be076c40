/-
`node_config.py`: a cluster document is read into a `ClusterConfig`, or refused.
What a document says and what a configuration must satisfy are stated apart;
the loader accepts exactly where both meet.
-/

import ImagePipeline.Common.JsonLoads
import ImagePipeline.Common.Text
import ImagePipeline.Library.Itemwise
import Mathlib.Data.List.Dedup

namespace ImagePipeline.Benchmark

open Common
open Library (bind_ok_iff raises_bind)

structure NodeConfig where
  name : Str
  role : Str
  host : Str
  sshUser : Str
  /-- An `int`, among which Python counts `True`. -/
  sshPort : Json
  projectDir : Str

structure ClusterConfig where
  name : Str
  apiUrl : Str
  nodes : List NodeConfig

/-- What the loader raises; what `json.loads` raises comes out as it is. -/
inductive ConfigError where
  | fileNotFoundError (message : Str)
  | loads (raised : LoadsError)
  | valueError (message : Str)
  | attributeError

def requireNonEmptyString (raw : Dict) (key context : Str) : Except ConfigError Str :=
  match raw.get? key with
  | some (.str value) =>
      if strip value = [] then
        .error (.valueError (str "'" ++ key ++ str "' in " ++ context ++
          str " must be a non-empty string"))
      else .ok (strip value)
  | _ =>
      .error (.valueError (str "'" ++ key ++ str "' in " ++ context ++
        str " must be a non-empty string"))

/-- `isinstance(value, int) and value > 0`. -/
def isPositiveInt : Json → Bool
  | .int value => 0 < value
  | .bool value => value
  | _ => false

def defaultPort : Json := .int 22

def defaultProjectDir : Str := str "~/image-pipeline"

def parseNode (raw : Json) (index : Nat) : Except ConfigError NodeConfig :=
  match raw with
  | .obj raw => do
      let context := str "node " ++ natDigits index
      let name ← requireNonEmptyString raw (str "name") context
      let role ← requireNonEmptyString raw (str "role") context
      let host ← requireNonEmptyString raw (str "host") context
      let sshUser ← requireNonEmptyString raw (str "ssh_user") context
      if role ∉ [str "main", str "worker"] then
        .error (.valueError (str "'role' for node '" ++ name ++
          str "' must be either 'main' or 'worker'"))
      else
        let sshPort := Dict.getD raw (str "ssh_port") defaultPort
        if isPositiveInt sshPort = false then
          .error (.valueError (str "'ssh_port' for node '" ++ name ++
            str "' must be a positive integer"))
        else
          match Dict.getD raw (str "project_dir") (.str defaultProjectDir) with
          | .str projectDir =>
              if strip projectDir = [] then
                .error (.valueError (str "'project_dir' for node '" ++ name ++
                  str "' must be a non-empty string"))
              else
                .ok
                  { name := name
                    role := role
                    host := host
                    sshUser := sshUser
                    sshPort := sshPort
                    projectDir := projectDir }
          | _ =>
              .error (.valueError (str "'project_dir' for node '" ++ name ++
                str "' must be a non-empty string"))
  | _ =>
      .error (.valueError (str "Node at index " ++ natDigits index ++ str " must be an object"))

/-- `[parse_node(node, index) for index, node in enumerate(raw_nodes)]`. -/
def parseNodes : (index : Nat) → List Json → Except ConfigError (List NodeConfig)
  | _, [] => .ok []
  | index, raw :: rest => do
      let node ← parseNode raw index
      let nodes ← parseNodes (index + 1) rest
      .ok (node :: nodes)

def isMain (node : NodeConfig) : Bool := node.role = str "main"

def isWorker (node : NodeConfig) : Bool := node.role = str "worker"

/-- `load_cluster_config` from the value of the document on: only a dictionary
has a `get`. -/
def parseCluster (document : Json) : Except ConfigError ClusterConfig :=
  match document with
  | .obj raw => do
      let name ← requireNonEmptyString raw (str "name") (str "cluster config")
      let apiUrl ← requireNonEmptyString raw (str "api_url") (str "cluster config")
      match Dict.get? raw (str "nodes") with
      | some (.arr (first :: rest)) => do
          let nodes ← parseNodes 0 (first :: rest)
          let nodeNames := nodes.map NodeConfig.name
          if nodeNames.length ≠ nodeNames.dedup.length then
            .error (.valueError (str "Every node must have a unique name"))
          else if (nodes.filter isMain).length ≠ 1 then
            .error (.valueError
              (str "Cluster config must contain exactly one node with role='main'"))
          else .ok { name := name, apiUrl := apiUrl, nodes := nodes }
      | _ => .error (.valueError (str "'nodes' must be a non-empty list"))
  | _ => .error .attributeError

/-- `file` is the text of the file at the path, where there is one. -/
def loadClusterConfig (decoder : JsonDecoder) (path : Str) (file : Option Str) :
    Except ConfigError ClusterConfig :=
  match file with
  | none => .error (.fileNotFoundError (str "Cluster config not found: " ++ path))
  | some text =>
      match jsonLoads decoder text with
      | .error raised => .error (.loads raised)
      | .ok document => parseCluster document

/-- `isinstance(raised, ValueError)`; a `JSONDecodeError` is one. -/
def ConfigError.isValueError : ConfigError → Bool
  | .valueError _ => true
  | .loads raised => raised ≠ .recursionError
  | _ => false

/-! ### What a document says -/

def Field (raw : Dict) (key text : Str) : Prop :=
  ∃ value, raw.get? key = some (.str value) ∧ strip value = text

structure DescribesNode (raw : Dict) (node : NodeConfig) : Prop where
  name : Field raw (str "name") node.name
  role : Field raw (str "role") node.role
  host : Field raw (str "host") node.host
  sshUser : Field raw (str "ssh_user") node.sshUser
  sshPort : Dict.getD raw (str "ssh_port") defaultPort = node.sshPort
  projectDir : Dict.getD raw (str "project_dir") (.str defaultProjectDir) = .str node.projectDir

structure Describes (document : Json) (cluster : ClusterConfig) : Prop where
  described : ∃ raw items, document = .obj raw ∧
    Field raw (str "name") cluster.name ∧ Field raw (str "api_url") cluster.apiUrl ∧
    Dict.get? raw (str "nodes") = some (.arr items) ∧
    List.Forall₂ (fun item node => ∃ fields, item = .obj fields ∧ DescribesNode fields node)
      items cluster.nodes

/-! ### What a configuration must satisfy -/

def Trimmed (text : Str) : Prop := text ≠ [] ∧ strip text = text

structure ValidNode (port : Json → Prop) (node : NodeConfig) : Prop where
  name : Trimmed node.name
  role : Trimmed node.role
  host : Trimmed node.host
  sshUser : Trimmed node.sshUser
  known : node.role = str "main" ∨ node.role = str "worker"
  sshPort : port node.sshPort
  projectDir : strip node.projectDir ≠ []

structure ValidCluster (port : Json → Prop) (cluster : ClusterConfig) : Prop where
  name : Trimmed cluster.name
  apiUrl : Trimmed cluster.apiUrl
  some : cluster.nodes ≠ []
  nodes : ∀ node ∈ cluster.nodes, ValidNode port node
  distinct : (cluster.nodes.map NodeConfig.name).Nodup
  oneMain : (cluster.nodes.filter isMain).length = 1

/-- The ports that the check lets through. -/
def AcceptedPort (port : Json) : Prop := isPositiveInt port = true

theorem ValidNode.mono {weaker stronger : Json → Prop} {node : NodeConfig}
    (implied : weaker node.sshPort → stronger node.sshPort) (valid : ValidNode weaker node) :
    ValidNode stronger node :=
  { name := valid.name
    role := valid.role
    host := valid.host
    sshUser := valid.sshUser
    known := valid.known
    sshPort := implied valid.sshPort
    projectDir := valid.projectDir }

theorem ValidCluster.mono {weaker stronger : Json → Prop} {cluster : ClusterConfig}
    (implied : ∀ node ∈ cluster.nodes, weaker node.sshPort → stronger node.sshPort)
    (valid : ValidCluster weaker cluster) : ValidCluster stronger cluster :=
  { name := valid.name
    apiUrl := valid.apiUrl
    some := valid.some
    nodes := fun node member => ValidNode.mono (implied node member) (valid.nodes node member)
    distinct := valid.distinct
    oneMain := valid.oneMain }

/-! ### The loader accepts what describes a valid configuration -/

theorem requireNonEmptyString_ok {raw : Dict} {key context text : Str} :
    requireNonEmptyString raw key context = .ok text ↔ Field raw key text ∧ Trimmed text := by
  unfold requireNonEmptyString Field Trimmed
  constructor
  · intro returned
    split at returned
    · rename_i value atKey
      split at returned
      · cases returned
      · rename_i some
        cases returned
        exact ⟨⟨value, atKey, rfl⟩, some, strip_strip value⟩
    · cases returned
  · rintro ⟨⟨value, atKey, rfl⟩, some, _⟩
    rw [atKey]
    exact if_neg some

theorem requireNonEmptyString_error {raw : Dict} {key context : Str} {raised : ConfigError}
    (failed : requireNonEmptyString raw key context = .error raised) :
    raised = .valueError (str "'" ++ key ++ str "' in " ++ context ++
      str " must be a non-empty string") := by
  unfold requireNonEmptyString at failed
  split at failed
  · split at failed <;> cases failed
    rfl
  · cases failed
    rfl

theorem isPositiveInt_iff {port : Json} :
    AcceptedPort port ↔ (∃ value : Int, 0 < value ∧ port = .int value) ∨ port = .bool true := by
  unfold AcceptedPort isPositiveInt
  cases port with
  | int value => simp
  | bool value => simp
  | null | float | str | arr | obj => simp

theorem known_iff {role : Str} :
    role ∈ [str "main", str "worker"] ↔ role = str "main" ∨ role = str "worker" := by
  rw [List.mem_cons, List.mem_singleton]

theorem parseNode_ok {raw : Json} {index : Nat} {node : NodeConfig} :
    parseNode raw index = .ok node ↔
      ∃ fields, raw = .obj fields ∧ DescribesNode fields node ∧ ValidNode AcceptedPort node := by
  cases raw with
  | null | bool | int | float | str | arr =>
      constructor
      · intro impossible
        cases impossible
      · intro ⟨_, impossible, _⟩
        cases impossible
  | obj fields =>
      unfold parseNode
      simp only [bind_ok_iff, requireNonEmptyString_ok]
      constructor
      · intro parsed
        obtain ⟨name, ⟨atName, trimmedName⟩, role, ⟨atRole, trimmedRole⟩, host,
          ⟨atHost, trimmedHost⟩, sshUser, ⟨atUser, trimmedUser⟩, returned⟩ := parsed
        refine ⟨fields, rfl, ?_⟩
        split at returned
        · cases returned
        · rename_i known
          split at returned
          · cases returned
          · rename_i port
            split at returned
            · rename_i projectDir atDir
              split at returned
              · cases returned
              · rename_i some
                cases returned
                exact
                  ⟨⟨atName, atRole, atHost, atUser, rfl, atDir⟩,
                    ⟨trimmedName, trimmedRole, trimmedHost, trimmedUser,
                      known_iff.mp (not_not.mp known), by simpa [AcceptedPort] using port, some⟩⟩
            · cases returned
      · intro ⟨_, same, describes, valid⟩
        cases same
        refine ⟨node.name, ⟨describes.name, valid.name⟩, node.role, ⟨describes.role, valid.role⟩,
          node.host, ⟨describes.host, valid.host⟩, node.sshUser,
          ⟨describes.sshUser, valid.sshUser⟩, ?_⟩
        have known : ¬ node.role ∉ [str "main", str "worker"] :=
          not_not.mpr (known_iff.mpr valid.known)
        have port : ¬ isPositiveInt node.sshPort = false := by
          rw [show isPositiveInt node.sshPort = true from valid.sshPort]
          exact Bool.noConfusion
        rw [if_neg known, describes.sshPort, if_neg port, describes.projectDir]
        exact if_neg valid.projectDir

theorem parseNode_error {raw : Json} {index : Nat} {raised : ConfigError}
    (failed : parseNode raw index = .error raised) : ∃ message, raised = .valueError message := by
  have required {fields : Dict} {key context : Str} (raised : ConfigError)
      (failed : requireNonEmptyString fields key context = .error raised) :
      ∃ message, raised = .valueError message :=
    ⟨_, requireNonEmptyString_error failed⟩
  cases raw with
  | null | bool | int | float | str | arr =>
      cases failed
      exact ⟨_, rfl⟩
  | obj fields =>
      unfold parseNode at failed
      refine raises_bind required (fun name _ raised failed => ?_) failed
      refine raises_bind required (fun role _ raised failed => ?_) failed
      refine raises_bind required (fun host _ raised failed => ?_) failed
      refine raises_bind required (fun sshUser _ raised failed => ?_) failed
      dsimp only at failed
      split at failed
      · cases failed
        exact ⟨_, rfl⟩
      · split at failed
        · cases failed
          exact ⟨_, rfl⟩
        · split at failed
          · split at failed <;> cases failed
            exact ⟨_, rfl⟩
          · cases failed
            exact ⟨_, rfl⟩

theorem parseNodes_ok {index : Nat} {items : List Json} {nodes : List NodeConfig} :
    parseNodes index items = .ok nodes ↔
      List.Forall₂ (fun item node => ∃ fields, item = .obj fields ∧ DescribesNode fields node)
        items nodes ∧ ∀ node ∈ nodes, ValidNode AcceptedPort node := by
  induction items generalizing index nodes with
  | nil =>
      rw [parseNodes, List.forall₂_nil_left_iff]
      constructor
      · intro same
        cases same
        exact ⟨rfl, fun node none => absurd none List.not_mem_nil⟩
      · rintro ⟨rfl, _⟩
        rfl
  | cons item rest ih =>
      simp only [parseNodes, bind_ok_iff, parseNode_ok, ih]
      constructor
      · intro ⟨node, ⟨fields, isObject, describes, valid⟩, others, ⟨itemwise, later⟩, same⟩
        cases same
        exact ⟨.cons ⟨fields, isObject, describes⟩ itemwise, List.forall_mem_cons.mpr ⟨valid, later⟩⟩
      · intro ⟨itemwise, valid⟩
        cases itemwise with
        | cons described others =>
            obtain ⟨fields, isObject, describes⟩ := described
            have each := List.forall_mem_cons.mp valid
            exact ⟨_, ⟨fields, isObject, describes, each.1⟩, _, ⟨others, each.2⟩, rfl⟩

theorem parseNodes_error {index : Nat} {items : List Json} {raised : ConfigError}
    (failed : parseNodes index items = .error raised) :
    ∃ message, raised = .valueError message := by
  induction items generalizing index raised with
  | nil => cases failed
  | cons item rest ih =>
      unfold parseNodes at failed
      refine raises_bind (fun _ => parseNode_error) (fun node _ raised failed => ?_) failed
      refine raises_bind (fun _ => ih) (fun nodes _ raised failed => ?_) failed
      cases failed

theorem distinct_iff {names : List Str} :
    names.length = names.dedup.length ↔ names.Nodup := by
  constructor
  · intro same
    rw [← List.dedup_eq_self]
    exact (List.dedup_sublist names).eq_of_length same.symm
  · intro distinct
    rw [distinct.dedup]

theorem parseCluster_ok {document : Json} {cluster : ClusterConfig} :
    parseCluster document = .ok cluster ↔
      Describes document cluster ∧ ValidCluster AcceptedPort cluster := by
  cases document with
  | null | bool | int | float | str | arr =>
      constructor
      · intro impossible
        cases impossible
      · intro ⟨⟨_, _, impossible, _⟩, _⟩
        cases impossible
  | obj raw =>
      unfold parseCluster
      simp only [bind_ok_iff, requireNonEmptyString_ok]
      constructor
      · intro ⟨name, ⟨atName, trimmedName⟩, apiUrl, ⟨atUrl, trimmedUrl⟩, returned⟩
        split at returned
        · rename_i first rest atNodes
          obtain ⟨nodes, parsed, returned⟩ := bind_ok_iff.mp returned
          obtain ⟨itemwise, valid⟩ := parseNodes_ok.mp parsed
          split at returned
          · cases returned
          · rename_i distinct
            split at returned
            · cases returned
            · rename_i oneMain
              cases returned
              refine ⟨⟨raw, first :: rest, rfl, atName, atUrl, atNodes, itemwise⟩,
                ⟨trimmedName, trimmedUrl, ?_, valid, distinct_iff.mp (not_not.mp distinct),
                  not_not.mp oneMain⟩⟩
              rintro rfl
              cases itemwise
        · cases returned
      · intro ⟨⟨_, items, same, atName, atUrl, atNodes, itemwise⟩, valid⟩
        cases same
        refine ⟨cluster.name, ⟨atName, valid.name⟩, cluster.apiUrl, ⟨atUrl, valid.apiUrl⟩, ?_⟩
        cases items with
        | nil => exact absurd (List.forall₂_nil_left_iff.mp itemwise) valid.some
        | cons first rest =>
            rw [atNodes]
            refine bind_ok_iff.mpr
              ⟨cluster.nodes, parseNodes_ok.mpr ⟨itemwise, valid.nodes⟩, ?_⟩
            rw [if_neg (not_not.mpr (distinct_iff.mpr valid.distinct)),
              if_neg (not_not.mpr valid.oneMain)]

theorem parseCluster_error {fields : Dict} {raised : ConfigError}
    (failed : parseCluster (.obj fields) = .error raised) :
    ∃ message, raised = .valueError message := by
  have required {key context : Str} (raised : ConfigError)
      (failed : requireNonEmptyString fields key context = .error raised) :
      ∃ message, raised = .valueError message :=
    ⟨_, requireNonEmptyString_error failed⟩
  unfold parseCluster at failed
  refine raises_bind required (fun name _ raised failed => ?_) failed
  refine raises_bind required (fun apiUrl _ raised failed => ?_) failed
  split at failed
  · refine raises_bind (fun _ => parseNodes_error) (fun nodes _ raised failed => ?_) failed
    dsimp only at failed
    split at failed
    · cases failed
      exact ⟨_, rfl⟩
    · split at failed <;> cases failed
      exact ⟨_, rfl⟩
  · cases failed
    exact ⟨_, rfl⟩

theorem loadClusterConfig_of_loads {decoder : JsonDecoder} {path text : Str} {document : Json}
    (loaded : jsonLoads decoder text = .ok document) :
    loadClusterConfig decoder path (some text) = parseCluster document := by
  rw [loadClusterConfig, loaded]

theorem loadClusterConfig_of_raises {decoder : JsonDecoder} {path text : Str} {raised : LoadsError}
    (failed : jsonLoads decoder text = .error raised) :
    loadClusterConfig decoder path (some text) = .error (.loads raised) := by
  rw [loadClusterConfig, failed]

end ImagePipeline.Benchmark
