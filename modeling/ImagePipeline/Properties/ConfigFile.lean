/-
`config.json` through its whole life: what was written, and updated once the run
began, is what each of its readers gets.
-/

import ImagePipeline.Benchmark.JsonFiles
import ImagePipeline.Benchmark.RunConfigFile
import ImagePipeline.Properties.ClusterMain
import ImagePipeline.Properties.ContainerLogs
import ImagePipeline.Properties.RequestHash

namespace ImagePipeline.Properties.ConfigFile

open Common Benchmark
open Properties.RequestHash (joined_of_ascii keys_joined)

/-! ### Dictionaries that can be read back -/

/-- A dictionary that is read as it was printed. -/
structure ReadableDict (runtime : Runtime) (decoder : JsonDecoder) (dict : Dict) : Prop where
  distinct : (dict.map Prod.fst).Nodup
  keys : ∀ field ∈ dict, Joined field.1
  values : ∃ levels, decoder.recursionLimit = levels + 1 ∧
    ∀ field ∈ dict, Readable runtime decoder levels field.2

variable {runtime : Runtime} {decoder : JsonDecoder} {dict : Dict}

theorem ReadableDict.jsonLoads_eq (readable : ReadableDict runtime decoder dict)
    (layout : JsonLayout) :
    jsonLoads decoder (layout.dumps runtime (.obj dict)) = .ok (.obj dict) := by
  obtain ⟨levels, limit, values⟩ := readable.values
  apply jsonLoads_dumps
  rw [limit]
  exact Readable.ofFields readable.distinct readable.keys values

theorem ReadableDict.set (readable : ReadableDict runtime decoder dict) {key : Str} {value : Json}
    (joined : Joined key)
    (reads : ∀ levels, decoder.recursionLimit = levels + 1 →
      Readable runtime decoder levels value) :
    ReadableDict runtime decoder (Dict.set dict key value) where
  distinct := by
    by_cases known : key ∈ dict.map Prod.fst
    · rw [Dict.keys_set_of_mem known]
      exact readable.distinct
    · rw [Dict.set_of_not_mem known, List.map_append, List.nodup_append]
      refine ⟨readable.distinct, List.nodup_singleton _, ?_⟩
      rintro name member _ last rfl
      rw [List.mem_singleton.mp last] at member
      exact known member
  keys field member := by
    rcases Dict.mem_set member with rfl | old
    · exact joined
    · exact readable.keys field old
  values := by
    obtain ⟨levels, limit, values⟩ := readable.values
    refine ⟨levels, limit, ?_⟩
    intro field member
    rcases Dict.mem_set member with rfl | old
    · exact reads levels limit
    · exact values field old

theorem ReadableDict.update (readable : ReadableDict runtime decoder dict) {updates : Dict}
    (reads : ReadableDict runtime decoder updates) :
    ReadableDict runtime decoder (Dict.update dict updates) := by
  obtain ⟨distinct, keys, levels, limit, values⟩ := reads
  clear distinct
  induction updates generalizing dict with
  | nil => exact readable
  | cons field rest ih =>
      obtain ⟨joined, keys⟩ := List.forall_mem_cons.mp keys
      obtain ⟨value, values⟩ := List.forall_mem_cons.mp values
      apply ih _ keys values
      apply readable.set joined
      intro other same
      rw [limit] at same
      rw [← Nat.succ.inj same]
      exact value

/-- An update is what every reader finds from then on. -/
theorem updateConfigFile_ok (readable : ReadableDict runtime decoder dict) {updates : Dict}
    (reads : ReadableDict runtime decoder updates) (layout : JsonLayout) :
    ∃ updated,
      updateConfigFile runtime decoder (layout.dumps runtime (.obj dict)) updates = .ok updated ∧
      jsonLoads decoder updated = .ok (.obj (Dict.update dict updates)) := by
  refine ⟨_, ?_, (readable.update reads).jsonLoads_eq JsonLayout.indented⟩
  unfold updateConfigFile
  rw [readable.jsonLoads_eq layout]

/-! ### The configuration of a run -/

def argTexts (args : ClusterArgs) : List Str :=
  [args.profile, args.duration, args.pollResult, args.notes]

def argFloats (args : ClusterArgs) : List PyFloat :=
  [args.rate, args.pollIntervalSeconds, args.pollTimeoutSeconds, args.monitorIntervalSeconds,
    args.monitorWarmupSeconds, args.monitorCooldownSeconds]

def countsOf (config : RunConfig) : List Int :=
  [config.totalNodes, config.workerNodes, config.mainNodeDefaultWorkers,
    config.mainNodeHeavyWorkers, config.workerNodeDefaultWorkers, config.workerNodeHeavyWorkers,
    config.defaultWorkers, config.heavyWorkers, config.totalWorkers]

def nodeTexts (node : NodeConfig) : List Str := [node.name, node.role, node.host]

/-- No text is torn at a surrogate pair, the floats are read as they are printed, and
no integer is too long for Python. -/
structure ReadableRun (runtime : Runtime) (decoder : JsonDecoder) (config : RunConfig)
    (args : ClusterArgs) (cluster : ClusterConfig) : Prop where
  texts : ∀ text ∈ argTexts args, Joined text
  floats : ∀ value ∈ argFloats args, value.isFinite = true → ReadsFloat runtime decoder value
  counts : ∀ count ∈ countsOf config, (natDigits count.natAbs).length ≤ maxStrDigits
  setup : Joined cluster.name
  baseUrl : Joined cluster.apiUrl
  nodes : ∀ node ∈ cluster.nodes, ∀ text ∈ nodeTexts node, Joined text
  limit : 3 ≤ decoder.recursionLimit

section Runs

variable {config : RunConfig} {args : ClusterArgs} {cluster : ClusterConfig}

/-- Where the texts of `write_config` come from. -/
theorem writeConfig_texts (written : writeConfig args.toRunArgs cluster = .ok config) :
    config.setup = cluster.name ∧ ∃ node ∈ cluster.nodes, config.mainNode = node.name := by
  unfold writeConfig mainNode at written
  cases mains : cluster.nodes.filter isMain with
  | nil =>
      rw [mains] at written
      cases written
  | cons node rest =>
      rw [mains] at written
      cases written
      refine ⟨rfl, node, ?_, rfl⟩
      have member : node ∈ cluster.nodes.filter isMain := mains ▸ List.mem_cons_self
      exact (List.mem_filter.mp member).1

/-- The keys of the file do not depend on what is in it. -/
def configKeys : List Str :=
  [str "timestamp", str "base_url", str "profile", str "rate", str "duration", str "poll_result",
    str "poll_interval_seconds", str "poll_timeout_seconds", str "environment", str "setup",
    str "total_nodes", str "worker_nodes", str "workers_per_node",
    str "main_node_default_workers", str "main_node_heavy_workers",
    str "worker_node_default_workers", str "worker_node_heavy_workers", str "default_workers",
    str "heavy_workers", str "total_workers", str "main_node", str "monitor_interval_seconds",
    str "monitor_warmup_seconds", str "monitor_cooldown_seconds", str "nodes", str "notes"]

theorem configKeys_distinct : (str "run_started_at" :: configKeys).Nodup := by decide +kernel

theorem nodeDict_readable {node : NodeConfig} (joined : ∀ text ∈ nodeTexts node, Joined text)
    (levels : Nat) : Readable runtime decoder (levels + 1) (.obj (nodeDict node)) := by
  have distinct : [str "name", str "role", str "host"].Nodup := by decide
  have keys : ∀ key ∈ [str "name", str "role", str "host"], Joined key :=
    keys_joined (by decide)
  simp only [nodeTexts, List.forall_mem_cons] at joined
  obtain ⟨name, role, host, -⟩ := joined
  apply Readable.ofFields
  · exact distinct
  · intro field member
    exact keys field.1 (List.mem_map_of_mem member)
  · simp only [nodeDict, List.forall_mem_cons]
    exact ⟨.ofText name, .ofText role, .ofText host, nofun⟩

theorem dict_readable (written : writeConfig args.toRunArgs cluster = .ok config)
    (readable : ReadableRun runtime decoder config args cluster) {timestamp : Str}
    (stamp : Joined timestamp) :
    ReadableDict runtime decoder (config.dict timestamp args cluster) where
  distinct := (List.nodup_cons.mp configKeys_distinct).2
  keys field member := by
    have joined : ∀ key ∈ configKeys, Joined key := keys_joined (by decide +kernel)
    exact joined field.1 (List.mem_map_of_mem member)
  values := by
    obtain ⟨setup, main, member, named⟩ := writeConfig_texts written
    obtain ⟨levels, limit⟩ := Nat.exists_eq_add_of_le' readable.limit
    refine ⟨levels + 2, limit, ?_⟩
    have texts := readable.texts
    have floats := readable.floats
    have counts := readable.counts
    simp only [argTexts, argFloats, countsOf, List.forall_mem_cons] at texts floats counts
    obtain ⟨profile, duration, pollResult, notes, -⟩ := texts
    obtain ⟨rate, pollInterval, pollTimeout, interval, warmup, cooldown, -⟩ := floats
    obtain ⟨nodeCount, workerCount, mainDefault, mainHeavy, workerDefault, workerHeavy,
      defaults, heavies, total, -⟩ := counts
    have setupJoined : Joined config.setup := setup ▸ readable.setup
    have mainJoined : Joined config.mainNode :=
      named ▸ readable.nodes main member _ List.mem_cons_self
    have environment : Joined (str "gcp") := joined_of_ascii (all_letters (by decide))
    have nodes : Readable runtime decoder (levels + 2)
        (.arr (cluster.nodes.map (fun node => .obj (nodeDict node)))) := by
      apply Readable.ofItems
      intro item inside
      obtain ⟨node, present, rfl⟩ := List.mem_map.mp inside
      exact nodeDict_readable (readable.nodes node present) levels
    simp only [RunConfig.dict, List.forall_mem_cons]
    exact ⟨.ofText stamp, .ofText readable.baseUrl, .ofText profile, .ofFloat rate,
      .ofText duration, .ofText pollResult, .ofFloat pollInterval, .ofFloat pollTimeout,
      .ofText environment, .ofText setupJoined, .ofInt nodeCount, .ofInt workerCount, .ofNull,
      .ofInt mainDefault, .ofInt mainHeavy, .ofInt workerDefault, .ofInt workerHeavy,
      .ofInt defaults, .ofInt heavies, .ofInt total, .ofText mainJoined, .ofFloat interval,
      .ofFloat warmup, .ofFloat cooldown, nodes, .ofText notes, nofun⟩

/-- What `main` puts into the file once the run begins. -/
def startOf (runStartedAt : Str) : Dict := [(str "run_started_at", .str runStartedAt)]

theorem startOf_readable {runStartedAt : Str} (joined : Joined runStartedAt)
    (limit : 3 ≤ decoder.recursionLimit) :
    ReadableDict runtime decoder (startOf runStartedAt) where
  distinct := List.nodup_singleton _
  keys := by
    have key : Joined (str "run_started_at") := joined_of_ascii (all_letters (by decide))
    exact List.forall_mem_singleton.mpr key
  values := by
    obtain ⟨levels, same⟩ := Nat.exists_eq_add_of_le' limit
    exact ⟨levels + 2, same, List.forall_mem_singleton.mpr (.ofText joined)⟩

/-- For an accepted cluster, `write_config` and `update_config_file` both return, and
whoever reads the file then gets what was written, with the start of the run as the
last field. -/
theorem config_read_back {document : Json} (accepted : parseCluster document = .ok cluster)
    (readable : ∀ config, writeConfig args.toRunArgs cluster = .ok config →
      ReadableRun runtime decoder config args cluster)
    {timestamp runStartedAt : Str} (stamp : Joined timestamp) (started : Joined runStartedAt) :
    ∃ config text updated, writeConfig args.toRunArgs cluster = .ok config ∧
      writeConfigFile runtime timestamp args cluster = .ok text ∧
      updateConfigFile runtime decoder text (startOf runStartedAt) = .ok updated ∧
      jsonLoads decoder updated =
        .ok (.obj (config.dict timestamp args cluster ++ startOf runStartedAt)) := by
  obtain ⟨_, valid⟩ := parseCluster_ok.mp accepted
  obtain ⟨main, _, found⟩ := valid.mainNode_eq
  obtain ⟨config, written⟩ : ∃ config, writeConfig args.toRunArgs cluster = .ok config := by
    unfold writeConfig
    rw [found]
    exact ⟨_, rfl⟩
  have read := readable config written
  have dict := dict_readable written read stamp
  obtain ⟨updated, update, reads⟩ :=
    updateConfigFile_ok dict (startOf_readable started read.limit) JsonLayout.indented
  refine ⟨config, _, updated, written, ?_, update, ?_⟩
  · unfold writeConfigFile
    rw [written]
    rfl
  · rw [reads]
    have fresh : str "run_started_at" ∉ (config.dict timestamp args cluster).map Prod.fst :=
      (List.nodup_cons.mp configKeys_distinct).1
    have appended := Dict.set_of_not_mem fresh (.str runStartedAt)
    exact congrArg (fun dict => Except.ok (Json.obj dict)) appended

end Runs

/-! ### A run on two nodes -/

open Properties.ClusterMain (mainAndWorker twoNodes)
open Properties.ContainerLogs (zeroRuntime zero_readsFloat)
open Properties.LogAnalysis (logRuntime)

/-- A run that submits nothing and waits for nothing. -/
def idleArgs : ClusterArgs :=
  { mainNodeDefaultWorkers := 2
    mainNodeHeavyWorkers := 1
    workerNodeDefaultWorkers := 3
    workerNodeHeavyWorkers := 0
    profile := str "light_only"
    rate := .finite 0
    duration := str "30s"
    pollResult := str "true"
    pollIntervalSeconds := .finite 0
    pollTimeoutSeconds := .finite 0
    monitorIntervalSeconds := .finite 0
    monitorWarmupSeconds := .finite 0
    monitorCooldownSeconds := .finite 0
    notes := str "it said \"idle\"" }

def idleConfig : RunConfig :=
  { setup := str "lab"
    totalNodes := 2
    workerNodes := 1
    mainNodeDefaultWorkers := 2
    mainNodeHeavyWorkers := 1
    workerNodeDefaultWorkers := 3
    workerNodeHeavyWorkers := 0
    defaultWorkers := 5
    heavyWorkers := 1
    totalWorkers := 6
    mainNode := str "main" }

theorem idleConfig_written : writeConfig idleArgs.toRunArgs twoNodes = .ok idleConfig := rfl

theorem idleConfig_readable :
    ReadableRun zeroRuntime logRuntime.decoder idleConfig idleArgs twoNodes where
  texts := keys_joined (by decide)
  floats := by
    simp only [argFloats, idleArgs, List.forall_mem_cons]
    exact ⟨fun _ => zero_readsFloat, fun _ => zero_readsFloat, fun _ => zero_readsFloat,
      fun _ => zero_readsFloat, fun _ => zero_readsFloat, fun _ => zero_readsFloat, nofun⟩
  counts := by decide
  setup := joined_of_ascii (all_letters (by decide))
  baseUrl := joined_of_ascii (all_letters (by decide))
  nodes := List.forall_mem_cons.mpr
    ⟨keys_joined (by decide), List.forall_mem_singleton.mpr (keys_joined (by decide))⟩
  limit := by decide

theorem config_read_back_two_nodes :
    ∃ text updated, writeConfigFile zeroRuntime (str "now") idleArgs twoNodes = .ok text ∧
      updateConfigFile zeroRuntime logRuntime.decoder text (startOf (str "later")) = .ok updated ∧
      jsonLoads logRuntime.decoder updated =
        .ok (.obj (idleConfig.dict (str "now") idleArgs twoNodes ++ startOf (str "later"))) := by
  have accepted : parseCluster mainAndWorker = .ok twoNodes := rfl
  have readable (config : RunConfig)
      (written : writeConfig idleArgs.toRunArgs twoNodes = .ok config) :
      ReadableRun zeroRuntime logRuntime.decoder config idleArgs twoNodes := by
    rw [idleConfig_written] at written
    rw [← Except.ok.inj written]
    exact idleConfig_readable
  obtain ⟨config, text, updated, written, printed, update, reads⟩ :=
    config_read_back accepted readable
      (joined_of_ascii (all_letters (by decide)) : Joined (str "now"))
      (joined_of_ascii (all_letters (by decide)) : Joined (str "later"))
  rw [idleConfig_written] at written
  rw [Except.ok.inj written]
  exact ⟨text, updated, printed, update, reads⟩

end ImagePipeline.Properties.ConfigFile
