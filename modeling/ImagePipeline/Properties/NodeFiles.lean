/-
The merged files of a cluster against the files of its nodes: what the analyses
by node find in the merged file is what they would find in each node's own one.
-/

import ImagePipeline.Properties.MergedFiles
import ImagePipeline.Properties.ReadBack

namespace ImagePipeline.Properties.NodeFiles

open Common Benchmark
open Library
open MergedFiles (tables Alike Mergeable header mergeCsvFiles_ok_iff dictReader_writeCsv)
open ReadBack (plainName dictRow_full loadCsv_text translated_plainNames)

/-- Every cell is read as it was written. -/
def Plain (table : CsvTable) : Prop := ∀ row ∈ table.rows, ∀ cell ∈ row, plainName cell = true

theorem fits_of_plain {row : List Str} (plain : ∀ cell ∈ row, plainName cell = true) :
    excel.fits row = true := by
  refine List.all_eq_true.mpr fun cell member => ?_
  exact (Bool.and_eq_true_iff.mp (plain cell member)).2

/-- A file that holds plain cells is read as the dictionaries that were written. -/
theorem loadCsv_plain (table : CsvTable) (names : ∀ name ∈ table.fieldnames, plainName name = true)
    (plain : Plain table) : loadCsv (some table.text) = .ok (table.dicts.map fullRow) := by
  have short : ∀ row ∈ table.rows, excel.fits (ReadBack.translatedCells row) = true := by
    intro row member
    rw [translated_plainNames (plain row member)]
    exact fits_of_plain (plain row member)
  rw [loadCsv_text table names, if_pos short, CsvTable.dicts, List.map_map]
  refine congrArg Except.ok (List.map_congr_left fun row member => ?_)
  rw [translated_plainNames (plain row member)]
  rfl

theorem dictReader_text (table : CsvTable)
    (names : ∀ name ∈ table.fieldnames, plainName name = true)
    (plain : Plain table) :
    dictReader table.text = ⟨some table.fieldnames, table.dicts.map fullRow, none⟩ := by
  have fits : ∀ row ∈ table.fieldnames :: table.rows, excel.fits row = true := by
    refine List.forall_mem_cons.mpr ⟨fits_of_plain names, fun row member => ?_⟩
    exact fits_of_plain (plain row member)
  have kept : table.rows.filter (fun fields => fields ≠ []) = table.rows := by
    refine List.filter_eq_self.mpr fun row member => decide_eq_true ?_
    refine List.ne_nil_of_length_pos ?_
    rw [table.widths row member]
    exact List.length_pos_of_ne_nil table.named
  rw [CsvTable.text, dictReader_writeCsv fits, dictTable]
  dsimp only
  rw [kept, CsvTable.dicts, List.map_map]
  refine congrArg (fun rows => (⟨some table.fieldnames, rows, none⟩ : DictTable)) ?_
  refine List.map_congr_left fun row member => ?_
  exact dictRow_full table.distinct (table.widths row member)

theorem fields_fullRow {names row : List Str} (distinct : names.Nodup)
    (width : row.length = names.length) : names.map (fullRow (names.zip row)).field = row := by
  induction names generalizing row with
  | nil => exact (List.eq_nil_of_length_eq_zero width).symm
  | cons name names ih =>
      cases row with
      | nil => cases width
      | cons cell row =>
          rw [List.nodup_cons] at distinct
          have head : (fullRow ((name :: names).zip (cell :: row))).field name = cell := by
            rw [DictRow.field, fullRow, List.zip_cons_cons, List.map_cons, List.lookup_cons,
              beq_self_eq_true]
            rfl
          have tail : ∀ other ∈ names, (fullRow ((name :: names).zip (cell :: row))).field other =
              (fullRow (names.zip row)).field other := by
            intro other member
            have different : (other == name) = false := by
              refine beq_eq_false_iff_ne.mpr fun same => distinct.1 ?_
              rw [← same]
              exact member
            rw [DictRow.field, fullRow, List.zip_cons_cons, List.map_cons, List.lookup_cons,
              different]
            rfl
          rw [List.map_cons, head, List.map_congr_left tail,
            ih distinct.2 (Nat.succ.inj width)]

section Merging

variable {names : List Str} {files : List (Str × CsvTable)}

/-- The inputs of a merge of files that all exist. -/
def written (files : List (Str × CsvTable)) : List InputFile :=
  files.map (fun file => ⟨file.1, some file.2.text⟩)

theorem tables_written (same : ∀ file ∈ files, file.2.fieldnames = names)
    (plainNames : ∀ name ∈ names, plainName name = true) (plain : ∀ file ∈ files, Plain file.2) :
    tables (written files) =
      files.map (fun file => ⟨some names, file.2.dicts.map fullRow, none⟩) := by
  have existing :
      existingFiles (written files) = files.map (fun file => (file.1, file.2.text)) := by
    rw [existingFiles, written, List.filterMap_map]
    exact List.filterMap_eq_map' ▸ rfl
  rw [tables, existing, List.map_map]
  refine List.map_congr_left fun file member => ?_
  have known := same file member
  have read := dictReader_text file.2 (by rw [known]; exact plainNames)
    (plain file member)
  rw [known] at read
  exact read

def appended (names : List Str) (named : names ≠ []) (distinct : names.Nodup)
    (files : List (Str × CsvTable)) (same : ∀ file ∈ files, file.2.fieldnames = names) : CsvTable :=
  { fieldnames := names
    rows := files.flatMap (fun file => file.2.rows)
    named
    distinct
    widths := by
      intro row member
      obtain ⟨file, inside, here⟩ := List.mem_flatMap.mp member
      rw [file.2.widths row here, same file inside] }

theorem mergeCsvFiles_written (named : names ≠ []) (distinct : names.Nodup) (some : files ≠ [])
    (same : ∀ file ∈ files, file.2.fieldnames = names)
    (plainNames : ∀ name ∈ names, plainName name = true) (plain : ∀ file ∈ files, Plain file.2)
    (outputName : Str) :
    mergeCsvFiles (written files) outputName =
      .ok (appended names named distinct files same).text := by
  have read := tables_written same plainNames plain
  have first : header (tables (written files)) = Option.some names := by
    rw [read]
    cases files with
    | nil => exact absurd rfl some
    | cons file files => rfl
  refine mergeCsvFiles_ok_iff.mpr ⟨⟨?_, ?_⟩, ?_⟩
  · rw [read]
    exact fun none => some (List.map_eq_nil_iff.mp none)
  · rw [read]
    refine ⟨?_, ?_, ?_⟩
    · intro table member
      obtain ⟨file, _, rfl⟩ := List.mem_map.mp member
      rfl
    · intro table member other inside found given known here
      obtain ⟨file, _, rfl⟩ := List.mem_map.mp member
      obtain ⟨second, _, rfl⟩ := List.mem_map.mp inside
      cases given
      cases here
      rfl
    · intro table member row inside
      obtain ⟨file, _, rfl⟩ := List.mem_map.mp member
      obtain ⟨dict, _, rfl⟩ := List.mem_map.mp inside
      rfl
  · have rows : ((tables (written files)).flatMap DictTable.rows).map
        (fun row => names.map row.field) = files.flatMap (fun file => file.2.rows) := by
      rw [read, List.flatMap_map, List.map_flatMap]
      refine List.flatMap_congr fun file member => ?_
      have known := same file member
      rw [CsvTable.dicts, List.map_map, List.map_map]
      refine (List.map_congr_left fun row inside => ?_).trans (List.map_id _)
      rw [← known]
      exact fields_fullRow file.2.distinct (file.2.widths row inside)
    rw [MergedFiles.written, first]
    dsimp only
    rw [rows]
    rfl

end Merging

/-! ### The rows by node -/

/-- Rows that are grouped by their nodes fall into the tables of the nodes. -/
theorem groupBy_dicts {key : CsvRow → Str} {files : List (Str × CsvTable)}
    (distinct : (files.map Prod.fst).Nodup)
    (own : ∀ file ∈ files, ∀ row ∈ file.2.dicts, key row = file.1) :
    groupBy key (files.flatMap (fun file => file.2.dicts)) =
      (files.filter (fun file => file.2.dicts ≠ [])).map (fun file => (file.1, file.2.dicts)) := by
  have filled : files.flatMap (fun file => file.2.dicts) =
      ((files.filter (fun file => file.2.dicts ≠ [])).map
        (fun file => (file.1, file.2.dicts))).flatMap Prod.snd := by
    rw [List.flatMap_map]
    induction files with
    | nil => rfl
    | cons file files ih =>
        have later := ih (List.Nodup.of_cons distinct)
          fun other member => own other (List.mem_cons_of_mem _ member)
        rw [List.flatMap_cons, List.filter_cons, later]
        by_cases empty : file.2.dicts = []
        · simp [empty]
        · simp [empty]
  rw [filled]
  refine groupBy_blocks ?_ ?_
  · rw [List.map_map]
    exact List.Nodup.sublist (List.filter_sublist.map Prod.fst) distinct
  · intro block member
    obtain ⟨file, kept, rfl⟩ := List.mem_map.mp member
    obtain ⟨inside, some⟩ := List.mem_filter.mp kept
    exact ⟨of_decide_eq_true some, own file inside⟩

section Nodes

variable {runtime : Runtime} {logs : LogRuntime} {clock : Clock} {monitored : Monitored}

theorem nodeOrUnknown_of_lookup {row : CsvRow} {name : Str} (named : name ≠ [])
    (found : row.lookup (str "node") = some name) : nodeOrUnknown row = name := by
  unfold nodeOrUnknown
  rw [found]
  cases name with
  | nil => exact absurd rfl named
  | cons letter rest => rfl

theorem hostTable_node {name : Str} :
    ∀ row ∈ (monitored.hostTable runtime clock name).dicts,
      row.lookup (str "node") = some name := by
  intro row member
  obtain ⟨cells, inside, rfl⟩ := List.mem_map.mp member
  obtain ⟨sample, here, rfl⟩ := List.mem_map.mp inside
  obtain ⟨source, _, rfl⟩ := List.mem_map.mp here
  rfl

theorem dockerTable_node {name : Str} :
    ∀ row ∈ (monitored.dockerTable logs name).dicts, row.lookup (str "node") = some name := by
  intro row member
  obtain ⟨cells, inside, rfl⟩ := List.mem_map.mp member
  obtain ⟨found, written, rfl⟩ := List.mem_map.mp inside
  exact congrArg some (dockerRows_node written)

/-- The files of the nodes of a cluster under their names. -/
def nodeFiles (cluster : ClusterConfig) (table : Str → CsvTable) : List (Str × CsvTable) :=
  cluster.nodes.map (fun node => (node.name, table node.name))

/-- A summary of each node that has rows, made from its own file. -/
def nodeByNode {σ : Type} (summarize : List CsvRow → Except Exn σ)
    (files : List (Str × CsvTable)) : Except Exn (List (Str × σ)) :=
  (files.filter (fun file => file.2.dicts ≠ [])).mapM (fun file => do
    let summary ← summarize file.2.dicts
    pure (file.1, summary))

theorem groups_of_nodes {σ : Type} {summarize : List CsvRow → Except Exn σ}
    {key : CsvRow → Str} {files : List (Str × CsvTable)} (distinct : (files.map Prod.fst).Nodup)
    (own : ∀ file ∈ files, ∀ row ∈ file.2.dicts, key row = file.1) :
    (groupBy key (files.flatMap (fun file => file.2.dicts))).mapM (fun group => do
      let summary ← summarize group.2
      pure (group.1, summary)) = nodeByNode summarize files := by
  rw [groupBy_dicts distinct own, nodeByNode, List.mapM_map]
  rfl

/-- One of the three files of a run: it can be merged, and it is read as the rows
of the nodes' files one after the other. -/
theorem merged_file {cluster : ClusterConfig} {runDir : Path} {filename : Str}
    {files : Path → Option Str} (table : Str → CsvTable) {names : List Str}
    (some : cluster.nodes ≠ []) (same : ∀ name, (table name).fieldnames = names)
    (plainNames : ∀ name ∈ names, plainName name = true)
    (plain : ∀ node ∈ cluster.nodes, Plain (table node.name))
    (holds : ∀ node ∈ cluster.nodes,
      files (nodePath runDir node.name filename) = Option.some (table node.name).text) :
    ∃ output, mergeCsvFiles (nodeInputs cluster runDir files filename) filename = .ok output ∧
      loadCsv (Option.some output) =
        .ok (((nodeFiles cluster table).flatMap (fun file => file.2.dicts)).map fullRow) := by
  obtain ⟨anyNode, _⟩ := List.exists_mem_of_ne_nil _ some
  have named : names ≠ [] := same anyNode.name ▸ (table anyNode.name).named
  have distinct : names.Nodup := same anyNode.name ▸ (table anyNode.name).distinct
  let paths := cluster.nodes.map (fun node =>
    ((nodePath runDir node.name filename).text, table node.name))
  have inputs : nodeInputs cluster runDir files filename = written paths := by
    rw [written, List.map_map]
    refine List.map_congr_left fun node member => ?_
    rw [holds node member]
    rfl
  have sameAll : ∀ file ∈ paths, file.2.fieldnames = names := by
    intro file member
    obtain ⟨node, _, rfl⟩ := List.mem_map.mp member
    exact same node.name
  have plainAll : ∀ file ∈ paths, Plain file.2 := by
    intro file member
    obtain ⟨node, inside, rfl⟩ := List.mem_map.mp member
    exact plain node inside
  have nonempty : paths ≠ [] := fun none => some (List.map_eq_nil_iff.mp none)
  refine ⟨_, ?_, (loadCsv_plain (appended names named distinct paths sameAll)
    plainNames ?_).trans ?_⟩
  · rw [inputs]
    exact mergeCsvFiles_written named distinct nonempty sameAll plainNames plainAll filename
  · intro row member
    obtain ⟨file, inside, here⟩ := List.mem_flatMap.mp member
    exact plainAll file inside row here
  · have dicts : (appended names named distinct paths sameAll).dicts =
        (nodeFiles cluster table).flatMap (fun file => file.2.dicts) := by
      change (paths.flatMap fun file => file.2.rows).map names.zip = _
      rw [List.map_flatMap, nodeFiles, List.flatMap_map, List.flatMap_map]
      refine List.flatMap_congr fun node member => ?_
      rw [CsvTable.dicts, same node.name]
    rw [dicts]

theorem exists_downloaded {cluster : ClusterConfig} {remote : Str → Str → Option Str}
    (names : ∀ node ∈ cluster.nodes, FileName node.name)
    (written : monitored.Written runtime logs clock cluster remote) (runDir : Path) (disk : Disk) :
    ∃ after, downloadNodeResults remote cluster runDir disk = some after ∧
      monitored.Downloaded runtime logs clock cluster runDir after.read := by
  have complete : ∀ node ∈ cluster.nodes, ∀ filename ∈ ClusterMain.filenames,
      (str ".csv").isSuffixOf filename = true → (remote node.name filename).isSome = true := by
    intro node member filename isFile csv
    unfold ClusterMain.filenames at isFile
    simp only [List.mem_cons, List.not_mem_nil, or_false] at isFile
    rcases isFile with rfl | rfl | rfl | rfl | rfl
    · exact absurd csv (by decide)
    · exact absurd csv (by decide)
    · rw [written.host node member]
      rfl
    · rw [written.docker node member]
      rfl
    · rw [written.queue node member]
      rfl
  have downloaded : downloadNodeResults remote cluster runDir disk = some _ :=
    downloadNodeResults_eq complete
  exact ⟨_, downloaded,
    { host := fun node member => read_downloaded names complete downloaded member (by decide)
        (written.host node member)
      docker := fun node member => read_downloaded names complete downloaded member (by decide)
        (written.docker node member)
      queue := fun node member => read_downloaded names complete downloaded member (by decide)
        (written.queue node member) }⟩

/-- The analysis of the merged files finds for each node what is in the node's own
files. -/
theorem node_summaries_of_merged_files (floats : FloatText) {document : Json}
    {cluster : ClusterConfig} (loaded : parseCluster document = .ok cluster)
    (names : ∀ node ∈ cluster.nodes, FileName node.name) {remote : Str → Str → Option Str}
    (written : monitored.Written runtime logs clock cluster remote)
    (plainHost : ∀ node ∈ cluster.nodes, Plain (monitored.hostTable runtime clock node.name))
    (plainDocker : ∀ node ∈ cluster.nodes, Plain (monitored.dockerTable logs node.name))
    (plainQueue : ∀ node ∈ cluster.nodes, Plain (monitored.queueTable clock node.name))
    (runDir : Path) (disk : Disk) :
    ∃ after merged hostRows dockerRows,
      downloadNodeResults remote cluster runDir disk = some after ∧
      mergeNodeResults cluster runDir after.read = .ok merged ∧
      loadCsv (some merged.hostStats) = .ok (hostRows.map fullRow) ∧
      loadCsv (some merged.dockerStats) = .ok (dockerRows.map fullRow) ∧
      loadCsv (some merged.queueStats) = .ok (((nodeFiles cluster
        (monitored.queueTable clock)).flatMap (fun file => file.2.dicts)).map fullRow) ∧
      summarizeHostStatsByNode floats hostRows = nodeByNode (summarizeHostStats floats)
        (nodeFiles cluster (monitored.hostTable runtime clock)) ∧
      summarizeHostIoByNode floats hostRows = nodeByNode (hostIoOfNode floats)
        (nodeFiles cluster (monitored.hostTable runtime clock)) ∧
      summarizeDockerStatsByNode floats dockerRows = nodeByNode (summarizeDockerStats floats)
        (nodeFiles cluster (monitored.dockerTable logs)) := by
  obtain ⟨after, fetched, downloaded⟩ := exists_downloaded names written runDir disk
  obtain ⟨_, valid⟩ := parseCluster_ok.mp loaded
  obtain ⟨host, hostMerged, hostLoaded⟩ :=
    merged_file (monitored.hostTable runtime clock) valid.some (fun _ => rfl)
      (by decide : ∀ name ∈ hostFieldnames, plainName name = true) plainHost downloaded.host
  obtain ⟨docker, dockerMerged, dockerLoaded⟩ :=
    merged_file (monitored.dockerTable logs) valid.some (fun _ => rfl)
      (by decide : ∀ name ∈ dockerFieldnames, plainName name = true) plainDocker downloaded.docker
  obtain ⟨queue, queueMerged, queueLoaded⟩ :=
    merged_file (monitored.queueTable clock) valid.some (fun _ => rfl)
      (by decide : ∀ name ∈ queueFieldnames, plainName name = true) plainQueue downloaded.queue
  have distinct (table : Str → CsvTable) : ((nodeFiles cluster table).map Prod.fst).Nodup := by
    rw [nodeFiles, List.map_map]
    exact valid.distinct
  have nonempty {node : NodeConfig} (member : node ∈ cluster.nodes) : node.name ≠ [] :=
    (valid.nodes node member).name.1
  refine ⟨after, ⟨host, docker, queue⟩, _, _, fetched, ?_, hostLoaded, dockerLoaded, queueLoaded,
    ?_, ?_, ?_⟩
  · rw [mergeNodeResults, hostMerged, dockerMerged, queueMerged]
    rfl
  · refine groups_of_nodes (distinct _) fun file member row inside => ?_
    obtain ⟨node, present, rfl⟩ := List.mem_map.mp member
    exact nodeOrUnknown_of_lookup (nonempty present) (hostTable_node row inside)
  · refine groups_of_nodes (distinct _) fun file member row inside => ?_
    obtain ⟨node, present, rfl⟩ := List.mem_map.mp member
    rw [hostTable_node row inside]
    rfl
  · refine groups_of_nodes (distinct _) fun file member row inside => ?_
    obtain ⟨node, present, rfl⟩ := List.mem_map.mp member
    exact nodeOrUnknown_of_lookup (nonempty present) (dockerTable_node row inside)

end Nodes

/-! ### Two nodes -/

def labNode (name role : String) : Json :=
  .obj [(str "name", .str (str name)), (str "role", .str (str role)),
    (str "host", .str (str "10.0.0.1")), (str "ssh_user", .str (str "bench"))]

def labDocument : Json :=
  .obj [(str "name", .str (str "lab")), (str "api_url", .str (str "http://10.0.0.1:8000")),
    (str "nodes", .arr [labNode "main-1" "main", labNode "w, \"2\"" "worker"])]

def labCluster : ClusterConfig :=
  { name := str "lab"
    apiUrl := str "http://10.0.0.1:8000"
    nodes :=
      [⟨str "main-1", str "main", str "10.0.0.1", str "bench", defaultPort, defaultProjectDir⟩,
      ⟨str "w, \"2\"", str "worker", str "10.0.0.1", str "bench", defaultPort, defaultProjectDir⟩] }

def labRuntime : Runtime :=
  { intOfStr := fun _ => none
    floatRepr := fun _ => str "1.5"
    sha256 := fun _ => [] }

def labLogs : LogRuntime :=
  { decoder := { recursionLimit := 10, floatOfStr := fun _ => .finite 0 }
    characterNames := fun _ => none
    containerText := fun _ => str "[]"
    floatRepr := fun _ => str "1.5"
    listLess := fun _ _ => .ok false }

def labClock : Clock :=
  { fromIsoFormat := fun _ => none
    isoFormat := fun _ => str "2026-05-04T10:00:00+00:00"
    localOffset := fun _ => 0
    lower := id
    floatOfStr := fun _ => none }

def labFloats : FloatText :=
  { floatOfStr := fun _ => some (.finite 1.5)
    fixed := fun _ _ => str "1.50" }

/-- One sample of each kind for every node; the load is not known. -/
def labMonitored : Monitored :=
  { host := fun _ => [⟨0, [], .finite 1.5, .finite 1.5, 4, 8, none, some (1, 2), some (3, 4)⟩]
    docker := fun _ =>
      [⟨str "2026-05-04T10:00:00+00:00", 0,
        str "\x7b\"Name\":\"docker-worker-heavy-1\",\"CPUPerc\":\"97.20%\"," ++
          str "\"MemPerc\":\"1.50%\",\"MemUsage\":\"1MiB / 2GiB\",\"PIDs\":\"5\"\x7d\n"⟩]
    queue := fun _ => [⟨0, [], some (3, 4)⟩, ⟨1, [], none⟩] }

/-- The files on a node. -/
def labRemote (name filename : Str) : Option Str :=
  [(str "host_stats.csv", (labMonitored.hostTable labRuntime labClock name).text),
    (str "docker_stats.csv", (labMonitored.dockerTable labLogs name).text),
    (str "queue_stats.csv", (labMonitored.queueTable labClock name).text)].lookup filename

theorem lab_written : labMonitored.Written labRuntime labLogs labClock labCluster labRemote where
  host _ _ := rfl
  docker _ _ := rfl
  queue _ _ := rfl

theorem lab_names : ∀ node ∈ labCluster.nodes, FileName node.name := by
  unfold labCluster
  rw [List.forall_mem_cons, List.forall_mem_singleton]
  exact ⟨⟨by decide, by decide, by decide, by decide, by decide, by decide⟩,
    ⟨by decide, by decide, by decide, by decide, by decide, by decide⟩⟩

theorem two_nodes_merged :
    parseCluster labDocument = .ok labCluster ∧
    ∃ (after : Disk) (merged : MetricFiles) (hostRows dockerRows : List CsvRow),
      downloadNodeResults labRemote labCluster (Path.ofStr (str "run")) ⟨[], []⟩ = some after ∧
      mergeNodeResults labCluster (Path.ofStr (str "run")) after.read = .ok merged ∧
      loadCsv (some merged.hostStats) = .ok (hostRows.map fullRow) ∧
      loadCsv (some merged.dockerStats) = .ok (dockerRows.map fullRow) ∧
      loadCsv (some merged.queueStats) = .ok (((nodeFiles labCluster
        (labMonitored.queueTable labClock)).flatMap (fun file => file.2.dicts)).map fullRow) ∧
      summarizeHostStatsByNode labFloats hostRows = nodeByNode (summarizeHostStats labFloats)
        (nodeFiles labCluster (labMonitored.hostTable labRuntime labClock)) ∧
      summarizeHostIoByNode labFloats hostRows = nodeByNode (hostIoOfNode labFloats)
        (nodeFiles labCluster (labMonitored.hostTable labRuntime labClock)) ∧
      summarizeDockerStatsByNode labFloats dockerRows = nodeByNode (summarizeDockerStats labFloats)
        (nodeFiles labCluster (labMonitored.dockerTable labLogs)) := by
  have loaded : parseCluster labDocument = .ok labCluster := rfl
  refine ⟨loaded, node_summaries_of_merged_files labFloats loaded lab_names lab_written
    ?_ ?_ ?_ _ _⟩
  · unfold Plain
    decide +kernel
  · unfold Plain
    decide +kernel
  · unfold Plain
    decide +kernel

end ImagePipeline.Properties.NodeFiles
