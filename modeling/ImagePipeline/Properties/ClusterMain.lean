/-
What can be relied on in every run of the cluster benchmark, however its actions
end: what follows on what, what is still done after something has failed, which
monitors are stopped, and what it means that the run has succeeded.
-/

import ImagePipeline.Benchmark.ClusterMain

namespace ImagePipeline.Properties.ClusterMain

open Common Benchmark
open Benchmark.ClusterMain
open Library.Stateful (Ends resultOf stateOf)

/-- The parts of a run, in their order. -/
def rank : Action → Nat
  | .createRunDirectory | .writeConfig | .checkApiHealth | .checkConnection _ | .remoteCleanup _
  | .updateConfigFile => 0
  | .createDirectory _ | .startBackground _ => 1
  | .sleepWarmup | .runK6 | .makeRunDirectory | .writeK6Stdout | .sleepCooldown => 2
  | .stopProcess _ _ | .sleepAfterStop => 3
  | .makeNodeDirectory _ | .downloadFile _ _ | .makeLogsDirectory _ | .listContainers _
  | .collectLog _ _ => 4
  | .mergeNodeResults | .generateErrorTimeline | .generateThroughputTimeline
  | .generateTimelinePlots | .analyzeRun | .generateReport => 5
  | .updateLatest => 6

/-- What is also done once something has failed: to save the output of k6, to stop
the monitors and to collect what there is. -/
def salvages : Action → Bool
  | .makeRunDirectory | .writeK6Stdout => true
  | action => rank action = 3 || rank action = 4

def succeeded (returncode : Int) : Bool := returncode = 0

/-- The action has ended as it should, or in a way that is put up with. -/
def fine (event : Event) : Bool :=
  match event with
  | ⟨.checkConnection _, .ok connected⟩ => connected
  | ⟨.runK6, .ok returncode⟩ => succeeded returncode
  | ⟨.stopProcess _ _, .error raised⟩ => raised.isException
  | ⟨.downloadFile _ filename, .error raised⟩ =>
      raised = .calledProcessError && !(str ".csv").isSuffixOf filename
  | ⟨_, .ok _⟩ => true
  | ⟨_, .error _⟩ => false

/-- What may come later in a run: nothing of an earlier part, and after a failure
only what salvages. -/
def Follows (earlier later : Event) : Prop :=
  rank earlier.action ≤ rank later.action ∧
    (fine earlier = false → salvages later.action = true)

def startedBy : Event → Option (Str × Nat)
  | ⟨.startBackground node, .ok pid⟩ => some (node, pid)
  | _ => none

/-- A monitor that was told to stop, whether this worked or not. -/
def stoppedBy : Event → Option (Str × Nat)
  | ⟨.stopProcess node pid, _⟩ => some (node, pid)
  | _ => none

def started (trace : List Event) : List (Str × Nat) := trace.filterMap startedBy

def stopped (trace : List Event) : List (Str × Nat) := trace.filterMap stoppedBy

/-- How far a run is: the part, the monitors started and stopped, and the locals. -/
structure Progress where
  part : Nat
  up : List (Str × Nat)
  down : List (Str × Nat)
  pids : List (Str × Nat)
  k6 : Option Int

/-- A run that has got so far with its events in order, and with k6 only if all
monitors are up. -/
structure At (names : List Str) (progress : Progress) (world : World) : Prop where
  ordered : world.trace.Pairwise Follows
  upTo : ∀ event ∈ world.trace, rank event.action ≤ progress.part
  up : started world.trace = progress.up
  down : stopped world.trace = progress.down
  pids : world.monitorPids = progress.pids
  k6 : world.k6Result = progress.k6
  loaded : ∀ event ∈ world.trace, rank event.action = 2 → progress.up.map Prod.fst = names

/-- Nothing has failed. -/
def Clean (world : World) : Prop := ∀ event ∈ world.trace, fine event = true

theorem At.mono {names : List Str} {progress : Progress} {world : World}
    (reached : At names progress world) {later : Nat} (le : progress.part ≤ later) :
    At names { progress with part := later } world :=
  { reached with upTo := fun event member => Nat.le_trans (reached.upTo event member) le }

theorem Clean.snoc {world : World} {event : Event} (clean : Clean world)
    (isFine : fine event = true) : Clean (world.after event) := by
  intro other member
  rcases List.mem_append.mp member with earlier | last
  · exact clean other earlier
  · rw [List.mem_singleton.mp last]
    exact isFine

section Actions

variable {surroundings : Surroundings} {world : World} {names : List Str} {progress : Progress}

theorem rank_of_started {event : Event} {monitor : Str × Nat}
    (starts : startedBy event = some monitor) : rank event.action = 1 := by
  unfold startedBy at starts
  split at starts
  · rfl
  · cases starts

theorem At.snoc (event : Event) (reached : At names progress world)
    (le : progress.part ≤ rank event.action)
    (allowed : Clean world ∨ salvages event.action = true)
    (load : rank event.action = 2 → progress.up.map Prod.fst = names) :
    At names
      { progress with
        part := rank event.action
        up := progress.up ++ (startedBy event).toList
        down := progress.down ++ (stoppedBy event).toList } (world.after event) where
  ordered := by
    unfold World.after
    rw [List.pairwise_append]
    refine ⟨reached.ordered, List.pairwise_singleton _ _, ?_⟩
    intro earlier member later last
    rw [List.mem_singleton.mp last]
    refine ⟨Nat.le_trans (reached.upTo earlier member) le, ?_⟩
    intro failed
    rcases allowed with clean | salvaging
    · rw [clean earlier member] at failed
      cases failed
    · exact salvaging
  upTo other member := by
    rcases List.mem_append.mp member with earlier | last
    · exact Nat.le_trans (reached.upTo other earlier) le
    · rw [List.mem_singleton.mp last]
  up := by
    unfold started World.after
    rw [List.filterMap_append, ← reached.up]
    cases made : startedBy event <;> simp [made, started]
  down := by
    unfold stopped World.after
    rw [List.filterMap_append, ← reached.down]
    cases made : stoppedBy event <;> simp [made, stopped]
  pids := reached.pids
  k6 := reached.k6
  loaded other member inLoad := by
    dsimp only
    cases starts : startedBy event with
    | none =>
        rw [Option.toList_none, List.append_nil]
        rcases List.mem_append.mp member with earlier | last
        · exact reached.loaded other earlier inLoad
        · rw [List.mem_singleton.mp last] at inLoad
          exact load inLoad
    | some monitor =>
        -- nothing of the load comes before a monitor that is started
        have first := rank_of_started starts
        rcases List.mem_append.mp member with earlier | last
        · have bound := reached.upTo other earlier
          omega
        · rw [List.mem_singleton.mp last] at inLoad
          omega

/-- Everything that an action does to the world. -/
theorem perform_ends {action : Action} {returned : action.Result → World → Prop}
    {raised : RunError → World → Prop}
    (answered : ∀ value, returned value (world.after ⟨action, .ok value⟩))
    (failed : ∀ error, raised error (world.after ⟨action, .error error⟩)) :
    Ends (perform surroundings action) world returned raised := by
  cases result : surroundings world.trace action with
  | ok value =>
      refine Ends.of_ok ?_ (answered value)
      simp only [perform, result]
  | error error =>
      refine Ends.of_error ?_ (failed error)
      simp only [perform, result]

/-- Neither starts a monitor nor stops one, and is as it should be if it returns. -/
def plain : Action → Bool
  | .startBackground _ | .stopProcess _ _ | .checkConnection _ | .runK6 => false
  | _ => true

theorem plain_event {action : Action} (isPlain : plain action = true)
    (outcome : Except RunError action.Result) :
    startedBy ⟨action, outcome⟩ = none ∧ stoppedBy ⟨action, outcome⟩ = none := by
  cases action <;> first | exact ⟨rfl, rfl⟩ | cases isPlain

theorem fine_of_returned {action : Action} (isPlain : plain action = true)
    (value : action.Result) : fine ⟨action, .ok value⟩ = true := by
  cases action <;> first | rfl | cases isPlain

theorem At.quiet (event : Event) (reached : At names progress world)
    (unwatched : startedBy event = none ∧ stoppedBy event = none)
    (le : progress.part ≤ rank event.action)
    (allowed : Clean world ∨ salvages event.action = true)
    (load : rank event.action = 2 → progress.up.map Prod.fst = names) :
    At names { progress with part := rank event.action } (world.after event) := by
  have now := reached.snoc event le allowed load
  rw [unwatched.1, unwatched.2, Option.toList_none, List.append_nil, List.append_nil] at now
  exact now

/-- A plain action while nothing has failed. -/
theorem perform_clean {action : Action} (isPlain : plain action = true)
    (reached : At names progress world) (clean : Clean world) (le : progress.part ≤ rank action)
    (load : rank action = 2 → progress.up.map Prod.fst = names) :
    Ends (perform surroundings action) world
      (fun _ after => At names { progress with part := rank action } after ∧ Clean after)
      (fun _ after => At names { progress with part := rank action } after) := by
  apply perform_ends
  · intro value
    exact ⟨reached.quiet _ (plain_event isPlain _) le (.inl clean) load,
      clean.snoc (fine_of_returned isPlain value)⟩
  · intro error
    exact reached.quiet _ (plain_event isPlain _) le (.inl clean) load

/-- A plain action that salvages, whatever has happened. -/
theorem perform_salvage {action : Action} (isPlain : plain action = true)
    (salvaging : salvages action = true) (reached : At names progress world) {fineSoFar : Prop}
    (clean : fineSoFar → Clean world) (le : progress.part ≤ rank action)
    (load : rank action = 2 → progress.up.map Prod.fst = names) :
    Ends (perform surroundings action) world
      (fun _ after => At names { progress with part := rank action } after ∧
        (fineSoFar → Clean after))
      (fun _ after => At names { progress with part := rank action } after) := by
  apply perform_ends
  · intro value
    exact ⟨reached.quiet _ (plain_event isPlain _) le (.inr salvaging) load,
      fun known => (clean known).snoc (fine_of_returned isPlain value)⟩
  · intro error
    exact reached.quiet _ (plain_event isPlain _) le (.inr salvaging) load

end Actions

section Parts

variable {surroundings : Surroundings} {world : World} {nodes : List NodeConfig}
  {progress : Progress}

def namesOf (nodes : List NodeConfig) : List Str := nodes.map NodeConfig.name

def unloaded : Progress := ⟨0, [], [], [], none⟩

/-- A run before its load, in which nothing has failed. -/
def Preparing (nodes : List NodeConfig) (world : World) : Prop :=
  At (namesOf nodes) unloaded world ∧ Clean world

theorem perform_preparing {action : Action} (isPlain : plain action = true)
    (first : rank action = 0) (preparing : Preparing nodes world) :
    Ends (perform surroundings action) world (fun _ after => Preparing nodes after)
      (fun _ after => At (namesOf nodes) unloaded after) := by
  have done : Ends (perform surroundings action) world _ _ :=
    perform_clean isPlain preparing.1 preparing.2 (Nat.zero_le _) (by rw [first]; nofun)
  rw [first] at done
  exact done

theorem checkSshConnections_ends (preparing : Preparing nodes world) :
    Ends (checkSshConnections surroundings nodes) world (fun _ after => Preparing nodes after)
      (fun _ after => At (namesOf nodes) unloaded after) := by
  apply Ends.forM (fun _ after => Preparing nodes after)
  · intro done node rest before _ preparing
    have asked (outcome : Except RunError Bool) :
        At (namesOf nodes) unloaded (before.after ⟨.checkConnection node.name, outcome⟩) :=
      preparing.1.quiet ⟨.checkConnection node.name, outcome⟩ ⟨rfl, rfl⟩ (Nat.zero_le _)
        (.inl preparing.2) nofun
    have asks : Ends (perform surroundings (.checkConnection node.name)) before
        (fun (connected : Bool) after => At (namesOf nodes) unloaded after ∧
          (connected = true → Clean after))
        (fun _ after => At (namesOf nodes) unloaded after) :=
      perform_ends (fun connected => ⟨asked (.ok connected), fun well => preparing.2.snoc well⟩)
        fun error => asked (.error error)
    apply Ends.bind asks
    · exact fun _ _ failed => failed
    · intro connected after ⟨reached, clean⟩
      cases connected with
      | true => exact Ends.of_ok rfl ⟨reached, clean rfl⟩
      | false => exact Ends.of_error rfl reached
  · exact preparing

theorem findMainNode_ends (preparing : Preparing nodes world) :
    Ends (findMainNode nodes) world (fun _ after => Preparing nodes after)
      (fun _ after => At (namesOf nodes) unloaded after) := by
  unfold findMainNode
  split
  · exact Ends.of_ok rfl preparing
  · exact Ends.of_error rfl preparing.1

theorem cleanup_ends (cleanupBeforeRun : Bool) (preparing : Preparing nodes world) :
    Ends (cleanup surroundings cleanupBeforeRun) world (fun _ after => Preparing nodes after)
      (fun _ after => At (namesOf nodes) unloaded after) := by
  unfold cleanup
  split
  · apply Ends.forM (fun _ after => Preparing nodes after)
    · intro _ command _ before _ cleaning
      exact perform_preparing rfl rfl cleaning
    · exact preparing
  · exact Ends.of_ok rfl preparing

theorem prepare_ends (cluster : ClusterConfig) (cleanupBeforeRun : Bool) :
    Ends (prepare surroundings cluster cleanupBeforeRun) ⟨[], [], none⟩
      (fun _ after => Preparing cluster.nodes after)
      (fun _ after => At (namesOf cluster.nodes) unloaded after) := by
  have initially : Preparing cluster.nodes ⟨[], [], none⟩ :=
    ⟨⟨.nil, nofun, rfl, rfl, rfl, rfl, nofun⟩, nofun⟩
  unfold prepare
  apply Ends.bind (perform_preparing rfl rfl initially)
  · exact fun _ _ failed => failed
  intro _ _ created
  apply Ends.bind (perform_preparing rfl rfl created)
  · exact fun _ _ failed => failed
  intro _ _ written
  apply Ends.bind (perform_preparing rfl rfl written)
  · exact fun _ _ failed => failed
  intro _ _ healthy
  apply Ends.bind (checkSshConnections_ends healthy)
  · exact fun _ _ failed => failed
  intro _ _ connected
  apply Ends.bind (findMainNode_ends connected)
  · exact fun _ _ failed => failed
  intro _ _ found
  apply Ends.bind (cleanup_ends cleanupBeforeRun found)
  · exact fun _ _ failed => failed
  intro _ _ cleaned
  exact perform_preparing rfl rfl cleaned

/-! ### The load -/

/-- While the monitors are started: so many are up. -/
def Starting (nodes : List NodeConfig) (up : List (Str × Nat)) (world : World) : Prop :=
  At (namesOf nodes) { unloaded with part := 1, up } world

/-- Some node has failed, and with it all that the local variable would hold. -/
def StartFailed (nodes : List NodeConfig) (world : World) : Prop :=
  ∃ up, Starting nodes up world ∧ up.map Prod.fst <+: namesOf nodes ∧ up.length < nodes.length

theorem startRemoteMonitors_ends (preparing : Preparing nodes world) :
    Ends (startRemoteMonitors surroundings nodes) world
      (fun pids after => Starting nodes pids after ∧ Clean after ∧
        pids.map Prod.fst = namesOf nodes)
      (fun _ after => StartFailed nodes after) := by
  apply Ends.mapM (fun done results after => Starting nodes results after ∧ Clean after ∧
    results.map Prod.fst = namesOf done)
  · intro done node rest results before split ⟨starting, clean, sofar⟩
    have few : results.map Prod.fst <+: namesOf nodes ∧ results.length < nodes.length := by
      constructor
      · rw [sofar, split]
        exact ⟨namesOf (node :: rest), List.map_append.symm⟩
      · have lengths := congrArg List.length sofar
        rw [List.length_map, namesOf, List.length_map] at lengths
        rw [lengths, split, List.length_append, List.length_cons]
        omega
    have creates : Ends (perform surroundings (.createDirectory node.name)) before
        (fun _ after => Starting nodes results after ∧ Clean after)
        (fun _ after => Starting nodes results after) :=
      perform_clean rfl starting clean (Nat.le_refl _) nofun
    apply Ends.bind creates
    · exact fun _ _ failed => ⟨results, failed, few⟩
    intro _ created ⟨starting, clean⟩
    have up (outcome : Except RunError Nat) := starting.snoc
      ⟨.startBackground node.name, outcome⟩ (Nat.le_refl _) (.inl clean) nofun
    have starts : Ends (perform surroundings (.startBackground node.name)) created
        (fun (pid : Nat) after => Starting nodes (results ++ [(node.name, pid)]) after ∧
          Clean after)
        (fun _ after => Starting nodes results after) := by
      apply perform_ends
      · intro pid
        exact ⟨up (.ok pid), clean.snoc rfl⟩
      · intro error
        have failed := up (.error error)
        change At _ { unloaded with part := 1, up := results ++ [], down := [] } _ at failed
        rw [List.append_nil] at failed
        exact failed
    apply Ends.bind starts
    · exact fun _ _ failed => ⟨results, failed, few⟩
    · intro pid after ⟨now, stillClean⟩
      refine Ends.of_ok rfl ⟨now, stillClean, ?_⟩
      rw [List.map_append, sofar, namesOf, namesOf, List.map_append]
      rfl
  · exact ⟨preparing.1.mono (Nat.zero_le _), preparing.2, rfl⟩

/-- The monitors that are up and the ones that `main` knows of. -/
def Known (nodes : List NodeConfig) (up pids : List (Str × Nat)) : Prop :=
  pids = up ∧ up.map Prod.fst = namesOf nodes ∨
    pids = [] ∧ up.map Prod.fst <+: namesOf nodes ∧ up.length < nodes.length

/-- The load is over, in one way or another. -/
def Loaded (nodes : List NodeConfig) (world : World) : Prop :=
  ∃ up pids k6, Known nodes up pids ∧ At (namesOf nodes) ⟨2, up, [], pids, k6⟩ world

/-- k6 has ended; what is fine so far is fine exactly if it has succeeded. -/
def K6Ended (nodes : List NodeConfig) (pids : List (Str × Nat)) (k6 : Option Int)
    (returncode : Int) (world : World) : Prop :=
  At (namesOf nodes) ⟨2, pids, [], pids, k6⟩ world ∧ (returncode = 0 → Clean world)

theorem runK6_ends {pids : List (Str × Nat)} (all : pids.map Prod.fst = namesOf nodes)
    (warm : At (namesOf nodes) ⟨2, pids, [], pids, none⟩ world) (clean : Clean world) :
    Ends (perform surroundings .runK6) world
      (fun (returncode : Int) after => K6Ended nodes pids none returncode after)
      (fun _ after => Loaded nodes after) := by
  have ran (outcome : Except RunError Int) :=
    warm.quiet ⟨.runK6, outcome⟩ ⟨rfl, rfl⟩ (Nat.le_refl _) (.inl clean) fun _ => all
  apply perform_ends
  · intro (returncode : Int)
    exact ⟨ran (.ok returncode), fun well => clean.snoc (decide_eq_true well)⟩
  · intro error
    exact ⟨pids, pids, none, .inl ⟨rfl, all⟩, ran (.error error)⟩

theorem saveK6_ends {pids : List (Str × Nat)} (all : pids.map Prod.fst = namesOf nodes)
    {returncode : Int} (ended : K6Ended nodes pids (some returncode) returncode world) :
    Ends
      (do
        perform surroundings .makeRunDirectory
        perform surroundings .writeK6Stdout
        checkReturncode returncode
        perform surroundings .sleepCooldown) world
      (fun _ after => At (namesOf nodes) ⟨2, pids, [], pids, some 0⟩ after ∧ Clean after)
      (fun _ after => Loaded nodes after) := by
  have atEnd {after : World}
      (reached : At (namesOf nodes) ⟨2, pids, [], pids, some returncode⟩ after) :
      Loaded nodes after := ⟨pids, pids, _, .inl ⟨rfl, all⟩, reached⟩
  have makes : Ends (perform surroundings .makeRunDirectory) world _ _ :=
    perform_salvage rfl rfl ended.1 ended.2 (Nat.le_refl _) fun _ => all
  apply Ends.bind makes
  · exact fun _ _ failed => atEnd failed
  intro _ made ⟨reached, clean⟩
  have writes : Ends (perform surroundings .writeK6Stdout) made _ _ :=
    perform_salvage rfl rfl reached clean (Nat.le_refl _) fun _ => all
  apply Ends.bind writes
  · exact fun _ _ failed => atEnd failed
  intro _ written ⟨reached, clean⟩
  unfold checkReturncode
  by_cases well : returncode = 0
  · subst well
    rw [if_neg (not_not_intro rfl)]
    change Ends (perform surroundings .sleepCooldown) written _ _
    have cools : Ends (perform surroundings .sleepCooldown) written _ _ :=
      perform_clean rfl reached (clean rfl) (Nat.le_refl 2) fun _ => all
    exact cools.mono (fun _ _ cooled => cooled) fun _ _ failed => atEnd failed
  · rw [if_pos well]
    exact Ends.of_error rfl (atEnd reached)

theorem load_ends (preparing : Preparing nodes world) :
    Ends (load surroundings nodes) world
      (fun _ after => ∃ pids, pids.map Prod.fst = namesOf nodes ∧
        At (namesOf nodes) ⟨2, pids, [], pids, some 0⟩ after ∧ Clean after)
      (fun _ after => Loaded nodes after) := by
  unfold load
  apply Ends.bind (startRemoteMonitors_ends preparing)
  · intro _ after ⟨up, starting, few⟩
    exact ⟨up, [], none, .inr ⟨rfl, few⟩, starting.mono (Nat.le_succ 1)⟩
  intro pids up ⟨starting, clean, all⟩
  apply Ends.modify_bind
  have assigned : At (namesOf nodes) ⟨1, pids, [], pids, none⟩ { up with monitorPids := pids } :=
    { starting with pids := rfl }
  have sleeps : Ends (perform surroundings .sleepWarmup) { up with monitorPids := pids } _ _ :=
    perform_clean rfl assigned clean (Nat.le_succ 1) fun _ => all
  apply Ends.bind sleeps
  · exact fun _ _ failed => ⟨pids, pids, none, .inl ⟨rfl, all⟩, failed⟩
  intro _ _ ⟨warm, clean⟩
  apply Ends.bind (runK6_ends all warm clean)
  · exact fun _ _ failed => failed
  intro returncode ran ended
  apply Ends.modify_bind
  have kept : K6Ended nodes pids (some returncode) returncode
      { ran with k6Result := some returncode } := ⟨{ ended.1 with k6 := rfl }, ended.2⟩
  exact (saveK6_ends all kept).mono (fun _ _ done => ⟨pids, all, done⟩) fun _ _ failed => failed

/-! ### What is done in any case -/

/-- A stop was broken off by something that is no `Exception`. -/
def StopBroken (world : World) : Prop :=
  ∃ event ∈ world.trace, (stoppedBy event).isSome = true ∧ fine event = false

/-- Not all monitors have been told to stop, because a stop was broken off. -/
def Interrupted (nodes : List NodeConfig) (up pids : List (Str × Nat)) (k6 : Option Int)
    (world : World) : Prop :=
  ∃ down, down <+: pids ∧ At (namesOf nodes) ⟨3, up, down, pids, k6⟩ world ∧ StopBroken world

/-- The monitors are told to stop, one after the other. -/
def Stopping (nodes : List NodeConfig) (up pids : List (Str × Nat)) (k6 : Option Int)
    (fineSoFar : Prop) (down : List (Str × Nat)) (world : World) : Prop :=
  At (namesOf nodes) ⟨3, up, down, pids, k6⟩ world ∧ (fineSoFar → Clean world)

theorem lookup_split {key : Str} {pid : Nat} {before after : List (Str × Nat)}
    (fresh : key ∉ before.map Prod.fst) :
    (before ++ (key, pid) :: after).lookup key = some pid := by
  refine List.lookup_eq_some_iff.mpr ⟨before, after, rfl, ?_⟩
  intro entry member
  have different : key ≠ entry.1 := fun same => fresh (same ▸ List.mem_map_of_mem member)
  exact bne_iff_ne.mpr different

theorem stopProcess_ends {up pids down : List (Str × Nat)} {k6 : Option Int} {fineSoFar : Prop}
    {name : Str} {pid : Nat} (listed : down ++ [(name, pid)] <+: pids)
    (stopping : Stopping nodes up pids k6 fineSoFar down world) :
    Ends
      (tryCatch (perform surroundings (.stopProcess name pid)) fun error =>
        if error.isException then pure () else throw error) world
      (fun _ after => Stopping nodes up pids k6 fineSoFar (down ++ [(name, pid)]) after)
      (fun _ after => Interrupted nodes up pids k6 after) := by
  have told (outcome : Except RunError Unit) :
      At (namesOf nodes) ⟨3, up, down ++ [(name, pid)], pids, k6⟩
        (world.after ⟨.stopProcess name pid, outcome⟩) := by
    have now := stopping.1.snoc ⟨.stopProcess name pid, outcome⟩ (Nat.le_refl 3) (.inr rfl) nofun
    change At _ ⟨3, up ++ [], down ++ [(name, pid)], pids, k6⟩ _ at now
    rwa [List.append_nil] at now
  have stops : Ends (perform surroundings (.stopProcess name pid)) world
      (fun _ after => Stopping nodes up pids k6 fineSoFar (down ++ [(name, pid)]) after)
      (fun error after => after = world.after ⟨.stopProcess name pid, .error error⟩) :=
    perform_ends (fun _ => ⟨told (.ok ()), fun known => (stopping.2 known).snoc rfl⟩)
      fun _ => rfl
  apply Ends.tryCatch stops
  rintro error _ rfl
  by_cases passed : error.isException = true
  · rw [if_pos passed]
    exact Ends.of_ok rfl ⟨told (.error error), fun known => (stopping.2 known).snoc passed⟩
  · rw [if_neg passed]
    have broken : StopBroken (world.after ⟨.stopProcess name pid, .error error⟩) :=
      ⟨_, List.mem_append_right _ (List.mem_singleton.mpr rfl), rfl, Bool.not_eq_true _ ▸ passed⟩
    exact Ends.of_error rfl ⟨_, listed, told (.error error), broken⟩

theorem stopRemoteMonitors_ends {up pids : List (Str × Nat)} {k6 : Option Int}
    (distinct : (namesOf nodes).Nodup) (known : Known nodes up pids) {fineSoFar : Prop}
    (stopping : Stopping nodes up pids k6 fineSoFar [] world) :
    Ends (stopRemoteMonitors surroundings pids nodes) world
      (fun _ after => Stopping nodes up pids k6 fineSoFar pids after)
      (fun _ after => Interrupted nodes up pids k6 after) := by
  rcases known with ⟨_, all⟩ | ⟨rfl, _⟩
  · subst pids
    have loop : Ends (stopRemoteMonitors surroundings up nodes) world
        (fun _ after => ∃ down left, up = down ++ left ∧ down.map Prod.fst = namesOf nodes ∧
          Stopping nodes up up k6 fineSoFar down after)
        (fun _ after => Interrupted nodes up up k6 after) := by
      apply Ends.forM (fun done after => ∃ down left, up = down ++ left ∧
        down.map Prod.fst = namesOf done ∧ Stopping nodes up up k6 fineSoFar down after)
      · intro done node rest before split ⟨down, left, whole, sofar, stopping⟩
        have behind : left.map Prod.fst = node.name :: namesOf rest := by
          rw [split, whole, List.map_append, sofar, namesOf, namesOf, List.map_append] at all
          exact List.append_cancel_left all
        cases left with
        | nil => cases behind
        | cons monitor others =>
            obtain ⟨name, pid⟩ := monitor
            obtain ⟨rfl, _⟩ := List.cons.inj behind
            have fresh : node.name ∉ down.map Prod.fst := by
              rw [← all, whole, List.map_append] at distinct
              have apart := (List.nodup_append.mp distinct).2.2
              intro member
              exact apart _ member _ List.mem_cons_self rfl
            have found : up.lookup node.name = some pid := by
              rw [whole]
              exact lookup_split fresh
            rw [found]
            have listed : down ++ [(node.name, pid)] <+: up :=
              ⟨others, by rw [whole, List.append_assoc]; rfl⟩
            apply (stopProcess_ends listed stopping).mono
            · intro _ after now
              refine ⟨_, others, ?_, ?_, now⟩
              · rw [whole, List.append_assoc]
                rfl
              · rw [List.map_append, sofar, namesOf, namesOf, List.map_append]
                rfl
            · exact fun _ _ failed => failed
      · exact ⟨[], up, rfl, rfl, stopping⟩
    apply loop.mono
    · intro _ after ⟨down, left, whole, sofar, now⟩
      have lengths := congrArg List.length (sofar.trans all.symm)
      rw [List.length_map, List.length_map] at lengths
      have same : down = up := by
        apply List.IsPrefix.eq_of_length ⟨left, whole.symm⟩ lengths
      rw [same] at now
      exact now
    · exact fun _ _ failed => failed
  · apply Ends.forM (fun _ after => Stopping nodes up [] k6 fineSoFar [] after)
    · intro _ node _ before _ now
      exact Ends.of_ok rfl now
    · exact stopping

/-- The monitors are stopped, and their files are fetched. -/
def Collecting (nodes : List NodeConfig) (up pids : List (Str × Nat)) (k6 : Option Int)
    (fineSoFar : Prop) (world : World) : Prop :=
  At (namesOf nodes) ⟨4, up, pids, pids, k6⟩ world ∧ (fineSoFar → Clean world)

variable {up pids : List (Str × Nat)} {k6 : Option Int} {fineSoFar : Prop}

theorem perform_collecting {action : Action} (isPlain : plain action = true)
    (fetches : rank action = 4) (collecting : Collecting nodes up pids k6 fineSoFar world) :
    Ends (perform surroundings action) world
      (fun _ after => Collecting nodes up pids k6 fineSoFar after)
      (fun _ after => At (namesOf nodes) ⟨4, up, pids, pids, k6⟩ after) := by
  have salvaging : salvages action = true := by
    cases action <;> first | rfl | cases fetches
  have done : Ends (perform surroundings action) world _ _ :=
    perform_salvage isPlain salvaging collecting.1 collecting.2 (by rw [fetches])
      (by rw [fetches]; nofun)
  rw [fetches] at done
  exact done

theorem downloadFile_ends {name filename : Str}
    (collecting : Collecting nodes up pids k6 fineSoFar world) :
    Ends
      (tryCatch (perform surroundings (.downloadFile name filename)) fun error =>
        if error = .calledProcessError ∧ (str ".csv").isSuffixOf filename = false then pure ()
        else throw error) world
      (fun _ after => Collecting nodes up pids k6 fineSoFar after)
      (fun _ after => At (namesOf nodes) ⟨4, up, pids, pids, k6⟩ after) := by
  have fetched (outcome : Except RunError Unit) :
      At (namesOf nodes) ⟨4, up, pids, pids, k6⟩
        (world.after ⟨.downloadFile name filename, outcome⟩) :=
    collecting.1.quiet ⟨.downloadFile name filename, outcome⟩ ⟨rfl, rfl⟩ (Nat.le_refl 4)
      (.inr rfl) nofun
  have fetches : Ends (perform surroundings (.downloadFile name filename)) world
      (fun _ after => Collecting nodes up pids k6 fineSoFar after)
      (fun error after => after = world.after ⟨.downloadFile name filename, .error error⟩) :=
    perform_ends (fun _ => ⟨fetched (.ok ()), fun known => (collecting.2 known).snoc rfl⟩)
      fun _ => rfl
  apply Ends.tryCatch fetches
  rintro error _ rfl
  by_cases passed : error = .calledProcessError ∧ (str ".csv").isSuffixOf filename = false
  · rw [if_pos passed]
    have isFine : fine ⟨.downloadFile name filename, .error error⟩ = true := by
      change (decide (error = .calledProcessError) && !(str ".csv").isSuffixOf filename) = true
      rw [passed.2, decide_eq_true passed.1]
      rfl
    exact Ends.of_ok rfl ⟨fetched (.error error), fun known => (collecting.2 known).snoc isFine⟩
  · rw [if_neg passed]
    exact Ends.of_error rfl (fetched (.error error))

theorem downloadNodeResults_ends (collecting : Collecting nodes up pids k6 fineSoFar world) :
    Ends (downloadNodeResults surroundings nodes) world
      (fun _ after => Collecting nodes up pids k6 fineSoFar after)
      (fun _ after => At (namesOf nodes) ⟨4, up, pids, pids, k6⟩ after) := by
  apply Ends.forM (fun _ after => Collecting nodes up pids k6 fineSoFar after)
  · intro _ node _ before _ sofar
    apply Ends.bind (perform_collecting rfl rfl sofar)
    · exact fun _ _ failed => failed
    intro _ made created
    apply Ends.forM (fun _ after => Collecting nodes up pids k6 fineSoFar after)
    · intro _ filename _ before _ sofar
      exact downloadFile_ends sofar
    · exact created
  · exact collecting

theorem collectRemoteContainerLogs_ends
    (collecting : Collecting nodes up pids k6 fineSoFar world) :
    Ends (collectRemoteContainerLogs surroundings nodes) world
      (fun _ after => Collecting nodes up pids k6 fineSoFar after)
      (fun _ after => At (namesOf nodes) ⟨4, up, pids, pids, k6⟩ after) := by
  apply Ends.forM (fun _ after => Collecting nodes up pids k6 fineSoFar after)
  · intro _ node _ before _ sofar
    apply Ends.bind (perform_collecting rfl rfl sofar)
    · exact fun _ _ failed => failed
    intro _ made created
    apply Ends.bind (perform_collecting rfl rfl created)
    · exact fun _ _ failed => failed
    intro containers listed found
    cases containers with
    | none => exact Ends.of_ok rfl found
    | some names =>
        apply Ends.forM (fun _ after => Collecting nodes up pids k6 fineSoFar after)
        · intro _ container _ before _ sofar
          exact perform_collecting rfl rfl sofar
        · exact found
  · exact collecting

/-- All monitors that are known have been told to stop, or a stop was broken off. -/
def Over (nodes : List NodeConfig) (up pids : List (Str × Nat)) (k6 : Option Int)
    (world : World) : Prop :=
  ∃ down, down <+: pids ∧ At (namesOf nodes) ⟨4, up, down, pids, k6⟩ world ∧
    (down = pids ∨ StopBroken world)

theorem afterLoad_ends (distinct : (namesOf nodes).Nodup) (known : Known nodes up pids)
    (reached : At (namesOf nodes) ⟨2, up, [], pids, k6⟩ world) (clean : fineSoFar → Clean world) :
    Ends (afterLoad surroundings nodes) world
      (fun _ after => Collecting nodes up pids k6 fineSoFar after)
      (fun _ after => Over nodes up pids k6 after) := by
  have atEnd {after : World} (last : At (namesOf nodes) ⟨4, up, pids, pids, k6⟩ after) :
      Over nodes up pids k6 after := ⟨pids, List.prefix_rfl, last, .inl rfl⟩
  unfold afterLoad
  apply Ends.get_bind
  rw [reached.pids]
  have stopping : Stopping nodes up pids k6 fineSoFar [] world :=
    ⟨reached.mono (Nat.le_succ 2), clean⟩
  apply Ends.bind (stopRemoteMonitors_ends distinct known stopping)
  · intro _ after ⟨down, listed, last, broken⟩
    exact ⟨down, listed, last.mono (Nat.le_succ 3), .inr broken⟩
  intro _ stopped told
  have sleeps : Ends (perform surroundings .sleepAfterStop) stopped _ _ :=
    perform_salvage rfl rfl told.1 told.2 (Nat.le_refl 3) nofun
  apply Ends.bind sleeps
  · exact fun _ _ failed => atEnd (failed.mono (Nat.le_succ 3))
  intro _ settled ⟨last, stillClean⟩
  have collecting : Collecting nodes up pids k6 fineSoFar settled :=
    ⟨last.mono (Nat.le_succ 3), stillClean⟩
  unfold collect
  split
  · exact Ends.of_ok rfl collecting
  · apply Ends.bind (downloadNodeResults_ends collecting)
    · exact fun _ _ failed => atEnd failed
    intro _ _ downloaded
    apply (collectRemoteContainerLogs_ends downloaded).mono
    · exact fun _ _ done => done
    · exact fun _ _ failed => atEnd failed

/-! ### The whole run -/

/-- The run directory has become the latest one. -/
def latestUpdated : Event := ⟨.updateLatest, .ok ()⟩

/-- A run that has got as far as `progress`, and has not become the latest one. -/
def Stuck (nodes : List NodeConfig) (up pids : List (Str × Nat)) (world : World) : Prop :=
  latestUpdated ∉ world.trace ∧
    ∃ part down k6, down <+: pids ∧ At (namesOf nodes) ⟨part, up, down, pids, k6⟩ world ∧
      (down = pids ∨ StopBroken world)

theorem At.notLatest (reached : At (namesOf nodes) progress world) (early : progress.part ≤ 5) :
    latestUpdated ∉ world.trace := by
  intro member
  have last : 6 ≤ progress.part := reached.upTo latestUpdated member
  omega

theorem At.stuck {part : Nat} (reached : At (namesOf nodes) ⟨part, up, pids, pids, k6⟩ world)
    (early : part ≤ 5) : Stuck nodes up pids world :=
  ⟨reached.notLatest early, part, pids, k6, List.prefix_rfl, reached, .inl rfl⟩

/-- The results are worked on, and nothing has failed. -/
def Evaluating (nodes : List NodeConfig) (up : List (Str × Nat)) (k6 : Option Int)
    (world : World) : Prop :=
  At (namesOf nodes) ⟨5, up, up, up, k6⟩ world ∧ Clean world

theorem perform_evaluating {action : Action} (isPlain : plain action = true)
    (works : rank action = 5) (evaluating : Evaluating nodes up k6 world) :
    Ends (perform surroundings action) world (fun _ after => Evaluating nodes up k6 after)
      (fun _ after => Stuck nodes up up after) := by
  have done : Ends (perform surroundings action) world _ _ :=
    perform_clean isPlain evaluating.1 evaluating.2 (by rw [works]) (by rw [works]; nofun)
  rw [works] at done
  exact done.mono (fun _ _ now => now) fun _ _ failed => failed.stuck (Nat.le_refl 5)

/-- The run has succeeded: nothing has failed, all monitors were started and stopped,
and the run directory has become the latest one at last. -/
def Finished (nodes : List NodeConfig) (up : List (Str × Nat)) (k6 : Option Int)
    (world : World) : Prop :=
  At (namesOf nodes) ⟨6, up, up, up, k6⟩ world ∧ Clean world ∧
    ∃ before, world.trace = before ++ [latestUpdated]

theorem updateLatest_ends (evaluating : Evaluating nodes up k6 world) :
    Ends (perform surroundings .updateLatest) world (fun _ after => Finished nodes up k6 after)
      (fun _ after => Stuck nodes up up after) := by
  have updated (outcome : Except RunError Unit) :
      At (namesOf nodes) ⟨6, up, up, up, k6⟩ (world.after ⟨.updateLatest, outcome⟩) :=
    evaluating.1.quiet ⟨.updateLatest, outcome⟩ ⟨rfl, rfl⟩ (Nat.le_succ 5) (.inl evaluating.2)
      nofun
  apply perform_ends
  · intro _
    exact ⟨updated (.ok ()), evaluating.2.snoc rfl, world.trace, rfl⟩
  · intro error
    refine ⟨?_, 6, up, k6, List.prefix_rfl, updated (.error error), .inl rfl⟩
    intro member
    rcases List.mem_append.mp member with earlier | last
    · exact evaluating.1.notLatest (Nat.le_refl 5) earlier
    · cases List.mem_singleton.mp last

theorem evaluate_ends (evaluating : Evaluating nodes up k6 world) :
    Ends (evaluate surroundings) world (fun _ after => Finished nodes up k6 after)
      (fun _ after => Stuck nodes up up after) := by
  unfold evaluate
  apply Ends.bind (perform_evaluating rfl rfl evaluating)
  · exact fun _ _ failed => failed
  intro _ _ merged
  apply Ends.bind (perform_evaluating rfl rfl merged)
  · exact fun _ _ failed => failed
  intro _ _ errors
  apply Ends.bind (perform_evaluating rfl rfl errors)
  · exact fun _ _ failed => failed
  intro _ _ throughput
  apply Ends.bind (perform_evaluating rfl rfl throughput)
  · exact fun _ _ failed => failed
  intro _ _ plotted
  apply Ends.bind (perform_evaluating rfl rfl plotted)
  · exact fun _ _ failed => failed
  intro _ _ analyzed
  apply Ends.bind (perform_evaluating rfl rfl analyzed)
  · exact fun _ _ failed => failed
  intro _ _ reported
  exact updateLatest_ends reported

theorem checkK6Started_ends {returncode : Int}
    (collected : Collecting nodes up up (some returncode) True world) :
    Ends checkK6Started world (fun _ after => Evaluating nodes up (some returncode) after)
      (fun _ after => Stuck nodes up up after) := by
  unfold checkK6Started
  apply Ends.get_bind
  rw [collected.1.k6, if_neg nofun]
  exact Ends.of_ok rfl ⟨collected.1.mono (Nat.le_succ 4), collected.2 trivial⟩

end Parts

section Runs

variable (surroundings : Surroundings) (cluster : ClusterConfig) (cleanupBeforeRun : Bool)

def atStart : World := ⟨[], [], none⟩

theorem Over.stuck {nodes : List NodeConfig} {up pids : List (Str × Nat)} {k6 : Option Int}
    {world : World} (left : Over nodes up pids k6 world) : Stuck nodes up pids world := by
  obtain ⟨down, listed, reached, told⟩ := left
  exact ⟨reached.notLatest (Nat.le_succ 4), 4, down, k6, listed, reached, told⟩

/-- A run that has failed, in one way or another. -/
def Failed (nodes : List NodeConfig) (world : World) : Prop :=
  ∃ up pids, Known nodes up pids ∧ Stuck nodes up pids world

theorem tryFinally_ends {nodes : List NodeConfig} {world : World}
    (distinct : (namesOf nodes).Nodup) (prepared : Preparing nodes world) :
    Ends (tryFinally (load surroundings nodes) (afterLoad surroundings nodes)) world
      (fun _ after => ∃ up, up.map Prod.fst = namesOf nodes ∧
        Collecting nodes up up (some 0) True after)
      (fun _ after => Failed nodes after) := by
  apply Ends.andFinally (load_ends prepared)
  · intro _ _ ⟨up, all, reached, clean⟩
    have known : Known nodes up up := .inl ⟨rfl, all⟩
    apply (afterLoad_ends distinct known reached fun _ => clean).mono
    · exact fun _ _ collected => ⟨up, all, collected⟩
    · exact fun _ _ left => ⟨up, up, known, left.stuck⟩
  · intro _ _ ⟨up, pids, k6, known, reached⟩
    apply (afterLoad_ends distinct known reached False.elim).mono
    · exact fun _ _ collected => ⟨up, pids, known, collected.1.stuck (Nat.le_succ 4)⟩
    · exact fun _ _ left => ⟨up, pids, known, left.stuck⟩

theorem known_nothing (nodes : List NodeConfig) : Known nodes [] [] := by
  cases nodes with
  | nil => exact .inl ⟨rfl, rfl⟩
  | cons node rest => exact .inr ⟨rfl, List.nil_prefix, Nat.succ_pos _⟩

theorem main_ends (distinct : (namesOf cluster.nodes).Nodup) :
    Ends (main surroundings cluster cleanupBeforeRun) atStart
      (fun _ after => ∃ up, up.map Prod.fst = namesOf cluster.nodes ∧
        Finished cluster.nodes up (some 0) after)
      (fun _ after => Failed cluster.nodes after) := by
  unfold main
  apply Ends.bind (prepare_ends cluster cleanupBeforeRun)
  · intro _ after unprepared
    exact ⟨[], [], known_nothing cluster.nodes, unprepared.stuck (Nat.zero_le 5)⟩
  intro _ _ prepared
  apply Ends.bind (tryFinally_ends surroundings distinct prepared)
  · exact fun _ _ failed => failed
  intro _ _ ⟨up, all, collected⟩
  have known : Known cluster.nodes up up := .inl ⟨rfl, all⟩
  apply Ends.bind (checkK6Started_ends collected)
  · exact fun _ _ stuck => ⟨up, up, known, stuck⟩
  intro _ _ evaluating
  apply (evaluate_ends evaluating).mono
  · exact fun _ _ finished => ⟨up, all, finished⟩
  · exact fun _ _ stuck => ⟨up, up, known, stuck⟩

/-- What is known of the monitors once a run is over. -/
def MonitorsLeft (nodes : List NodeConfig) (world : World) : Prop :=
  ∃ progress, At (namesOf nodes) progress world ∧ Known nodes progress.up progress.pids ∧
    progress.down <+: progress.pids ∧ (progress.down = progress.pids ∨ StopBroken world)

theorem main_monitorsLeft (distinct : (namesOf cluster.nodes).Nodup) :
    MonitorsLeft cluster.nodes
      (stateOf (main surroundings cluster cleanupBeforeRun atStart)) := by
  apply Ends.always
  apply (main_ends surroundings cluster cleanupBeforeRun distinct).mono
  · intro _ after ⟨up, all, reached, _⟩
    exact ⟨_, reached, .inl ⟨rfl, all⟩, List.prefix_rfl, .inl rfl⟩
  · intro _ after ⟨up, pids, known, _, part, down, k6, listed, reached, told⟩
    exact ⟨_, reached, known, listed, told⟩

/-- A cluster of a main node and a worker node. -/
def mainAndWorker : Json :=
  .obj [(str "name", .str (str "lab")), (str "api_url", .str (str "http://10.0.0.1:8000")),
    (str "nodes", .arr
      [.obj [(str "name", .str (str "main")), (str "role", .str (str "main")),
          (str "host", .str (str "10.0.0.1")), (str "ssh_user", .str (str "bench"))],
        .obj [(str "name", .str (str "worker")), (str "role", .str (str "worker")),
          (str "host", .str (str "10.0.0.2")), (str "ssh_user", .str (str "bench"))]])]

def twoNodes : ClusterConfig where
  name := str "lab"
  apiUrl := str "http://10.0.0.1:8000"
  nodes :=
    [⟨str "main", str "main", str "10.0.0.1", str "bench", defaultPort, defaultProjectDir⟩,
      ⟨str "worker", str "worker", str "10.0.0.2", str "bench", defaultPort, defaultProjectDir⟩]

/-- Everything works, but a monitor does not start on every node. -/
def withMonitorsOn (starts : Str → Bool) : Surroundings := fun _ action =>
  match action with
  | .checkConnection _ => .ok true
  | .startBackground node => if starts node then .ok (7 : Nat) else .error .calledProcessError
  | .runK6 => .ok (0 : Int)
  | .listContainers _ => .ok (some [str "image-pipeline-worker"])
  | .createRunDirectory | .writeConfig | .checkApiHealth | .remoteCleanup _ | .updateConfigFile
  | .createDirectory _ | .sleepWarmup | .makeRunDirectory | .writeK6Stdout | .sleepCooldown
  | .stopProcess _ _ | .sleepAfterStop | .makeNodeDirectory _ | .downloadFile _ _
  | .makeLogsDirectory _ | .collectLog _ _ | .mergeNodeResults | .generateErrorTimeline
  | .generateThroughputTimeline | .generateTimelinePlots | .analyzeRun | .generateReport
  | .updateLatest => .ok ()

/-- In every run of an accepted configuration, however its actions end, the parts come
one after the other, and after a failure only what salvages is done. The run succeeds
exactly if its directory becomes the latest one, which is then the last thing done,
and then nothing has failed before. -/
theorem runs_succeed_as_a_whole {document : Json}
    (accepted : parseCluster document = .ok cluster) :
    let ran := main surroundings cluster cleanupBeforeRun atStart
    (stateOf ran).trace.Pairwise Follows ∧
      (resultOf ran = .ok () ↔ latestUpdated ∈ (stateOf ran).trace) ∧
      (resultOf ran = .ok () → Clean (stateOf ran) ∧ (stateOf ran).k6Result = some 0 ∧
        ∃ before, (stateOf ran).trace = before ++ [latestUpdated]) := by
  intro ran
  have distinct := (parseCluster_ok.mp accepted).2.distinct
  have ends := main_ends surroundings cluster cleanupBeforeRun distinct
  obtain ⟨_, reached, _⟩ := main_monitorsLeft surroundings cluster cleanupBeforeRun distinct
  refine ⟨reached.ordered, ?_⟩
  cases result : resultOf ran with
  | ok value =>
      obtain ⟨up, _, finished, clean, before, last⟩ := ends.of_returned result
      have updated : latestUpdated ∈ (stateOf ran).trace := by
        rw [last]
        exact List.mem_append_right _ (List.mem_singleton.mpr rfl)
      exact ⟨⟨fun _ => updated, fun _ => rfl⟩, fun _ => ⟨clean, finished.k6, before, last⟩⟩
  | error error =>
      obtain ⟨_, _, _, notLatest, _⟩ := ends.of_raised result
      exact ⟨⟨nofun, fun updated => absurd updated notLatest⟩, nofun⟩

theorem runs_succeed_as_a_whole_two_nodes :
    let ran := main (withMonitorsOn fun _ => true) twoNodes true atStart
    resultOf ran = .ok () ∧ latestUpdated ∈ (stateOf ran).trace := by
  intro ran
  have succeeds := runs_succeed_as_a_whole (withMonitorsOn fun _ => true) twoNodes true
    (show parseCluster mainAndWorker = .ok twoNodes from rfl)
  have returned : resultOf ran = .ok () := rfl
  exact ⟨returned, succeeds.2.1.mp returned⟩

end Runs

end ImagePipeline.Properties.ClusterMain
