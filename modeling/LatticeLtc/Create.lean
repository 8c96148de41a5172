import LatticeLtc.Env
import LatticeLtc.Ports
import LatticeLtc.Commands

/-! # Creating an app

`createApp` runs its checks (`prepareApp`): it checks the positional arguments and the cpu weight in
one `switch` (`createSwitch`), fetches the image metadata, decides the ports
(`getPortConfigFromArgs`), the working directory (`resolveWorkingDir`) and the start command
(`resolveStartCommand`), and parses the routes. It then submits the app (`submitApp`):
`CreateDockerApp`, then the logs, the poll until the instances run, and the URLs of the app, one per
`,`-piece of the routes flag (`sayRouteUrls`), with `StopOutputting` deferred to the end; a run that
the exit handler ends in the poll stops there.

The `switch` ends at its first matching case: with more than four positional arguments it sets the
app arguments and leaves before the cpu-weight case, and a third argument without a fourth is never
compared with `--`.

* `createSwitch_eq_ok`: what the `switch` lets through;
* `prepareApp_cases`, `createApp_cases`: the checks only fetch the metadata and write notices and
  errors, and a run returns before `CreateDockerApp` or submits what the checks produced;
* `createApp_validates`: the checks that a run which creates the app or polls for it has passed;
* `submitApp_trace`, `createApp_creates_once`: a run creates the app once at most;
* `submitApp_running`: the running notice follows the poll exactly when it converged;
* `createApp_ports`: the ports a run submits are the ones `getPortConfigFromArgs` decided;
* `sayRouteUrls_parsed`, `sayRouteUrls_panics`: on routes without an empty piece the URL loop
  prints the URL of every parsed override, and it panics on a piece without `:`;
* `createApp_panics_only`: a run panics only in the URL loop, on a routes flag with an empty piece;
* `commands_return`: under a clock that never goes back, no command is left polling. -/

namespace LatticeLtc.Create

open LatticeLtc.Go.Strings LatticeLtc.Go.Ints LatticeLtc.Model LatticeLtc.Routes LatticeLtc.Ports
  LatticeLtc.Env LatticeLtc.Poll LatticeLtc.Commands

variable {W : Type}

/-- What `createApp` reads from its `cli.Context`: the flags of `ltc create` and the positional
arguments. -/
structure CreateContext where
  workingDir : Str
  runAsRoot : Bool
  env : List Str
  cpuWeight : GoInt
  memoryMB : GoInt
  diskMB : GoInt
  ports : Str
  monitoredPort : GoInt
  routes : Str
  instances : GoInt
  noMonitor : Bool
  args : List Str

/-- The context of `ltc create` on the positional arguments `args` with no flag given: the `Value`
of each flag of `MakeCreateAppCommand`, and the zero value where it declares none. -/
def CreateContext.withDefaults (args : List Str) : CreateContext where
  workingDir := []
  runAsRoot := false
  env := []
  cpuWeight := ⟨100, by norm_num, by norm_num⟩
  memoryMB := ⟨128, by norm_num, by norm_num⟩
  diskMB := ⟨1024, by norm_num, by norm_num⟩
  ports := []
  monitoredPort := ⟨0, by norm_num, by norm_num⟩
  routes := []
  instances := ⟨1, by norm_num, by norm_num⟩
  noMonitor := false
  args := args

/-! ### The steps of `createApp` -/

/-- The `switch` of `createApp` on the positional arguments and the cpu weight: the usage error it
reports, or the app arguments it leaves set. -/
def createSwitch (args : List Str) (cpuWeightFlag : Nat) : Except Str (List Str) :=
  let terminator := argsGet args 2
  let startCommand := argsGet args 3
  if args.length < 2 then .error "APP_NAME and DOCKER_IMAGE are required".toList
  else if startCommand ≠ [] ∧ terminator ≠ "--".toList then
    .error "'--' Required before start command".toList
  else if args.length > 4 then .ok (args.drop 4)
  else if cpuWeightFlag < 1 ∨ cpuWeightFlag > 100 then .error "Invalid CPU Weight".toList
  else .ok []

/-- The working directory: the flag, else the image's, else `/`. -/
def resolveWorkingDir (workingDirFlag : Str) (imageMetadata : ImageMetadata) (s : Sys W) :
    Str × Sys W :=
  if workingDirFlag = [] then
    let s := s.emit (.say (.plain
      "No working directory specified, using working directory from the image metadata...\n".toList))
    if imageMetadata.workingDir ≠ [] then
      (imageMetadata.workingDir, (s.emit (.say (.plain "Working directory is:\n".toList))).emit
        (.say (.plain (imageMetadata.workingDir ++ "\n".toList))))
    else ("/".toList, s)
  else (workingDirFlag, s)

/-- The notice on the monitored port, `%d` of it, or that none is monitored. -/
def monitorNotice (noMonitorFlag : Bool) (portConfig : PortConfig) : Text :=
  if !noMonitorFlag then
    .plain ("Monitoring the app on port ".toList ++ itoa portConfig.monitored.toNat ++ "...\n".toList)
  else .plain "No ports will be monitored.\n".toList

/-- The notice on the monitored port is uncoloured, whether a port is monitored or not. -/
theorem monitorNotice_notice (noMonitorFlag : Bool) (portConfig : PortConfig) :
    (Event.say (monitorNotice noMonitorFlag portConfig)).notice = true := by
  unfold monitorNotice
  split_ifs <;> rfl

/-- The start command and the app arguments: the fourth positional argument and `appArgs`, else the
image's start command; `none` when neither names one. -/
def resolveStartCommand (startCommand : Str) (appArgs : List Str) (imageMetadata : ImageMetadata)
    (s : Sys W) : Option (Str × List Str) × Sys W :=
  if startCommand = [] then
    match imageMetadata.startCommand with
    | [] =>
      (none, s.emit (.sayLine (.plain "Unable to determine start command from image metadata.".toList)))
    | cmd :: rest =>
      let s := s.emit (.say (.plain
        "No start command specified, using start command from the image metadata...\n".toList))
      let s := s.emit (.say (.plain "Start command is:\n".toList))
      (some (cmd, rest), s.emit (.say (.plain (join imageMetadata.startCommand " ".toList ++ "\n".toList))))
  else (some (startCommand, appArgs), s)

/-- The `CreateDockerAppParams` that `createApp` submits. -/
def createParams (f : AppRunnerCommandFactory W) (c : CreateContext) (startCommand : Str)
    (appArgs : List Str) (portConfig : PortConfig) (workingDir : Str)
    (routeOverrides : List RouteOverride) : CreateDockerAppParams where
  name := argsGet c.args 0
  dockerImagePath := argsGet c.args 1
  startCommand := startCommand
  appArgs := appArgs
  environmentVariables := buildEnvironment f.env c.env
  privileged := c.runAsRoot
  monitor := !c.noMonitor
  instances := c.instances.val
  cpuWeight := toUint c.cpuWeight.val
  memoryMB := c.memoryMB.val
  diskMB := c.diskMB.val
  ports := portConfig
  workingDir := workingDir
  routeOverrides := routeOverrides

/-- `createApp` up to `CreateDockerApp`: the `switch`, the metadata, the ports, the working
directory, the notices, the start command and the routes; the parameters it then submits, or `none`
when it returns before. -/
def prepareApp (f : AppRunnerCommandFactory W) (c : CreateContext) (s : Sys W) :
    Option CreateDockerAppParams × Sys W :=
  let dockerImage := argsGet c.args 1
  let cpuWeightFlag := toUint c.cpuWeight.val
  match createSwitch c.args cpuWeightFlag with
  | .error msg => (none, s.emit (.incorrectUsage msg))
  | .ok appArgs =>
    match s.call (.fetchMetadata dockerImage) (f.collab.fetchMetadata dockerImage) with
    | (.error err, s) =>
      (none, s.emit (.say (.plain ("Error fetching image metadata: ".toList ++ err))))
    | (.ok imageMetadata, s) =>
      match getPortConfigFromArgs c.ports c.monitoredPort c.noMonitor imageMetadata s with
      | ((_, some err), s) => (none, s.emit (.say (.plain err)))
      | ((portConfig, none), s) =>
        let (workingDir, s) := resolveWorkingDir c.workingDir imageMetadata s
        let s := s.emit (.say (monitorNotice c.noMonitor portConfig))
        match resolveStartCommand (argsGet c.args 3) appArgs imageMetadata s with
        | (none, s) => (none, s)
        | (some (startCommand, appArgs), s) =>
          match parseRouteOverrides c.routes with
          | (_, some err) => (none, s.emit (.say (.plain err)))
          | (routeOverrides, none) =>
            (some (createParams f c startCommand appArgs portConfig workingDir routeOverrides), s)

/-- `urlForApp(name)`. -/
def urlForApp (domain name : Str) : Str :=
  "http://".toList ++ name ++ ".".toList ++ domain ++ "\n".toList

/-- The loop printing the URLs of the routes, `strings.Split(route, ":")[1]` of every `,`-piece of
the routes flag; a piece without `:` indexes out of range, and the run panics. -/
def sayRouteUrls (domain : Str) : List Str → Sys W → Halt × Sys W
  | [], s => (.returned, s)
  | route :: routes, s =>
    match (split ':' route)[1]? with
    | none => (.panicked, s)
    | some hostnamePrefix =>
      sayRouteUrls domain routes (s.emit (.say (.green (urlForApp domain hostnamePrefix))))

/-- `createApp` from `CreateDockerApp` on: the submission, the logs, the poll, and the URLs.
`StopOutputting` is deferred, so it runs when the function returns and when it panics, but not when
the exit handler ends the process in the poll. -/
def submitApp (f : AppRunnerCommandFactory W) (routesFlag : Str) (params : CreateDockerAppParams)
    (fuel : Nat) (s : Sys W) : Halt × Sys W :=
  match s.call (.createDockerApp params) (f.collab.createDockerApp params) with
  | (some err, s) => (.returned, s.emit (.say (.plain ("Error Creating App: ".toList ++ err))))
  | (none, s) =>
    let s := s.emit (.say (.plain ("Creating App: ".toList ++ params.name ++ "\n".toList)))
    let s := s.emit (.outputTailedLogs params.name)
    match pollUntilAllInstancesRunning f params.name params.instances "start".toList fuel s with
    | (.error halt, s) => (halt, s)
    | (.ok ok, s) =>
      let s := if ok then s.emit (.say (.green (params.name ++ " is now running.\n".toList))) else s
      let r := if params.routeOverrides ≠ [] then sayRouteUrls f.domain (split ',' routesFlag) s
        else (.returned, s.emit (.say (.green (urlForApp f.domain params.name))))
      (r.1, r.2.emit .stopOutputting)

/-- `createApp` on the context `c`: the checks, then the submission of what they produced. -/
def createApp (f : AppRunnerCommandFactory W) (c : CreateContext) (fuel : Nat) (s : Sys W) :
    Halt × Sys W :=
  match prepareApp f c s with
  | (none, s) => (.returned, s)
  | (some params, s) => submitApp f c.routes params fuel s

/-! ### The checks -/

/-- **What the `switch` lets through**: two positional arguments, `--` before a start command, and
a cpu weight within `1..100` unless there are more than four; the app arguments are the ones after
the fourth. -/
theorem createSwitch_eq_ok {args : List Str} {cpuWeightFlag : Nat} {appArgs : List Str}
    (h : createSwitch args cpuWeightFlag = .ok appArgs) :
    2 ≤ args.length ∧ (argsGet args 3 ≠ [] → argsGet args 2 = "--".toList) ∧
      (args.length ≤ 4 → 1 ≤ cpuWeightFlag ∧ cpuWeightFlag ≤ 100) ∧ appArgs = args.drop 4 := by
  simp only [createSwitch] at h
  split_ifs at h with h1 h2 h3 h4 <;> cases h
  · exact ⟨by omega, fun h' => by_contra fun h'' => h2 ⟨h', h''⟩, fun _ => by omega, rfl⟩
  · exact ⟨by omega, fun h' => by_contra fun h'' => h2 ⟨h', h''⟩, fun _ => by omega,
      (List.drop_eq_nil_of_le (by omega)).symm⟩

theorem resolveWorkingDir_world (workingDirFlag : Str) (imageMetadata : ImageMetadata) (s : Sys W) :
    (resolveWorkingDir workingDirFlag imageMetadata s).2.world = s.world := by
  unfold resolveWorkingDir
  split_ifs <;> rfl

theorem resolveStartCommand_world (startCommand : Str) (appArgs : List Str)
    (imageMetadata : ImageMetadata) (s : Sys W) :
    (resolveStartCommand startCommand appArgs imageMetadata s).2.world = s.world := by
  unfold resolveStartCommand
  split_ifs
  · split <;> rfl
  · rfl

theorem resolveWorkingDir_extends (workingDirFlag : Str) (imageMetadata : ImageMetadata)
    (s : Sys W) : Sys.Extends (·.notice) s (resolveWorkingDir workingDirFlag imageMetadata s).2 := by
  unfold resolveWorkingDir
  split_ifs <;> dsimp only
  · exact ((Sys.Extends.emit (by rfl) s).trans (.emit (by rfl) _)).trans (.emit (by rfl) _)
  · exact .emit (by rfl) s
  · exact .refl s

theorem resolveStartCommand_extends (startCommand : Str) (appArgs : List Str)
    (imageMetadata : ImageMetadata) (s : Sys W) :
    Sys.Extends (·.notice) s (resolveStartCommand startCommand appArgs imageMetadata s).2 := by
  unfold resolveStartCommand
  split_ifs
  · split
    · exact .emit (by rfl) s
    · exact ((Sys.Extends.emit (by rfl) s).trans (.emit (by rfl) _)).trans (.emit (by rfl) _)
  · exact .refl s

/-- A start command is found when the fourth argument or the image names one. -/
theorem resolveStartCommand_eq_none (startCommand : Str) (appArgs : List Str)
    (imageMetadata : ImageMetadata) (s : Sys W) :
    (resolveStartCommand startCommand appArgs imageMetadata s).1 = none ↔
      startCommand = [] ∧ imageMetadata.startCommand = [] := by
  unfold resolveStartCommand
  split_ifs with h
  · split <;> simp_all
  · simp [h]

/-- **What the checks do.** They only fetch the metadata and write notices and errors; and either
they fail, or every check passed and they produce the parameters to submit, in the world the
metadata fetch left. -/
theorem prepareApp_cases (f : AppRunnerCommandFactory W) (c : CreateContext) (s : Sys W) :
    Sys.Extends (fun e => e.notice = true ∨ e = .fetchMetadata (argsGet c.args 1)) s (prepareApp f c s).2 ∧
    ((prepareApp f c s).1 = none ∨
      ∃ imageMetadata portConfig startCommand appArgs workingDir routeOverrides,
        createSwitch c.args (toUint c.cpuWeight.val) = .ok (c.args.drop 4) ∧
        (f.collab.fetchMetadata (argsGet c.args 1) s.world).1 = .ok imageMetadata ∧
        (getPortConfigFromArgs c.ports c.monitoredPort c.noMonitor imageMetadata s).1 =
          (portConfig, none) ∧
        (argsGet c.args 3 ≠ [] ∨ imageMetadata.startCommand ≠ []) ∧
        parseRouteOverrides c.routes = (routeOverrides, none) ∧
        (prepareApp f c s).1 =
          some (createParams f c startCommand appArgs portConfig workingDir routeOverrides) ∧
        (prepareApp f c s).2.world = (f.collab.fetchMetadata (argsGet c.args 1) s.world).2) := by
  have hw : ∀ e : Event, e.notice = true → e.notice = true ∨ e = .fetchMetadata (argsGet c.args 1) :=
    fun _ => .inl
  simp only [prepareApp]
  rcases hsw : createSwitch c.args (toUint c.cpuWeight.val) with msg | appArgs
  · exact ⟨.emit (.inl rfl) s, .inl rfl⟩
  obtain ⟨-, -, -, rfl⟩ := createSwitch_eq_ok hsw
  dsimp only
  have hfetch : Sys.Extends (fun e => e.notice = true ∨ e = .fetchMetadata (argsGet c.args 1)) s
      (s.call (.fetchMetadata (argsGet c.args 1)) (f.collab.fetchMetadata (argsGet c.args 1))).2 :=
    .call (.inr rfl) _ s
  rcases hm : s.call (.fetchMetadata (argsGet c.args 1)) (f.collab.fetchMetadata (argsGet c.args 1))
    with ⟨err | imageMetadata, s₁⟩ <;> rw [hm] at hfetch
  · exact ⟨hfetch.trans (.emit (.inl rfl) _), .inl rfl⟩
  dsimp only
  have hmeta : (f.collab.fetchMetadata (argsGet c.args 1) s.world).1 = .ok imageMetadata :=
    congrArg Prod.fst hm
  have hports := (getPortConfigFromArgs_extends c.ports c.monitoredPort c.noMonitor imageMetadata
    s₁).mono hw
  have hpc := getPortConfigFromArgs_fst c.ports c.monitoredPort c.noMonitor imageMetadata s s₁
  rcases hp : getPortConfigFromArgs c.ports c.monitoredPort c.noMonitor imageMetadata s₁
    with ⟨⟨portConfig, _ | err⟩, s₂⟩ <;> rw [hp] at hports hpc
  swap
  · exact ⟨(hfetch.trans hports).trans (.emit (.inl rfl) _), .inl rfl⟩
  dsimp only
  have hwd := (resolveWorkingDir_extends c.workingDir imageMetadata s₂).mono hw
  rcases hwdir : resolveWorkingDir c.workingDir imageMetadata s₂ with ⟨workingDir, s₃⟩
  rw [hwdir] at hwd
  dsimp only
  have hs₄ := (hfetch.trans hports).trans
    (hwd.trans (.emit (hw _ (monitorNotice_notice c.noMonitor portConfig)) s₃))
  have hstart := resolveStartCommand_eq_none (argsGet c.args 3) (c.args.drop 4) imageMetadata
    (s₃.emit (.say (monitorNotice c.noMonitor portConfig)))
  have hst := (resolveStartCommand_extends (argsGet c.args 3) (c.args.drop 4) imageMetadata
    (s₃.emit (.say (monitorNotice c.noMonitor portConfig)))).mono hw
  rcases hsc : resolveStartCommand (argsGet c.args 3) (c.args.drop 4) imageMetadata
    (s₃.emit (.say (monitorNotice c.noMonitor portConfig))) with ⟨_ | ⟨startCommand, appArgs⟩, s₅⟩ <;>
    rw [hsc] at hstart hst
  · exact ⟨hs₄.trans hst, .inl rfl⟩
  dsimp only
  rcases hr : parseRouteOverrides c.routes with ⟨routeOverrides, _ | err⟩
  · have hworld : s₅.world = (f.collab.fetchMetadata (argsGet c.args 1) s.world).2 := by
      have h₅ := resolveStartCommand_world (argsGet c.args 3) (c.args.drop 4) imageMetadata
        (s₃.emit (.say (monitorNotice c.noMonitor portConfig)))
      have h₃ := resolveWorkingDir_world c.workingDir imageMetadata s₂
      have h₂ := getPortConfigFromArgs_world c.ports c.monitoredPort c.noMonitor imageMetadata s₁
      rw [hsc] at h₅
      rw [hwdir] at h₃
      rw [hp] at h₂
      rw [h₅, Sys.emit_world, h₃, h₂, ← congrArg (fun r => r.2.world) hm]
      rfl
    exact ⟨hs₄.trans hst, .inr ⟨imageMetadata, portConfig, startCommand, appArgs, workingDir,
      routeOverrides, rfl, hmeta, hpc, by simpa [or_iff_not_imp_left] using hstart, rfl, rfl, hworld⟩⟩
  · exact ⟨(hs₄.trans hst).trans (.emit (.inl rfl) _), .inl rfl⟩

/-- `createApp` read off its checks: it returns when they fail, and submits what they produced
from the run they left. -/
theorem createApp_eq (f : AppRunnerCommandFactory W) (c : CreateContext) (fuel : Nat) (s : Sys W) :
    createApp f c fuel s = match (prepareApp f c s).1 with
      | none => (.returned, (prepareApp f c s).2)
      | some params => submitApp f c.routes params fuel (prepareApp f c s).2 := by
  unfold createApp
  rcases prepareApp f c s with ⟨_ | params, s'⟩ <;> rfl

theorem createApp_of_prepared {f : AppRunnerCommandFactory W} {c : CreateContext} {fuel : Nat}
    {s : Sys W} {params : CreateDockerAppParams} (h : (prepareApp f c s).1 = some params) :
    createApp f c fuel s = submitApp f c.routes params fuel (prepareApp f c s).2 := by
  rw [createApp_eq, h]

/-- **The two ways a run goes.** It returns before `CreateDockerApp`, having only fetched the
metadata and written notices and errors; or every check passed, and it submits the parameters they
produced after such calls. -/
theorem createApp_cases (f : AppRunnerCommandFactory W) (c : CreateContext) (fuel : Nat)
    (s : Sys W) :
    ((createApp f c fuel s).1 = .returned ∧
      Sys.Extends (fun e => e.notice = true ∨ e = .fetchMetadata (argsGet c.args 1)) s
        (createApp f c fuel s).2) ∨
    ∃ imageMetadata portConfig startCommand appArgs workingDir routeOverrides s',
      createSwitch c.args (toUint c.cpuWeight.val) = .ok (c.args.drop 4) ∧
      (f.collab.fetchMetadata (argsGet c.args 1) s.world).1 = .ok imageMetadata ∧
      (getPortConfigFromArgs c.ports c.monitoredPort c.noMonitor imageMetadata s).1 =
        (portConfig, none) ∧
      (argsGet c.args 3 ≠ [] ∨ imageMetadata.startCommand ≠ []) ∧
      parseRouteOverrides c.routes = (routeOverrides, none) ∧
      Sys.Extends (fun e => e.notice = true ∨ e = .fetchMetadata (argsGet c.args 1)) s s' ∧
      s'.world = (f.collab.fetchMetadata (argsGet c.args 1) s.world).2 ∧
      createApp f c fuel s = submitApp f c.routes
        (createParams f c startCommand appArgs portConfig workingDir routeOverrides) fuel s' := by
  obtain ⟨hext, hnone | ⟨m, pc, sc, aa, wd, ro, hsw, hm, hpc, hst, hr, hp, hw⟩⟩ := prepareApp_cases f c s
  · rw [createApp_eq, hnone]
    exact .inl ⟨rfl, hext⟩
  · exact .inr ⟨m, pc, sc, aa, wd, ro, _, hsw, hm, hpc, hst, hr, hext, hw, createApp_of_prepared hp⟩

/-- The calls before the submission neither create the app nor watch it. -/
theorem reachesApp_of_fetch_or_notice {e : Event} {image : Str}
    (h : e.notice = true ∨ e = .fetchMetadata image) : e.reachesApp = false := by
  rcases h with h | rfl
  · exact Event.reachesApp_of_notice h
  · rfl

/-- **What a run that creates the app has checked.** If `createApp` calls `CreateDockerApp` or
queries the instances, then there are two positional arguments at least, the third is `--` when
the fourth is not empty, the cpu weight is within `1..100` when there are at most four, the metadata
was fetched, the ports and the routes parse, and a start command was found. -/
theorem createApp_validates (f : AppRunnerCommandFactory W) (c : CreateContext) (fuel : Nat)
    (s : Sys W)
    (h : ((createApp f c fuel s).2.trace.drop s.trace.length).any Event.reachesApp = true) :
    2 ≤ c.args.length ∧ (argsGet c.args 3 ≠ [] → argsGet c.args 2 = "--".toList) ∧
      (c.args.length ≤ 4 → 1 ≤ c.cpuWeight.val ∧ c.cpuWeight.val ≤ 100) ∧
      ∃ imageMetadata, (f.collab.fetchMetadata (argsGet c.args 1) s.world).1 = .ok imageMetadata ∧
        (getPortConfigFromArgs c.ports c.monitoredPort c.noMonitor imageMetadata s).1.2 = none ∧
        (parseRouteOverrides c.routes).2 = none ∧
        (argsGet c.args 3 ≠ [] ∨ imageMetadata.startCommand ≠ []) := by
  rcases createApp_cases f c fuel s with ⟨-, t, ht, hq⟩ |
    ⟨m, pc, -, -, -, ro, -, hsw, hm, hpc, hst, hr, -, -, -⟩
  · rw [ht, List.drop_left, List.any_eq_true] at h
    obtain ⟨e, he, he'⟩ := h
    simp [reachesApp_of_fetch_or_notice (hq e he)] at he'
  · obtain ⟨h2, hterm, hcpu, -⟩ := createSwitch_eq_ok hsw
    exact ⟨h2, hterm, fun h4 => (toUint_mem_iff c.cpuWeight).mp (hcpu h4), m, hm, by rw [hpc], by rw [hr],
      hst⟩

theorem createApp_validates_app_img :
    let f : AppRunnerCommandFactory Cluster :=
      ⟨(Script.healthy ⟨[], ["run".toList], ⟨0, []⟩⟩ 1).collab, second, "example.com".toList, []⟩
    let c := CreateContext.withDefaults ["app".toList, "img".toList]
    2 ≤ c.args.length ∧ (argsGet c.args 3 ≠ [] → argsGet c.args 2 = "--".toList) ∧
      (c.args.length ≤ 4 → 1 ≤ c.cpuWeight.val ∧ c.cpuWeight.val ≤ 100) ∧
      ∃ imageMetadata, (f.collab.fetchMetadata (argsGet c.args 1) ⟨0, 0, 0⟩).1 = .ok imageMetadata ∧
        (getPortConfigFromArgs c.ports c.monitoredPort c.noMonitor imageMetadata
          (⟨⟨0, 0, 0⟩, []⟩ : Sys Cluster)).1.2 = none ∧
        (parseRouteOverrides c.routes).2 = none ∧
        (argsGet c.args 3 ≠ [] ∨ imageMetadata.startCommand ≠ []) :=
  createApp_validates ⟨(Script.healthy ⟨[], ["run".toList], ⟨0, []⟩⟩ 1).collab, second,
    "example.com".toList, []⟩ (.withDefaults ["app".toList, "img".toList]) 0 ⟨⟨0, 0, 0⟩, []⟩ (by decide)

theorem createApp_unchecked_arguments :
    let f : AppRunnerCommandFactory Cluster :=
      ⟨(Script.healthy ⟨[], ["run".toList], ⟨0, []⟩⟩ 1).collab, second, "example.com".toList, []⟩
    (createApp f (.withDefaults ["app".toList, "img".toList, "foo".toList]) 0
      ⟨⟨0, 0, 0⟩, []⟩).2.trace.any Event.reachesApp = true ∧
    (createApp f { CreateContext.withDefaults
        ["app".toList, "img".toList, "--".toList, "run".toList, "x".toList] with
        cpuWeight := ⟨0, by norm_num, by norm_num⟩ } 0
      ⟨⟨0, 0, 0⟩, []⟩).2.trace.any Event.reachesApp = true := by decide

/-! ### Submitting -/

/-- The URL loop prints only URLs of the app. -/
theorem sayRouteUrls_extends (domain : Str) :
    ∀ (routes : List Str) (s : Sys W),
      Sys.Extends (∃ u, · = .say (.green (urlForApp domain u))) s (sayRouteUrls domain routes s).2
  | [], s => .refl s
  | route :: routes, s => by
    unfold sayRouteUrls
    split
    · exact .refl s
    · exact (Sys.Extends.emit ⟨_, rfl⟩ s).trans (sayRouteUrls_extends domain routes _)

/-- The URL loop returns or panics. -/
theorem sayRouteUrls_ne_polling (domain : Str) : ∀ (routes : List Str) (s : Sys W),
    (sayRouteUrls domain routes s).1 ≠ .polling
  | [], _ => nofun
  | route :: routes, s => by
    unfold sayRouteUrls
    rcases (split ':' route)[1]? with _ | hostnamePrefix
    · nofun
    · exact sayRouteUrls_ne_polling domain routes _

/-- The URLs `submitApp` writes: one per piece of the routes flag, or the app's own. -/
theorem sayUrls_extends (f : AppRunnerCommandFactory W) (routesFlag : Str)
    (params : CreateDockerAppParams) (s : Sys W) :
    Sys.Extends (∃ u, · = .say (.green (urlForApp f.domain u))) s
      (if params.routeOverrides ≠ [] then sayRouteUrls f.domain (split ',' routesFlag) s
        else (.returned, s.emit (.say (.green (urlForApp f.domain params.name))))).2 := by
  split_ifs
  · exact sayRouteUrls_extends _ _ _
  · exact .emit ⟨_, rfl⟩ _

/-- `submitApp` once `CreateDockerApp` succeeds. -/
theorem submitApp_of_created (f : AppRunnerCommandFactory W) (routesFlag : Str)
    (params : CreateDockerAppParams) (fuel : Nat) (s : Sys W)
    (h : (f.collab.createDockerApp params s.world).1 = none) :
    submitApp f routesFlag params fuel s =
      match pollUntilAllInstancesRunning f params.name params.instances "start".toList fuel
          ⟨(f.collab.createDockerApp params s.world).2, s.trace ++ [.createDockerApp params] ++
            [.say (.plain ("Creating App: ".toList ++ params.name ++ "\n".toList))] ++
            [.outputTailedLogs params.name]⟩ with
      | (.error halt, s) => (halt, s)
      | (.ok ok, s) =>
        let s := if ok then s.emit (.say (.green (params.name ++ " is now running.\n".toList))) else s
        let r := if params.routeOverrides ≠ [] then sayRouteUrls f.domain (split ',' routesFlag) s
          else (.returned, s.emit (.say (.green (urlForApp f.domain params.name))))
        (r.1, r.2.emit .stopOutputting) := by
  simp only [submitApp, Sys.call, h]; rfl

/-- **The calls of `submitApp`** once `CreateDockerApp` succeeds, the poll ending as `(o, s₃)`: the
notice and the start of the log stream, then the poll's calls; a run that stopped in the poll stops
there, and one that returned from it writes the running notice when the poll converged, the URLs,
and `StopOutputting`. -/
theorem submitApp_calls (f : AppRunnerCommandFactory W) (routesFlag : Str)
    (params : CreateDockerAppParams) (fuel : Nat) (s : Sys W)
    (h : (f.collab.createDockerApp params s.world).1 = none) {o : Except Halt Bool} {s₃ : Sys W}
    (hp : pollUntilAllInstancesRunning f params.name params.instances "start".toList fuel
      ⟨(f.collab.createDockerApp params s.world).2, s.trace ++ [.createDockerApp params] ++
        [.say (.plain ("Creating App: ".toList ++ params.name ++ "\n".toList))] ++
        [.outputTailedLogs params.name]⟩ = (o, s₃)) :
    (∃ tp, s₃.trace = s.trace ++ [.createDockerApp params,
        .say (.plain ("Creating App: ".toList ++ params.name ++ "\n".toList)),
        .outputTailedLogs params.name] ++ tp ∧ ∀ e ∈ tp, e ∈ pollCalls params.name "start".toList) ∧
    (∀ halt, o = .error halt → submitApp f routesFlag params fuel s = (halt, s₃)) ∧
    ∀ ok, o = .ok ok → (submitApp f routesFlag params fuel s).1 ≠ .polling ∧
      ∃ tu, (∀ e ∈ tu, ∃ u, e = .say (.green (urlForApp f.domain u))) ∧
        (submitApp f routesFlag params fuel s).2.trace = s₃.trace ++
          (if ok then [.say (.green (params.name ++ " is now running.\n".toList))] else []) ++ tu ++
            [.stopOutputting] := by
  have hpoll := pollUntilAllInstancesRunning_extends f params.name params.instances "start".toList fuel
    ⟨(f.collab.createDockerApp params s.world).2, s.trace ++ [.createDockerApp params] ++
      [.say (.plain ("Creating App: ".toList ++ params.name ++ "\n".toList))] ++
      [.outputTailedLogs params.name]⟩
  rw [hp] at hpoll
  obtain ⟨tp, htp, hqp⟩ := hpoll
  rw [submitApp_of_created f routesFlag params fuel s h, hp]
  refine ⟨⟨tp, by rw [htp]; simp, hqp⟩, fun halt ho => by rw [ho], fun ok ho => ?_⟩
  subst ho
  obtain ⟨tu, htu, hq⟩ := sayUrls_extends f routesFlag params
    (if ok then s₃.emit (.say (.green (params.name ++ " is now running.\n".toList))) else s₃)
  refine ⟨?_, tu, hq, by rw [Sys.emit_trace, htu]; cases ok <;> simp⟩
  dsimp only
  split_ifs <;> first | exact sayRouteUrls_ne_polling f.domain _ _ | simp

/-- **The app is submitted once**: `submitApp` makes no second `CreateDockerApp` call. -/
theorem submitApp_trace (f : AppRunnerCommandFactory W) (routesFlag : Str)
    (params : CreateDockerAppParams) (fuel : Nat) (s : Sys W) :
    ∃ t, (submitApp f routesFlag params fuel s).2.trace = s.trace ++ .createDockerApp params :: t ∧
      ∀ e ∈ t, ∀ q, e ≠ .createDockerApp q := by
  rcases hc : (f.collab.createDockerApp params s.world).1 with _ | err
  swap
  · exact ⟨[.say (.plain ("Error Creating App: ".toList ++ err))], by simp [submitApp, Sys.call, hc],
      by simp⟩
  rcases hp : pollUntilAllInstancesRunning f params.name params.instances "start".toList fuel
    ⟨(f.collab.createDockerApp params s.world).2, s.trace ++ [.createDockerApp params] ++
      [.say (.plain ("Creating App: ".toList ++ params.name ++ "\n".toList))] ++
      [.outputTailedLogs params.name]⟩ with ⟨o, s₃⟩
  obtain ⟨⟨tp, htp, hqp⟩, hnone, hsome⟩ := submitApp_calls f routesFlag params fuel s hc hp
  have hp' : ∀ e ∈ tp, ∀ q, e ≠ .createDockerApp q := fun e h q he => by
    subst he; simpa [pollCalls, progressDot] using hqp _ h
  rcases o with halt | ok
  · exact ⟨[.say (.plain ("Creating App: ".toList ++ params.name ++ "\n".toList)), .outputTailedLogs params.name] ++ tp,
      by rw [hnone halt rfl, htp]; simp, List.forall_mem_append.mpr ⟨by simp, hp'⟩⟩
  obtain ⟨-, tu, hq, ht⟩ := hsome ok rfl
  have hu' : ∀ e ∈ tu, ∀ q, e ≠ .createDockerApp q := fun e h q he => by
    obtain ⟨u, rfl⟩ := hq _ h; cases he
  exact ⟨[.say (.plain ("Creating App: ".toList ++ params.name ++ "\n".toList)), .outputTailedLogs params.name] ++ tp ++
      (if ok then [.say (.green (params.name ++ " is now running.\n".toList))] else []) ++ tu ++ [.stopOutputting],
    by rw [ht, htp]; simp, by
      simp only [List.forall_mem_append]
      exact ⟨⟨⟨⟨by simp, hp'⟩, by split <;> simp⟩, hu'⟩, by simp⟩⟩

/-- A run that calls `CreateDockerApp p` is `submitApp` of `p`, from a run whose world is the one
the metadata fetch left, and `getPortConfigFromArgs` decided `p`'s ports from the metadata
fetched. -/
theorem createApp_submitted (f : AppRunnerCommandFactory W) (c : CreateContext) (fuel : Nat)
    (s : Sys W) {p : CreateDockerAppParams}
    (hp : .createDockerApp p ∈ (createApp f c fuel s).2.trace.drop s.trace.length) :
    ∃ imageMetadata s', (f.collab.fetchMetadata (argsGet c.args 1) s.world).1 = .ok imageMetadata ∧
      (getPortConfigFromArgs c.ports c.monitoredPort c.noMonitor imageMetadata s).1 = (p.ports, none) ∧
      s'.world = (f.collab.fetchMetadata (argsGet c.args 1) s.world).2 ∧
      createApp f c fuel s = submitApp f c.routes p fuel s' := by
  rcases createApp_cases f c fuel s with ⟨-, t, ht, hq⟩ |
    ⟨m, pc, sc, aa, wd, ro, s', -, hm, hpc, -, -, ⟨t₁, ht₁, hq₁⟩, hw, heq⟩
  · rw [ht, List.drop_left] at hp
    exact absurd (reachesApp_of_fetch_or_notice (hq _ hp)) (by simp [Event.reachesApp])
  · obtain ⟨t₂, ht₂, hq₂⟩ := submitApp_trace f c.routes (createParams f c sc aa pc wd ro) fuel s'
    rw [heq, ht₂, ht₁, List.append_assoc, List.drop_left] at hp
    rcases List.mem_append.mp hp with h | h
    · exact absurd (reachesApp_of_fetch_or_notice (hq₁ _ h)) (by simp [Event.reachesApp])
    rcases List.mem_cons.mp h with h | h
    · obtain rfl := Event.createDockerApp.inj h
      exact ⟨m, s', hm, hpc, hw, heq⟩
    · exact absurd rfl (hq₂ _ h p)

/-- **The ports `createApp` submits.** For metadata whose ports are empty or monitor one of their
exposed ports, a configuration that `getPortConfigFromArgs` returns without error exposes a port;
with at most one port string it monitors an exposed port, or none when no ports flag is given, the
metadata declares no port and monitoring is off; with several it monitors the monitored-port flag
when that is a port number, unchecked against the exposed ports. The configuration a run submits is
the one `getPortConfigFromArgs` returned for the metadata fetched. -/
theorem createApp_ports :
    (∀ (portsFlag : Str) (m : GoInt) (nm : Bool) (meta : ImageMetadata) (s : Sys W)
        (pc : PortConfig), (meta.ports.exposed = [] ∨ meta.ports.monitored ∈ meta.ports.exposed) →
      (getPortConfigFromArgs portsFlag m nm meta s).1 = (pc, none) →
      pc.exposed ≠ [] ∧
      ((split ',' portsFlag).length ≤ 1 → pc.monitored ∈ pc.exposed ∨
        (pc.monitored = 0 ∧ nm = true ∧ portsFlag = [] ∧ meta.ports.exposed = [])) ∧
      (1 < (split ',' portsFlag).length →
        (0 ≤ m.val → m.val ≤ 65535 → (pc.monitored.toNat : Int) = m.val) ∧ (nm = false → m.val ≠ 0))) ∧
    ∀ (f : AppRunnerCommandFactory W) (c : CreateContext) (fuel : Nat) (s : Sys W)
      (p : CreateDockerAppParams), .createDockerApp p ∈ (createApp f c fuel s).2.trace.drop s.trace.length →
      ∃ imageMetadata, (f.collab.fetchMetadata (argsGet c.args 1) s.world).1 = .ok imageMetadata ∧
        (getPortConfigFromArgs c.ports c.monitoredPort c.noMonitor imageMetadata s).1 = (p.ports, none) := by
  refine ⟨fun portsFlag m nm meta s _ hmeta h => getPortConfigFromArgs_monitored portsFlag m nm meta s hmeta h,
    fun f c fuel s p hp => ?_⟩
  obtain ⟨m, -, hm, hpc, -⟩ := createApp_submitted f c fuel s hp
  exact ⟨m, hm, hpc⟩

theorem createApp_ports_app_img :
    let f : AppRunnerCommandFactory Cluster :=
      ⟨(Script.healthy ⟨[], ["run".toList], ⟨0, []⟩⟩ 1).collab, second, "example.com".toList, []⟩
    let c := CreateContext.withDefaults ["app".toList, "img".toList]
    ((⟨80, [80]⟩ : PortConfig).exposed ≠ [] ∧
      ((split ',' "80".toList).length ≤ 1 → (80 : UInt16) ∈ [80] ∨ ((80 : UInt16) = 0 ∧ false = true ∧
        "80".toList = [] ∧ ([] : List UInt16) = [])) ∧
      (1 < (split ',' "80".toList).length → (0 ≤ (0 : Int) → (0 : Int) ≤ 65535 →
        (((80 : UInt16).toNat : Int) = 0)) ∧ (false = false → (0 : Int) ≠ 0))) ∧
    ∃ imageMetadata, (f.collab.fetchMetadata (argsGet c.args 1) ⟨0, 0, 0⟩).1 = .ok imageMetadata ∧
      (getPortConfigFromArgs c.ports c.monitoredPort c.noMonitor imageMetadata
        (⟨⟨0, 0, 0⟩, []⟩ : Sys Cluster)).1 = (⟨8080, [8080]⟩, none) :=
  ⟨createApp_ports.1 "80".toList ⟨0, by norm_num, by norm_num⟩ false ⟨[], [], ⟨0, []⟩⟩
      (⟨(), []⟩ : Sys Unit) ⟨80, [80]⟩ (by decide) (by decide),
    createApp_ports.2 ⟨(Script.healthy ⟨[], ["run".toList], ⟨0, []⟩⟩ 1).collab, second,
      "example.com".toList, []⟩ (.withDefaults ["app".toList, "img".toList]) 0 ⟨⟨0, 0, 0⟩, []⟩
      (createParams ⟨(Script.healthy ⟨[], ["run".toList], ⟨0, []⟩⟩ 1).collab, second,
        "example.com".toList, []⟩ (.withDefaults ["app".toList, "img".toList]) "run".toList []
        ⟨8080, [8080]⟩ "/".toList []) (by decide)⟩

/-- **The app is created at most once**: a run of `createApp` calls `CreateDockerApp` once at
most. -/
theorem createApp_creates_once (f : AppRunnerCommandFactory W) (c : CreateContext) (fuel : Nat)
    (s : Sys W) :
    (((createApp f c fuel s).2.trace.drop s.trace.length).filterMap Event.submitted).length ≤ 1 := by
  have hnone : ∀ e : Event, (∀ q, e ≠ .createDockerApp q) → e.submitted = none := by
    rintro (_ | _ | _ | _ | _ | q | _) h <;> first | rfl | exact absurd rfl (h q)
  have hquiet : ∀ e : Event, e.reachesApp = false → e.submitted = none := fun e he =>
    hnone e fun q hq => by subst hq; cases he
  rcases createApp_cases f c fuel s with ⟨-, h⟩ |
    ⟨m, pc, sc, aa, wd, ro, s', -, -, -, -, -, ⟨t₁, ht₁, hq₁⟩, -, heq⟩
  · rw [List.filterMap_eq_nil_iff.mpr fun e he => hquiet e (reachesApp_of_fetch_or_notice (h.drop e he))]
    exact Nat.zero_le 1
  · obtain ⟨t₂, ht₂, hq₂⟩ := submitApp_trace f c.routes (createParams f c sc aa pc wd ro) fuel s'
    rw [heq, ht₂, ht₁, List.append_assoc, List.drop_left, List.filterMap_append, List.filterMap_cons,
      List.filterMap_eq_nil_iff.mpr fun e he => hquiet e (reachesApp_of_fetch_or_notice (hq₁ e he)),
      List.filterMap_eq_nil_iff.mpr fun e he => hnone e (hq₂ e he)]
    rfl

/-! ### The URLs -/

theorem sayRouteUrls_of_colon (domain : Str) :
    ∀ (routes : List Str) (s : Sys W), (∀ r ∈ routes, ':' ∈ r) →
      sayRouteUrls domain routes s = (.returned, ⟨s.world, s.trace ++ routes.map fun r =>
        .say (.green (urlForApp domain (before ':' (after ':' r))))⟩)
  | [], s, _ => by simp [sayRouteUrls]
  | r :: routes, s, h => by
    rw [sayRouteUrls, split_getElem?_one, if_pos (h r (List.mem_cons_self r routes))]
    dsimp only
    rw [sayRouteUrls_of_colon domain routes _ fun r' hr' => h r' (List.mem_cons_of_mem r hr')]
    simp [Sys.emit]

/-- The URL loop panics on a piece without `:`. -/
theorem sayRouteUrls_panics (domain : Str) :
    ∀ (routes : List Str) (s : Sys W), (∃ r ∈ routes, ':' ∉ r) →
      (sayRouteUrls domain routes s).1 = .panicked
  | [], _, ⟨_, h, _⟩ => absurd h (List.not_mem_nil _)
  | r :: routes, s, ⟨r', hr', hc⟩ => by
    rw [sayRouteUrls, split_getElem?_one]
    by_cases h : ':' ∈ r
    · rw [if_pos h]
      refine sayRouteUrls_panics domain routes _ ⟨r', ?_, hc⟩
      rcases List.mem_cons.mp hr' with rfl | hr'
      · exact absurd h hc
      · exact hr'
    · rw [if_neg h]

theorem createApp_trailing_comma_panics :
    parseRouteOverrides "80:web,".toList = ([⟨"web".toList, 80⟩], none) ∧
    let f : AppRunnerCommandFactory Cluster :=
      ⟨(Script.healthy ⟨[], ["run".toList], ⟨0, []⟩⟩ 1).collab, second, "example.com".toList, []⟩
    let r := createApp f { CreateContext.withDefaults ["app".toList, "img".toList] with
      routes := "80:web,".toList } 2 ⟨⟨0, 0, 0⟩, []⟩
    r.2.trace.any Event.reachesApp = true ∧ r.1 = .panicked := by decide

/-- **The URL loop agrees with the parser on routes without an empty piece**: it prints, in order,
the URL of the hostname prefix of every override parsed, and returns. -/
theorem sayRouteUrls_parsed (domain routes : Str) (s : Sys W) {L : List RouteOverride}
    (h : parseRouteOverrides routes = (L, none)) (hne : [] ∉ split ',' routes) :
    sayRouteUrls domain (split ',' routes) s = (.returned,
      ⟨s.world, s.trace ++ L.map fun r => .say (.green (urlForApp domain r.hostnamePrefix))⟩) := by
  obtain ⟨hcolon, hL⟩ := parseRouteOverrides_eq_ok h
  have hseg : routeSegments routes = split ',' routes :=
    List.filter_eq_self.mpr fun p hp => by simpa using ne_of_mem_of_not_mem hp hne
  rw [hseg] at hcolon hL
  rw [sayRouteUrls_of_colon domain _ s hcolon]
  have hmap : List.Forall₂ (· = ·)
      ((split ',' routes).map fun r => Event.say (.green (urlForApp domain (before ':' (after ':' r)))))
      (L.map fun r => .say (.green (urlForApp domain r.hostnamePrefix))) := by
    rw [List.forall₂_map_left_iff, List.forall₂_map_right_iff]
    exact hL.imp fun seg r hr => by obtain ⟨-, -, -, rfl⟩ := parseRoute_eq_some.mp hr; rfl
  rw [List.forall₂_eq_eq_eq] at hmap
  rw [hmap]

theorem sayRouteUrls_parsed_web_api :
    @sayRouteUrls Unit "example.com".toList (split ',' "80:web,8080:api".toList) ⟨(), []⟩ =
      (.returned, ⟨(), [] ++ ([⟨"web".toList, 80⟩, ⟨"api".toList, 8080⟩] : List RouteOverride).map fun r =>
        .say (.green (urlForApp "example.com".toList r.hostnamePrefix))⟩) :=
  @sayRouteUrls_parsed Unit "example.com".toList "80:web,8080:api".toList ⟨(), []⟩
    [⟨"web".toList, 80⟩, ⟨"api".toList, 8080⟩] (by decide) (by decide)

/-- A run of `submitApp` panics only in the URL loop: there are overrides, and a piece of the
routes flag has no `:`. -/
theorem submitApp_panicked {f : AppRunnerCommandFactory W} {routesFlag : Str}
    {params : CreateDockerAppParams} {fuel : Nat} {s : Sys W}
    (h : (submitApp f routesFlag params fuel s).1 = .panicked) :
    params.routeOverrides ≠ [] ∧ ∃ r ∈ split ',' routesFlag, ':' ∉ r := by
  rcases hc : (f.collab.createDockerApp params s.world).1 with _ | err
  swap
  · simp [submitApp, Sys.call, hc] at h
  rw [submitApp_of_created f routesFlag params fuel s hc] at h
  split at h
  · next hp => rcases pollUntilAllInstancesRunning_halt hp with rfl | ⟨rfl, -⟩ <;> cases h
  · dsimp only at h
    by_cases hr : params.routeOverrides = []
    · simp [hr] at h
    refine ⟨hr, by_contra fun hn => ?_⟩
    push_neg at hn
    rw [if_pos hr, sayRouteUrls_of_colon _ _ _ hn] at h
    cases h

/-- **The one way `createApp` panics**: only in the URL loop of a run that submitted the app, on a
routes flag that parses without error to some overrides, the ones submitted, and that has an empty
`,`-piece, such as a trailing or a doubled comma. -/
theorem createApp_panics_only (f : AppRunnerCommandFactory W) (c : CreateContext) (fuel : Nat)
    (s : Sys W) (h : (createApp f c fuel s).1 = .panicked) :
    (parseRouteOverrides c.routes).2 = none ∧ (parseRouteOverrides c.routes).1 ≠ [] ∧
      [] ∈ split ',' c.routes ∧ ∃ p, p.routeOverrides = (parseRouteOverrides c.routes).1 ∧
        .createDockerApp p ∈ (createApp f c fuel s).2.trace.drop s.trace.length := by
  rcases createApp_cases f c fuel s with ⟨hr, -⟩ |
    ⟨m, pc, sc, aa, wd, ro, s', -, -, -, -, hro, ⟨t₁, ht₁, -⟩, -, heq⟩
  · rw [hr] at h; cases h
  rw [heq] at h ⊢
  obtain ⟨hne, r, hr, hcolon⟩ := submitApp_panicked h
  obtain ⟨hall, -⟩ := parseRouteOverrides_eq_ok hro
  obtain rfl : r = [] := by_contra fun hnil => hcolon (hall r (List.mem_filter.mpr ⟨hr, by simpa using hnil⟩))
  obtain ⟨t₂, ht₂, -⟩ := submitApp_trace f c.routes (createParams f c sc aa pc wd ro) fuel s'
  rw [hro, ht₂, ht₁, List.append_assoc, List.drop_left]
  exact ⟨rfl, hne, hr, createParams f c sc aa pc wd ro, rfl, by simp⟩

theorem createApp_panics_only_trailing_comma :
    let f : AppRunnerCommandFactory Cluster :=
      ⟨(Script.healthy ⟨[], ["run".toList], ⟨0, []⟩⟩ 1).collab, second, "example.com".toList, []⟩
    let c := { CreateContext.withDefaults ["app".toList, "img".toList] with routes := "80:web,".toList }
    (createApp f c 2 ⟨⟨0, 0, 0⟩, []⟩).1 = .panicked ∧
    (parseRouteOverrides c.routes).2 = none ∧ (parseRouteOverrides c.routes).1 ≠ [] ∧
      [] ∈ split ',' c.routes ∧ ∃ p, p.routeOverrides = (parseRouteOverrides c.routes).1 ∧
        .createDockerApp p ∈ (createApp f c 2 ⟨⟨0, 0, 0⟩, []⟩).2.trace.drop (⟨⟨0, 0, 0⟩, []⟩ : Sys Cluster).trace.length :=
  ⟨by decide, createApp_panics_only _ _ 2 (⟨⟨0, 0, 0⟩, []⟩ : Sys Cluster) (by decide)⟩

/-! ### No command is left polling -/

section Returns

variable {f : AppRunnerCommandFactory W} (hc : MonotoneCollab f.collab) {fuel : Nat}
  (hfuel : pollBudget f.timeout < fuel)
include hc hfuel

theorem submitApp_ne_polling (routesFlag : Str) (params : CreateDockerAppParams) (s : Sys W) :
    (submitApp f routesFlag params fuel s).1 ≠ .polling := by
  rcases hcd : (f.collab.createDockerApp params s.world).1 with _ | err
  swap
  · simp [submitApp, Sys.call, hcd]
  rcases hp : pollUntilAllInstancesRunning f params.name params.instances "start".toList fuel
    ⟨(f.collab.createDockerApp params s.world).2, s.trace ++ [.createDockerApp params] ++
      [.say (.plain ("Creating App: ".toList ++ params.name ++ "\n".toList))] ++
      [.outputTailedLogs params.name]⟩ with ⟨halt | ok, s₃⟩
  · rw [(submitApp_calls f routesFlag params fuel s hcd hp).2.1 halt rfl,
      pollUntilAllInstancesRunning_exited hc hfuel hp]
    nofun
  · exact ((submitApp_calls f routesFlag params fuel s hcd hp).2.2 ok rfl).1

theorem createApp_ne_polling (c : CreateContext) (s : Sys W) : (createApp f c fuel s).1 ≠ .polling := by
  rcases createApp_cases f c fuel s with ⟨h, -⟩ | ⟨_, _, _, _, _, _, s', _, _, _, _, _, _, _, heq⟩
  · rw [h]; nofun
  · rw [heq]; exact submitApp_ne_polling hc hfuel _ _ s'

end Returns

/-- **No command is left polling.** Against collaborators whose clock never goes back on a query and
that sleeping moves forward by at least the time slept, with fuel for more deadline checks than the
polls that fit in the timeout, `scaleApp` returns or ends where the exit handler ends the process,
`removeApp` returns, and `createApp` returns, panics or ends at the exit. -/
theorem commands_return {f : AppRunnerCommandFactory W} (hc : MonotoneCollab f.collab) {fuel : Nat}
    (hfuel : pollBudget f.timeout < fuel) (args : List Str) (c : CreateContext) (s : Sys W) :
    ((scaleApp f args fuel s).1 = .returned ∨ (scaleApp f args fuel s).1 = .exited) ∧
      (removeApp f args fuel s).1 = .returned ∧ (createApp f c fuel s).1 ≠ .polling :=
  ⟨scaleApp_halts hc hfuel args s, removeApp_returns hc hfuel args s, createApp_ne_polling hc hfuel c s⟩

theorem commands_return_healthy :
    MonotoneCollab (Script.healthy ⟨[], [], ⟨0, []⟩⟩ 1).collab ∧
    ((scaleApp ⟨(Script.healthy ⟨[], [], ⟨0, []⟩⟩ 1).collab, second, [], []⟩ ["app".toList, "1".toList] 2
        ⟨⟨0, 0, 0⟩, []⟩).1 = .returned ∨
      (scaleApp ⟨(Script.healthy ⟨[], [], ⟨0, []⟩⟩ 1).collab, second, [], []⟩ ["app".toList, "1".toList] 2
        ⟨⟨0, 0, 0⟩, []⟩).1 = .exited) ∧
      (removeApp ⟨(Script.healthy ⟨[], [], ⟨0, []⟩⟩ 1).collab, second, [], []⟩ ["app".toList, "1".toList] 2
        ⟨⟨0, 0, 0⟩, []⟩).1 = .returned ∧
      (createApp ⟨(Script.healthy ⟨[], [], ⟨0, []⟩⟩ 1).collab, second, [], []⟩
        (CreateContext.withDefaults ["app".toList, "img".toList]) 2 ⟨⟨0, 0, 0⟩, []⟩).1 ≠ .polling :=
  ⟨Script.monotone _, commands_return (Script.monotone _) (by decide) _ _ _⟩

end LatticeLtc.Create
