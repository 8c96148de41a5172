import LatticeLtc.Go.Ints
import Mathlib.Data.List.AList

/-! # The command factory and its collaborators

The data the commands exchange with the app runner (`docker_app_runner`: `PortConfig`,
`RouteOverride`, `CreateDockerAppParams`) and the image metadata (`docker_metadata_fetcher`) are
declared outside these sources; they are modelled from the spec, field by field as the code uses
them. A Go map is an association list without repeated keys (`AList`); a nil slice is the empty
list (no function of the factory builds a non-nil empty one).

The commands run against their collaborators: the app runner, the metadata fetcher, the exit
handler and the clock are state machines over a world `W` (`Collab`), any that the types allow. The
exit handler either ends the process, and with it the run (`Halt.exited`), or returns, as a test's
fake does. A run is observed through its `trace`: every call the command makes on the terminal and
on the collaborators, with its arguments, in order (`Sys`). The terminal is `terminalUI` of the
sources, which writes and reads nothing back, so its calls only extend the trace. -/

namespace LatticeLtc.Model

open LatticeLtc.Go.Strings LatticeLtc.Go.Ints

/-! ### Messages -/

/-- `InvalidPortErrorMessage`. -/
def invalidPortErrorMessage : Str :=
  "Invalid port specified. Ports must be a comma-delimited list of integers between 0-65535.".toList

/-- `MalformedRouteErrorMessage`. -/
def malformedRouteErrorMessage : Str :=
  "Malformed route. Routes must be of the format route:port".toList

/-- `MustSetMonitoredPortErrorMessage`. -/
def mustSetMonitoredPortErrorMessage : Str :=
  "Must set monitored-port when specifying multiple exposed ports unless --no-monitor is set.".toList

/-! ### Data of the app runner and the metadata fetcher -/

/-- Modelled from the spec: `docker_app_runner.PortConfig`, the exposed ports and the monitored
one (`0` for none). -/
structure PortConfig where
  monitored : UInt16
  exposed : List UInt16
deriving DecidableEq

/-- Modelled from the spec: `PortConfig.IsEmpty`, no exposed port declared. -/
def PortConfig.isEmpty (p : PortConfig) : Bool := p.exposed.isEmpty

/-- Modelled from the spec: `docker_app_runner.RouteOverride`. -/
structure RouteOverride where
  hostnamePrefix : Str
  port : UInt16
deriving DecidableEq

/-- Modelled from the spec: `docker_metadata_fetcher.ImageMetadata`, the parts the factory reads. -/
structure ImageMetadata where
  workingDir : Str
  startCommand : List Str
  ports : PortConfig
deriving DecidableEq

/-- A Go `map[string]string`. -/
abbrev EnvMap := AList fun _ : Str => Str

/-- Maps compared by their entries, so that the comparison evaluates. -/
instance (priority := high) : DecidableEq EnvMap := fun a b =>
  decidable_of_iff (a.entries = b.entries) AList.ext_iff.symm

/-- Modelled from the spec: `docker_app_runner.CreateDockerAppParams`. -/
structure CreateDockerAppParams where
  name : Str
  dockerImagePath : Str
  startCommand : Str
  appArgs : List Str
  environmentVariables : EnvMap
  privileged : Bool
  monitor : Bool
  instances : Int
  cpuWeight : Nat
  memoryMB : Int
  diskMB : Int
  ports : PortConfig
  workingDir : Str
  routeOverrides : List RouteOverride
deriving DecidableEq

/-- `exit_codes.PlacementError`, the only exit code the factory uses. -/
inductive ExitCode
  | placementError
deriving DecidableEq

/-! ### Runs -/

/-- Text written to the terminal. `colors.Green` and `colors.Red` (outside these sources) wrap the
text in colour codes; the model keeps the colour as a tag. -/
inductive Text
  | plain (s : Str)
  | green (s : Str)
  | red (s : Str)
deriving DecidableEq

/-- A call a command makes on the terminal or on a collaborator. -/
inductive Event
  | say (t : Text)
  | sayLine (t : Text)
  | incorrectUsage (msg : Str)
  | newLine
  | fetchMetadata (dockerImage : Str)
  | createDockerApp (params : CreateDockerAppParams)
  | scaleApp (name : Str) (instances : Int)
  | updateAppRoutes (name : Str) (routes : List RouteOverride)
  | removeApp (name : Str)
  | runningAppInstancesInfo (name : Str)
  | appExists (name : Str)
  | outputTailedLogs (name : Str)
  | stopOutputting
  | exit (code : ExitCode)
deriving DecidableEq

/-- A call that only writes to the terminal. -/
def Event.writes : Event → Bool
  | .say _ | .sayLine _ | .incorrectUsage _ | .newLine => true
  | _ => false

/-- A call that writes an uncoloured text to the terminal: a notice, or an error. -/
def Event.notice : Event → Bool
  | .say (.plain _) | .sayLine (.plain _) | .incorrectUsage _ => true
  | _ => false

/-- A call that creates an app or watches its instances. -/
def Event.reachesApp : Event → Bool
  | .createDockerApp _ | .runningAppInstancesInfo _ => true
  | _ => false

/-- The parameters of a `CreateDockerApp` call. -/
def Event.submitted : Event → Option CreateDockerAppParams
  | .createDockerApp p => some p
  | _ => none

theorem Event.reachesApp_of_notice {e : Event} (h : e.notice = true) : e.reachesApp = false := by
  cases e <;> first | rfl | cases h

/-- Modelled from the spec: the collaborators, as state machines over the world `W`; an error is
`some` message, and the clock reads and sleeps in nanoseconds. `exit` is `exitHandler.Exit`: `none`
when it ends the process (the spec's process exit signal), and otherwise the world it returns to. -/
structure Collab (W : Type) where
  fetchMetadata : Str → W → Except Str ImageMetadata × W
  createDockerApp : CreateDockerAppParams → W → Option Str × W
  scaleApp : Str → Int → W → Option Str × W
  updateAppRoutes : Str → List RouteOverride → W → Option Str × W
  removeApp : Str → W → Option Str × W
  runningAppInstancesInfo : Str → W → (Int × Bool × Option Str) × W
  appExists : Str → W → (Bool × Option Str) × W
  exit : ExitCode → W → Option W
  now : W → Int
  sleep : Int → W → W

/-- `AppRunnerCommandFactory`: the collaborators, the poll timeout (nanoseconds), the domain of the
app URLs and the inherited environment (`NAME=VALUE` entries). -/
structure AppRunnerCommandFactory (W : Type) where
  collab : Collab W
  timeout : Int
  domain : Str
  env : List Str

/-- How a run of a command stopped: it returned, it was still polling when the fuel ran out, it
panicked (a Go runtime error), or the exit handler ended the process. -/
inductive Halt
  | returned
  | polling
  | panicked
  | exited
deriving DecidableEq

/-- What a step returns, or how the run stopped in it, compared so that statements over it
evaluate. -/
instance instDecidableEqExcept {ε α : Type} [DecidableEq ε] [DecidableEq α] :
    DecidableEq (Except ε α)
  | .error x, .error y => decidable_of_iff (x = y) (by simp)
  | .ok x, .ok y => decidable_of_iff (x = y) (by simp)
  | .error _, .ok _ => isFalse nofun
  | .ok _, .error _ => isFalse nofun

/-- The state of a run: the world and the calls made so far. -/
structure Sys (W : Type) where
  world : W
  trace : List Event

variable {W α : Type}

namespace Sys

/-- Record a call on the terminal. -/
def emit (e : Event) (s : Sys W) : Sys W := { s with trace := s.trace ++ [e] }

/-- Record a call on a collaborator, answered by the world. -/
def call (e : Event) (f : W → α × W) (s : Sys W) : α × Sys W :=
  ((f s.world).1, ⟨(f s.world).2, s.trace ++ [e]⟩)

@[simp] theorem emit_world (e : Event) (s : Sys W) : (s.emit e).world = s.world := rfl

@[simp] theorem emit_trace (e : Event) (s : Sys W) : (s.emit e).trace = s.trace ++ [e] := rfl

@[simp] theorem call_fst (e : Event) (f : W → α × W) (s : Sys W) :
    (s.call e f).1 = (f s.world).1 := rfl

@[simp] theorem call_world (e : Event) (f : W → α × W) (s : Sys W) :
    (s.call e f).2.world = (f s.world).2 := rfl

@[simp] theorem call_trace (e : Event) (f : W → α × W) (s : Sys W) :
    (s.call e f).2.trace = s.trace ++ [e] := rfl

/-- `s'` is `s` after further calls, each of which satisfies `P`. -/
def Extends (P : Event → Prop) (s s' : Sys W) : Prop :=
  ∃ t, s'.trace = s.trace ++ t ∧ ∀ e ∈ t, P e

variable {P : Event → Prop} {s₁ s₂ s₃ : Sys W}

theorem Extends.refl (s : Sys W) : Extends P s s := ⟨[], by simp, by simp⟩

theorem Extends.trans (h₁ : Extends P s₁ s₂) (h₂ : Extends P s₂ s₃) : Extends P s₁ s₃ := by
  obtain ⟨t₁, e₁, p₁⟩ := h₁
  obtain ⟨t₂, e₂, p₂⟩ := h₂
  exact ⟨t₁ ++ t₂, by rw [e₂, e₁, List.append_assoc], fun e he => (List.mem_append.mp he).elim (p₁ e) (p₂ e)⟩

theorem Extends.emit {e : Event} (h : P e) (s : Sys W) : Extends P s (s.emit e) := ⟨[e], rfl, by simpa⟩

theorem Extends.call {e : Event} (h : P e) (f : W → α × W) (s : Sys W) : Extends P s (s.call e f).2 :=
  ⟨[e], rfl, by simpa⟩

theorem Extends.drop (h : Extends P s₁ s₂) : ∀ e ∈ s₂.trace.drop s₁.trace.length, P e := by
  obtain ⟨t, ht, hp⟩ := h
  rw [ht, List.drop_left]
  exact hp

theorem Extends.mono {Q : Event → Prop} (hPQ : ∀ e, P e → Q e) (h : Extends P s₁ s₂) : Extends Q s₁ s₂ :=
  let ⟨t, ht, hp⟩ := h
  ⟨t, ht, fun e he => hPQ e (hp e he)⟩

end Sys

end LatticeLtc.Model
