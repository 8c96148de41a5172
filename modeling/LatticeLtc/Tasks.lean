import LatticeLtc.Commands

/-! # The task commands

`TaskRunnerCommandFactory` has two commands against the task runner: `submit-task` reads the JSON
file named by the first argument and submits its bytes (`submitTask`), and `delete-task` deletes the
task whose guid is the first argument (`deleteTask`). Both report on the terminal with
`terminalUI.Say`, which writes its text as it is; the text of one `Say` may mix the colours of
`colors` (outside these sources), as in `colors.Green(s) + "\n"`, so it is kept as pieces, each in
its style. `deleteTask` asks for a guid with `SayIncorrectUsage`, a method that the `UI` interface of
these sources does not declare; the model records the call and its message. -/

namespace LatticeLtc.Tasks

open LatticeLtc.Go.Strings LatticeLtc.Commands

variable {W : Type}

/-- No colour, or a colour of `colors` that the task commands use. -/
inductive Style
  | plain
  | bold
  | green
  | red
deriving DecidableEq

/-- The text of one `Say`: pieces, each in a style. -/
abbrev Message := List (Style × Str)

/-- A message without colour. -/
def plainMessage (s : Str) : Message := [(.plain, s)]

/-- A call a task command makes on the terminal, the file system or the task runner. -/
inductive TaskEvent
  | say (message : Message)
  | sayIncorrectUsage (message : Str)
  | readFile (path : Str)
  | submitTask (json : List UInt8)
  | deleteTask (taskGuid : Str)
deriving DecidableEq

/-- The file system (`ioutil.ReadFile`) and the task runner, as state machines over the world `W`;
an error is its message, and `SubmitTask` answers a task name beside its error. -/
structure TaskRunner (W : Type) where
  readFile : Str → W → Except Str (List UInt8) × W
  submitTask : List UInt8 → W → (Str × Option Str) × W
  deleteTask : Str → W → Option Str × W

/-- A run of a task command: the world and the calls made so far. -/
structure TaskRun (W : Type) where
  world : W
  trace : List TaskEvent

/-- Record a call on the terminal. -/
def TaskRun.emit (e : TaskEvent) (s : TaskRun W) : TaskRun W := { s with trace := s.trace ++ [e] }

/-- Record a call on the file system or the task runner, answered by the world. -/
def TaskRun.call {α : Type} (e : TaskEvent) (f : W → α × W) (s : TaskRun W) : α × TaskRun W :=
  ((f s.world).1, ⟨(f s.world).2, s.trace ++ [e]⟩)

/-- `submitTask` of `TaskRunnerCommandFactory` on the positional arguments `args`. -/
def submitTask (taskRunner : TaskRunner W) (args : List Str) (s : TaskRun W) : TaskRun W :=
  let filePath := argsGet args 0
  if filePath = [] then s.emit (.say (plainMessage "Path to JSON is required".toList))
  else
    match s.call (.readFile filePath) (taskRunner.readFile filePath) with
    | (.error err, s) => s.emit (.say (plainMessage ("Error reading file: ".toList ++ err)))
    | (.ok jsonBytes, s) =>
      match s.call (.submitTask jsonBytes) (taskRunner.submitTask jsonBytes) with
      | ((taskName, some err), s) =>
        s.emit (.say (plainMessage ("Error submitting ".toList ++ taskName ++ ": ".toList ++ err)))
      | ((taskName, none), s) =>
        s.emit (.say [(.green, "Successfully submitted ".toList ++ taskName), (.plain, "\n".toList)])

/-- `deleteTask` of `TaskRunnerCommandFactory` on the positional arguments `args`. -/
def deleteTask (taskRunner : TaskRunner W) (args : List Str) (s : TaskRun W) : TaskRun W :=
  let taskGuid := argsGet args 0
  if taskGuid = [] then s.emit (.sayIncorrectUsage "Please input a valid TASK_GUID".toList)
  else
    let s := s.emit (.say [(.plain, "Deleting the task ".toList), (.bold, taskGuid), (.plain, "\n".toList)])
    match s.call (.deleteTask taskGuid) (taskRunner.deleteTask taskGuid) with
    | (some err, s) =>
      let s := s.emit (.say [(.plain, "Error Deleting the task ".toList), (.bold, taskGuid),
        (.plain, "\n".toList)])
      s.emit (.say [(.plain, "Failiure Reason :".toList), (.red, err), (.plain, "\n".toList)])
    | (none, s) => s.emit (.say [(.green, "OK".toList)])

end LatticeLtc.Tasks
