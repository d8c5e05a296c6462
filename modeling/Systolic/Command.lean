import Systolic.Check.Benchmark
import Systolic.Check.Datapath
import Systolic.Check.Mac
import Systolic.Device.Control
import Systolic.Settings
import Systolic.Text.Figure

namespace Systolic.Command

/-- What the command is asked to do. -/
inductive Action where
  | profiles
  | bench (batch : Nat)
  | mac
  | datapath
deriving DecidableEq

/-- The options that go with every action. -/
structure Options where
  profile : Option String
  simulate : Bool
  pollBudget : Option Nat
deriving DecidableEq

/-- Why a command failed. -/
inductive Trouble where
  | failure (failure : Failure)
  | during (context : String) (failure : Failure)
  | failed (what : String)
deriving DecidableEq

/-- What a command has printed itself, and what stopped it, if anything did. A log is kept beside that. -/
structure Transcript where
  lines : List String
  trouble : Option Trouble
deriving DecidableEq

def padRight (width : Nat) (s : String) : String := s.pushn ' ' (width - s.length)

def profileLines (p : Profile) : List String :=
  let word (n : Nat) := "0x" ++ Hex.padded 8 n
  let control := s!"control {word p.controlWindow.base}+{Hex.tagged p.controlWindow.span}"
  let shared := s!"shared {word p.sharedWindow.base}+{Hex.tagged p.sharedWindow.span}"
  [s!"{padRight 12 p.name} {p.summary}",
    s!"             {control}  {shared} (bus {Hex.word p.busBase})"]

def phaseLines (r : WaitReport) : List String :=
  let name := padRight 13 r.phase.description
  match r.timeouts with
  | [] => [s!"  {name}: ok ({r.totalPolls} polls)"]
  | timeouts => timeouts.map fun t => s!"  {name}: {t.message}"

/-- How fast things go where a command runs: the clock during its waits, and the nanoseconds that a
benchmark takes on the host and on the board. -/
structure Pace where
  timing : Timing
  host : Nat
  board : Nat

/-- The times of a benchmark, and how many times faster the board was, if there is a number for it. -/
def timeLines (pace : Pace) (r : Benchmark.Report) : List String :=
  let speedup :=
    match r.speedup pace.host pace.board with
    | some ratio => Text.twoPlaces ratio ++ "×"
    | .none => "n/a"
  ["CPU time     : " ++ Text.duration pace.host, "NPU time     : " ++ Text.duration pace.board,
    "Speedup      : " ++ speedup]

def benchLines (pace : Pace) (r : Benchmark.Report) : List String :=
  [s!"Batch        : {r.batch} matrices"] ++ r.phases.flatMap phaseLines ++ timeLines pace r ++
    [s!"Verified     : {r.comparison.checked} elements, {r.comparison.mismatchCount} mismatches"] ++
    (r.comparison.mismatches.map fun m => s!"  {m.message}") ++
    (r.comparison.firstFailure.map fun d => d.lines ++ [""]).getD []

def beatLines (beats : List UInt32) : List String :=
  beats.zipIdx.map fun (beat, i) =>
    let number := String.ofList ((toString i).toList.leftpad 2 ' ')
    s!"  out[{number}] = {Hex.word beat}"

/-- The lines of a check, and its verdict under them. -/
def verdict (lines : List String) (passed : Bool) (failed : String) : Transcript :=
  if passed then ⟨lines ++ ["PASS"], .none⟩ else ⟨lines, some (.failed failed)⟩

/-- Runs a check on a fresh model of a board. -/
def onModel {α : Type} (timing : Timing) (s : Settings) (check : SequencerM α) : Except Failure α :=
  let run := (check.run.run s.sequencer).runOn (Device.board timing) (.ofProfile s.profile) .empty
  match run.result with
  | some (outcome, _) => outcome
  | .none => .error (.io "register access refused")

def bench (pace : Pace) (s : Settings) (batch : Nat) : Transcript :=
  if batch = 0 then ⟨[], some (.failed "--batch must be at least 1")⟩
  else
    let plan := { Benchmark.Plan.default with batch }
    match onModel pace.timing s (Benchmark.run s.profile.sharedWindow.span plan) with
    | .ok report => verdict (benchLines pace report) report.passed "benchmark FAILED"
    | .error f => ⟨[], some (.during "benchmark setup" f)⟩

def mac (pace : Pace) (s : Settings) : Transcript :=
  match onModel pace.timing s MacCheck.run with
  | .ok report =>
    verdict [s!"MAC          : {report.result} (expected {report.expected})"] report.passed
      "MAC check FAILED"
  | .error f => ⟨[], some (.failure f)⟩

def datapath (pace : Pace) (s : Settings) : Transcript :=
  match onModel pace.timing s (Datapath.run s.profile.sharedWindow.span .default) with
  | .ok report =>
    verdict (phaseLines report.phase ++ beatLines report.beats) report.passed "datapath FAILED"
  | .error f => ⟨[], some (.failure f)⟩

/-- The settings of a command: the usual ones, then the variables, then the options. A variable that
makes no sense is in the way even of an option that would have replaced it. -/
def settings (o : Options) (lookup : String → Option String) : Except Trouble Settings := do
  let s ← (Settings.default.withOverrides lookup).mapError (.during "reading NPU_* environment")
  let s ←
    match o.profile with
    | some name => (s.withProfile name).mapError .failure
    | .none => pure s
  match o.pollBudget with
  | some polls => (s.withPollBudget polls).mapError (.during "--poll-budget")
  | .none => pure s

/-- Does what is asked, on a model of the board: a board of its own is nothing that can be got at from
here. -/
def perform (pace : Pace) (o : Options) (action : Action) (lookup : String → Option String) :
    Transcript :=
  match action with
  | .profiles => ⟨Profile.all.flatMap profileLines, .none⟩
  | action =>
    match settings o lookup with
    | .error trouble => ⟨[], some trouble⟩
    | .ok s =>
      if o.simulate then
        let title := s!"Profile      : {s.profile.name} (simulated)"
        let rest :=
          match action with
          | .bench batch => bench pace s batch
          | .mac => mac pace s
          | _ => datapath pace s
        { rest with lines := title :: rest.lines }
      else
        let missing := Failure.io "No such file or directory (os error 2)"
        ⟨[], some (.during "opening /dev/mem (root required)" missing)⟩

/-- What a command leaves behind: its exit code, the lines it printed, those of its log left out, and its
complaint. -/
structure Ending where
  exit : UInt8
  lines : List String
  complaint : String
deriving DecidableEq

/-- What a command leaves to others: what its arguments ask for, or how it ends over them, and in which
words a trouble is put. -/
structure Shell where
  read : List String → Except Ending (Options × Action)
  word : Trouble → String

def run (shell : Shell) (pace : Pace) (args : List String) (lookup : String → Option String) : Ending :=
  match shell.read args with
  | .error ending => ending
  | .ok (options, action) =>
    let t := perform pace options action lookup
    match t.trouble with
    | some trouble => ⟨1, t.lines, shell.word trouble⟩
    | .none => ⟨0, t.lines, ""⟩

end Systolic.Command
