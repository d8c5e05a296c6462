import Systolic.Command
import Systolic.Text.Numeral

namespace Systolic.Command.Line

/-- The options that were read so far. A batch is given to one of the actions alone. -/
structure Given extends Options where
  batch : Option Nat
deriving DecidableEq

def Given.none : Given := ⟨⟨.none, false, .none⟩, .none⟩

/-- The options given after an action, and those given before it for what is left. -/
def Given.over (later earlier : Given) : Given where
  profile := later.profile <|> earlier.profile
  simulate := later.simulate || earlier.simulate
  pollBudget := later.pollBudget <|> earlier.pollBudget
  batch := later.batch <|> earlier.batch

def number? (value : String) : Option Nat := (Text.readNumeral value).toOption

/-- Takes in an option with its value; no option is taken twice, and a batch only where one is due. -/
def Given.add? (o : Given) (batchDue : Bool) (name value : String) : Option Given :=
  match name with
  | "--profile" => if o.profile.isSome then .none else some { o with profile := some value }
  | "--poll-budget" =>
    if o.pollBudget.isSome then .none
    else (number? value).map fun n => { o with pollBudget := some n }
  | "--batch" =>
    if o.batch.isSome || !batchDue then .none
    else (number? value).map fun n => { o with batch := some n }
  | _ => .none

/-- The name and the value of an argument of the form `name=value`. -/
def attached? (arg : String) : Option (String × String) :=
  match arg.toList.span (· != '=') with
  | (name, _ :: value) => some (String.ofList name, String.ofList value)
  | _ => .none

def isDashed (arg : String) : Bool := arg != "-" && arg.toList.head? == some '-'

/-- What keeps a command line from being carried out: it is not one, or it only asks about the
command. -/
inductive Stop where
  | refused
  | help
  | version
deriving DecidableEq

/-- What the letters after a single dash ask for. The first one decides: it is answered before the next
is looked at. -/
def Stop.ofLetters (versionDue : Bool) : List Char → Stop
  | 'h' :: _ => help
  | 'V' :: _ => if versionDue then version else refused
  | _ => refused

/-- Why an argument stops the reading, if it is a question or a cluster of letters. The version is told
only to those who ask before the action. -/
def Stop.of? (versionDue : Bool) (arg : String) : Option Stop :=
  match arg.toList with
  | '-' :: '-' :: _ =>
    if arg = "--help" then some help
    else if arg = "--version" ∧ versionDue then some version
    else .none
  | '-' :: letters => some (ofLetters versionDue letters)
  | _ => .none

def orRefused {α : Type} : Option α → Except Stop α
  | some a => .ok a
  | .none => .error .refused

/-- Reads options up to the first argument that is none, and gives what is left from there. After a
lone double dash nothing may follow. -/
def readOptions (actionDue batchDue : Bool) (o : Given) : List String → Except Stop (Given × List String)
  | [] => .ok (o, [])
  | ["--"] => .ok (o, [])
  | "--simulate" :: rest =>
    if o.simulate then .error .refused
    else readOptions actionDue batchDue { o with simulate := true } rest
  | arg :: rest =>
    if isDashed arg then
      match Stop.of? actionDue arg, attached? arg, rest with
      | some stop, _, _ => .error stop
      | .none, some (name, value), rest => do
        readOptions actionDue batchDue (← orRefused (o.add? batchDue name value)) rest
      | .none, .none, value :: rest =>
        if isDashed value then .error .refused
        else do readOptions actionDue batchDue (← orRefused (o.add? batchDue arg value)) rest
      | .none, .none, [] => .error .refused
    else .ok (o, arg :: rest)

def action? (name : String) (batch : Option Nat) : Option Action :=
  match name with
  | "profiles" => some .profiles
  | "bench" => some (.bench (batch.getD Benchmark.Plan.default.batch))
  | "mac" => some .mac
  | "datapath" => some .datapath
  | _ => .none

/-- What asking for help on `topics` comes to: there is help on every action and on help itself. -/
def Stop.ofTopics : List String → Stop
  | [] => help
  | [topic] => if topic = "help" ∨ (action? topic .none).isSome then help else refused
  | _ => refused

/-- Reads a command line: options, an action and more options. -/
def parse (args : List String) : Except Stop (Options × Action) := do
  let (earlier, rest) ← readOptions true false .none args
  match rest with
  | [] => .error .refused
  | "help" :: topics => .error (.ofTopics topics)
  | name :: rest =>
    let _ ← orRefused (action? name .none)
    let (later, rest) ← readOptions false (name == "bench") .none rest
    unless rest.isEmpty do throw .refused
    let action ← orRefused (action? name later.batch)
    return ((later.over earlier).toOptions, action)

def usage : String :=
  "usage: npu [--profile NAME] [--simulate] [--poll-budget N] profiles | bench [--batch N] | " ++
    "mac | datapath"

def version : String := "npu 0.1.0"

def Stop.ending : Stop → Ending
  | refused => ⟨2, [], usage ++ "\n"⟩
  | help => ⟨0, [usage], ""⟩
  | version => ⟨0, [Line.version], ""⟩

/-- What stands first in the words for a trouble. -/
def title : Trouble → String
  | .failure f => f.message
  | .during context _ => context
  | .failed what => what

/-- What the system said, under an I/O error. -/
def system? : Failure → Option String
  | .io text => some text
  | _ => .none

/-- What a trouble came from, the nearest cause first. -/
def causes : Trouble → List String
  | .failure f => (system? f).toList
  | .during _ f => f.message :: (system? f).toList
  | .failed _ => []

/-- A text behind its margin, with every line after its first as far in. -/
def setIn (margin text : String) : String :=
  let next := '\n' :: List.replicate margin.length ' '
  margin ++ String.ofList (text.toList.flatMap fun c => if c = '\n' then next else [c])

/-- Causes are numbered if there are several of them. -/
def causeLines : List String → List String
  | [cause] => [setIn "    " cause]
  | causes => causes.zipIdx.map fun (cause, i) => setIn s!"    {i}: " cause

def message (t : Trouble) : String :=
  let first := s!"Error: {title t}\n"
  match causes t with
  | [] => first
  | causes =>
    first ++ "\nCaused by:\n" ++ String.join ((causeLines causes).map fun line => line ++ "\n")

/-- A shell that reads options with dashes and tells of a trouble with what it came from. No result on
commands is about this one in particular. -/
def shell : Shell where
  read args := (parse args).mapError Stop.ending
  word := message

end Systolic.Command.Line
