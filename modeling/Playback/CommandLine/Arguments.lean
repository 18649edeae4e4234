/-! The arguments of the program. An option is given by its long name, or by a letter that may stand
together with others; a value follows as an argument of its own or after the name. What is wrong or
asks for help is acted on where it stands, so an earlier argument wins over a later one. -/

namespace Playback.CommandLine

/-- An option that may be given once. -/
structure Choice where
  name : String
  letter : Option Char := none
  takesValue : Bool := false

inductive Argument where
  | option (name : String) (value : Option String)
  | positional (value : String)
  /-- The name of a command, and the arguments after it. -/
  | command (name : String) (rest : List String)
  | wrong

/-- An argument that may be the value of an option: it does not look like an option. -/
def isValue (arg : String) : Bool :=
  match arg.toList with
  | '-' :: _ :: _ => false
  | _ => true

/-- An option by its letters, without the dash. The last option may still need its value. -/
def cluster (choices : List Choice) : List Char → List Argument × Option Choice
  | [] => ([], none)
  | c :: cs =>
    match choices.find? fun o => o.letter = some c with
    | none => ([.wrong], none)
    | some o =>
      if o.takesValue then
        match cs with
        | [] => ([], some o)
        | '=' :: value => ([.option o.name (some (String.ofList value))], none)
        | value => ([.option o.name (some (String.ofList value))], none)
      else
        let (more, pending) := cluster choices cs
        (.option o.name none :: more, pending)

/-- The arguments one by one. With `commands`, the first one that is no option names a command, and
what follows it belongs to that. -/
def scan (choices : List Choice) (commands : Bool) : List String → List Argument
  | [] => []
  | arg :: rest =>
    match arg.toList with
    | '-' :: '-' :: [] => if commands then [.wrong] else rest.map .positional
    | '-' :: '-' :: text =>
      let (name, value) := text.span (· ≠ '=')
      match choices.find? fun o => o.name = String.ofList name, value with
      | some o, [] =>
        if o.takesValue then
          match rest with
          | v :: rest =>
            if isValue v then .option o.name (some v) :: scan choices commands rest else [.wrong]
          | [] => [.wrong]
        else .option o.name none :: scan choices commands rest
      | some o, _ :: value =>
        if o.takesValue then
          .option o.name (some (String.ofList value)) :: scan choices commands rest
        else [.wrong]
      | none, _ => [.wrong]
    | '-' :: c :: cs =>
      let (given, pending) := cluster choices (c :: cs)
      match pending with
      | none => given ++ scan choices commands rest
      | some o =>
        match rest with
        | v :: rest =>
          if isValue v then given ++ .option o.name (some v) :: scan choices commands rest
          else given ++ [.wrong]
        | [] => given ++ [.wrong]
    | _ =>
      if commands then [.command arg rest] else .positional arg :: scan choices commands rest

/-- What the program is to do. -/
inductive Job where
  | simulate (scenario : String) (config : Option String)
  | classify (signal : String) (live : Bool) (duration : Int64) (tracked : Bool)
  | config (file : Option String)
  deriving DecidableEq, Repr

/-- The files that are read for a job. -/
def Job.files : Job → List String
  | .simulate scenario path => path.toList ++ [scenario]
  | .classify _ _ _ _ => []
  | .config file => file.toList

inductive Request where
  | run (job : Job) (format : String)
  | version
  | help
  /-- The arguments make no sense. -/
  | misuse
  deriving DecidableEq, Repr

def Request.files : Request → List String
  | .run job _ => job.files
  | _ => []

/-- A decimal integer with an optional sign, within the range of a position. -/
def int64? (s : String) : Option Int64 :=
  let (negative, digits) := match s.toList with
    | '-' :: cs => (true, cs)
    | '+' :: cs => (false, cs)
    | cs => (false, cs)
  if digits.isEmpty ∨ !digits.all Char.isDigit then none
  else
    let n : Int := digits.foldl (fun n c => 10 * n + (c.toNat - '0'.toNat)) (0 : Nat)
    let n := if negative then -n else n
    if Int64.minValue.toInt ≤ n ∧ n ≤ Int64.maxValue.toInt then some (Int64.ofInt n) else none

/-- What has been given to a command so far. -/
structure Given where
  options : List (String × Option String) := []
  positionals : List String := []

/-- The arguments of a command, of which at most `limit` are no options. -/
def collect (limit : Nat) (accepts : String → String → Bool) (g : Given) :
    List Argument → Except Request Given
  | [] => .ok g
  | .option name value :: rest =>
    if name = "help" then .error .help
    else if name = "version" then .error .version
    else if (g.options.lookup name).isSome ∨ !(value.map (accepts name)).getD true then
      .error .misuse
    else collect limit accepts { g with options := (name, value) :: g.options } rest
  | .positional value :: rest =>
    if g.positionals.length < limit ∧ accepts "" value then
      collect limit accepts { g with positionals := g.positionals ++ [value] } rest
    else .error .misuse
  | _ => .error .misuse

def Given.has (g : Given) (name : String) : Bool := (g.options.lookup name).isSome

def Given.value? (g : Given) (name : String) : Option String := (g.options.lookup name).join

def helpChoice : Choice := { name := "help", letter := some 'h' }

def simulateChoices : List Choice :=
  [{ name := "config", letter := some 'c', takesValue := true }, helpChoice]

def classifyChoices : List Choice :=
  [{ name := "live" }, { name := "duration", letter := some 'd', takesValue := true },
    { name := "tracked" }, helpChoice]

def configChoices : List Choice := [helpChoice]

def mainChoices : List Choice :=
  [{ name := "verbose", letter := some 'v' },
    { name := "format", letter := some 'f', takesValue := true }, helpChoice,
    { name := "version", letter := some 'V' }]

/-- The duration that a video has where none is given. -/
def defaultDuration : Int64 := 600000000

/-- What a command with these arguments is to do. -/
def jobOf (name : String) (args : List String) : Except Request Job := do
  match name with
  | "simulate" =>
    let g ← collect 1 (fun _ v => v ≠ "") {} (scan simulateChoices false args)
    match g.positionals with
    | [scenario] => .ok (.simulate scenario (g.value? "config"))
    | _ => .error .misuse
  | "classify" =>
    let g ← collect 1 (fun o v => o ≠ "duration" || (int64? v).isSome) {}
      (scan classifyChoices false args)
    match g.positionals with
    | [signal] =>
      let duration := ((g.value? "duration").bind int64?).getD defaultDuration
      .ok (.classify signal (g.has "live") duration (g.has "tracked"))
    | _ => .error .misuse
  | "config" =>
    let g ← collect 1 (fun _ v => v ≠ "") {} (scan configChoices false args)
    .ok (.config g.positionals.head?)
  | "help" =>
    match args with
    | [] => .error .help
    | [command] =>
      if command ∈ ["simulate", "classify", "config", "help"] then .error .help
      else .error .misuse
    | _ => .error .misuse
  | _ => .error .misuse

/-- The options before the command. -/
def leading : List Argument → List Argument :=
  List.takeWhile fun a => !(a matches .command _ _)

/-- What the arguments ask for. -/
def parse (args : List String) : Request :=
  let scanned := scan mainChoices true args
  match collect 0 (fun _ _ => true) {} (leading scanned) with
  | .error r => r
  | .ok g =>
    match scanned.getLast? with
    | some (.command name rest) =>
      match jobOf name rest with
      | .ok job => .run job ((g.value? "format").getD "text")
      | .error r => r
    | _ => .misuse

end Playback.CommandLine
