import Upkeep.Reference
/-!
The command line.

The program takes settings, then a command, then what belongs to the command. `CommandLine.read`
goes through the arguments from left to right, so that the first request for help, or for the
version, counts if nothing before it is wrong. The place of the configuration and the format of the
log may be given before the command and after it; what stands after it goes first. A setting that
is not given at all is taken from the environment.

The value of a setting that is a separate argument is looked into only when the next setting of the
same command comes, or at the end.
-/

namespace Upkeep

/-- A setting with a value. -/
inductive Setting
  | config
  | logFormat
  | gitHubToken
  | zenHubToken
deriving DecidableEq, Repr

namespace Setting

def all : List Setting := [config, logFormat, gitHubToken, zenHubToken]

/-- The name of a setting as it is given, without the hyphens in front of it. -/
def name : Setting → String
  | config => "config"
  | logFormat => "log-format"
  | gitHubToken => "github-token"
  | zenHubToken => "zenhub-token"

/-- The variable of the environment that stands for a setting. -/
def envName? : Setting → Option String
  | config => some "LIFECYCLE_CONFIG"
  | logFormat => none
  | gitHubToken => some "GITHUB_TOKEN"
  | zenHubToken => some "ZENHUB_TOKEN"

/-- The setting may also be given after the command. -/
def isGlobal : Setting → Bool
  | config => true
  | logFormat => true
  | _ => false

/-- The value is one that the setting can have. -/
def accepts (value : String) : Setting → Bool
  | config => !value.isEmpty
  | logFormat => value == "pretty" || value == "json"
  | _ => true

end Setting

/-- Why arguments are not understood. -/
inductive UsageError
  | unknownArgument (argument : String)
  /-- The setting comes without its value. -/
  | missingValue (setting : Setting)
  | invalidValue (setting : Setting) (value : String)
  | invalidReference (cause : ReferenceError)
  /-- The setting or flag is given twice. -/
  | repeated (name : String)
  /-- A flag is given a value. -/
  | surplusValue (name : String)
  | missingCommand
  | missingReference
  | missingToken
deriving DecidableEq, Repr

/-- The sentence that reports why arguments are not understood. -/
def UsageError.message : UsageError → String
  | unknownArgument a => "unexpected argument '" ++ a ++ "'"
  | missingValue s => "a value is required for '--" ++ s.name ++ "'"
  | invalidValue s v => "invalid value '" ++ v ++ "' for '--" ++ s.name ++ "'"
  | invalidReference cause => cause.message
  | repeated name => "'--" ++ name ++ "' cannot be used more than once"
  | surplusValue name => "'--" ++ name ++ "' takes no value"
  | missingCommand => "a command is required: sweep or manage"
  | missingReference => "an item is required"
  | missingToken => "'--github-token' is required"

/-- Why the program is not run. -/
inductive Stop
  | usage (error : UsageError)
  | help
  | version
deriving DecidableEq, Repr

/-- What the program is asked to do. -/
inductive Command
  /-- Sweep every configured repository. -/
  | sweep (dryRun : Bool)
  /-- Evaluate and update one item. -/
  | manage (issue : IssueRef)
deriving DecidableEq, Repr

/-- The settings and the command of a run. -/
structure Invocation where
  configPath : String
  logFormat : String
  gitHubToken : String
  zenHubToken? : Option String
  command : Command
deriving DecidableEq, Repr

namespace CommandLine

/-! ## Arguments -/

/-- The form of an argument. -/
inductive Argument
  /-- A name behind two hyphens, with a value behind an equals sign or not. -/
  | long (name : String) (value? : Option String)
  /-- Letters behind a hyphen; the first of them is set apart. -/
  | short (letter : Char)
  /-- Two hyphens alone: all that follows is plain. -/
  | hyphens
  | plain (text : String)
deriving DecidableEq, Repr

/-- The form of an argument. A hyphen alone is plain. -/
def Argument.of (text : String) : Argument :=
  match text.toList with
  | ['-', '-'] => .hyphens
  | '-' :: '-' :: cs =>
    let name := cs.takeWhile (· != '=')
    let value? := match cs.drop name.length with
      | [] => none
      | _ :: value => some (String.ofList value)
    .long (String.ofList name) value?
  | '-' :: c :: _ => .short c
  | _ => .plain text

/-- The part of the command line that is read. -/
inductive Level
  | top
  | sweep
  | manage
deriving DecidableEq, Repr

/-- What a name behind two hyphens stands for. -/
inductive Switch
  | setting (s : Setting)
  | dryRun
  | help
  | version
deriving DecidableEq, Repr

/-- What a name stands for at a level. -/
def Level.switch? (level : Level) (name : String) : Option Switch :=
  match Setting.all.find? (·.name == name) with
  | some s => if level = .top || s.isGlobal then some (.setting s) else none
  | none =>
    if name = "help" then some .help
    else if name = "version" && level = .top then some .version
    else if name = "dry-run" && level = .sweep then some .dryRun
    else none

/-- What a letter stands for at a level. -/
def Level.letter? (level : Level) (c : Char) : Option Stop :=
  if c = 'h' then some .help
  else if c = 'V' && level = .top then some .version
  else none

/-! ## One level -/

/-- What has been read at a level. -/
structure Given where
  settings : List (Setting × String) := []
  dryRun : Bool := false
  issue? : Option IssueRef := none
  /-- The last value that has not been looked into: that of a setting, or else the item. -/
  pending? : Option (Option Setting × String) := none
deriving DecidableEq, Repr

namespace Given

/-- Takes the value of a setting. -/
def take (g : Given) (s : Setting) (value : String) : Except Stop Given :=
  if (g.settings.lookup s).isSome then .error (.usage (.repeated s.name))
  else if s.accepts value then .ok { g with settings := g.settings ++ [(s, value)] }
  else .error (.usage (.invalidValue s value))

/-- Looks into the value that is pending. -/
def settle (g : Given) : Except Stop Given :=
  match g.pending? with
  | none => .ok g
  | some (some s, value) => { g with pending? := none }.take s value
  | some (none, text) =>
    match IssueRef.parse text with
    | .ok issue => .ok { g with issue? := some issue, pending? := none }
    | .error cause => .error (.usage (.invalidReference cause))

/-- Reads a plain argument behind a command: the item, where there is none yet. -/
def plain (g : Given) (level : Level) (text : String) : Except Stop Given := do
  let g ← g.settle
  if level = .manage && g.issue?.isNone then return { g with pending? := some (none, text) }
  else .error (.usage (.unknownArgument text))

/-- Reads a name behind two hyphens that is no setting, or a setting with its value attached. -/
def switch (g : Given) : Switch → Option String → Except Stop Given
  | .setting s, some value => do (← g.settle).take s value
  | .setting s, none => .error (.usage (.missingValue s))
  | .dryRun, none => do
    let g ← g.settle
    if g.dryRun then .error (.usage (.repeated "dry-run")) else return { g with dryRun := true }
  | .help, none => do
    let _ ← g.settle
    .error .help
  | .version, none => do
    let _ ← g.settle
    .error .version
  | .dryRun, some _ => .error (.usage (.surplusValue "dry-run"))
  | .help, some _ => .error (.usage (.surplusValue "help"))
  | .version, some _ => .error (.usage (.surplusValue "version"))

/-- Reads a letter behind a hyphen. -/
def letter (g : Given) (level : Level) (c : Char) (text : String) : Except Stop Given :=
  match level.letter? c with
  | none => .error (.usage (.unknownArgument text))
  | some stop => do
    let _ ← g.settle
    .error stop

end Given

/-- The plain text that may be the value of a setting, if an argument is plain. -/
def plainText? (argument : String) : Option String :=
  match Argument.of argument with
  | .plain text => some text
  | _ => none

/-- What is done with an argument. -/
inductive Reading
  | proceed (g : Given)
  /-- The next argument must be the value of the setting. -/
  | expect (g : Given) (s : Setting)
  /-- All that follows is plain. -/
  | plainOnly (g : Given)
  /-- A plain argument. -/
  | word (text : String)

/-- Reads an argument at a level, up to what is plain. -/
def Given.read (g : Given) (level : Level) (argument : String) : Except Stop Reading :=
  match Argument.of argument with
  | .hyphens => .ok (.plainOnly g)
  | .plain text => .ok (.word text)
  | .short c => (g.letter level c argument).map .proceed
  | .long name value? =>
    match level.switch? name, value? with
    | none, _ => .error (.usage (.unknownArgument argument))
    | some (.setting s), none => g.settle.map fun g => .expect g s
    | some switch, value? => (g.switch switch value?).map .proceed

/-- Reads the arguments behind a command. -/
def readBehind (level : Level) : Bool → Given → List String → Except Stop Given
  | _, g, [] => g.settle
  | true, g, argument :: rest => do readBehind level true (← g.plain level argument) rest
  | false, g, argument :: rest => do
    match ← g.read level argument with
    | .proceed g => readBehind level false g rest
    | .plainOnly g => readBehind level true g rest
    | .word text => readBehind level false (← g.plain level text) rest
    | .expect g s =>
      match rest with
      | [] => .error (.usage (.missingValue s))
      | next :: rest =>
        match plainText? next with
        | none => .error (.usage (.missingValue s))
        | some value => readBehind level false { g with pending? := some (some s, value) } rest

/-- Reads the arguments behind the request for help: at most the name of a command. -/
def readHelp : List String → Stop
  | [] => .help
  | [name] =>
    if name = "sweep" || name = "manage" || name = "help" then .help
    else .usage (.unknownArgument name)
  | _ :: argument :: _ => .usage (.unknownArgument argument)

/-- The level of a command. -/
def level? (name : String) : Option Level :=
  if name = "sweep" then some .sweep
  else if name = "manage" then some .manage
  else none

/-- Reads all arguments: what stands before the command, the command, and what stands behind it. -/
def readTop : Given → List String → Except Stop (Given × Level × Given)
  | g, [] => do
    let _ ← g.settle
    .error (.usage .missingCommand)
  | g, argument :: rest => do
    match ← g.read .top argument with
    | .proceed g => readTop g rest
    | .plainOnly _ => .error (.usage .missingCommand)
    | .word text =>
      match level? text with
      | some level => do
        let behind ← readBehind level false {} rest
        return (← g.settle, level, behind)
      | none =>
        if text = "help" then .error (readHelp rest)
        else .error (.usage (.unknownArgument text))
    | .expect g s =>
      match rest with
      | [] => .error (.usage (.missingValue s))
      | next :: rest =>
        match plainText? next with
        | none => .error (.usage (.missingValue s))
        | some value => readTop { g with pending? := some (some s, value) } rest

/-! ## Settings -/

/-- Takes the settings that are not given from the environment, if they may stand at the level. -/
def Given.fillIn (environment : String → Option String) (level : Level) :
    Given → List Setting → Except Stop Given
  | g, [] => .ok g
  | g, s :: rest =>
    if level ≠ .top && !s.isGlobal || (g.settings.lookup s).isSome then
      fillIn environment level g rest
    else
      match s.envName?.bind environment with
      | none => fillIn environment level g rest
      | some value => do fillIn environment level (← g.take s value) rest

/-- The value of a setting: what is given behind the command, then what is given before it, then
what the environment says. -/
def settingOf (before behind : Given) (environment : String → Option String) (s : Setting) :
    Option String :=
  ((behind.settings.lookup s).or (before.settings.lookup s)).or (s.envName?.bind environment)

/-- The command that a level with what is given there stands for. -/
def commandOf (level : Level) (g : Given) : Except Stop Command :=
  match level, g.issue? with
  | .top, _ => .error (.usage .missingCommand)
  | .sweep, _ => .ok (.sweep g.dryRun)
  | .manage, some issue => .ok (.manage issue)
  | .manage, none => .error (.usage .missingReference)

/-- Reads the command line. -/
def read (arguments : List String) (environment : String → Option String) :
    Except Stop Invocation := do
  let (before, level, behind) ← readTop {} arguments
  let _ ← behind.fillIn environment level Setting.all
  let _ ← before.fillIn environment .top Setting.all
  let command ← commandOf level behind
  let value := settingOf before behind environment
  match value .gitHubToken with
  | none => .error (.usage .missingToken)
  | some gitHubToken =>
    return {
      configPath := (value .config).getD "lifecycle.toml"
      logFormat := (value .logFormat).getD "pretty"
      gitHubToken
      zenHubToken? := value .zenHubToken
      command }

end CommandLine

end Upkeep
