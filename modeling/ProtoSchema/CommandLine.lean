import ProtoSchema.Path

/-!
# Command lines

The arguments of a run: flags of the program, a command and the options of the
command. Arguments are taken from left to right, and the first that does not belong
where it stands makes the whole line invalid. An option has its value attached or in
the next argument, which then must not look like an option itself.
-/

namespace ProtoSchema

/-- How lint findings are reported. -/
inductive ReportFormat where
  | lines
  | json
deriving Repr, DecidableEq

/-- What the program is asked to do. -/
inductive Command where
  | generate (inputs : List Path) (output : Option Path) (filter : Option String)
      (settings : Option Path)
  | inspect (inputs : List Path) (settings : Option Path)
  | lint (inputs : List Path) (format : ReportFormat) (settings : Option Path)
deriving Repr, DecidableEq

/-- What a command line means. -/
inductive Invocation where
  | run (command : Command)
  | version
  | help
  | misuse
deriving Repr, DecidableEq

namespace CommandLine

/-- The commands. -/
inductive Verb where
  | generate
  | inspect
  | lint
deriving Repr, DecidableEq

/-- The options that take a value. -/
inductive Setting where
  | package
  | output
  | filter
  | config
  | format
deriving Repr, DecidableEq

/-- Why reading ends before the end of the line. -/
inductive Stop where
  | version
  | help
  | misuse
deriving Repr, DecidableEq

/-- The command of a name. -/
def Verb.ofName? (name : String) : Option Verb :=
  [("generate", Verb.generate), ("inspect", .inspect), ("lint", .lint)].lookup name

/-- The options of a command. -/
def Verb.settings : Verb → List Setting
  | .generate => [.package, .output, .filter, .config]
  | .inspect => [.package, .config]
  | .lint => [.package, .format, .config]

namespace Setting

/-- The name of an option. -/
def name : Setting → String
  | .package => "package"
  | .output => "output"
  | .filter => "filter"
  | .config => "config"
  | .format => "format"

/-- The letter of an option that has one. -/
def letter? : Setting → Option Char
  | .package => some 'p'
  | .output => some 'f'
  | _ => none

/-- Whether the value of an option is a path, which cannot be empty. -/
def isPath : Setting → Bool
  | .package | .output | .config => true
  | .filter | .format => false

/-- Whether an option may be given more than once. -/
def isRepeatable (setting : Setting) : Bool :=
  setting == .package

end Setting

/-- What has been given so far. The values are held in reverse. -/
structure Given where
  isVerbose : Bool
  values : List (Setting × String)
deriving Repr, DecidableEq

namespace Given

/-- Nothing has been given. -/
def empty : Given := ⟨false, []⟩

/-- Note the flag for more output, which may be given once. -/
def setVerbose (given : Given) : Except Stop Given :=
  if given.isVerbose then .error .misuse else .ok { given with isVerbose := true }

/-- Note the value of an option. -/
def set (given : Given) (setting : Setting) (value : String) : Except Stop Given :=
  if setting.isPath && value == "" then .error .misuse
  else if !setting.isRepeatable && given.values.any (·.1 == setting) then .error .misuse
  else .ok { given with values := (setting, value) :: given.values }

/-- The value of an option that is given at most once. -/
def value? (given : Given) (setting : Setting) : Option String :=
  given.values.lookup setting

/-- The inputs in the order in which they were given. -/
def inputs (given : Given) : List Path :=
  (given.values.reverse.filter (·.1 == .package)).map fun (_, text) => ⟨text⟩

/-- The format of a report. A format that is not known is the usual one. -/
def format (given : Given) : ReportFormat :=
  if given.value? .format == some "json" then .json else .lines

/-- The command that is meant. -/
def command (given : Given) : Verb → Command
  | .generate => .generate given.inputs ((given.value? .output).map Path.mk)
      (given.value? .filter) ((given.value? .config).map Path.mk)
  | .inspect => .inspect given.inputs ((given.value? .config).map Path.mk)
  | .lint => .lint given.inputs given.format ((given.value? .config).map Path.mk)

end Given

/-- Whether an argument looks like an option. A single dash does not. -/
def looksLikeOption (arg : String) : Bool :=
  arg.toList.head? == some '-' && arg != "-"

/-- The name and the attached value of a long option, after its dashes. -/
def splitLong (text : List Char) : String × Option String :=
  match text.span (· != '=') with
  | (name, []) => (String.ofList name, none)
  | (name, _ :: value) => (String.ofList name, some (String.ofList value))

/-- Read a long option, after its dashes. The result tells whether a value is due. -/
def readLong (settings : List Setting) (given : Given) (text : List Char) :
    Except Stop (Given × Option Setting) :=
  let (name, value) := splitLong text
  match settings.find? (·.name == name), value with
  | some setting, some value => do return (← given.set setting value, none)
  | some setting, none => .ok (given, some setting)
  | none, some _ => .error .misuse
  | none, none =>
    if name = "verbose" then do return (← given.setVerbose, none)
    else if name = "help" then .error .help
    else .error .misuse

/-- The value that is attached to a letter. An equals sign in front is not part of it. -/
def attachedValue : List Char → String
  | '=' :: value => String.ofList value
  | value => String.ofList value

/-- Read letters after a dash. The result tells whether a value is due. -/
def readLetters (settings : List Setting) (given : Given) :
    List Char → Except Stop (Given × Option Setting)
  | [] => .ok (given, none)
  | letter :: rest =>
    match settings.find? (·.letter? == some letter) with
    | some setting =>
      if rest.isEmpty then .ok (given, some setting)
      else do return (← given.set setting (attachedValue rest), none)
    | none =>
      if letter = 'v' then do readLetters settings (← given.setVerbose) rest
      else if letter = 'h' then .error .help
      else .error .misuse

/-- Read the options of a command. `due` is the option whose value comes next. -/
def readOptions (settings : List Setting) (given : Given) (due : Option Setting) :
    List String → Except Stop Given
  | [] => if due.isSome then .error .misuse else .ok given
  | arg :: rest =>
    match due with
    | some setting =>
      if looksLikeOption arg then .error .misuse
      else do readOptions settings (← given.set setting arg) none rest
    | none =>
      match arg.toList with
      | ['-', '-'] => if rest.isEmpty then .ok given else .error .misuse
      | '-' :: '-' :: text => do
        let (given, due) ← readLong settings given text
        readOptions settings given due rest
      | '-' :: letter :: letters => do
        let (given, due) ← readLetters settings given (letter :: letters)
        readOptions settings given due rest
      | _ => .error .misuse

/-- The flags that a program takes before its command: the letters of an argument, or
the one that a name stands for. -/
def flagsOf? (arg : String) : Option (List Char) :=
  if arg = "--verbose" then some ['v']
  else if arg = "--version" then some ['V']
  else if arg = "--help" then some ['h']
  else match arg.toList with
    | '-' :: letter :: letters => if letter = '-' then none else some (letter :: letters)
    | _ => none

/-- Read flags before the command. -/
def readFlags (isVerbose : Bool) : List Char → Except Stop Bool
  | [] => .ok isVerbose
  | 'v' :: rest => if isVerbose then .error .misuse else readFlags true rest
  | 'V' :: _ => .error .version
  | 'h' :: _ => .error .help
  | _ :: _ => .error .misuse

/-- Read a command line. -/
def readLine (isVerbose : Bool) : List String → Except Stop Command
  | [] => .error .misuse
  | arg :: rest =>
    match Verb.ofName? arg with
    | some verb => do
      let given ← readOptions verb.settings .empty none rest
      return given.command verb
    | none =>
      if arg = "help" then
        match rest with
        | [] => .error .help
        | [name] => .error (if (Verb.ofName? name).isSome then .help else .misuse)
        | _ => .error .misuse
      else
        match flagsOf? arg with
        | some flags => do readLine (← readFlags isVerbose flags) rest
        | none => .error .misuse

end CommandLine

/-- What a list of arguments asks for. -/
def Invocation.ofArguments (args : List String) : Invocation :=
  match CommandLine.readLine false args with
  | .ok command => .run command
  | .error .version => .version
  | .error .help => .help
  | .error .misuse => .misuse

end ProtoSchema
