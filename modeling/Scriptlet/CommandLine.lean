import Scriptlet.EngineRegistry
import Scriptlet.Json.Reader
import Scriptlet.Numeral.Scaled

/-!
# The command line

`scripteval` evaluates one template and prints its value. `Request.ofArguments` reads the arguments:
one template, three options with a value and one without. An argument that starts with a minus sign
is an option until `--` has been read, and the lone minus sign never is one. Asking for help or the
version ends the reading.

`run` takes a request to its exit. The bindings are read first, then the components, and then the
engine is looked up; the first of these that fails is reported with code 1. Templates never fail
the command: without a value it prints null.
-/

set_option autoImplicit false

namespace Scriptlet.CommandLine

/-- An option with a value. -/
inductive ValueOption where
  | engine
  | bindings
  | component
  deriving DecidableEq

/-- The name of an option. -/
def ValueOption.name : ValueOption → String
  | engine => "engine"
  | bindings => "bindings"
  | component => "component"

/-- What is wrong with the arguments. -/
inductive UsageFault where
  | templateMissing
  | valueMissing (option : ValueOption)
  | valueUnexpected (argument : String)
  | repeated (option : String)
  | unexpected (argument : String)

/-- What is wrong in words. -/
def UsageFault.message : UsageFault → String
  | templateMissing => "a template is required"
  | valueMissing option => s!"a value is required for '--{option.name}'"
  | valueUnexpected argument => s!"'{argument}' takes no value"
  | repeated option => s!"'--{option}' cannot be used more than once"
  | unexpected argument => s!"unexpected argument '{argument}'"

/-- What has been read of a request. -/
structure Request where
  template : Option String
  engine : Option String
  bindings : Option String
  components : List String
  verbose : Bool

/-- What the arguments ask for. -/
inductive Command where
  | help
  | version
  | evaluate (request : Request)

/-! ## Reading the arguments -/

namespace Request

/-- The request of no arguments. -/
def empty : Request := ⟨none, none, none, [], false⟩

/-- The request with the value of an option; only components may be given again. -/
def setOption (request : Request) (option : ValueOption) (value : String) :
    Except UsageFault Request :=
  match option with
  | .engine =>
    if request.engine.isSome then .error (.repeated option.name)
    else .ok { request with engine := some value }
  | .bindings =>
    if request.bindings.isSome then .error (.repeated option.name)
    else .ok { request with bindings := some value }
  | .component => .ok { request with components := request.components ++ [value] }

/-- The request with its template. -/
def setTemplate (request : Request) (argument : String) : Except UsageFault Request :=
  match request.template with
  | some _ => .error (.unexpected argument)
  | none => .ok { request with template := some argument }

/-- The request to log every evaluation. -/
def setVerbose (request : Request) : Except UsageFault Request :=
  if request.verbose then .error (.repeated "verbose") else .ok { request with verbose := true }

/-- The request that is complete. -/
def finish (request : Request) : Except UsageFault Command :=
  match request.template with
  | some _ => .ok (.evaluate request)
  | none => .error .templateMissing

end Request

/-- An argument by its form. -/
inductive Argument where
  | plain
  | escape
  | short (letters : List Char)
  | long (name : List Char) (value : Option (List Char))

/-- The two parts of a text around its first equals sign. -/
def splitAtEquals? : List Char → Option (List Char × List Char)
  | [] => none
  | '=' :: rest => some ([], rest)
  | c :: rest => (splitAtEquals? rest).map fun parts => (c :: parts.1, parts.2)

/-- The form of an argument. -/
def Argument.ofChars : List Char → Argument
  | ['-'] => plain
  | ['-', '-'] => escape
  | '-' :: '-' :: text =>
    match splitAtEquals? text with
    | some (name, value) => long name (some value)
    | none => long text none
  | '-' :: letters => short letters
  | _ => plain

/-- The option with a value that has a name. -/
def ValueOption.ofName? (name : List Char) : Option ValueOption :=
  [engine, bindings, component].find? fun option => option.name.toList = name

/-- Arguments after `--`, which are all plain. -/
def readPlain (request : Request) : List String → Except UsageFault Command
  | [] => request.finish
  | argument :: rest => do
    let request ← request.setTemplate argument
    readPlain request rest

/-- What arguments add to a request. -/
def read (request : Request) : List String → Except UsageFault Command
  | [] => request.finish
  | argument :: rest =>
    match Argument.ofChars argument.toList with
    | .plain => do
      let request ← request.setTemplate argument
      read request rest
    | .escape => readPlain request rest
    | .short letters =>
      match letters with
      | 'h' :: _ => .ok .help
      | 'V' :: _ => .ok .version
      | _ => .error (.unexpected argument)
    | .long name value =>
      match ValueOption.ofName? name with
      | some option =>
        match value with
        | some value => do
          let request ← request.setOption option (String.ofList value)
          read request rest
        | none =>
          match rest with
          | [] => .error (.valueMissing option)
          | value :: rest =>
            match Argument.ofChars value.toList with
            | .plain => do
              let request ← request.setOption option value
              read request rest
            | _ => .error (.valueMissing option)
      | none =>
        match String.ofList name, value with
        | "help", none => .ok .help
        | "version", none => .ok .version
        | "verbose", none => do
          let request ← request.setVerbose
          read request rest
        | "help", some _ => .error (.valueUnexpected argument)
        | "version", some _ => .error (.valueUnexpected argument)
        | "verbose", some _ => .error (.valueUnexpected argument)
        | _, _ => .error (.unexpected argument)

/-- What the arguments of a command ask for. -/
def Command.ofArguments (arguments : List String) : Except UsageFault Command :=
  read .empty arguments

/-! ## Exits -/

/-- Why a request fails. -/
inductive RequestFault where
  | malformedBindings (reason : Json.Malformed)
  | bindingsNotObject
  | component (specification : String)
  | engine (fault : EngineFault)

/-- The reason in words. -/
def RequestFault.message : RequestFault → String
  | malformedBindings reason => s!"Invalid bindings JSON: {reason.message}"
  | bindingsNotObject => "Invalid bindings JSON: an object is expected"
  | component specification => s!"Invalid component `{specification}`: expected NAME=JSON"
  | engine fault => fault.message

/-- JSON in arguments is read with doubles made by scaling, and with at most 127 arrays and objects in
one another. -/
def jsonRules : Json.Rules where
  depth := 127
  double? := Numeral.scaled?

/-- The bindings that a text spells. -/
def readBindings (text : String) : Except RequestFault Bindings :=
  match Json.parse jsonRules text with
  | .ok (.object members) => .ok (members.map fun (name, data) => (name, Value.json data))
  | .ok _ => .error .bindingsNotObject
  | .error reason => .error (.malformedBindings reason)

/-- The value of a component: JSON, or else the text itself. -/
def componentValue (text : List Char) : Value :=
  match Json.parse jsonRules (String.ofList text) with
  | .ok data => .json data
  | .error _ => .ofChars text

/-- The container with the component that a specification gives. -/
def addComponent (container : Container) (specification : String) :
    Except RequestFault Container :=
  match splitAtEquals? specification.toList with
  | some (name, text) => .ok (container.add (String.ofList name) (componentValue text))
  | none => .error (.component specification)

/-- The value that a request asks for, and the events logged on the way. -/
def evaluate (request : Request) : Except RequestFault (List Event × Json) := do
  let bindings ← readBindings (request.bindings.getD "\x7b\x7d")
  let container ← request.components.foldlM addComponent (Container.empty 0)
  let registry := EngineRegistry.defaults 0 container Hosts.none
  let report := registry.evaluate (request.engine.getD "ognl") request.template (some bindings)
  match report.answer with
  | .ok value => return (report.events, (value.getD .null).toJson)
  | .error fault => .error (.engine fault)

/-- How a command ends: its code, and what it writes. -/
structure Exit where
  code : UInt32
  output : String
  errors : String

/-- The text of the version. -/
def versionText : String := "script-engine 0.1.0\n"

/-- How the command is used. -/
def usageText : String := "Usage: scripteval [OPTIONS] <TEMPLATE>\n"

/-- The text of the help. -/
def helpText : String :=
  "Evaluate one template with a named script engine\n\n" ++ usageText ++
  "\nArguments:\n" ++
  "  <TEMPLATE>  Expression template, e.g. \"price * quantity\"\n" ++
  "\nOptions:\n" ++
  "      --engine <ENGINE>        Engine to evaluate with [default: ognl]\n" ++
  "      --bindings <BINDINGS>    Bindings as a JSON object [default: \x7b\x7d]\n" ++
  "      --component <NAME=JSON>  Container component as NAME=JSON (repeatable); non-JSON values are\n" ++
  "                               taken as strings\n" ++
  "      --verbose                Log every evaluation, not only failures\n" ++
  "  -h, --help                   Print help\n" ++
  "  -V, --version                Print version\n"

/-- Whether an event is written to the log of a request. -/
def Request.logs (request : Request) (event : Event) : Bool :=
  match event.level with
  | .warn => true
  | .debug => request.verbose
  | .trace => false

/-- A line of the log. -/
def logLine (event : Event) : String :=
  let field := fun (name, text) => s!" {name}={Text.literal text}"
  event.level.name ++ " " ++ event.message ++ String.join (event.fields.map field) ++ "\n"

/-- How a request ends. -/
def Request.run (request : Request) : Exit :=
  match evaluate request with
  | .ok (events, data) =>
    ⟨0, data.pretty ++ "\n", String.join ((events.filter request.logs).map logLine)⟩
  | .error fault => ⟨1, "", fault.message ++ "\n"⟩

/-- How the command ends with some arguments. -/
def run (arguments : List String) : Exit :=
  match Command.ofArguments arguments with
  | .ok .help => ⟨0, helpText, ""⟩
  | .ok .version => ⟨0, versionText, ""⟩
  | .ok (.evaluate request) => request.run
  | .error fault => ⟨2, "", "error: " ++ fault.message ++ "\n\n" ++ usageText⟩

end Scriptlet.CommandLine
