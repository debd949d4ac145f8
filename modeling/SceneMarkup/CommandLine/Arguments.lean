import SceneMarkup.Emit.Emitter

/-!
# Arguments of the command line

Arguments are taken one after the other, and the first one that cannot be used, or that asks for the
version or for help, settles the run. A valued option may have its value attached; as an argument of
its own a value must not look like an option, and `--` ends all options.
-/

namespace SceneMarkup.CommandLine

structure Invocation where
  input : Option String
  output : Option String
  registry : Option String
  instances : Option InstanceMode
  maxDepth : Option Nat
  jsx : Bool
  pretty : Bool
  components : List String
  deriving DecidableEq, Repr

def Invocation.plain : Invocation := ⟨none, none, none, none, none, false, false, []⟩

def Invocation.options (i : Invocation) : Options where
  flavor := if i.jsx then .jsx else .html
  instances := i.instances.getD Options.standard.instances
  maxDepth := i.maxDepth.getD Options.standard.maxDepth

/-- Why arguments lead to no run. -/
inductive Stop where
  | version
  | help
  | usage (message : String)
  deriving DecidableEq, Repr

inductive Valued where
  | output
  | registry
  | instances
  | maxDepth
  | component
  deriving DecidableEq, Repr

inductive Switch where
  | jsx
  | pretty
  | version
  | help
  deriving DecidableEq, Repr

def Valued.ofName? : String → Option Valued
  | "output" => some output
  | "registry" => some registry
  | "instances" => some instances
  | "max-depth" => some maxDepth
  | "component" => some component
  | _ => none

def Switch.ofName? : String → Option Switch
  | "jsx" => some jsx
  | "pretty" => some pretty
  | "version" => some version
  | "help" => some help
  | _ => none

/-- An unsigned number of 64 bits, with or without a plus sign. -/
def wordOfText? (text : String) : Option Nat :=
  let digits := match text.toList with
    | '+' :: rest => rest
    | chars => chars
  if digits.isEmpty || !digits.all Char.isDigit then none
  else
    let n := Decimal.ofDigits digits
    if n < UInt64.size then some n else none

def instanceModeOfText? : String → Option InstanceMode
  | "registry" => some .registry
  | "placeholder" => some .placeholder
  | "traverse" => some .traverse
  | _ => none

/-- Sets what may be set once. -/
def once {α : Type} (what : String) (old : Option α) (new : α) : Except Stop (Option α) :=
  match old with
  | none => .ok (some new)
  | some _ => .error (.usage (what ++ " cannot be used multiple times"))

def pathOfText (text : String) : Except Stop String :=
  if text = "" then .error (.usage "a path must not be empty") else .ok text

def Valued.set (option : Valued) (value : String) (i : Invocation) : Except Stop Invocation :=
  match option with
  | output => do
    let path ← pathOfText value
    pure { i with output := ← once "--output" i.output path }
  | registry => do
    let path ← pathOfText value
    pure { i with registry := ← once "--registry" i.registry path }
  | instances =>
    match instanceModeOfText? value with
    | some mode => do pure { i with instances := ← once "--instances" i.instances mode }
    | none => .error (.usage ("invalid value for --instances: " ++ value))
  | maxDepth =>
    match wordOfText? value with
    | some n => do pure { i with maxDepth := ← once "--max-depth" i.maxDepth n }
    | none => .error (.usage ("invalid value for --max-depth: " ++ value))
  | component => .ok { i with components := i.components ++ [value] }

def Switch.set (switch : Switch) (i : Invocation) : Except Stop Invocation :=
  match switch with
  | version => .error .version
  | help => .error .help
  | jsx =>
    if i.jsx then .error (.usage "--jsx cannot be used multiple times")
    else .ok { i with jsx := true }
  | pretty =>
    if i.pretty then .error (.usage "--pretty cannot be used multiple times")
    else .ok { i with pretty := true }

/-- Sets the input, at most once. -/
def setInput (value : String) (i : Invocation) : Except Stop Invocation :=
  match i.input with
  | some _ => .error (.usage ("unexpected argument " ++ value))
  | none => do pure { i with input := some (← pathOfText value) }

inductive Argument where
  | endOfOptions
  | positional (value : String)
  | switch (s : Switch)
  | valued (option : Valued) (attached : Option String)
  | unusable

def splitAttached (text : List Char) : String × Option String :=
  (String.ofList (text.takeWhile (· != '=')),
    match text.dropWhile (· != '=') with
    | [] => none
    | _ :: value => some (String.ofList value))

/-- A value attached to a one-letter option, with or without an equals sign. -/
def shortAttached : List Char → Option String
  | [] => none
  | '=' :: value => some (String.ofList value)
  | value => some (String.ofList value)

def Argument.ofText (text : String) : Argument :=
  match text.toList with
  | ['-', '-'] => endOfOptions
  | '-' :: '-' :: rest =>
    let (name, attached) := splitAttached rest
    match Valued.ofName? name, Switch.ofName? name, attached with
    | some option, _, attached => valued option attached
    | none, some s, none => switch s
    | none, _, _ => unusable
  | '-' :: 'o' :: rest => valued .output (shortAttached rest)
  | '-' :: 'V' :: _ => switch .version
  | '-' :: 'h' :: _ => switch .help
  | '-' :: _ :: _ => unusable
  | _ => positional text

/-- Whether an argument may be the value of the option before it. -/
def isValue (text : String) : Bool :=
  match text.toList with
  | '-' :: _ :: _ => false
  | _ => true

def takePositionals (i : Invocation) : List String → Except Stop Invocation
  | [] => .ok i
  | value :: rest => do takePositionals (← setInput value i) rest

def take (i : Invocation) : List String → Except Stop Invocation
  | [] => .ok i
  | arg :: rest =>
    match Argument.ofText arg with
    | .endOfOptions => takePositionals i rest
    | .positional value => do take (← setInput value i) rest
    | .switch s => do take (← s.set i) rest
    | .valued option (some value) => do take (← option.set value i) rest
    | .valued option none =>
      match rest with
      | [] => .error (.usage ("a value is required for " ++ arg))
      | value :: rest =>
        if isValue value then do take (← option.set value i) rest
        else .error (.usage ("a value is required for " ++ arg))
    | .unusable => .error (.usage ("unexpected argument " ++ arg))

/-- What a list of arguments asks for. -/
def Invocation.ofArguments (args : List String) : Except Stop Invocation := take .plain args

end SceneMarkup.CommandLine
