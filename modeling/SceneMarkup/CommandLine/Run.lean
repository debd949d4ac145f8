import SceneMarkup.CommandLine.Arguments
import SceneMarkup.CommandLine.FileSystem
import SceneMarkup.Registry.Document
import SceneMarkup.Scene.Document

/-!
# Runs of the command line

A run reads its input, then the registry file, then registers the components named by flags, then
decodes the scene, and then writes the markup; the first of these steps that fails is reported, and
what follows it is not done. All that a run does outside of itself it does by the operations of a
`System`, of which a `World` is one that is made of data. The lines that a run logs are left out.
-/

namespace SceneMarkup.CommandLine

/-! ## Reports -/

/-- A step that failed, and why, each cause behind the one before it. -/
structure Failure where
  context : String
  causes : List String
  deriving DecidableEq, Repr

namespace Failure

/-- A text whose lines after the first one are indented. -/
def indented (margin text : String) : String := ("\n" ++ margin).intercalate (text.splitOn "\n")

def numbered : Nat → List String → String
  | _, [] => ""
  | n, cause :: rest =>
    let number := n.repr
    "\n" ++ String.ofList (List.replicate (5 - number.length) ' ') ++ number ++ ": " ++
      indented "       " cause ++ numbered (n + 1) rest

/-- The causes stand one below the other; one that stands alone has no number. -/
def report (f : Failure) : String :=
  "Error: " ++ f.context ++
    (match f.causes with
      | [] => ""
      | [cause] => "\n\nCaused by:\n    " ++ indented "    " cause
      | causes => "\n\nCaused by:" ++ numbered 0 causes) ++ "\n"

end Failure

def versionLine : String := "figwind 0.1.0\n"

def helpText : String :=
  "Usage: figwind [OPTIONS] [INPUT]\n\n" ++
    "Reads a design scene (a JSON file, or standard input if absent or `-`) and writes markup.\n\n" ++
    "  -o, --output <FILE>      write to a file instead of standard output\n" ++
    "      --jsx                write JSX instead of HTML\n" ++
    "      --instances <MODE>   registry (the default), placeholder or traverse\n" ++
    "      --max-depth <N>      replace deeper nodes by a warning\n" ++
    "      --pretty             indent nested elements, one per line\n" ++
    "      --registry <FILE>    read registered components\n" ++
    "      --component <NAME>   register a component, any number of times\n" ++
    "  -h, --help               print this text\n" ++
    "  -V, --version            print the version\n"

/-! ## What is computed -/

namespace Invocation

/-- Whether a path is a dash, after which it may stay where it is. -/
def isDash (path : String) : Bool :=
  match pathNames path with
  | "-" :: rest => rest.all fun name => name = "" || name = "."
  | _ => false

/-- The input file; standard input if there is none or it is a dash. -/
def inputPath? (i : Invocation) : Option String := i.input.filter fun path => !isDash path

/-- The text of what was found as the input. -/
def inputText (i : Invocation) (content : FileContent) : Except Failure String :=
  match content.text with
  | .ok text => .ok text
  | .error fault => .error ⟨"Failed to read " ++ i.inputPath?.getD "stdin", [fault.message]⟩

/-- A registry error and the errors behind it. -/
def registryCauses (e : RegistryError) : List String :=
  match e with
  | .invalidDocument inner => [e.message, inner.message]
  | .unreadable fault => [e.message, fault.message]
  | e => [e.message]

/-- The registry of what was found at a path. -/
def registryOf (path : String) (content : FileContent) : Except Failure Registry :=
  match Registry.ofFile content with
  | .ok r => .ok r
  | .error e => .error ⟨"Failed to load registry " ++ path, registryCauses e⟩

/-- Registers a component of a flag; it has no props. -/
def addComponent (r : Registry) (name : String) : Except Failure Registry :=
  match r.tryRegister ⟨name, []⟩ with
  | .ok r => .ok r
  | .error e => .error ⟨"Invalid --component " ++ name, registryCauses e⟩

def readScene (text : String) : Except Failure Node :=
  match Node.ofText text with
  | .ok node => .ok node
  | .error e => .error ⟨"Invalid JSON", [e.message]⟩

/-- The markup of a scene with a registry. -/
def shown (i : Invocation) (registry : Registry) (node : Node) : String :=
  let text := (Emitter.mk registry .standard i.options).emit node none
  if i.pretty then Markup.indent text else text

/-- The markup of an input text, with the registry of the file. -/
def convert (i : Invocation) (text : String) (loaded : Registry) : Except Failure String := do
  let registry ← i.components.foldlM addComponent loaded
  return i.shown registry (← readScene text)

/-- A write to a place that failed. -/
def writeFailure (place : String) (fault : FileFault) : Failure :=
  ⟨"Failed to write " ++ place, [fault.message]⟩

end Invocation

/-! ## What is done -/

class System (m : Type → Type) where
  readFile (path : String) : m FileContent
  readInput : m FileContent
  writeFile (path text : String) : m (Except FileFault Unit)
  print (text : String) : m (Except FileFault Unit)
  /-- Writes to standard error. -/
  report (text : String) : m Unit

section Operations

variable {m : Type → Type} [Monad m] [System m]

namespace Invocation

def readInput (i : Invocation) : ExceptT Failure m String := do
  let content ← match i.inputPath? with
    | some path => System.readFile (m := m) path
    | none => System.readInput (m := m)
  i.inputText content

def loadRegistry (i : Invocation) : ExceptT Failure m Registry :=
  match i.registry with
  | none => return .empty
  | some path => do registryOf path (← System.readFile (m := m) path)

/-- Writes a text to the output file, or to standard output. -/
def deliver (i : Invocation) (text : String) : ExceptT Failure m Unit :=
  match i.output with
  | none => do (← System.print (m := m) text).mapError (writeFailure "stdout")
  | some path => do (← System.writeFile (m := m) path text).mapError (writeFailure path)

def perform (i : Invocation) : ExceptT Failure m Unit := do
  let text ← i.readInput
  let loaded ← i.loadRegistry
  let markup ← i.convert text loaded
  i.deliver (markup ++ "\n")

end Invocation

/-- Answers a request that leads to no run, with its exit code. -/
def Stop.answer : Stop → m Nat
  | .version => do
    let _ ← System.print versionLine
    return 0
  | .help => do
    let _ ← System.print helpText
    return 0
  | .usage message => do
    System.report ("error: " ++ message ++ "\n")
    return 2

/-- Runs the command line, and answers its exit code. -/
def perform (args : List String) : m Nat := do
  match Invocation.ofArguments args with
  | .error stop => stop.answer
  | .ok i =>
    match ← i.perform.run with
    | .ok () => return 0
    | .error f =>
      System.report f.report
      return 1

end Operations

/-! ## Worlds -/

/-- What is around a run: what is left of standard input, what was written to standard output and to
standard error, and the files. -/
structure World where
  stdin : ByteArray
  stdout : String
  stderr : String
  files : FileSystem

namespace World

/-- Leaves a text to what a special file does with it. -/
def sink (w : World) (text : String) : Sink → Except FileFault World
  | .nowhere => .ok w
  | .standardOutput => .ok { w with stdout := w.stdout ++ text }
  | .standardError => .ok { w with stderr := w.stderr ++ text }
  | .refused fault => .error fault

/-- Writes the file that a path leads to. -/
def write (w : World) (path text : String) : Except FileFault World := do
  let place ← w.files.target path
  match w.files.specialAt? place with
  | some special => w.sink text special.sink
  | none => return { w with files := w.files.put place text.toUTF8 }

end World

instance : System (StateM World) where
  readFile path w := (w.files.read path, w)
  readInput w := (.ok w.stdin, { w with stdin := .empty })
  writeFile path text w :=
    match w.write path text with
    | .ok after => (.ok (), after)
    | .error fault => (.error fault, w)
  print text w := (.ok (), { w with stdout := w.stdout ++ text })
  report text w := ((), { w with stderr := w.stderr ++ text })

/-- What a run leaves behind; the lines that it logs are no part of `stderr`. -/
structure Outcome where
  exit : Nat
  stdout : String
  stderr : String
  files : FileSystem

def Outcome.directory (o : Outcome) : List File := o.files.workingFiles

/-- Runs the command line in a file system. -/
def run (args : List String) (stdin : ByteArray) (fs : FileSystem) : Outcome :=
  let (exit, w) := (perform args : StateM World Nat).run ⟨stdin, "", "", fs⟩
  ⟨exit, w.stdout, w.stderr, w.files⟩

end SceneMarkup.CommandLine
