import SceneMarkup.Scene.File

/-!
# File systems

The files of a system, each at the names that lead to it from the root, and the directory that a run
is started in. A path is followed name by name (`FileSystem.follow`), from the root if it begins with
a separator, and every name but the last must lead to a directory. There are no links.
-/

namespace SceneMarkup.CommandLine

structure File where
  path : List String
  content : ByteArray

/-- What becomes of a text that is written to a special file. -/
inductive Sink where
  | nowhere
  | standardOutput
  | standardError
  | refused (fault : FileFault)

/-- A file that does not hold what is written to it: a device, or a file that must not be changed. -/
structure SpecialFile where
  path : List String
  found : FileContent
  sink : Sink

structure FileSystem where
  /-- the directory that a run is started in -/
  working : List String
  /-- directories that may hold no file -/
  directories : List (List String)
  files : List File
  specials : List SpecialFile

/-- The names of a path; an empty one stands for the place itself. -/
def pathNames (path : String) : List String := (path.toList.splitOn '/').map String.ofList

def isTooLong (name : String) : Bool := 255 < name.utf8ByteSize

namespace FileSystem

def fileAt? (fs : FileSystem) (place : List String) : Option ByteArray :=
  (fs.files.find? fun f => f.path = place).map (·.content)

def specialAt? (fs : FileSystem) (place : List String) : Option SpecialFile :=
  fs.specials.find? fun f => f.path = place

def places (fs : FileSystem) : List (List String) :=
  fs.files.map (·.path) ++ fs.specials.map (·.path)

/-- A directory is known, or has something below it. -/
def isDirectory (fs : FileSystem) (place : List String) : Bool :=
  (fs.working :: fs.directories).any (place.isPrefixOf ·) ||
    fs.places.any fun path => place.isPrefixOf path && place.length < path.length

/-- Where a path starts; the system takes no path of 4096 bytes or more. -/
def start (fs : FileSystem) (path : String) : Except FileFault (List String) :=
  if path = "" then .error .missing
  else if 4096 ≤ path.utf8ByteSize then .error .nameTooLong
  else .ok (if (pathNames path).head? = some "" then [] else fs.working)

def step (fs : FileSystem) (place : List String) (name : String) : Except FileFault (List String) :=
  if !fs.isDirectory place then .error .notDirectory
  else if name = "" || name = "." then .ok place
  else if name = ".." then .ok place.dropLast
  else if isTooLong name then .error .nameTooLong
  else if fs.places.contains (place ++ [name]) || fs.isDirectory (place ++ [name]) then
    .ok (place ++ [name])
  else .error .missing

/-- Goes from a place by names, one after the other. -/
def follow (fs : FileSystem) (place : List String) (names : List String) :
    Except FileFault (List String) :=
  names.foldlM fs.step place

/-- What is found in the file that a path leads to. -/
def read (fs : FileSystem) (path : String) : FileContent := do
  let place ← fs.follow (← fs.start path) (pathNames path)
  match fs.specialAt? place with
  | some special => special.found
  | none =>
    match fs.fileAt? place with
    | some content => .ok content
    | none => .error .isDirectory

/-- Where a file is written that a path leads to, which need not be there. A path that ends at a
separator, or that goes nowhere by its last name, is that of a directory. -/
def target (fs : FileSystem) (path : String) : Except FileFault (List String) := do
  let start ← fs.start path
  match (pathNames path).reverse.dropWhile (· = "") with
  | [] => .error .isDirectory
  | name :: above =>
    let place ← fs.follow start above.reverse
    if !fs.isDirectory place then .error .notDirectory
    else if (pathNames path).getLast? = some "" || name = "." || name = ".." then
      .error .isDirectory
    else if isTooLong name then .error .nameTooLong
    else if fs.isDirectory (place ++ [name]) then .error .isDirectory
    else .ok (place ++ [name])

def putFile (place : List String) (content : ByteArray) : List File → List File
  | [] => [⟨place, content⟩]
  | f :: rest => if f.path = place then ⟨place, content⟩ :: rest else f :: putFile place content rest

def put (fs : FileSystem) (place : List String) (content : ByteArray) : FileSystem :=
  { fs with files := putFile place content fs.files }

/-- A file of the working directory, at the names that lead to it from there. -/
def file? (fs : FileSystem) (names : List String) : Option ByteArray :=
  fs.fileAt? (fs.working ++ names)

/-- The files of the working directory, at the names that lead to them from there. -/
def workingFiles (fs : FileSystem) : List File :=
  fs.files.filterMap fun f => (fs.working.isPrefixOf? f.path).map fun names => ⟨names, f.content⟩

end FileSystem

/-- A system of files at plain relative paths, with the null device and with standard output and
standard error, which go to files that were empty. -/
def Directory.ofFiles (files : List (String × ByteArray)) : FileSystem where
  working := ["tmp", "run"]
  directories := []
  files := files.map fun (path, content) =>
    ⟨["tmp", "run"] ++ (pathNames path).filter fun name => name != "" && name != ".", content⟩
  specials :=
    [⟨["dev", "null"], .ok .empty, .nowhere⟩, ⟨["dev", "stdout"], .ok .empty, .standardOutput⟩,
      ⟨["dev", "stderr"], .ok .empty, .standardError⟩]

end SceneMarkup.CommandLine
