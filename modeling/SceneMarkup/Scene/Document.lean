import SceneMarkup.Json.Reading
import SceneMarkup.Scene.Decode
import SceneMarkup.Scene.File

/-!
# Scene documents

A scene is read from JSON text. Only a document that is no JSON at all is an error.
-/

namespace SceneMarkup

inductive SceneError where
  | invalidJson (e : Json.Error)
  | unreadable (fault : FileFault)
  deriving DecidableEq, Repr

def SceneError.message : SceneError → String
  | invalidJson e =>
    "Invalid JSON at line " ++ e.position.line.repr ++ ", column " ++ e.position.column.repr ++ ": " ++
      e.message
  | unreadable fault => "I/O error while reading scene: " ++ fault.message

def Node.ofText (text : String) : Except SceneError Node :=
  match Json.Value.ofText text with
  | .ok v => .ok (.ofValue v)
  | .error e => .error (.invalidJson e)

def Node.ofFile (content : FileContent) : Except SceneError Node :=
  match content.text with
  | .ok contents => Node.ofText contents
  | .error fault => .error (.unreadable fault)

end SceneMarkup
