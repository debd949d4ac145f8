/-!
# Contents of files
-/

namespace SceneMarkup

/-- Why a file cannot be read as text, or cannot be written. -/
inductive FileFault where
  | missing
  | notText
  | isDirectory
  | notDirectory
  | nameTooLong
  /-- any other fault, in the words of the system -/
  | other (message : String)
  deriving DecidableEq, Repr

def FileFault.message : FileFault → String
  | missing => "No such file or directory (os error 2)"
  | notText => "stream did not contain valid UTF-8"
  | isDirectory => "Is a directory (os error 21)"
  | notDirectory => "Not a directory (os error 20)"
  | nameTooLong => "File name too long (os error 36)"
  | other message => message

def textOfBytes (bytes : ByteArray) : Except FileFault String :=
  match String.fromUTF8? bytes with
  | some text => .ok text
  | none => .error .notText

/-- What is known of a file: its bytes, or why it cannot be opened. -/
abbrev FileContent := Except FileFault ByteArray

def FileContent.text (content : FileContent) : Except FileFault String :=
  content.bind textOfBytes

end SceneMarkup
