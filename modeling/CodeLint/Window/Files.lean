import CodeLint.Source.Input
import CodeLint.Text.Utf8

/-!
Files that can be opened. What a path leads to is the file system's to say: the bytes that are read
there, or the text of the error that the attempt ends in.
-/

namespace CodeLint.Window

open CodeLint.Text

abbrev FileSystem := String → Except String (List UInt8)

def emptyDisk : FileSystem := fun path =>
  .error ("[Errno 2] No such file or directory: " ++ quoted path)

def readFile (fs : FileSystem) (path : String) : Except String String := do
  let bs ← fs path
  let cs ← (decodeUtf8 bs).mapError Utf8Fault.message
  return String.ofList (Source.unifyLineEnds cs)

end CodeLint.Window
