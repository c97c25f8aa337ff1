/-!
# Faults of files

What may keep a file from being read or written.
-/

namespace EventProbe

/-- A fault of the file system, or of whatever takes its place. -/
inductive IoFault where
  | notFound
  | isDirectory
  /-- The bytes of a text file are not UTF-8. -/
  | notText
  /-- Any other, with its text. -/
  | other (text : String)
  deriving DecidableEq, Repr

def IoFault.message : IoFault → String
  | .notFound => "No such file or directory (os error 2)"
  | .isDirectory => "Is a directory (os error 21)"
  | .notText => "stream did not contain valid UTF-8"
  | .other text => text

end EventProbe
