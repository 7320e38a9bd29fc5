/-!
# What the file system refuses

The refusals that reading, writing and making directories can meet.
-/

namespace CommandForge

/-- Why the file system refused an operation. -/
inductive OsError where
  | notFound
  | exists
  | notDirectory
  | isDirectory
  /-- The bytes read are no UTF-8 text. -/
  | notText
  deriving DecidableEq, Repr

/-- The refusal in words. -/
def OsError.message : OsError → String
  | .notFound => "No such file or directory (os error 2)"
  | .exists => "File exists (os error 17)"
  | .notDirectory => "Not a directory (os error 20)"
  | .isDirectory => "Is a directory (os error 21)"
  | .notText => "stream did not contain valid UTF-8"

/-- A refusal and the path that it is about. -/
structure FileFault where
  path : String
  cause : OsError
  deriving DecidableEq, Repr

/-- The causes in words, the outermost first. -/
def FileFault.chain (e : FileFault) : List String :=
  ["I/O error at " ++ e.path ++ ": " ++ e.cause.message, e.cause.message]

/-- The refusal with its path. -/
def FileFault.message (e : FileFault) : String :=
  "I/O error at " ++ e.path ++ ": " ++ e.cause.message

end CommandForge
