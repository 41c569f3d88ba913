/-!
This module contains the causes for which files cannot be used.
-/

namespace LogSieve

inductive FileFault where
  | notFound
  | notADirectory
  | isADirectory
  | notText
  | other (text : String)
  deriving DecidableEq, Repr

def FileFault.message : FileFault → String
  | .notFound => "No such file or directory (os error 2)"
  | .notADirectory => "Not a directory (os error 20)"
  | .isADirectory => "Is a directory (os error 21)"
  | .notText => "stream did not contain valid UTF-8"
  | .other text => text

end LogSieve
