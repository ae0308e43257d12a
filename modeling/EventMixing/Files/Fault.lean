/-!
# What a file system answers when it cannot do what is asked
-/

namespace EventMixing

/-- Why a file could not be read or written. -/
inductive FileFault where
  | notFound
  | isDirectory
  | notDirectory
  | nameTooLong
  /-- A path with the character that ends a name for the system. -/
  | nulInName
  /-- The file holds no text. -/
  | notText
  /-- Any other fault, in the system's own words. -/
  | other (text : String)
deriving DecidableEq, Repr

def FileFault.message : FileFault → String
  | .notFound => "No such file or directory (os error 2)"
  | .isDirectory => "Is a directory (os error 21)"
  | .notDirectory => "Not a directory (os error 20)"
  | .nameTooLong => "File name too long (os error 36)"
  | .nulInName => "file name contained an unexpected NUL byte"
  | .notText => "stream did not contain valid UTF-8"
  | .other text => text

end EventMixing
