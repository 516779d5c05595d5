/-! The ways the operating system refuses to follow a path, to make an entry or to open a file. -/

namespace Switchboard

/-- A refusal by the operating system. -/
inductive OsError where
  /-- A name on the way does not exist. -/
  | notFound
  /-- Something already stands where an entry is to be made. -/
  | alreadyExists
  /-- A name on the way is not a directory. -/
  | notDirectory
  /-- A directory stands where a file is to be written. -/
  | isDirectory
  /-- A name or the whole path is too long. -/
  | nameTooLong
  /-- Too many links were met on the way. -/
  | tooManyLinks
  /-- The path holds a zero byte, which no path can. -/
  | zeroByte
deriving DecidableEq, Repr

/-- The wording of a refusal, with its number where the system gives one. -/
def OsError.message : OsError → String
  -- A path with a zero byte never reaches the system, so it has no number.
  | notFound => "No such file or directory (os error 2)"
  | alreadyExists => "File exists (os error 17)"
  | notDirectory => "Not a directory (os error 20)"
  | isDirectory => "Is a directory (os error 21)"
  | nameTooLong => "File name too long (os error 36)"
  | tooManyLinks => "Too many levels of symbolic links (os error 40)"
  | zeroByte => "file name contained an unexpected NUL byte"

end Switchboard
