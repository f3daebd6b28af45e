/-!
# Faults of file operations
-/

namespace Emend.Disk

inductive Fault where
  | notFound
  | notDirectory
  | isDirectory
  | alreadyExists
  | nameTooLong
  /-- A rename onto a path that ends in a step other than a name. -/
  | busy
  /-- A rename onto a path with a character that no path may hold. -/
  | invalidTarget
  /-- A path with a character that no path may hold. -/
  | nulInName
  /-- A content that is no text. -/
  | notText
  /-- A copy of something other than a file. -/
  | notRegular
deriving DecidableEq, Repr

def Fault.message : Fault → String
  | notFound => "No such file or directory (os error 2)"
  | notDirectory => "Not a directory (os error 20)"
  | isDirectory => "Is a directory (os error 21)"
  | alreadyExists => "File exists (os error 17)"
  | nameTooLong => "File name too long (os error 36)"
  | busy => "Device or resource busy (os error 16)"
  | invalidTarget => "Invalid argument (os error 22)"
  | nulInName => "file name contained an unexpected NUL byte"
  | notText => "stream did not contain valid UTF-8"
  | notRegular => "the source path is neither a regular file nor a symlink to a regular file"

end Emend.Disk
