/-!
# Errors

What can go wrong outside of a gate, and how it is put into words. Where a document cannot be
read `*` stands in the message for what the reader of the format has to say about it.
-/
namespace Cutover

/-- What a file operation can fail with. -/
inductive FileError where
  | notFound
  | denied
  | alreadyThere
  | notAFolder
  | isAFolder
  /-- A folder would come to stand inside itself. -/
  | intoItself
  | nameTooLong
  | notEmpty
  | tooManyLinks
  | noSpace
  | noDevice
  | argumentTooLong
  | noProgram
  | notText
  | nullInPath
  | nullInCommand
  deriving DecidableEq, Repr

namespace FileError

def cause : FileError → String
  | notFound => "No such file or directory"
  | denied => "Permission denied"
  | alreadyThere => "File exists"
  | notAFolder => "Not a directory"
  | isAFolder => "Is a directory"
  | intoItself => "Invalid argument"
  | nameTooLong => "File name too long"
  | notEmpty => "Directory not empty"
  | tooManyLinks => "Too many levels of symbolic links"
  | noSpace => "No space left on device"
  | noDevice => "No such device or address"
  | argumentTooLong => "Argument list too long"
  | noProgram => "Exec format error"
  | notText => "stream did not contain valid UTF-8"
  | nullInPath => "file name contained an unexpected NUL byte"
  | nullInCommand => "nul byte found in provided data"

def number? : FileError → Option Nat
  | notFound => some 2
  | noDevice => some 6
  | argumentTooLong => some 7
  | noProgram => some 8
  | denied => some 13
  | alreadyThere => some 17
  | notAFolder => some 20
  | isAFolder => some 21
  | intoItself => some 22
  | noSpace => some 28
  | nameTooLong => some 36
  | notEmpty => some 39
  | tooManyLinks => some 40
  | notText | nullInPath | nullInCommand => none

def message (e : FileError) : String :=
  match e.number? with
  | some n => e.cause ++ s!" (os error {n})"
  | none => e.cause

end FileError

/-- An error that ends a request. -/
inductive Error where
  | config (detail : String)
  /-- A configuration file that does not have the expected form. -/
  | configSyntax
  /-- A report or state file that does not have the expected form. -/
  | json
  | database (detail : String)
  | unknownDomain (name : String) (known : List String)
  | invalidGraph (detail : String)
  | notADirectory (path : String)
  | file (detail : String)
  deriving DecidableEq, Repr

namespace Error

/-- The message of an error. The words in which the readers of JSON and of configuration files tell
what is wrong with a text are masked by `*`: which errors there are is modelled, not these words. -/
def message : Error → String
  | config detail => s!"Configuration error: {detail}"
  | configSyntax => "Invalid config file: *"
  | json => "JSON error: *"
  | database detail => s!"Database error: {detail}"
  | unknownDomain name known =>
    s!"Unknown domain: '{name}'. Supported domains: " ++ ", ".intercalate known
  | invalidGraph detail => s!"Invalid domain graph: {detail}"
  | notADirectory path => s!"Not a directory: {path}"
  | file detail => s!"IO error: {detail}"

/-- The message followed by its cause, where a cause of its own stands behind it. -/
def chain : Error → String
  | file detail => (file detail).message ++ ": " ++ detail
  | e => e.message

end Error

end Cutover
