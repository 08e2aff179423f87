import BuildDispatch.Value.Text

/-!
# Failures

What may go wrong while the configuration is put to use and operations run, as causes. The wording
of every cause is in `message`.
-/

namespace BuildDispatch

open Text

/-- What is wrong with the content of a configuration file. -/
inductive ConfigFault
  | missingKey (key place : Text)
  | notAList (place : Text) (kind : String)
  | noOperations
  | unknownKind (kind place : Text)
  | noArguments (place : Text)
  | duplicateName (name : Text)
  | noCandidates
deriving Repr, DecidableEq

/-- The names of the kinds of operations. -/
def kindNames : List Text := ["forward", "helper", "info"]

def ConfigFault.message : ConfigFault → Text
  | missingKey key place => "Missing '" ++ key ++ "' in " ++ place
  | notAList place kind => "Expected a list for " ++ place ++ ", got " ++ kind
  | noOperations => "operations.yaml defines no operations"
  | unknownKind kind place =>
    "Unknown kind '" ++ kind ++ "' for " ++ place ++ ". Supported: " ++ joinWith ", " kindNames
  | noArguments place => "No args specified for " ++ place
  | duplicateName name => "Duplicate operation name: " ++ name
  | noCandidates => "library.candidate_dirs must not be empty"

inductive Failure
  | configuration (fault : ConfigFault)
  /-- A value has no text. -/
  | unwritable (cause : Unwritable)
  /-- A value of this kind has no such part. -/
  | noAttribute (kind part : String)
  /-- A value of this kind cannot name a variable. -/
  | notAKey (kind : String)
  | unknownOperation (name : Text) (available : List Text)
  | noSuchEntry (name : Text)
  | unknownKind (kind : Text)
  | noHelper (name : Text)
  | missingDirectory (path : Text)
  /-- A text cannot be written as UTF-8. -/
  | unencodable (cause : Utf8.Unencodable)
  /-- A text was to be written where only octets can be. -/
  | octetsOnly
  /-- A command has no words. -/
  | emptyCommand
  | denied (program : Text)
  | interrupted
  /-- The system refused for another reason, which it gives. -/
  | system (cause : Text)
deriving Repr, DecidableEq

def Failure.message : Failure → Text
  | configuration fault => fault.message
  | unwritable cause => cause.message
  | noAttribute kind part =>
    quoted kind ++ " object has no attribute " ++ quoted part
  | notAKey kind => "unhashable type: " ++ quoted kind
  | unknownOperation name available =>
    "Unknown operation: " ++ name ++ ". Available: " ++ joinWith ", " available
  | noSuchEntry name => "Unknown operation: " ++ name
  | unknownKind kind => "Unknown operation kind: " ++ kind
  | noHelper name => "No helper tool configured for " ++ name
  | missingDirectory path => "Working directory not found: " ++ path
  | unencodable cause => cause.message
  | octetsOnly => "a bytes-like object is required, not 'str'"
  | emptyCommand => "list index out of range"
  | denied program => "[Errno 13] Permission denied: " ++ quoted program
  | interrupted => ""
  | system cause => cause

end BuildDispatch
