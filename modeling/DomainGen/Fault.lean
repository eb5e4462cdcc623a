/-!
# Faults

What can go wrong outside the rules of the domain: a value of a kind an operation cannot use, an
operation the file system refuses, text that has no form in an encoding. The errors of the domain
(configuration, model, templates, …) have types of their own in their modules.
-/

namespace DomainGen

/-- Why the file system refuses an operation. -/
inductive SystemError where
  /-- There is nothing at the path. -/
  | notFound
  /-- There is something at the path that is in the way. -/
  | alreadyExists
  /-- A folder stands where a file is needed. -/
  | isFolder
  /-- A file stands where a folder is needed. -/
  | notFolder
  /-- A component of the path is too long. -/
  | nameTooLong
  /-- The receiver accepts nothing more. -/
  | refused
  deriving DecidableEq, Repr, Inhabited

/-- Why an operation on plain values fails. -/
inductive Fault where
  /-- The operation is not defined on a value of this kind. -/
  | wrongKind
  /-- The kind is right but the value is not. -/
  | badValue
  /-- A key is not there. -/
  | missingKey
  /-- A value of this kind has no such member. -/
  | missingMember
  /-- A position lies outside a sequence. -/
  | missingItem
  /-- A number is too large. -/
  | overflow
  /-- No encoding has this name. -/
  | unknownEncoding
  /-- Bytes that are no text in the encoding. -/
  | undecodable
  /-- Bytes without the mark that tells their order. -/
  | unmarked
  /-- A text with no form in the encoding. -/
  | unencodable
  /-- A text that breaks the rules of its notation. -/
  | illFormed
  /-- More levels than a layout can show. -/
  | tooIndented
  /-- Parts within parts without end. -/
  | tooNested
  /-- The file system refuses. -/
  | system (cause : SystemError)
  deriving DecidableEq, Repr, Inhabited

/-- The refusal in words. -/
def SystemError.message : SystemError → String
  | notFound => "no such file or folder"
  | alreadyExists => "a file is in the way"
  | isFolder => "is a folder"
  | notFolder => "is not a folder"
  | nameTooLong => "file name too long"
  | refused => "nothing more is accepted"

/-- The fault in words. -/
def Fault.message : Fault → String
  | wrongKind => "a value of an unexpected kind"
  | badValue => "an unexpected value"
  | missingKey => "a missing key"
  | missingMember => "a missing member"
  | missingItem => "a missing item"
  | overflow => "a number that is too large"
  | unknownEncoding => "an unknown encoding"
  | undecodable => "bytes that are no text in the encoding"
  | unmarked => "a text without the mark of its byte order"
  | unencodable => "a character that the encoding does not have"
  | illFormed => "a text that breaks the rules of its notation"
  | tooIndented => "too many levels"
  | tooNested => "parts nested too deeply"
  | system e => e.message

end DomainGen
