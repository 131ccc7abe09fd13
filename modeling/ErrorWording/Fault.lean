set_option autoImplicit false

namespace ErrorWording

namespace Fault

inductive Kind where
  | notFound
  | permissionDenied
  | connectionReset
  | brokenPipe
  | alreadyExists
  | wouldBlock
  | invalidInput
  | invalidData
  | timedOut
  | writeZero
  | interrupted
  | unsupported
  | unexpectedEof
  | outOfMemory
  | inputOutput
  | isDirectory
  | notDirectory
  | storageFull
  | tooManyOpenFiles
  | invalidFilename
  | filesystemLoop
  | uncategorized
  | other
deriving DecidableEq, Repr

def Kind.text : Kind → String
  | .notFound => "entity not found"
  | .permissionDenied => "permission denied"
  | .connectionReset => "connection reset"
  | .brokenPipe => "broken pipe"
  | .alreadyExists => "entity already exists"
  | .wouldBlock => "operation would block"
  | .invalidInput => "invalid input parameter"
  | .invalidData => "invalid data"
  | .timedOut => "timed out"
  | .writeZero => "write zero"
  | .interrupted => "operation interrupted"
  | .unsupported => "unsupported"
  | .unexpectedEof => "unexpected end of file"
  | .outOfMemory => "out of memory"
  | .inputOutput => "input/output error"
  | .isDirectory => "is a directory"
  | .notDirectory => "not a directory"
  | .storageFull => "no storage space"
  | .tooManyOpenFiles => "too many open files"
  | .invalidFilename => "invalid filename"
  | .filesystemLoop => "filesystem loop or indirection limit (e.g. symlink loop)"
  | .uncategorized => "uncategorized error"
  | .other => "other error"

def describeCode : Nat → Kind × String
  | 1 => (.permissionDenied, "Operation not permitted")
  | 2 => (.notFound, "No such file or directory")
  | 4 => (.interrupted, "Interrupted system call")
  | 5 => (.inputOutput, "Input/output error")
  | 9 => (.uncategorized, "Bad file descriptor")
  | 11 => (.wouldBlock, "Resource temporarily unavailable")
  | 12 => (.outOfMemory, "Cannot allocate memory")
  | 13 => (.permissionDenied, "Permission denied")
  | 17 => (.alreadyExists, "File exists")
  | 20 => (.notDirectory, "Not a directory")
  | 21 => (.isDirectory, "Is a directory")
  | 22 => (.invalidInput, "Invalid argument")
  | 24 => (.tooManyOpenFiles, "Too many open files")
  | 28 => (.storageFull, "No space left on device")
  | 32 => (.brokenPipe, "Broken pipe")
  | 36 => (.invalidFilename, "File name too long")
  | 40 => (.filesystemLoop, "Too many levels of symbolic links")
  | code => (.uncategorized, "Unknown error " ++ toString code)

end Fault

inductive Fault where
  | code (number : Nat)
  | bare (kind : Fault.Kind)
  | described (kind : Fault.Kind) (text : String)
deriving DecidableEq, Repr

namespace Fault

def kind : Fault → Kind
  | .code number => (describeCode number).1
  | .bare kind => kind
  | .described kind _ => kind

def text : Fault → String
  | .code number => (describeCode number).2 ++ " (os error " ++ toString number ++ ")"
  | .bare kind => kind.text
  | .described _ text => text

def missingEntry : Fault := .code 2
def exhaustedMemory : Fault := .code 12
def notADirectory : Fault := .code 20
def isADirectory : Fault := .code 21
def noSpace : Fault := .code 28
def nameTooLong : Fault := .code 36
def linkLoop : Fault := .code 40

def undecodable : Fault := .described .invalidData "stream did not contain valid UTF-8"
def nulInPath : Fault := .described .invalidInput "file name contained an unexpected NUL byte"
def nothingTaken : Fault := .described .writeZero "failed to write whole buffer"

end Fault

end ErrorWording
