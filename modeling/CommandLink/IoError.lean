/-!
# Input and output errors

The ways in which files and streams fail, with the operating system's words for them.
-/

namespace CommandLink

/-- Why a file or a stream operation failed. -/
inductive IoError where
  | notFound
  | permissionDenied
  | busy
  | exists
  | notDirectory
  | isDirectory
  | invalidArgument
  | noSpace
  | nameTooLong
  | connectionRefused
  | brokenPipe
  /-- A stream ended where more was needed. -/
  | earlyEof
  /-- A text was needed, and the bytes encode none. -/
  | notText
  /-- A file name holds the character with code zero. -/
  | nulInName
  deriving DecidableEq, Repr

namespace IoError

/-- The words for an error. -/
def message : IoError → String
  | .notFound => "No such file or directory (os error 2)"
  | .permissionDenied => "Permission denied (os error 13)"
  | .busy => "Device or resource busy (os error 16)"
  | .exists => "File exists (os error 17)"
  | .notDirectory => "Not a directory (os error 20)"
  | .isDirectory => "Is a directory (os error 21)"
  | .invalidArgument => "Invalid argument (os error 22)"
  | .noSpace => "No space left on device (os error 28)"
  | .nameTooLong => "File name too long (os error 36)"
  | .connectionRefused => "Connection refused (os error 111)"
  | .brokenPipe => "broken pipe"
  | .earlyEof => "early eof"
  | .notText => "stream did not contain valid UTF-8"
  | .nulInName => "file name contained an unexpected NUL byte"

end IoError

end CommandLink
