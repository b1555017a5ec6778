import CommandLink.Json.Reader
import CommandLink.IoError
import CommandLink.Text.Integer

/-!
# Frame errors

Why a frame cannot be sent or read.
-/

namespace CommandLink

/-- Why a frame cannot be sent or read. -/
inductive FrameError where
  | invalidFormat (reason : String)
  /-- The body is no document of a frame. -/
  | document (fault : Json.Fault)
  | tooLarge (size limit : Nat)
  | io (error : IoError)
  deriving DecidableEq, Repr

/-- The words for a fault of a document. -/
def Json.Fault.message : Json.Fault → String
  | .malformed => "malformed document"
  | .truncated => "truncated document"
  | .mismatched => "document of the wrong shape"

/-- The words for an error. -/
def FrameError.message : FrameError → String
  | .invalidFormat reason => "Invalid frame format: " ++ reason
  | .document fault => "Serialization error: " ++ fault.message
  | .tooLarge size limit =>
    "Frame too large: " ++ Text.decimal size ++ " bytes (max " ++ Text.decimal limit ++ ")"
  | .io error => "I/O error: " ++ error.message

end CommandLink
