import CommandLink.Frame.Diagnostic
import CommandLink.Frame.Error

/-!
# Channel errors

Why a call over a channel, or a property to be published, came to nothing.
-/

namespace CommandLink

/-- Why a call came to nothing. -/
inductive ChannelError where
  | closed
  | transport (error : IoError)
  | protocol (error : FrameError)
  /-- The other end could not answer. -/
  | remote (message : String)
  /-- The other end answered with another kind of reply than the call asks for. -/
  | unexpectedReply (call : String) (reply : String)
  deriving DecidableEq, Repr

namespace ChannelError

/-- The error of a reply of the wrong kind. It shows the reply without its text. -/
def unexpected (call : Call) (reply : Reply) : ChannelError :=
  .unexpectedReply call.kind reply.shown

/-- The words for an error. -/
def message : ChannelError → String
  | .closed => "Channel closed"
  | .transport error => "Transport error: " ++ error.message
  | .protocol error => "Protocol error: " ++ error.message
  | .remote message => "Remote call failed: " ++ message
  | .unexpectedReply call reply => "Unexpected reply to " ++ call ++ ": " ++ reply

end ChannelError

end CommandLink
