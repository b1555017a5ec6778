import CommandLink.Channel.Error
import CommandLink.Frame.EntryPoint
import CommandLink.Transport.Error

/-!
# Client errors

Why a client cannot run a command, and the exit code that says so.
-/

namespace CommandLink

/-- What is wrong with what a server offers. -/
inductive HandshakeFault where
  | notPublished
  | noVersion
  | malformed (fault : ShapeFault)
  /-- Whatever else is reported. -/
  | reported (reason : String)
  deriving DecidableEq, Repr

/-- The words for a fault. -/
def HandshakeFault.message : HandshakeFault → String
  | .notPublished => "server did not publish its entry point"
  | .noVersion => "entry point has no protocol version"
  | .malformed fault => "malformed entry point: " ++ fault.message
  | .reported reason => reason

/-- Why a client cannot run a command. -/
inductive ClientError where
  | transport (error : TransportError)
  | channel (error : ChannelError)
  | versionMismatch (server client : UInt32)
  | handshake (fault : HandshakeFault)
  deriving DecidableEq, Repr

namespace ClientError

/-- The words for an error. -/
def message : ClientError → String
  | .transport error => error.message
  | .channel error => error.message
  | .versionMismatch server client =>
    "Protocol version mismatch: server speaks " ++ Text.decimal server.toNat ++
      ", this client speaks " ++ Text.decimal client.toNat
  | .handshake fault => "Handshake failed: " ++ fault.message

/-- The exit code of a bad command line. -/
def usageExitCode : Int32 := 2

/-- The exit code for an error. -/
def exitCode : ClientError → Int32
  | .versionMismatch _ _ => 4
  | _ => 3

end ClientError

end CommandLink
