import OrderlyExit.IoError
import OrderlyExit.Time

/-!
What goes wrong while a program is started, watched and signalled.
-/

namespace OrderlyExit

inductive ObserverError
  | spawn (program : String) (source : IoError)
  | missingStdout
  | noPid
  | timeout (waitingFor : String) (limit : Duration)
  | streamClosed (waitingFor : String)
  | signal (name target : String) (errno : Errno)
  | io (source : IoError)
  deriving DecidableEq, Repr

def ObserverError.message : ObserverError → String
  | .spawn program source => "failed to spawn " ++ program ++ ": " ++ source.message
  | .missingStdout => "child stdout was not captured"
  | .noPid => "child exited before its pid could be read"
  | .timeout waitingFor limit => "timed out after " ++ limit.text ++ " waiting for " ++ waitingFor
  | .streamClosed waitingFor => "stdout closed while waiting for " ++ waitingFor
  | .signal name target errno => "failed to send " ++ name ++ " to " ++ target ++ ": " ++ errno.label
  | .io source => "I/O error: " ++ source.message

end OrderlyExit
