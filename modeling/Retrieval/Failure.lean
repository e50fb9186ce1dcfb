import Retrieval.Compiler
import Retrieval.Schedule.Settings
import Retrieval.Scoring.Settings
import Retrieval.Suggestion.Store

namespace Retrieval

inductive Failure.Kind where
  | invalidArgument
  | backendUnavailable
  | configuration
  | serialization
  | io
  | internal
  deriving DecidableEq, Repr

namespace Failure.Kind

def code : Kind → String
  | invalidArgument => "INVALID_ARGUMENT"
  | backendUnavailable => "BACKEND_UNAVAILABLE"
  | configuration => "CONFIGURATION_ERROR"
  | serialization => "SERIALIZATION_ERROR"
  | io => "IO_ERROR"
  | internal => "INTERNAL_ERROR"

def heading : Kind → String
  | invalidArgument => "Invalid argument"
  | backendUnavailable => "Backend unavailable"
  | configuration => "Configuration error"
  | serialization => "Serialization error"
  | io => "IO error"
  | internal => "Internal error"

end Failure.Kind

inductive SettingsFault where
  | malformed
  | missingFile
  | noRoom
  | blankLogLevel
  | noJobTimeout
  deriving DecidableEq, Repr

def SettingsFault.message : SettingsFault → String
  | malformed => "the settings cannot be read"
  | missingFile => "there is no file of settings"
  | noRoom => "a list of settings has no room for an index"
  | blankLogLevel => "observability.log_level must not be blank"
  | noJobTimeout => "scheduler.job_timeout_secs must be positive"

inductive Failure where
  | request (fault : Compiler.Fault)
  | fields (fault : SearchSettings.Fault)
  | scoring (fault : Scoring.Fault Float)
  | suggestions (fault : Suggestion.Settings.Fault)
  | indexing (fault : Suggestion.Store.Fault)
  | schedule (fault : Schedule.Fault)
  | settings (fault : SettingsFault)
  | reported (kind : Failure.Kind) (text : String)

namespace Failure

def kind : Failure → Kind
  | request _ | scoring _ | suggestions _ | indexing _ => .invalidArgument
  | fields _ | settings _ => .configuration
  | schedule fault =>
      match fault with
      | .zeroInterval _ => .configuration
      | .unknownJob _ => .invalidArgument
      | .overtime _ _ | .aborted _ | .timer _ => .internal
  | reported kind _ => kind

def detail : Failure → String
  | request fault => fault.message
  | fields fault => fault.message
  | scoring fault => fault.message
  | suggestions fault => fault.message
  | indexing fault => fault.message
  | schedule fault => fault.message
  | settings fault => fault.message
  | reported _ text => text

def message (failure : Failure) : String :=
  failure.kind.heading ++ ": " ++ failure.detail

def isCallers (failure : Failure) : Bool :=
  failure.kind == .invalidArgument

end Failure

end Retrieval
