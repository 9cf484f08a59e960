import OwnerRules.Capabilities
import OwnerRules.Logging.Format
import OwnerRules.MapPath
import OwnerRules.Removal
import OwnerRules.RuleMask

namespace OwnerRules

inductive Level
  | error
  | warn
  | info
  | debug
  | trace
  deriving DecidableEq

namespace Level

def all : List Level := [error, warn, info, debug, trace]

def verbosity : Level → Nat
  | error => 1
  | warn => 2
  | info => 3
  | debug => 4
  | trace => 5

def name : Level → String
  | error => "ERROR"
  | warn => "WARN"
  | info => "INFO"
  | debug => "DEBUG"
  | trace => "TRACE"

end Level

inductive Event
  | mapOpened (path : MapPath) (fd : Int32)
  | mapUnsupported (path : MapPath)
  | mapOpenFailed (path : MapPath) (errno : Errno) (privileges : String)
  | noRequestedBits (uid stored requested : UInt32)
  | entryUpdated (uid remaining : UInt32)
  | entryDeleted (uid : UInt32)
  | entryAlreadyDeleted (uid : UInt32)
  | commandFailed (uid : UInt32) (command : Kernel.Command) (errno : Errno) (privileges : String)
  | removalFinished (uid : UInt32) (outcome : Outcome)
  | loggingReady (format : LogFormat)
  deriving DecidableEq

/-- The value of a field; a word is a text that a pretty line puts in quotes. -/
inductive FieldValue
  | number (n : Int)
  | text (s : String)
  | word (s : String)
  deriving DecidableEq

namespace Event

def level : Event → Level
  | mapOpenFailed .. => .warn
  | commandFailed .. => .warn
  | mapUnsupported _ => .info
  | loggingReady _ => .info
  | _ => .debug

def target : Event → String
  | mapOpened .. => "uid_owner_bridge::bpf::map"
  | mapUnsupported _ => "uid_owner_bridge::bpf::map"
  | mapOpenFailed .. => "uid_owner_bridge::bpf::map"
  | loggingReady _ => "uid_owner_bridge::logging"
  | _ => "uid_owner_bridge::rules::bridge"

def message : Event → String
  | mapOpened .. => "Opened uid owner map"
  | mapUnsupported _ => "uid owner map not supported on this kernel"
  | mapOpenFailed .. => "BPF_OBJ_GET failed"
  | noRequestedBits .. => "No requested rule bits set"
  | entryUpdated .. => "Updated uid owner entry"
  | entryDeleted _ => "Deleted uid owner entry"
  | entryAlreadyDeleted _ => "uid owner entry already deleted"
  | commandFailed .. => "bpf command failed"
  | removalFinished .. => "uid owner rule removal finished"
  | loggingReady _ => "Logging initialized"

def fields : Event → List (String × FieldValue)
  | mapOpened path fd => [("path", .text path.lossyText), ("fd", .number fd.toInt)]
  | mapUnsupported path => [("path", .text path.lossyText)]
  | mapOpenFailed path errno privileges =>
    [("path", .text path.lossyText), ("errno", .text errno.text), ("privileges", .text privileges)]
  | noRequestedBits uid stored requested =>
    [("uid", .number uid.toNat), ("stored", .text (RuleMask.describe stored)),
      ("requested", .text (RuleMask.describe requested))]
  | entryUpdated uid remaining =>
    [("uid", .number uid.toNat), ("remaining", .text (RuleMask.describe remaining))]
  | entryDeleted uid => [("uid", .number uid.toNat)]
  | entryAlreadyDeleted uid => [("uid", .number uid.toNat)]
  | commandFailed uid command errno privileges =>
    [("uid", .number uid.toNat), ("operation", .word command.name), ("errno", .text errno.text),
      ("privileges", .text privileges)]
  | removalFinished uid outcome => [("uid", .number uid.toNat), ("outcome", .text outcome.name)]
  | loggingReady format => [("format", .text format.title)]

def fieldNames (e : Event) : List String := "message" :: e.fields.map Prod.fst

end Event

end OwnerRules
