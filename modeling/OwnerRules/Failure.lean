import OwnerRules.Errno
import OwnerRules.FailureReport
import OwnerRules.Kernel.Command
import OwnerRules.Text.Quoted

namespace OwnerRules

inductive Failure
  | kernel (command : Kernel.Command) (errno : Errno)
  | invalidPath (path : String)
  deriving DecidableEq

structure SystemError where
  code : Int32
  deriving DecidableEq

namespace Failure

def command : Failure → Kernel.Command
  | kernel c _ => c
  | invalidPath _ => .objGet

def errno : Failure → Errno
  | kernel _ e => e
  | invalidPath _ => .EINVAL

def operation (f : Failure) : String := f.command.name

def code (f : Failure) : Int32 := Int32.ofNat f.errno.number

def report (f : Failure) : FailureReport := ⟨f.operation, f.code⟩

def systemError (f : Failure) : SystemError := ⟨f.code⟩

def message : Failure → String
  | kernel c e => c.name ++ " failed: " ++ e.description ++ " (" ++ toString e.number ++ ")"
  | invalidPath p => "invalid map path " ++ String.ofList (Text.Quoted.quote p.toList)

end Failure

end OwnerRules
