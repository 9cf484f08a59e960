namespace OwnerRules.Kernel

inductive Command
  | lookup
  | update
  | delete
  | objGet
  deriving DecidableEq

namespace Command

def all : List Command := [lookup, update, delete, objGet]

def number : Command → UInt32
  | lookup => 1
  | update => 2
  | delete => 3
  | objGet => 7

def name : Command → String
  | lookup => "BPF_MAP_LOOKUP_ELEM"
  | update => "BPF_MAP_UPDATE_ELEM"
  | delete => "BPF_MAP_DELETE_ELEM"
  | objGet => "BPF_OBJ_GET"

def ofNumber? (n : UInt32) : Option Command := all.find? fun c => c.number = n

def ofName? (s : String) : Option Command := all.find? fun c => c.name = s

end Command

namespace Flag

def any : UInt64 := 0

def noExist : UInt64 := 1

def exist : UInt64 := 2

def readWrite : UInt32 := 0

end Flag

end OwnerRules.Kernel
