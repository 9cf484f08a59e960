import OwnerRules.Config
import OwnerRules.Logging.Directive

namespace OwnerRules

structure Filter where
  directives : List Directive
  deriving DecidableEq

namespace Filter

def defaultText : String := "info,uid_owner_bridge=debug"

def splitCommas (s : List Char) : List (List Char) :=
  (s.splitOn ',').filter fun part => !part.isEmpty

def parse? (s : String) : Option Filter :=
  ((splitCommas s.toList).mapM Directive.parse?).map Filter.mk

def default : Filter :=
  ⟨[⟨"", .events none, some .info⟩, ⟨"uid_owner_bridge", .events none, some .debug⟩]⟩

def directiveFor? (f : Filter) (e : Event) : Option Directive :=
  (f.directives.filter (·.appliesTo e)).foldl
    (fun best d =>
      match best with
      | none => some d
      | some b => if b.yieldsTo d then some d else some b)
    none

def lets (f : Filter) (e : Event) : Bool := (f.directiveFor? e).any (·.allows e.level)

def variableName : String := "RUST_LOG"

def ofEnvironment (e : Environment) : Filter := ((e.get? variableName).bind parse?).getD default

end Filter

end OwnerRules
