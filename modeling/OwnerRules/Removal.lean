import OwnerRules.Failure

namespace OwnerRules

inductive Outcome
  | applied
  | notFound
  | noMatch
  | unsupported
  deriving DecidableEq

namespace Outcome

def all : List Outcome := [applied, noMatch, notFound, unsupported]

def name : Outcome → String
  | applied => "applied"
  | notFound => "not_found"
  | noMatch => "no_match"
  | unsupported => "unsupported"

def ofName? (s : String) : Option Outcome := all.find? fun o => o.name = s

def isApplied (o : Outcome) : Bool := o = applied

end Outcome

structure Removal where
  outcome : Outcome
  deferred : Option Failure
  deriving DecidableEq

namespace Removal

def of (outcome : Outcome) : Removal := ⟨outcome, none⟩

def afterWrite (deferred : Option Failure) : Removal := ⟨.applied, deferred⟩

def isApplied (r : Removal) : Bool := r.outcome.isApplied

def answer (r : Removal) : Except Failure Bool :=
  match r.deferred with
  | some f => .error f
  | none => .ok r.isApplied

end Removal

end OwnerRules
