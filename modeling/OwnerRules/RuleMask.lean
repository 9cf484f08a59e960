import OwnerRules.Text.Hex

namespace OwnerRules

inductive Rule
  | happyBox
  | penaltyBox
  | dozable
  | standby
  | powersave
  | restricted
  | lowPowerStandby
  | iifMatch
  | lockdownVpn
  deriving DecidableEq

namespace Rule

def all : List Rule :=
  [happyBox, penaltyBox, dozable, standby, powersave, restricted, lowPowerStandby, iifMatch,
   lockdownVpn]

def bit : Rule → UInt32
  | happyBox => 1
  | penaltyBox => 2
  | dozable => 4
  | standby => 8
  | powersave => 16
  | restricted => 32
  | lowPowerStandby => 64
  | iifMatch => 128
  | lockdownVpn => 256

def name : Rule → String
  | happyBox => "HAPPY_BOX"
  | penaltyBox => "PENALTY_BOX"
  | dozable => "DOZABLE"
  | standby => "STANDBY"
  | powersave => "POWERSAVE"
  | restricted => "RESTRICTED"
  | lowPowerStandby => "LOW_POWER_STANDBY"
  | iifMatch => "IIF_MATCH"
  | lockdownVpn => "LOCKDOWN_VPN"

end Rule

namespace RuleMask

def unnamed (mask : UInt32) : UInt32 :=
  mask &&& ~~~ (Rule.all.foldl (fun m r => m ||| r.bit) 0)

def parts (mask : UInt32) : List String :=
  (Rule.all.filter fun r => mask &&& r.bit != 0).map Rule.name ++
    if unnamed mask = 0 then [] else ["0x" ++ String.ofList (Text.hex (unnamed mask).toNat)]

def describe (mask : UInt32) : String :=
  if mask = 0 then "NO_MATCH" else "|".intercalate (parts mask)

end RuleMask

end OwnerRules
