import OwnerRules.Text.Utf8

namespace OwnerRules

structure MapPath where
  bytes : List UInt8
  deriving DecidableEq

namespace MapPath

def ofString (s : String) : MapPath := ⟨Text.Utf8.encode s.toList⟩

def text? (p : MapPath) : Option String := (Text.Utf8.decode? p.bytes).map String.ofList

def lossyText (p : MapPath) : String := String.ofList (Text.Utf8.decodeLossy p.bytes)

def hasNul (p : MapPath) : Bool := p.bytes.contains 0

def default : MapPath := ofString "/sys/fs/bpf/netd_shared/map_netd_uid_owner_map"

theorem text?_ofString (s : String) : (ofString s).text? = some s := by
  simp [ofString, text?, Text.Utf8.decode?_encode]

theorem lossyText_ofString (s : String) : (ofString s).lossyText = s := by
  simp [ofString, lossyText, Text.Utf8.decodeLossy_encode]

end MapPath

end OwnerRules
