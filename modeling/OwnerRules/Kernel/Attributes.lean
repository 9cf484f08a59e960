import OwnerRules.Bytes.LittleEndian
import OwnerRules.OwnerMap
import OwnerRules.Kernel.Command

namespace OwnerRules.Kernel

open Bytes

namespace Attributes

/-- Path pointer, an unused descriptor, flags, a second unused descriptor, padding. -/
def objGet (path : UInt64) (flags : UInt32) : List UInt8 :=
  toLE 8 path.toNat ++ (toLE 4 0 ++ (toLE 4 flags.toNat ++ (toLE 4 0 ++ toLE 4 0)))

/-- Map descriptor, padding, key pointer, value pointer, flags. -/
def element (fd : UInt32) (key value flags : UInt64) : List UInt8 :=
  toLE 4 fd.toNat ++
    (toLE 4 0 ++ (toLE 8 key.toNat ++ (toLE 8 value.toNat ++ (toLE 8 flags.toNat ++ []))))

def pointerOffsets : Command → List Nat
  | .objGet => [0]
  | _ => [8, 16]

def fdOf (attr : List UInt8) : UInt32 := UInt32.ofNat (fieldAt 0 4 attr)

def pathOf (attr : List UInt8) : UInt64 := UInt64.ofNat (fieldAt 0 8 attr)

def fileFlagsOf (attr : List UInt8) : UInt32 := UInt32.ofNat (fieldAt 12 4 attr)

def keyOf (attr : List UInt8) : UInt64 := UInt64.ofNat (fieldAt 8 8 attr)

def valueOf (attr : List UInt8) : UInt64 := UInt64.ofNat (fieldAt 16 8 attr)

def flagsOf (attr : List UInt8) : UInt64 := UInt64.ofNat (fieldAt 24 8 attr)

@[simp] theorem length_objGet (path : UInt64) (flags : UInt32) :
    (objGet path flags).length = 24 := by
  simp [objGet]

@[simp] theorem length_element (fd : UInt32) (key value flags : UInt64) :
    (element fd key value flags).length = 32 := by
  simp [element]

theorem pathOf_objGet (path : UInt64) (flags : UInt32) : pathOf (objGet path flags) = path := by
  rw [pathOf, objGet, fieldAt_front, mod_eight_bytes, UInt64.ofNat_toNat]

theorem fileFlagsOf_objGet (path : UInt64) (flags : UInt32) :
    fileFlagsOf (objGet path flags) = flags := by
  have h : fieldAt 12 4 (objGet path flags) = flags.toNat % Nat.pow 256 4 := by
    rw [objGet, ← List.append_assoc]
    exact fieldAt_append (by simp) 4 _ _
  rw [fileFlagsOf, h, mod_four_bytes, UInt32.ofNat_toNat]

section Element

variable (fd : UInt32) (key value flags : UInt64)

theorem fdOf_element : fdOf (element fd key value flags) = fd := by
  rw [fdOf, element, fieldAt_front, mod_four_bytes, UInt32.ofNat_toNat]

theorem keyOf_element : keyOf (element fd key value flags) = key := by
  have h : fieldAt 8 8 (element fd key value flags) = key.toNat % Nat.pow 256 8 := by
    rw [element, ← List.append_assoc]
    exact fieldAt_append (by simp) 8 _ _
  rw [keyOf, h, mod_eight_bytes, UInt64.ofNat_toNat]

theorem valueOf_element : valueOf (element fd key value flags) = value := by
  have h : fieldAt 16 8 (element fd key value flags) = value.toNat % Nat.pow 256 8 := by
    rw [element, ← List.append_assoc, ← List.append_assoc]
    exact fieldAt_append (by simp) 8 _ _
  rw [valueOf, h, mod_eight_bytes, UInt64.ofNat_toNat]

theorem flagsOf_element : flagsOf (element fd key value flags) = flags := by
  have h : fieldAt 24 8 (element fd key value flags) = flags.toNat % Nat.pow 256 8 := by
    rw [element, ← List.append_assoc, ← List.append_assoc, ← List.append_assoc]
    exact fieldAt_append (by simp) 8 _ _
  rw [flagsOf, h, mod_eight_bytes, UInt64.ofNat_toNat]

end Element

end Attributes

def keyBytes (uid : UInt32) : List UInt8 := toLE 4 uid.toNat

def uidOfBytes (bs : List UInt8) : UInt32 := UInt32.ofNat (fieldAt 0 4 bs)

theorem uidOfBytes_keyBytes (uid : UInt32) : uidOfBytes (keyBytes uid) = uid := by
  rw [uidOfBytes, keyBytes, ← List.append_nil (toLE 4 uid.toNat), fieldAt_front,
    mod_four_bytes, UInt32.ofNat_toNat]

end OwnerRules.Kernel

namespace OwnerRules.Entry

open Bytes

def toBytes (e : Entry) : List UInt8 := toLE 4 e.iif.toUInt32.toNat ++ toLE 4 e.rule.toNat

def ofBytes (bs : List UInt8) : Entry :=
  ⟨(UInt32.ofNat (fieldAt 0 4 bs)).toInt32, UInt32.ofNat (fieldAt 4 4 bs)⟩

theorem ofBytes_toBytes (e : Entry) : ofBytes e.toBytes = e := by
  have h1 : fieldAt 0 4 e.toBytes = e.iif.toUInt32.toNat % Nat.pow 256 4 := fieldAt_front 4 _ _
  have h2 : fieldAt 4 4 e.toBytes = e.rule.toNat % Nat.pow 256 4 := by
    rw [toBytes, ← List.append_nil (toLE 4 e.rule.toNat)]
    exact fieldAt_append (by simp) 4 _ _
  rw [mod_four_bytes] at h1 h2
  simp [ofBytes, h1, h2]

theorem toBytes_ofBytes {bs : List UInt8} (h : bs.length = 8) : (ofBytes bs).toBytes = bs := by
  have hword {cs : List UInt8} (hc : cs.length = 4) :
      toLE 4 (UInt32.ofNat (ofLE cs)).toNat = cs := by
    have hlt : ofLE cs < Nat.pow 256 cs.length := ofLE_lt cs
    rw [hc] at hlt
    rw [UInt32.toNat_ofNat_of_lt' hlt, ← hc, toLE_ofLE]
  have hiif : ((bs.drop 0).take 4).length = 4 := by simp [h]
  have hrule : ((bs.drop 4).take 4).length = 4 := by simp [h]
  have hall : (bs.drop 4).take 4 = bs.drop 4 := List.take_of_length_le (by simp [h])
  simp only [toBytes, ofBytes, fieldAt, UInt32.toUInt32_toInt32, hword hiif, hword hrule]
  rw [List.drop_zero, hall, List.take_append_drop]

end OwnerRules.Entry
