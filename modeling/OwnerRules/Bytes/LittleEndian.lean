namespace OwnerRules.Bytes

def toLE : Nat → Nat → List UInt8
  | 0, _ => []
  | w + 1, n => UInt8.ofNat n :: toLE w (n / 256)

def ofLE : List UInt8 → Nat
  | [] => 0
  | b :: bs => b.toNat + 256 * ofLE bs

@[simp] theorem length_toLE (w n : Nat) : (toLE w n).length = w := by
  induction w generalizing n with
  | zero => rfl
  | succ w ih => simp [toLE, ih]

theorem ofLE_toLE (w n : Nat) : ofLE (toLE w n) = n % Nat.pow 256 w := by
  induction w generalizing n with
  | zero => simp [toLE, ofLE, Nat.mod_one]
  | succ w ih =>
    have h : Nat.pow 256 (w + 1) = 256 * Nat.pow 256 w := Nat.mul_comm _ _
    rw [toLE, ofLE, ih, h, Nat.mod_mul]
    simp

theorem ofLE_lt (bs : List UInt8) : ofLE bs < Nat.pow 256 bs.length := by
  induction bs with
  | nil => exact Nat.one_pos
  | cons b bs ih =>
    have hpow : Nat.pow 256 (b :: bs).length = 256 * Nat.pow 256 bs.length := Nat.mul_comm _ _
    have hb := b.toNat_lt
    rw [ofLE, hpow]
    omega

theorem toLE_ofLE (bs : List UInt8) : toLE bs.length (ofLE bs) = bs := by
  induction bs with
  | nil => rfl
  | cons b bs ih =>
    have hb := b.toNat_lt
    have hrest : (b.toNat + 256 * ofLE bs) / 256 = ofLE bs := by omega
    have hlow : UInt8.ofNat (b.toNat + 256 * ofLE bs) = b := by
      apply UInt8.toNat_inj.mp
      rw [UInt8.toNat_ofNat']
      omega
    rw [ofLE, List.length_cons, toLE, hrest, ih, hlow]

def fieldAt (i w : Nat) (bs : List UInt8) : Nat := ofLE ((bs.drop i).take w)

theorem fieldAt_append {before : List UInt8} {i : Nat} (h : before.length = i) (w n : Nat)
    (after : List UInt8) : fieldAt i w (before ++ (toLE w n ++ after)) = n % Nat.pow 256 w := by
  rw [fieldAt, ← h, List.drop_left, List.take_left' (length_toLE w n), ofLE_toLE]

theorem fieldAt_front (w n : Nat) (after : List UInt8) :
    fieldAt 0 w (toLE w n ++ after) = n % Nat.pow 256 w :=
  @fieldAt_append [] 0 rfl w n after

theorem mod_four_bytes (n : UInt32) : n.toNat % Nat.pow 256 4 = n.toNat :=
  Nat.mod_eq_of_lt (Nat.lt_of_lt_of_le n.toNat_lt (by decide))

theorem mod_eight_bytes (n : UInt64) : n.toNat % Nat.pow 256 8 = n.toNat :=
  Nat.mod_eq_of_lt (Nat.lt_of_lt_of_le n.toNat_lt (by decide))

theorem toNat_toUInt32 (n : Int32) : (n.toUInt32.toNat : Int) = n.toInt % 4294967296 := by
  have hsigned : n.toInt = (n.toUInt32.toNat : Int).bmod 4294967296 :=
    n.toBitVec.toInt_eq_toNat_bmod
  have hlt := n.toUInt32.toNat_lt
  have hmod := Int.bmod_emod (x := (n.toUInt32.toNat : Int)) (m := 4294967296)
  omega

end OwnerRules.Bytes
