import PnetManager.CText

/-!
# Octets of a 32-bit word

A word is put together from four octets by shifts, taken apart by shifts and a
mask, and laid out in the memory of a little-endian host.
-/

namespace PnetManager.Word32
open CText (Byte)

def quad (a b c d : UInt32) : UInt32 := (a <<< 24) ||| (b <<< 16) ||| (c <<< 8) ||| d

def field (v k : UInt32) : UInt32 := (v >>> k) &&& 0xFF

def leBytes (v : UInt32) : List Byte :=
  [(field v 0).toUInt8, (field v 8).toUInt8, (field v 16).toUInt8, (field v 24).toUInt8]

def htonl (v : UInt32) : UInt32 := quad (field v 0) (field v 8) (field v 16) (field v 24)

def ofOctets (a b c d : Byte) : UInt32 := quad a.toUInt32 b.toUInt32 c.toUInt32 d.toUInt32

theorem toNat_quad {a b c d : UInt32} (ha : a.toNat < 256) (hb : b.toNat < 256)
    (hc : c.toNat < 256) (hd : d.toNat < 256) :
    (quad a b c d).toNat = a.toNat * 2 ^ 24 + b.toNat * 2 ^ 16 + c.toNat * 2 ^ 8 + d.toNat := by
  have h1 : b.toNat <<< 16 < 2 ^ 24 := by rw [Nat.shiftLeft_eq]; omega
  have h2 : c.toNat <<< 8 < 2 ^ 16 := by rw [Nat.shiftLeft_eq]; omega
  have h3 : d.toNat < 2 ^ 8 := by omega
  have hsa : a.toNat <<< 24 < 2 ^ 32 := by rw [Nat.shiftLeft_eq]; omega
  have hsb : b.toNat <<< 16 < 2 ^ 32 := by omega
  have hsc : c.toNat <<< 8 < 2 ^ 32 := by omega
  simp only [quad, UInt32.toNat_or, UInt32.toNat_shiftLeft, UInt32.reduceToNat, Nat.reduceMod,
    Nat.mod_eq_of_lt hsa, Nat.mod_eq_of_lt hsb, Nat.mod_eq_of_lt hsc]
  -- the octets occupy disjoint bits, so each `|` is a sum
  have e1 : a.toNat <<< 24 ||| b.toNat <<< 16 = (a.toNat * 2 ^ 8 + b.toNat) <<< 16 := by
    rw [← Nat.shiftLeft_add_eq_or_of_lt h1]
    simp only [Nat.shiftLeft_eq]
    omega
  have e2 : (a.toNat * 2 ^ 8 + b.toNat) <<< 16 ||| c.toNat <<< 8 =
      (a.toNat * 2 ^ 16 + b.toNat * 2 ^ 8 + c.toNat) <<< 8 := by
    rw [← Nat.shiftLeft_add_eq_or_of_lt h2]
    simp only [Nat.shiftLeft_eq]
    omega
  rw [e1, e2, ← Nat.shiftLeft_add_eq_or_of_lt h3, Nat.shiftLeft_eq]
  omega

theorem toNat_field (v k : UInt32) (hk : k.toNat < 32) :
    (field v k).toNat = v.toNat / 2 ^ k.toNat % 256 := by
  have h := Nat.and_two_pow_sub_one_eq_mod (v.toNat >>> k.toNat) 8
  simp only [field, UInt32.toNat_and, UInt32.toNat_shiftRight, Nat.mod_eq_of_lt hk,
    UInt32.reduceToNat]
  rw [← Nat.shiftRight_eq_div_pow]
  simpa using h

theorem toNat_field_lt (v k : UInt32) : (field v k).toNat < 256 := by
  have h : (field v k).toNat ≤ 255 := by
    simpa [field] using Nat.and_le_right (n := (v >>> k).toNat) (m := 255)
  omega

theorem toNat_ofOctets (a b c d : Byte) :
    (ofOctets a b c d).toNat =
      a.toNat * 2 ^ 24 + b.toNat * 2 ^ 16 + c.toNat * 2 ^ 8 + d.toNat := by
  have h (x : Byte) : x.toUInt32.toNat < 256 := by simpa using x.toNat_lt
  rw [ofOctets, toNat_quad (h a) (h b) (h c) (h d)]
  simp

theorem ofOctets_fields (a b c d : Byte) :
    (field (ofOctets a b c d) 24).toUInt8 = a ∧ (field (ofOctets a b c d) 16).toUInt8 = b ∧
    (field (ofOctets a b c d) 8).toUInt8 = c ∧ (field (ofOctets a b c d) 0).toUInt8 = d := by
  have ha := a.toNat_lt
  have hb := b.toNat_lt
  have hc := c.toNat_lt
  have hd := d.toNat_lt
  refine ⟨?_, ?_, ?_, ?_⟩ <;> apply UInt8.toNat_inj.mp <;>
    simp only [UInt32.toNat_toUInt8] <;> rw [toNat_field _ _ (by decide), toNat_ofOctets] <;>
    simp only [UInt32.reduceToNat] <;> omega

theorem quad_fields (v : UInt32) :
    quad (field v 24) (field v 16) (field v 8) (field v 0) = v := by
  have hv := v.toNat_lt
  apply UInt32.toNat_inj.mp
  rw [toNat_quad (toNat_field_lt _ _) (toNat_field_lt _ _) (toNat_field_lt _ _)
    (toNat_field_lt _ _)]
  iterate 4 rw [toNat_field _ _ (by decide)]
  simp only [UInt32.reduceToNat]
  omega

theorem leBytes_ofOctets (a b c d : Byte) : leBytes (ofOctets a b c d) = [d, c, b, a] := by
  obtain ⟨h24, h16, h8, h0⟩ := ofOctets_fields a b c d
  simp only [leBytes, h24, h16, h8, h0]

theorem field_toUInt8_toUInt32 (v k : UInt32) : (field v k).toUInt8.toUInt32 = field v k := by
  apply UInt32.toNat_inj.mp
  simp [Nat.mod_eq_of_lt (toNat_field_lt v k)]

theorem htonl_eq_ofOctets (v : UInt32) :
    htonl v = ofOctets (field v 0).toUInt8 (field v 8).toUInt8 (field v 16).toUInt8
      (field v 24).toUInt8 := by
  simp only [htonl, ofOctets, field_toUInt8_toUInt32]

end PnetManager.Word32
