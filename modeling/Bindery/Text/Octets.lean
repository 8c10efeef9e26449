import Bindery.Text.Utf8

/-!
# Bindery — Text — Octets

Byte strings as texts: one character for each byte, the one that has its number.  In this form a
text can be cut, searched and compared byte by byte, and bytes that are no text in any encoding
have one too (`toBytes_ofBytes`).
-/

namespace Bindery.Text.Octets

/-- The byte string of some bytes. -/
def ofBytes (bytes : List UInt8) : String :=
  String.ofList (bytes.map fun b => Char.ofNat b.toNat)

/-- The bytes of a byte string. -/
def toBytes (s : String) : List UInt8 :=
  s.toList.map fun c => UInt8.ofNat c.toNat

/-- The byte string that a text is encoded as. -/
def ofText (s : String) : String :=
  ofBytes (Utf8.encode s)

/-- The text that a byte string encodes. -/
def toText (s : String) : String :=
  Utf8.lossy (toBytes s)

theorem toNat_ofNat_byte (b : UInt8) : (Char.ofNat b.toNat).toNat = b.toNat := by
  have h : b.toNat < 256 := b.toNat_lt
  have hv : b.toNat.isValidChar := Or.inl (by omega)
  unfold Char.ofNat
  rw [dif_pos hv]
  rfl

theorem toBytes_ofBytes (bytes : List UInt8) : toBytes (ofBytes bytes) = bytes := by
  have h : ∀ b : UInt8, UInt8.ofNat (Char.ofNat b.toNat).toNat = b := fun b => by
    rw [toNat_ofNat_byte]; simp
  induction bytes with
  | nil => rfl
  | cons b bs ih =>
    simp only [toBytes, ofBytes, String.toList_ofList, List.map_cons, List.map_map] at ih ⊢
    rw [h b, ih]

end Bindery.Text.Octets
