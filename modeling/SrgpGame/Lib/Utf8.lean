import Mathlib.Algebra.GroupWithZero.Nat
import Mathlib.Tactic.Common

set_option autoImplicit false

/-!
# Strings as bytes

Well-formed Unicode strings are Lean strings. Java's `getBytes("UTF-8")` writes their UTF-8 form.
The constructor `new String(bytes, "UTF-8")` reads it back; on bytes that are not valid UTF-8 its
result is unspecified, and here it is a parameter.

## Main results

* `Utf8.decode_encode` — a string is read back from its bytes.
* `Utf8.sum_utf16Size_eq_iff` — the strings that have as many UTF-16 units as bytes.
-/

namespace Utf8

/-- The UTF-8 bytes of a string. -/
def encode (s : String) : List UInt8 := s.toByteArray.data.toList

/-- The string that valid UTF-8 bytes stand for. -/
def decode? (bs : List UInt8) : Option String := String.fromUTF8? ⟨bs.toArray⟩

/-- The string made of some bytes; `malformed` answers for bytes that are not valid UTF-8. -/
def decode (malformed : List UInt8 → String) (bs : List UInt8) : String :=
  (decode? bs).getD (malformed bs)

lemma length_encode (s : String) : (encode s).length = s.utf8ByteSize := by
  rw [encode, Array.length_toList]
  rfl

lemma decode?_encode (s : String) : decode? (encode s) = some s := by
  have hbytes : (⟨(encode s).toArray⟩ : ByteArray) = s.toByteArray := rfl
  rw [decode?, hbytes, String.fromUTF8?, dif_pos s.isValidUTF8]
  rfl

/-- **A string is read back from its bytes**, whatever is answered for malformed ones. -/
@[simp] theorem decode_encode (malformed : List UInt8 → String) (s : String) :
    decode malformed (encode s) = s := by
  rw [decode, decode?_encode, Option.getD_some]

/-! ## Lengths

A string has no more UTF-16 units than bytes, and as many only if it is ASCII.
-/

/-- How many UTF-16 units a character takes. -/
def utf16Size (c : Char) : ℕ := if c.toNat < 0x10000 then 1 else 2

lemma length_encode_eq_sum (s : String) :
    (encode s).length = (s.toList.map Char.utf8Size).sum := by
  have hbytes : s.toByteArray = s.toList.utf8Encode := by
    rw [← String.toByteArray_ofList, String.ofList_toList]
  rw [encode, hbytes, List.utf8Encode]
  simp

lemma utf16Size_le (c : Char) : utf16Size c ≤ c.utf8Size := by
  unfold utf16Size Char.utf8Size
  simp only [Char.toNat, UInt32.le_iff_toNat_le]
  split_ifs <;> simp_all; omega

lemma utf16Size_eq_iff (c : Char) : utf16Size c = c.utf8Size ↔ c.toNat < 128 := by
  unfold utf16Size Char.utf8Size
  simp only [Char.toNat, UInt32.le_iff_toNat_le]
  split_ifs <;> simp_all <;> omega

lemma sum_utf16Size_le (cs : List Char) : (cs.map utf16Size).sum ≤ (cs.map Char.utf8Size).sum := by
  induction cs with
  | nil => exact Nat.le_refl 0
  | cons c cs ih =>
    have hc := utf16Size_le c
    simp only [List.map_cons, List.sum_cons]
    omega

/-- **As many units as bytes**: just the ASCII strings. -/
theorem sum_utf16Size_eq_iff (cs : List Char) :
    (cs.map utf16Size).sum = (cs.map Char.utf8Size).sum ↔ ∀ c ∈ cs, c.toNat < 128 := by
  induction cs with
  | nil => simp
  | cons c cs ih =>
    have hc := utf16Size_le c
    have hcs := sum_utf16Size_le cs
    have hboth : (utf16Size c + (cs.map utf16Size).sum = c.utf8Size + (cs.map Char.utf8Size).sum) ↔
        utf16Size c = c.utf8Size ∧ (cs.map utf16Size).sum = (cs.map Char.utf8Size).sum := by
      omega
    simp only [List.map_cons, List.sum_cons, List.forall_mem_cons]
    rw [hboth, utf16Size_eq_iff, ih]

end Utf8
