import SkillKit.Text.Utf8
import Mathlib.Tactic.Common

/-!
# Texts and their bytes

The bytes of a text are decoded to that text, strictly (`decode?_eq_some_iff`) and forgivingly
(`decodeForgiving_toUTF8`): on well formed bytes the forgiving decoder replaces nothing.
-/

namespace SkillKit.Text

open List

/-! ## Strict decoding -/

theorem decode?_eq_some_iff {b : ByteArray} {s : String} : decode? b = some s ↔ b = s.toUTF8 := by
  unfold decode? String.fromUTF8?
  split
  · rw [Option.some.injEq, ← String.toByteArray_inj]
    rfl
  · rename_i hvalid
    constructor
    · intro h
      cases h
    · rintro rfl
      exact absurd s.isValidUTF8 hvalid

theorem decode?_toUTF8 (s : String) : decode? s.toUTF8 = some s :=
  decode?_eq_some_iff.mpr rfl

/-! ## Bytes as lists -/

theorem toList_loop (b : ByteArray) (i : Nat) (done : List UInt8) :
    ByteArray.toList.loop b i done = done.reverse ++ b.data.toList.drop i := by
  fun_induction ByteArray.toList.loop b i done with
  | case1 i done hi ih =>
    have hlength : i < b.data.toList.length := by simpa using hi
    have hget : b.get! i = b.data.toList[i] := by
      exact getElem!_pos b.data i hi
    rw [ih, drop_eq_getElem_cons hlength, hget]
    simp
  | case2 i done hi =>
    have hlength : b.data.toList.length ≤ i := by simpa using hi
    simp [drop_eq_nil_of_le hlength]

theorem toList_eq_data (b : ByteArray) : b.toList = b.data.toList := by
  rw [ByteArray.toList, toList_loop]
  simp

theorem toList_toUTF8 (s : String) : s.toUTF8.toList = s.toList.flatMap String.utf8EncodeChar := by
  have hbytes : s.toUTF8 = (s.toList.flatMap String.utf8EncodeChar).toByteArray := by
    rw [String.toUTF8_eq_toByteArray, ← utf8Encode, ← String.toByteArray_ofList,
      String.ofList_toList]
  rw [toList_eq_data, hbytes, data_toByteArray]

/-! ## Forgiving decoding -/

theorem decodeFrom_start {n : Nat} {g : Begun} (hn : n < 256) (h : startByte n = .ok g)
    (rest : List UInt8) : decodeFrom none (UInt8.ofNat n :: rest) = decodeFrom (some g) rest := by
  have hbyte : (UInt8.ofNat n).toNat = n := by
    rw [UInt8.toNat_ofNat']
    omega
  rw [decodeFrom]
  simp only [hbyte, h]

section Continuation

variable (bits : Nat) {low high x : Nat} (hlow : low ≤ x % 64 + 128) (hhigh : x % 64 + 128 ≤ high)
variable (rest : List UInt8)

include hlow hhigh

theorem decodeFrom_middle (more : Nat) :
    decodeFrom (some ⟨bits, more + 2, low, high⟩) (UInt8.ofNat (x % 64 + 128) :: rest) =
      decodeFrom (some ⟨bits * 64 + x % 64, more + 1, 0x80, 0xbf⟩) rest := by
  have hbyte : (UInt8.ofNat (x % 64 + 128)).toNat = x % 64 + 128 := by
    rw [UInt8.toNat_ofNat']
    omega
  rw [decodeFrom]
  simp only [hbyte, hlow, hhigh]
  simp

theorem decodeFrom_last :
    decodeFrom (some ⟨bits, 1, low, high⟩) (UInt8.ofNat (x % 64 + 128) :: rest) =
      Char.ofNat (bits * 64 + x % 64) :: decodeFrom none rest := by
  have hbyte : (UInt8.ofNat (x % 64 + 128)).toNat = x % 64 + 128 := by
    rw [UInt8.toNat_ofNat']
    omega
  rw [decodeFrom]
  simp only [hbyte, hlow, hhigh]
  simp

end Continuation

theorem decodeFrom_utf8EncodeChar (c : Char) (rest : List UInt8) :
    decodeFrom none (String.utf8EncodeChar c ++ rest) = c :: decodeFrom none rest := by
  have hback : Char.ofNat c.val.toNat = c := Char.ofNat_toNat c
  have hvalid : c.val.toNat < 0xd800 ∨ 0xdfff < c.val.toNat ∧ c.val.toNat < 0x110000 := c.valid
  rw [String.utf8EncodeChar]
  generalize c.val.toNat = v at hback hvalid
  split
  · -- one byte
    have hbyte : (UInt8.ofNat v).toNat = v := by
      rw [UInt8.toNat_ofNat']
      omega
    have hstart : startByte v = .error c := by
      rw [startByte, if_pos (by omega), hback]
    rw [cons_append, nil_append, decodeFrom]
    simp only [hbyte, hstart]
  split
  · -- two bytes
    have hstart : startByte (v / 64 % 32 + 192) = .ok ⟨v / 64, 1, 0x80, 0xbf⟩ := by
      have hbits : v / 64 % 32 + 192 - 0xc0 = v / 64 := by omega
      rw [startByte, if_neg (by omega), if_pos (by simp; omega), hbits]
    have hvalue : v / 64 * 64 + v % 64 = v := by omega
    simp only [cons_append, nil_append]
    rw [decodeFrom_start (by omega) hstart, decodeFrom_last _ (by omega) (by omega), hvalue, hback]
  split
  · -- three bytes; a first byte of its own bounds the second one from below or above
    have hstart : startByte (v / 4096 % 16 + 224) = .ok ⟨v / 4096, 2,
        if v / 4096 % 16 + 224 == 0xe0 then 0xa0 else 0x80,
        if v / 4096 % 16 + 224 == 0xed then 0x9f else 0xbf⟩ := by
      have hbits : v / 4096 % 16 + 224 - 0xe0 = v / 4096 := by omega
      rw [startByte, if_neg (by omega), if_neg (by simp), if_pos (by simp; omega), hbits]
    have hvalue : (v / 4096 * 64 + v / 64 % 64) * 64 + v % 64 = v := by omega
    simp only [cons_append, nil_append]
    rw [decodeFrom_start (by omega) hstart,
      decodeFrom_middle _ (by simp only [beq_iff_eq]; split <;> omega)
        (by simp only [beq_iff_eq]; split <;> omega),
      decodeFrom_last _ (by omega) (by omega), hvalue, hback]
  · -- four bytes
    have hstart : startByte (v / 262144 % 8 + 240) = .ok ⟨v / 262144, 3,
        if v / 262144 % 8 + 240 == 0xf0 then 0x90 else 0x80,
        if v / 262144 % 8 + 240 == 0xf4 then 0x8f else 0xbf⟩ := by
      have hbits : v / 262144 % 8 + 240 - 0xf0 = v / 262144 := by omega
      rw [startByte, if_neg (by omega), if_neg (by simp), if_neg (by simp),
        if_pos (by simp; omega), hbits]
    have hvalue : ((v / 262144 * 64 + v / 4096 % 64) * 64 + v / 64 % 64) * 64 + v % 64 = v := by
      omega
    simp only [cons_append, nil_append]
    rw [decodeFrom_start (by omega) hstart,
      decodeFrom_middle _ (by simp only [beq_iff_eq]; split <;> omega)
        (by simp only [beq_iff_eq]; split <;> omega),
      decodeFrom_middle _ (by omega) (by omega), decodeFrom_last _ (by omega) (by omega), hvalue,
      hback]

theorem decodeFrom_flatMap (cs : List Char) :
    decodeFrom none (cs.flatMap String.utf8EncodeChar) = cs := by
  induction cs with
  | nil => rfl
  | cons c rest ih => rw [flatMap_cons, decodeFrom_utf8EncodeChar, ih]

theorem decodeForgiving_toUTF8 (s : String) : decodeForgiving s.toUTF8 = s := by
  rw [decodeForgiving, toList_toUTF8, decodeFrom_flatMap, String.ofList_toList]

end SkillKit.Text
