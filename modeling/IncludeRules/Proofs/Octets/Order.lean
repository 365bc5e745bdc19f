import IncludeRules.Proofs.Octets.Strict
import Mathlib.Data.String.Basic

/-! Texts in the order of their characters are in the order of their octets. -/

namespace IncludeRules.Octets

variable {v w k : Nat} {c d : Char} {a b : Octets} {cs ds : List Char}

/-- How many octets of a character follow its first one. -/
def tailLength (v : Nat) : Nat :=
  if v ≤ 127 then 0 else if v ≤ 2047 then 1 else if v ≤ 65535 then 2 else 3

/-- The first octet of a character with number `v`: a mark for the length, and the highest bits. -/
def leading (v : Nat) : Nat :=
  if v ≤ 127 then v
  else if v ≤ 2047 then v / 64 + 192
  else if v ≤ 65535 then v / 4096 + 224
  else v / 262144 + 240

theorem utf8EncodeChar_eq_leading (c : Char) :
    String.utf8EncodeChar c =
      .ofNat (leading c.val.toNat) :: tail c.val.toNat (tailLength c.val.toNat) := by
  have hvalid : c.val.toNat < 0xD800 ∨ 0xDFFF < c.val.toNat ∧ c.val.toNat < 0x110000 := c.valid
  rw [String.utf8EncodeChar]
  generalize c.val.toNat = v at hvalid
  unfold leading tailLength
  have hsquare : 64 ^ 2 = 4096 := rfl
  split_ifs with h1 h2 h3
  · rfl
  · have hbits : v / 64 % 32 = v / 64 := by omega
    simp only [tail, hbits, Nat.pow_zero, Nat.div_one]
  · have hbits : v / 4096 % 16 = v / 4096 := by omega
    simp only [tail, hbits, Nat.pow_zero, Nat.pow_one, Nat.div_one]
  · have hbits : v / 262144 % 8 = v / 262144 := by omega
    simp only [tail, hbits, hsquare, Nat.pow_zero, Nat.pow_one, Nat.div_one]

theorem leading_lt (hv : v < 0x110000) : leading v < 256 := by
  unfold leading
  split_ifs <;> omega

/-- A greater character has a greater first octet, or the same one and as many octets after it that
hold greater bits. -/
theorem leading_lt_or_eq (h : v < w) (hw : w < 0x110000) :
    leading v < leading w ∨ leading v = leading w ∧ tailLength v = tailLength w ∧
      v % 64 ^ tailLength v < w % 64 ^ tailLength v := by
  unfold leading tailLength
  split_ifs <;> omega

theorem lt_of_toNat_lt {m n : Nat} (hm : m < n) (hn : n < 256) : UInt8.ofNat m < UInt8.ofNat n := by
  rw [UInt8.lt_iff_toNat_lt, toNat_ofNat hn, toNat_ofNat (by omega)]
  exact hm

/-- Six bits of each number are compared at a time, the highest first. -/
theorem tail_append_lt (h : v % 64 ^ k < w % 64 ^ k) (a b : Octets) :
    tail v k ++ a < tail w k ++ b := by
  induction k with
  | zero =>
    rw [Nat.pow_zero, Nat.mod_one, Nat.mod_one] at h
    exact absurd h (Nat.lt_irrefl 0)
  | succ k ih =>
    rw [Nat.mod_pow_succ, Nat.mod_pow_succ] at h
    have hv : v % 64 ^ k < 64 ^ k := Nat.mod_lt _ (Nat.pow_pos (by decide))
    have hw : w % 64 ^ k < 64 ^ k := Nat.mod_lt _ (Nat.pow_pos (by decide))
    have hsix : w / 64 ^ k % 64 < 64 := Nat.mod_lt _ (by decide)
    rw [tail, tail, List.cons_append, List.cons_append, List.cons_lt_cons_iff]
    rcases Nat.lt_trichotomy (v / 64 ^ k % 64) (w / 64 ^ k % 64) with hlt | heq | hgt
    · exact Or.inl (lt_of_toNat_lt (by omega) (by omega))
    · rw [heq] at h ⊢
      exact Or.inr ⟨rfl, ih (by omega)⟩
    · have hmul : 64 ^ k * (w / 64 ^ k % 64 + 1) ≤ 64 ^ k * (v / 64 ^ k % 64) :=
        Nat.mul_le_mul_left _ hgt
      rw [Nat.mul_add, Nat.mul_one] at hmul
      omega

/-- What follows two characters does not change their order. -/
theorem utf8EncodeChar_append_lt (h : c < d) (a b : Octets) :
    String.utf8EncodeChar c ++ a < String.utf8EncodeChar d ++ b := by
  have hlt : c.val.toNat < d.val.toNat := UInt32.lt_iff_toNat_lt.mp h
  have hd : d.val.toNat < 0x110000 := by
    rcases d.valid with hd | hd <;> omega
  rw [utf8EncodeChar_eq_leading, utf8EncodeChar_eq_leading, List.cons_append, List.cons_append,
    List.cons_lt_cons_iff]
  rcases leading_lt_or_eq hlt hd with hleading | ⟨hleading, hlength, hbits⟩
  · exact Or.inl (lt_of_toNat_lt hleading (leading_lt hd))
  · rw [hleading, ← hlength]
    exact Or.inr ⟨rfl, tail_append_lt hbits a b⟩

theorem flatMap_utf8EncodeChar_lt (h : cs < ds) :
    cs.flatMap String.utf8EncodeChar < ds.flatMap String.utf8EncodeChar := by
  induction cs generalizing ds with
  | nil =>
    cases ds with
    | nil => exact absurd h (List.lt_irrefl [])
    | cons d ds =>
      rw [List.flatMap_cons, utf8EncodeChar_eq_leading]
      exact List.nil_lt_cons _ _
  | cons c cs ih =>
    cases ds with
    | nil => exact absurd h (List.not_lt_nil _)
    | cons d ds =>
      rw [List.flatMap_cons, List.flatMap_cons]
      rcases List.cons_lt_cons_iff.mp h with hcd | ⟨rfl, hrest⟩
      · exact utf8EncodeChar_append_lt hcd _ _
      · exact List.append_left_lt (ih hrest)

/-- Texts are compared by their characters, which compares their UTF-8 forms octet by octet. -/
theorem ofString_lt_ofString_iff {s t : String} : ofString s < ofString t ↔ s < t := by
  have hmono {s t : String} (h : s < t) : ofString s < ofString t :=
    flatMap_utf8EncodeChar_lt (String.lt_iff_toList_lt.mp h)
  refine ⟨fun h => ?_, hmono⟩
  rcases lt_trichotomy s t with hlt | rfl | hgt
  · exact hlt
  · exact absurd h (List.lt_irrefl _)
  · exact absurd (hmono hgt) (List.lt_asymm h)

end IncludeRules.Octets
