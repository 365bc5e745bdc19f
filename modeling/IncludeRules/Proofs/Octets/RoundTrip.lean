import IncludeRules.Octets
import Mathlib.Tactic.SplitIfs

/-! The UTF-8 form of a text is read as that text. -/

namespace IncludeRules.Octets

variable {seen left m n : Nat} {low high : UInt8} {code : Nat}

theorem toNat_ofNat (h : n < 256) : (UInt8.ofNat n).toNat = n := by
  rw [UInt8.toNat_ofNat', Nat.mod_eq_of_lt h]

/-- An octet within the bounds adds its six low bits to the character at hand. -/
theorem step_within (hm : m < 64) (hlow : low.toNat ≤ m + 128) (hhigh : m + 128 ≤ high.toNat) :
    step (some ⟨seen, left, low, high, code⟩) (.ofNat (m + 128)) =
      if left = 1 then ([.char (.ofNat (code * 64 + m))], none)
      else ([], some ⟨seen + 1, left - 1, 0x80, 0xBF, code * 64 + m⟩) := by
  have hb : (UInt8.ofNat (m + 128)).toNat = m + 128 := toNat_ofNat (by omega)
  have hwithin : low ≤ .ofNat (m + 128) ∧ .ofNat (m + 128) ≤ high := by
    rw [UInt8.le_iff_toNat_le, UInt8.le_iff_toNat_le, hb]
    exact ⟨hlow, hhigh⟩
  have hbits : (UInt8.ofNat (m + 128)).toNat - 0x80 = m := by
    rw [hb, Nat.add_sub_cancel]
  simp only [step, if_pos hwithin, hbits]

/-- The upper bound on octets after the second one, and on most second ones. -/
theorem tail_le (hm : m < 64) : m + 128 ≤ (0xBF : UInt8).toNat :=
  show m + 128 ≤ 0xBF by omega

/-- The pieces that octets complete from a state on, and the state that they end in. -/
def feed (state : Option Unfinished) : Octets → List Piece × Option Unfinished
  | [] => ([], state)
  | b :: rest =>
    let now := step state b
    let later := feed now.2 rest
    (now.1 ++ later.1, later.2)

theorem feed_append (state : Option Unfinished) (b rest : Octets) :
    feed state (b ++ rest) =
      ((feed state b).1 ++ (feed (feed state b).2 rest).1, (feed (feed state b).2 rest).2) := by
  induction b generalizing state with
  | nil => rfl
  | cons x b ih => simp only [List.cons_append, feed, ih, List.append_assoc]

theorem lenientFrom_cons (state : Option Unfinished) (x : UInt8) (b : Octets) :
    lenientFrom state (x :: b) =
      (step state x).1.map Piece.lenient ++ lenientFrom (step state x).2 b := rfl

/-- A lenient reading replaces the stray pieces, and the unfinished one at the end. -/
theorem lenientFrom_eq (state : Option Unfinished) (b : Octets) :
    lenientFrom state b = (feed state b).1.map Piece.lenient ++
      if (feed state b).2.isSome then [replacement] else [] := by
  induction b generalizing state with
  | nil => rfl
  | cons x b ih =>
    rw [lenientFrom_cons, feed, ih]
    dsimp only
    rw [List.map_append, List.append_assoc]

/-- The last octet of a character. -/
theorem feed_last (hm : m < 64) :
    feed (some ⟨seen, 1, 0x80, 0xBF, code⟩) [.ofNat (m + 128)] =
      ([.char (.ofNat (code * 64 + m))], none) := by
  rw [feed, step_within hm (Nat.le_add_left _ _) (tail_le hm), if_pos rfl]
  rfl

/-- An octet of a character that is neither its first nor its last. -/
theorem feed_next (hm : m < 64) (hlow : low.toNat ≤ m + 128) (hhigh : m + 128 ≤ high.toNat)
    (hleft : left ≠ 0) (rest : Octets) :
    feed (some ⟨seen, left + 1, low, high, code⟩) (.ofNat (m + 128) :: rest) =
      feed (some ⟨seen + 1, left, 0x80, 0xBF, code * 64 + m⟩) rest := by
  rw [feed, step_within hm hlow hhigh, if_neg (by omega)]
  rfl

theorem feed_one (hn : n < 0x80) : feed none [.ofNat n] = ([.char (.ofNat n)], none) := by
  rw [feed, step, first, toNat_ofNat (by omega), if_pos hn]
  rfl

theorem feed_two (hlow : 2 ≤ n) (hhigh : n < 32) (rest : Octets) :
    feed none (.ofNat (n + 192) :: rest) = feed (some ⟨1, 1, 0x80, 0xBF, n⟩) rest := by
  rw [feed, step, first, toNat_ofNat (by omega), if_neg (by omega), if_neg (by omega),
    if_pos (by omega), Nat.add_sub_cancel]
  rfl

theorem feed_three (hn : n < 16) (rest : Octets) :
    feed none (.ofNat (n + 224) :: rest) =
      feed (some ⟨1, 2, if n = 0 then 0xA0 else 0x80, if n = 13 then 0x9F else 0xBF, n⟩) rest := by
  have hzero : n + 224 = 0xE0 ↔ n = 0 := by omega
  have hsurrogate : n + 224 = 0xED ↔ n = 13 := by omega
  rw [feed, step, first, toNat_ofNat (by omega), if_neg (by omega), if_neg (by omega),
    if_neg (by omega), if_pos (by omega), Nat.add_sub_cancel]
  simp only [hzero, hsurrogate]
  rfl

theorem feed_four (hn : n < 5) (rest : Octets) :
    feed none (.ofNat (n + 240) :: rest) =
      feed (some ⟨1, 3, if n = 0 then 0x90 else 0x80, if n = 4 then 0x8F else 0xBF, n⟩) rest := by
  have hzero : n + 240 = 0xF0 ↔ n = 0 := by omega
  have hlast : n + 240 = 0xF4 ↔ n = 4 := by omega
  rw [feed, step, first, toNat_ofNat (by omega), if_neg (by omega), if_neg (by omega),
    if_neg (by omega), if_neg (by omega), if_pos (by omega), Nat.add_sub_cancel]
  simp only [hzero, hlast]
  rfl

/-- The octets of a character are read as that character. -/
theorem feed_char (c : Char) : feed none (String.utf8EncodeChar c) = ([.char c], none) := by
  have hvalid : c.val.toNat < 0xD800 ∨ 0xDFFF < c.val.toNat ∧ c.val.toNat < 0x110000 := c.valid
  have hchar : Char.ofNat c.val.toNat = c := Char.ofNat_toNat c
  rw [String.utf8EncodeChar]
  generalize c.val.toNat = v at hvalid hchar
  split_ifs with h1 h2 h3
  · rw [feed_one (by omega), hchar]
  · have hcode : v / 64 % 32 * 64 + v % 64 = v := by omega
    rw [feed_two (by omega) (by omega), feed_last (by omega), hcode, hchar]
  · -- Long forms and surrogates are what the bounds on the second octet exclude.
    have hlow : (if v / 4096 % 16 = 0 then (0xA0 : UInt8) else 0x80).toNat ≤ v / 64 % 64 + 128 := by
      split_ifs
      · exact show 0xA0 ≤ v / 64 % 64 + 128 by omega
      · exact Nat.le_add_left _ _
    have hhigh : v / 64 % 64 + 128 ≤ (if v / 4096 % 16 = 13 then (0x9F : UInt8) else 0xBF).toNat := by
      split_ifs
      · exact show v / 64 % 64 + 128 ≤ 0x9F by omega
      · exact tail_le (by omega)
    have hcode : (v / 4096 % 16 * 64 + v / 64 % 64) * 64 + v % 64 = v := by omega
    rw [feed_three (by omega), feed_next (by omega) hlow hhigh (by omega), feed_last (by omega),
      hcode, hchar]
  · -- The last code point bounds the second octet from above.
    have hlow : (if v / 262144 % 8 = 0 then (0x90 : UInt8) else 0x80).toNat ≤ v / 4096 % 64 + 128 := by
      split_ifs
      · exact show 0x90 ≤ v / 4096 % 64 + 128 by omega
      · exact Nat.le_add_left _ _
    have hhigh : v / 4096 % 64 + 128 ≤ (if v / 262144 % 8 = 4 then (0x8F : UInt8) else 0xBF).toNat := by
      split_ifs
      · exact show v / 4096 % 64 + 128 ≤ 0x8F by omega
      · exact tail_le (by omega)
    have hcode : ((v / 262144 % 8 * 64 + v / 4096 % 64) * 64 + v / 64 % 64) * 64 + v % 64 = v := by
      omega
    rw [feed_four (by omega), feed_next (by omega) hlow hhigh (by omega),
      feed_next (by omega) (Nat.le_add_left _ _) (tail_le (by omega)) (by omega),
      feed_last (by omega), hcode, hchar]

theorem feed_ofString (s : String) : feed none (ofString s) = (s.toList.map .char, none) := by
  unfold ofString
  induction s.toList with
  | nil => rfl
  | cons c s ih =>
    rw [List.flatMap_cons, feed_append, feed_char, ih, List.map_cons, List.singleton_append]

theorem ofString_append (s t : String) : ofString (s ++ t) = ofString s ++ ofString t := by
  simp [ofString]

theorem lenient_ofString (s : String) : lenient (ofString s) = s := by
  rw [lenient, lenientFrom_eq, feed_ofString, List.map_map]
  exact (congrArg String.ofList (by simp [Function.comp_def, Piece.lenient])).trans s.ofList_toList

theorem ofString_eq_nil_iff {s : String} : ofString s = [] ↔ s = "" := by
  refine ⟨fun h => ?_, fun h => h ▸ rfl⟩
  rw [← lenient_ofString s, h]
  rfl

end IncludeRules.Octets
