import IncludeRules.Proofs.Octets.RoundTrip
import Mathlib.Algebra.Group.Nat.Defs

/-! The strict reading accepts exactly the UTF-8 forms of texts. -/

namespace IncludeRules.Octets

variable {state : Option Unfinished} {u : Unfinished} {seen b : Octets} {cs : List Char} {n v : Nat}

/-- The last octets of the character with number `v`, each with six of its bits. -/
def tail (v : Nat) : Nat → Octets
  | 0 => []
  | k + 1 => .ofNat (v / 64 ^ k % 64 + 128) :: tail v k

/-- What was seen of an unfinished character: every character that has its bits so far, and whose
next octet is within the bounds, starts with these octets. -/
structure Starts (u : Unfinished) (seen : Octets) : Prop where
  due : u.left ≠ 0
  low_ge : 0x80 ≤ u.low.toNat
  high_le : u.high.toNat ≤ 0xBF
  encode : ∀ v, v / 64 ^ u.left = u.code → u.low.toNat ≤ v / 64 ^ (u.left - 1) % 64 + 128 →
    v / 64 ^ (u.left - 1) % 64 + 128 ≤ u.high.toNat →
    String.utf8EncodeChar (.ofNat v) = seen ++ tail v u.left

def Holds : Option Unfinished → Octets → Prop
  | none, seen => seen = []
  | some u, seen => Starts u seen

theorem toNat_ofNat_char (h : v.isValidChar) : (Char.ofNat v).val.toNat = v := by
  rw [Char.ofNat, dif_pos h]
  rfl

theorem starts_two {x : UInt8} (hx : x.toNat = n + 0xC0) (hlow : 2 ≤ n) (hhigh : n < 32) :
    Starts ⟨1, 1, 0x80, 0xBF, n⟩ [x] where
  due := Nat.one_ne_zero
  low_ge := Nat.le_refl _
  high_le := Nat.le_refl _
  encode v hv _ _ := by
    simp only [Nat.pow_one] at hv
    have hbits : v / 64 % 32 + 192 = x.toNat := by omega
    have hvalid : v.isValidChar := Or.inl (by omega)
    rw [String.utf8EncodeChar, toNat_ofNat_char hvalid]
    simp only [if_neg (show ¬v ≤ 127 by omega), if_pos (show v ≤ 2047 by omega), hbits,
      UInt8.ofNat_toNat, tail, Nat.pow_zero, Nat.div_one, List.singleton_append]

/-- The bounds on the second octet keep out long forms and surrogates. -/
theorem starts_three {x : UInt8} (hx : x.toNat = n + 0xE0) (hn : n < 16) :
    Starts ⟨1, 2, if n = 0 then 0xA0 else 0x80, if n = 13 then 0x9F else 0xBF, n⟩ [x] where
  due := Nat.succ_ne_zero 1
  low_ge := by
    dsimp only
    split <;> decide
  high_le := by
    dsimp only
    split <;> decide
  encode v hv hlow hhigh := by
    dsimp only at hv hlow hhigh
    have hlong : n = 0 → 0xA0 ≤ v / 64 % 64 + 128 := by
      rintro rfl
      exact hlow
    have hsurrogate : n = 13 → v / 64 % 64 + 128 ≤ 0x9F := by
      rintro rfl
      exact hhigh
    have hbits : v / 4096 % 16 + 224 = x.toNat := by omega
    have hvalid : v.isValidChar := by
      by_cases h : v < 0xD800
      · exact Or.inl h
      · exact Or.inr ⟨by omega, by omega⟩
    rw [String.utf8EncodeChar, toNat_ofNat_char hvalid]
    simp only [if_neg (show ¬v ≤ 127 by omega), if_neg (show ¬v ≤ 2047 by omega),
      if_pos (show v ≤ 65535 by omega), hbits, UInt8.ofNat_toNat, tail, Nat.pow_zero, Nat.pow_one,
      Nat.div_one, List.singleton_append]

/-- The bounds on the second octet keep out long forms and numbers beyond the last character. -/
theorem starts_four {x : UInt8} (hx : x.toNat = n + 0xF0) (hn : n < 5) :
    Starts ⟨1, 3, if n = 0 then 0x90 else 0x80, if n = 4 then 0x8F else 0xBF, n⟩ [x] where
  due := Nat.succ_ne_zero 2
  low_ge := by
    dsimp only
    split <;> decide
  high_le := by
    dsimp only
    split <;> decide
  encode v hv hlow hhigh := by
    dsimp only at hv hlow hhigh
    have hlong : n = 0 → 0x90 ≤ v / 4096 % 64 + 128 := by
      rintro rfl
      exact hlow
    have hlast : n = 4 → v / 4096 % 64 + 128 ≤ 0x8F := by
      rintro rfl
      exact hhigh
    have hbits : v / 262144 % 8 + 240 = x.toNat := by omega
    have hvalid : v.isValidChar := Or.inr ⟨by omega, by omega⟩
    have hsquare : 64 ^ 2 = 4096 := rfl
    rw [String.utf8EncodeChar, toNat_ofNat_char hvalid]
    simp only [if_neg (show ¬v ≤ 127 by omega), if_neg (show ¬v ≤ 2047 by omega),
      if_neg (show ¬v ≤ 65535 by omega), hbits, UInt8.ofNat_toNat, tail, Nat.pow_zero, Nat.pow_one,
      hsquare, Nat.div_one, List.singleton_append]

theorem first_cases (x : UInt8) :
    (∃ u, first x = ([], some u) ∧ Starts u [x]) ∨
      (∃ c, first x = ([.char c], none) ∧ String.utf8EncodeChar c = [x]) ∨
      first x = ([.stray 1], none) := by
  unfold first
  dsimp only
  split
  · next h =>
    refine Or.inr (Or.inl ⟨_, rfl, ?_⟩)
    have hvalid : x.toNat.isValidChar := Or.inl (by omega)
    rw [String.utf8EncodeChar, toNat_ofNat_char hvalid, if_pos (by omega), UInt8.ofNat_toNat]
  split
  · exact Or.inr (Or.inr rfl)
  split
  · exact Or.inl ⟨_, rfl, starts_two (by omega) (by omega) (by omega)⟩
  split
  · have hzero : x.toNat = 0xE0 ↔ x.toNat - 0xE0 = 0 := by omega
    have hsurrogate : x.toNat = 0xED ↔ x.toNat - 0xE0 = 13 := by omega
    simp only [hzero, hsurrogate]
    exact Or.inl ⟨_, rfl, starts_three (by omega) (by omega)⟩
  split
  · have hzero : x.toNat = 0xF0 ↔ x.toNat - 0xF0 = 0 := by omega
    have hlast : x.toNat = 0xF4 ↔ x.toNat - 0xF0 = 4 := by omega
    simp only [hzero, hlast]
    exact Or.inl ⟨_, rfl, starts_four (by omega) (by omega)⟩
  · exact Or.inr (Or.inr rfl)

/-- An octet goes on with the character at hand, completes it, or makes a stray piece. The octet may
be that piece; otherwise it is read afresh after it. -/
theorem step_cases (h : Holds state seen) (x : UInt8) :
    (∃ u, step state x = ([], some u) ∧ Starts u (seen ++ [x])) ∨
      (∃ c, step state x = ([.char c], none) ∧ String.utf8EncodeChar c = seen ++ [x]) ∨
      ∃ n pieces next, step state x = (.stray n :: pieces, next) ∧
        ((pieces, next) = ([], none) ∨ (pieces, next) = first x) := by
  cases state with
  | none =>
    subst h
    rcases first_cases x with ⟨u, hu, hstarts⟩ | ⟨c, hc, henc⟩ | hstray
    · exact Or.inl ⟨u, hu, hstarts⟩
    · exact Or.inr (Or.inl ⟨c, hc, henc⟩)
    · exact Or.inr (Or.inr ⟨1, [], none, hstray, Or.inl rfl⟩)
  | some u =>
    obtain ⟨taken, left, low, high, code⟩ := u
    obtain ⟨k, rfl⟩ : ∃ k, left = k + 1 := Nat.exists_eq_succ_of_ne_zero h.due
    by_cases hwithin : low ≤ x ∧ x ≤ high
    · have hlow := UInt8.le_iff_toNat_le.mp hwithin.1
      have hhigh := UInt8.le_iff_toNat_le.mp hwithin.2
      have hlow_ge : 0x80 ≤ low.toNat := h.low_ge
      have hhigh_le : high.toNat ≤ 0xBF := h.high_le
      -- A character that has the bits so far and those of `x` starts with what was seen and `x`.
      have hencode : ∀ v, v / 64 ^ k = code * 64 + (x.toNat - 0x80) →
          String.utf8EncodeChar (.ofNat v) = seen ++ [x] ++ tail v k := by
        intro v hv
        have hcode : v / 64 ^ (k + 1) = code := by
          rw [Nat.pow_succ, ← Nat.div_div_eq_div_mul, hv]
          omega
        have hbits : v / 64 ^ k % 64 + 128 = x.toNat := by omega
        rw [h.encode v hcode (hbits ▸ hlow) (hbits ▸ hhigh), tail, hbits, UInt8.ofNat_toNat,
          List.append_assoc, List.singleton_append]
      simp only [step, if_pos hwithin]
      by_cases hk : k = 0
      · subst hk
        refine Or.inr (Or.inl ⟨_, if_pos rfl, ?_⟩)
        have hlast := hencode (code * 64 + (x.toNat - 0x80)) (Nat.div_one _)
        rwa [tail, List.append_nil] at hlast
      · refine Or.inl ⟨_, if_neg (by omega), hk, Nat.le_refl _, Nat.le_refl _, fun v hv _ _ => ?_⟩
        exact hencode v hv
    · refine Or.inr (Or.inr ⟨taken, (first x).1, (first x).2, ?_, Or.inr rfl⟩)
      simp only [step, if_neg hwithin]

/-- What is read as characters only is the UTF-8 form of these characters. -/
theorem eq_of_feed (h : Holds state seen) (hfeed : feed state b = (cs.map .char, none)) :
    seen ++ b = cs.flatMap String.utf8EncodeChar := by
  induction b generalizing state seen cs with
  | nil =>
    obtain ⟨hcs, rfl⟩ := Prod.mk.inj hfeed
    rw [h, List.map_eq_nil_iff.mp hcs.symm]
    rfl
  | cons x b ih =>
    rw [feed, Prod.mk.injEq] at hfeed
    obtain ⟨hpieces, hnext⟩ := hfeed
    rcases step_cases h x with ⟨u, hu, hstarts⟩ | ⟨c, hc, hencode⟩ | ⟨n, pieces, next, hstray, -⟩
    · rw [hu] at hpieces hnext
      have hholds : Holds (some u) (seen ++ [x]) := hstarts
      have hrest := ih hholds (Prod.ext hpieces hnext)
      rwa [List.append_assoc] at hrest
    · rw [hc] at hpieces hnext
      cases cs with
      | nil => cases hpieces
      | cons d cs =>
        obtain ⟨hd, htail⟩ := List.cons.inj hpieces
        have hholds : Holds none [] := rfl
        have hrest := ih hholds (Prod.ext htail hnext)
        rw [List.nil_append] at hrest
        rw [List.flatMap_cons, ← Piece.char.inj hd, hencode, ← hrest, List.append_assoc]
        rfl
    · rw [hstray] at hpieces
      cases cs with
      | nil => cases hpieces
      | cons d cs => cases hpieces

theorem strictPieces_eq_ok_iff (index : Nat) {pieces : List Piece} :
    strictPieces index pieces = .ok cs ↔ pieces = cs.map .char := by
  induction pieces generalizing index cs with
  | nil => cases cs <;> simp [strictPieces]
  | cons piece pieces ih =>
    cases piece with
    | char c =>
      cases cs with
      | nil =>
        rw [strictPieces]
        cases strictPieces (index + c.utf8Size) pieces <;> simp [Functor.map, Except.map]
      | cons d cs =>
        rw [strictPieces, List.map_cons, List.cons.injEq, ← ih (index + c.utf8Size)]
        cases strictPieces (index + c.utf8Size) pieces <;> simp [Functor.map, Except.map]
    | stray n => cases cs <;> simp [strictPieces]

theorem bind_eq_ok_iff {ε α β : Type} {x : Except ε α} {f : α → Except ε β} {y : β} :
    (x >>= f) = .ok y ↔ ∃ a, x = .ok a ∧ f a = .ok y := by
  cases x <;> simp [bind, Except.bind]

theorem strictFrom_nil (index : Nat) (state : Option Unfinished) :
    strictFrom index state [] = if state.isSome then .error (.cut index) else .ok [] := rfl

theorem strictFrom_cons (index : Nat) (state : Option Unfinished) (x : UInt8) (b : Octets) :
    ∃ next, strictFrom index state (x :: b) = do
      let chars ← strictPieces index (step state x).1
      let later ← strictFrom next (step state x).2 b
      return chars ++ later :=
  ⟨_, rfl⟩

/-- A strict reading goes well where all pieces are characters and none is cut off. -/
theorem strictFrom_eq_ok_iff (index : Nat) :
    strictFrom index state b = .ok cs ↔ feed state b = (cs.map .char, none) := by
  induction b generalizing index state cs with
  | nil => cases state <;> cases cs <;> simp [strictFrom_nil, feed]
  | cons x b ih =>
    obtain ⟨next, hcons⟩ := strictFrom_cons index state x b
    rw [feed, Prod.mk.injEq, hcons]
    constructor
    · intro h
      obtain ⟨chars, hchars, h⟩ := bind_eq_ok_iff.mp h
      obtain ⟨later, hlater, h⟩ := bind_eq_ok_iff.mp h
      cases h
      have hpieces : (step state x).1 = chars.map .char :=
        (strictPieces_eq_ok_iff _).mp hchars
      have hrest : feed (step state x).2 b = (later.map .char, none) := (ih _).mp hlater
      rw [hpieces, hrest, List.map_append]
      exact ⟨rfl, rfl⟩
    · rintro ⟨hpieces, hnext⟩
      obtain ⟨chars, later, rfl, hchars, hlater⟩ := List.map_eq_append_iff.mp hpieces.symm
      refine bind_eq_ok_iff.mpr ⟨chars, (strictPieces_eq_ok_iff _).mpr hchars.symm, ?_⟩
      exact bind_eq_ok_iff.mpr ⟨later, (ih _).mpr (Prod.ext hlater.symm hnext), rfl⟩

theorem strict_eq_ok_iff {s : String} : strict b = .ok s ↔ b = ofString s := by
  have hread : strict b = .ok s ↔ feed none b = (s.toList.map .char, none) := by
    rw [strict, ← strictFrom_eq_ok_iff 0]
    cases strictFrom 0 none b with
    | error e => simp [Functor.map, Except.map]
    | ok cs => simp [Functor.map, Except.map, String.ext_iff]
  rw [hread]
  constructor
  · have hholds : Holds none [] := rfl
    exact fun h => eq_of_feed hholds h
  · rintro rfl
    exact feed_ofString s

@[simp] theorem strict_ofString (s : String) : strict (ofString s) = .ok s :=
  strict_eq_ok_iff.mpr rfl

end IncludeRules.Octets
