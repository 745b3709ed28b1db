import Gallery.Text.Utf8

namespace Gallery
namespace Text

/-!
# What is encoded is decoded

A character is written with one to four octets, by the size of its code.  The decoder
tells from the first octet how many follow and between which bounds the next one lies;
the bounds admit exactly what the encoder writes, since no character is a surrogate or
written longer than necessary.
-/

/-- A valid code point is the one of its character. -/
theorem toNat_ofNat_of_isValidChar {code : Nat} (valid : code.isValidChar) :
    (Char.ofNat code).toNat = code := by
  rw [Char.ofNat, dif_pos valid]
  rfl

namespace Utf8

/-! ## The first octet -/

section Start

variable {octet : UInt8} {n : Nat}

theorem start_one (lead : octet.toNat = n) (small : n < 0x80) :
    start octet = ([some (Char.ofNat n)], .between) := by
  have isOne : octet < 0x80 := UInt8.lt_iff_toNat_lt.mpr (lead ▸ small)
  unfold start
  simp only [isOne, if_true, lead]

theorem start_two (lead : octet.toNat = 0xC0 + n) (atLeast : 2 ≤ n) (small : n < 0x20) :
    start octet = ([], .inside n 1 0x80 0xBF) := by
  have notOne : ¬octet < 0x80 := by simp [UInt8.lt_iff_toNat_lt, lead]; omega
  have wellFormed : ¬octet < 0xC2 := by simp [UInt8.lt_iff_toNat_lt, lead]; omega
  have isTwo : octet < 0xE0 := by simp [UInt8.lt_iff_toNat_lt, lead]; omega
  unfold start
  simp only [notOne, wellFormed, isTwo, if_false, if_true, lead, Nat.add_sub_cancel_left]

theorem start_three (lead : octet.toNat = 0xE0 + n) (small : n < 0x10) :
    start octet = ([], .inside n 2 (if n = 0 then 0xA0 else 0x80)
      (if n = 0xD then 0x9F else 0xBF)) := by
  have notOne : ¬octet < 0x80 := by simp [UInt8.lt_iff_toNat_lt, lead]; omega
  have wellFormed : ¬octet < 0xC2 := by simp [UInt8.lt_iff_toNat_lt, lead]; omega
  have notTwo : ¬octet < 0xE0 := by simp [UInt8.lt_iff_toNat_lt, lead]
  have isThree : octet < 0xF0 := by simp [UInt8.lt_iff_toNat_lt, lead]; omega
  have least : octet = 0xE0 ↔ n = 0 := by simp [← UInt8.toNat_inj, lead]
  have beforeSurrogates : octet = 0xED ↔ n = 0xD := by simp [← UInt8.toNat_inj, lead]; omega
  unfold start
  simp only [notOne, wellFormed, notTwo, isThree, if_false, if_true, lead,
    Nat.add_sub_cancel_left, least, beforeSurrogates]

theorem start_four (lead : octet.toNat = 0xF0 + n) (small : n < 5) :
    start octet = ([], .inside n 3 (if n = 0 then 0x90 else 0x80)
      (if n = 4 then 0x8F else 0xBF)) := by
  have notOne : ¬octet < 0x80 := by simp [UInt8.lt_iff_toNat_lt, lead]; omega
  have wellFormed : ¬octet < 0xC2 := by simp [UInt8.lt_iff_toNat_lt, lead]; omega
  have notTwo : ¬octet < 0xE0 := by simp [UInt8.lt_iff_toNat_lt, lead]; omega
  have notThree : ¬octet < 0xF0 := by simp [UInt8.lt_iff_toNat_lt, lead]
  have isFour : octet < 0xF5 := by simp [UInt8.lt_iff_toNat_lt, lead]; omega
  have least : octet = 0xF0 ↔ n = 0 := by simp [← UInt8.toNat_inj, lead]
  have greatest : octet = 0xF4 ↔ n = 4 := by simp [← UInt8.toNat_inj, lead]; omega
  unfold start
  simp only [notOne, wellFormed, notTwo, notThree, isFour, if_false, if_true, lead,
    Nat.add_sub_cancel_left, least, greatest]

end Start

/-! ## Further octets -/

section Inside

variable {octet low high : UInt8} {part : Nat}

/-- A further octet that others follow. -/
theorem step_further (value missing : Nat) (further : octet.toNat = 0x80 + part)
    (above : low ≤ octet) (below : octet ≤ high) :
    step (.inside value (missing + 2) low high) octet =
      ([], .inside (0x40 * value + part) (missing + 1) 0x80 0xBF) := by
  unfold step
  simp [above, below, further]

/-- The last octet of a character. -/
theorem step_last (value : Nat) (further : octet.toNat = 0x80 + part)
    (above : low ≤ octet) (below : octet ≤ high) :
    step (.inside value 1 low high) octet =
      ([some (Char.ofNat (0x40 * value + part))], .between) := by
  unfold step
  simp [above, below, further]

end Inside

/-! ## Characters -/

private theorem toNat_toUInt8 {n : Nat} (small : n < 0x100) : n.toUInt8.toNat = n :=
  UInt8.toNat_ofNat_of_lt' small

theorem pieces_cons (state : State) (octet : UInt8) (rest : List UInt8) :
    pieces state (octet :: rest) =
      (step state octet).1 ++ pieces (step state octet).2 rest := by
  cases state <;> rfl

section Lengths

variable {n : Nat} (rest : List UInt8)

private theorem further (k : Nat) : (0x80 + k % 0x40).toUInt8.toNat = 0x80 + k % 0x40 :=
  toNat_toUInt8 (by omega)

/-- A further octet lies between the widest bounds. -/
private theorem within_bounds (k : Nat) :
    0x80 ≤ (0x80 + k % 0x40).toUInt8 ∧ (0x80 + k % 0x40).toUInt8 ≤ 0xBF := by
  rw [UInt8.le_iff_toNat_le, UInt8.le_iff_toNat_le, further]
  constructor
  · exact Nat.le_add_right 0x80 _
  · show 0x80 + k % 0x40 ≤ 0xBF
    omega

private theorem pieces_two (above : 0x80 ≤ n) (small : n < 0x800) :
    pieces .between ((0xC0 + n / 0x40).toUInt8 :: (0x80 + n % 0x40).toUInt8 :: rest) =
      some (Char.ofNat n) :: pieces .between rest := by
  have first : step .between (0xC0 + n / 0x40).toUInt8 = ([], .inside (n / 0x40) 1 0x80 0xBF) :=
    start_two (toNat_toUInt8 (by omega)) (by omega) (by omega)
  have last := step_last (n / 0x40) (further n) (within_bounds n).1 (within_bounds n).2
  have joined : 0x40 * (n / 0x40) + n % 0x40 = n := by omega
  rw [pieces_cons, first, pieces_cons, last, joined]
  rfl

private theorem pieces_three (above : 0x800 ≤ n) (small : n < 0x10000)
    (noSurrogate : n < 0xD800 ∨ 0xDFFF < n) :
    pieces .between ((0xE0 + n / 0x1000).toUInt8 :: (0x80 + n / 0x40 % 0x40).toUInt8 ::
      (0x80 + n % 0x40).toUInt8 :: rest) = some (Char.ofNat n) :: pieces .between rest := by
  have first : step .between (0xE0 + n / 0x1000).toUInt8 =
      ([], .inside (n / 0x1000) 2 _ _) := start_three (toNat_toUInt8 (by omega)) (by omega)
  -- A small lead asks for a large second octet, and the lead of the surrogates for a small one.
  have atLeast : (if n / 0x1000 = 0 then 0xA0 else 0x80) ≤ (0x80 + n / 0x40 % 0x40).toUInt8 := by
    split
    · rw [UInt8.le_iff_toNat_le, further]
      show 0xA0 ≤ 0x80 + n / 0x40 % 0x40
      omega
    · exact (within_bounds _).1
  have atMost : (0x80 + n / 0x40 % 0x40).toUInt8 ≤ (if n / 0x1000 = 0xD then 0x9F else 0xBF) := by
    split
    · rw [UInt8.le_iff_toNat_le, further]
      show 0x80 + n / 0x40 % 0x40 ≤ 0x9F
      omega
    · exact (within_bounds _).2
  have second := step_further (n / 0x1000) 0 (further (n / 0x40)) atLeast atMost
  have last := step_last (0x40 * (n / 0x1000) + n / 0x40 % 0x40) (further n)
    (within_bounds n).1 (within_bounds n).2
  have joined : 0x40 * (0x40 * (n / 0x1000) + n / 0x40 % 0x40) + n % 0x40 = n := by omega
  rw [pieces_cons, first, pieces_cons, second, pieces_cons, last, joined]
  rfl

private theorem pieces_four (above : 0x10000 ≤ n) (small : n < 0x110000) :
    pieces .between ((0xF0 + n / 0x40000).toUInt8 :: (0x80 + n / 0x1000 % 0x40).toUInt8 ::
      (0x80 + n / 0x40 % 0x40).toUInt8 :: (0x80 + n % 0x40).toUInt8 :: rest) =
      some (Char.ofNat n) :: pieces .between rest := by
  have first : step .between (0xF0 + n / 0x40000).toUInt8 =
      ([], .inside (n / 0x40000) 3 _ _) := start_four (toNat_toUInt8 (by omega)) (by omega)
  have atLeast : (if n / 0x40000 = 0 then 0x90 else 0x80) ≤
      (0x80 + n / 0x1000 % 0x40).toUInt8 := by
    split
    · rw [UInt8.le_iff_toNat_le, further]
      show 0x90 ≤ 0x80 + n / 0x1000 % 0x40
      omega
    · exact (within_bounds _).1
  have atMost : (0x80 + n / 0x1000 % 0x40).toUInt8 ≤
      (if n / 0x40000 = 4 then 0x8F else 0xBF) := by
    split
    · rw [UInt8.le_iff_toNat_le, further]
      show 0x80 + n / 0x1000 % 0x40 ≤ 0x8F
      omega
    · exact (within_bounds _).2
  have second := step_further (n / 0x40000) 1 (further (n / 0x1000)) atLeast atMost
  have third := step_further (0x40 * (n / 0x40000) + n / 0x1000 % 0x40) 0 (further (n / 0x40))
    (within_bounds (n / 0x40)).1 (within_bounds (n / 0x40)).2
  have last := step_last (0x40 * (0x40 * (n / 0x40000) + n / 0x1000 % 0x40) + n / 0x40 % 0x40)
    (further n) (within_bounds n).1 (within_bounds n).2
  have joined : 0x40 * (0x40 * (0x40 * (n / 0x40000) + n / 0x1000 % 0x40) + n / 0x40 % 0x40) +
      n % 0x40 = n := by omega
  rw [pieces_cons, first, pieces_cons, second, pieces_cons, third, pieces_cons, last, joined]
  rfl

end Lengths

theorem pieces_encodeChar (c : Char) (rest : List UInt8) :
    pieces .between (encodeChar c ++ rest) = some c :: pieces .between rest := by
  have valid : c.toNat < 0xD800 ∨ 0xDFFF < c.toNat ∧ c.toNat < 0x110000 := c.valid
  have same : Char.ofNat c.toNat = c := Char.ofNat_toNat c
  unfold encodeChar
  generalize c.toNat = n at valid same ⊢
  rw [← same]
  simp only
  split
  · rename_i one
    have only : step .between n.toUInt8 = ([some (Char.ofNat n)], .between) :=
      start_one (toNat_toUInt8 (by omega)) one
    rw [List.cons_append, pieces_cons, only]
    rfl
  split
  · exact pieces_two rest (by omega) (by omega)
  split
  · exact pieces_three rest (by omega) (by omega) (by omega)
  · exact pieces_four rest (by omega) (by omega)

theorem pieces_encode (text : List Char) : pieces .between (encode text) = text.map some := by
  induction text with
  | nil => rfl
  | cons c rest inductionHypothesis =>
      unfold encode at *
      rw [List.flatMap_cons, pieces_encodeChar, inductionHypothesis, List.map_cons]

/-- What is encoded is decoded. -/
theorem decode?_encode (text : List Char) : decode? (encode text) = some text := by
  unfold decode?
  rw [pieces_encode]
  induction text with
  | nil => rfl
  | cons c rest inductionHypothesis => simp [inductionHypothesis]

end Utf8
end Text
end Gallery
