import TableIndex.Text.Utf8

/-!
# Bytes as characters

What characters are written as is read as those characters, so that different texts have different bytes.
-/

namespace TableIndex.Text

variable {c : Char} {b : Nat} {cs ds : List Char} {bs : List Nat}

theorem toNat_lt (c : Char) : c.toNat < 0x110000 := by
  rcases c.valid with h | ⟨-, h⟩
  · exact Nat.lt_trans h (by decide)
  · exact h

theorem lt_of_mem_utf8 (h : b ∈ utf8 c) : b < 0x100 := by
  have hlt := toNat_lt c
  simp only [utf8] at h
  split at h
  · simp at h
    omega
  · split at h
    · simp at h
      omega
    · split at h
      · simp at h
        omega
      · simp at h
        omega

/-! ## Characters of one to four bytes -/

theorem isContinuation_add (n : Nat) : isContinuation (0x80 + n % 0x40) = true := by
  simp [isContinuation]
  omega

theorem ofUtf8?_one {a : Nat} (h : a < 0x80) : ofUtf8? (a :: bs) = (ofUtf8? bs).map (Char.ofNat a :: ·) := by
  conv => lhs; unfold ofUtf8?
  rw [if_pos h]

theorem ofUtf8?_two {a b : Nat} (hlow : 0xC2 ≤ a) (hhigh : a < 0xE0) (hb : isContinuation b = true) :
    ofUtf8? (a :: b :: bs) = (ofUtf8? bs).map (Char.ofNat ((a - 0xC0) * 0x40 + (b - 0x80)) :: ·) := by
  conv => lhs; unfold ofUtf8?
  rw [if_neg (by omega)]
  simp [hb, hlow, hhigh]

theorem ofUtf8?_three {a b c n : Nat} (hlow : 0xE0 ≤ a) (hhigh : a < 0xF0) (hb : isContinuation b = true)
    (hc : isContinuation c = true) (hn : (a - 0xE0) * 0x1000 + (b - 0x80) * 0x40 + (c - 0x80) = n) (hwide : 0x800 ≤ n)
    (hvalid : ¬ (0xD800 ≤ n ∧ n < 0xE000)) :
    ofUtf8? (a :: b :: c :: bs) = (ofUtf8? bs).map (Char.ofNat n :: ·) := by
  conv => lhs; unfold ofUtf8?
  rw [if_neg (by omega)]
  have hnot : ¬ (0xC2 ≤ a ∧ a < 0xE0) := by omega
  have hvalid' : ¬ (n < 0x800 ∨ 0xD800 ≤ n ∧ n < 0xE000) := by omega
  simp [hb, hc, hlow, hhigh, hn, hnot, hvalid']

theorem ofUtf8?_four {a b c d n : Nat} (hlow : 0xF0 ≤ a) (hb : isContinuation b = true) (hc : isContinuation c = true)
    (hd : isContinuation d = true)
    (hn : (a - 0xF0) * 0x40000 + (b - 0x80) * 0x1000 + (c - 0x80) * 0x40 + (d - 0x80) = n) (hwide : 0x10000 ≤ n)
    (hvalid : n < 0x110000) :
    ofUtf8? (a :: b :: c :: d :: bs) = (ofUtf8? bs).map (Char.ofNat n :: ·) := by
  conv => lhs; unfold ofUtf8?
  rw [if_neg (by omega)]
  have hnot : ¬ (0xC2 ≤ a ∧ a < 0xE0) := by omega
  have hnot' : ¬ (0xE0 ≤ a ∧ a < 0xF0) := by omega
  simp [hb, hc, hd, hlow, hn, hnot, hnot', hwide, hvalid]

/-- A character that is written is read again, whatever follows. -/
theorem ofUtf8?_utf8_append (c : Char) (bs : List Nat) : ofUtf8? (utf8 c ++ bs) = (ofUtf8? bs).map (c :: ·) := by
  have hchar : Char.ofNat c.toNat = c := Char.ofNat_toNat c
  have hvalid : c.toNat < 0xD800 ∨ 0xDFFF < c.toNat ∧ c.toNat < 0x110000 := c.valid
  simp only [utf8]
  split
  · next h =>
      rw [List.singleton_append, ofUtf8?_one h, hchar]
  · split
    · simp only [List.cons_append, List.nil_append]
      rw [ofUtf8?_two (by omega) (by omega) (isContinuation_add _),
        show (0xC0 + c.toNat / 0x40 - 0xC0) * 0x40 + (0x80 + c.toNat % 0x40 - 0x80) = c.toNat by omega, hchar]
    · split
      · simp only [List.cons_append, List.nil_append]
        rw [ofUtf8?_three (n := c.toNat) (by omega) (by omega) (isContinuation_add _) (isContinuation_add _)
          (by omega) (by omega) (by omega), hchar]
      · simp only [List.cons_append, List.nil_append]
        rw [ofUtf8?_four (n := c.toNat) (by omega) (isContinuation_add _) (isContinuation_add _) (isContinuation_add _)
          (by omega) (by omega) (by omega), hchar]

theorem ofUtf8?_flatMap (cs : List Char) : ofUtf8? (cs.flatMap utf8) = some cs := by
  induction cs with
  | nil => rfl
  | cons c cs ih => rw [List.flatMap_cons, ofUtf8?_utf8_append, ih, Option.map_some]

theorem flatMap_utf8_injective (h : cs.flatMap utf8 = ds.flatMap utf8) : cs = ds := by
  have hread := congrArg ofUtf8? h
  rw [ofUtf8?_flatMap, ofUtf8?_flatMap] at hread
  exact Option.some.inj hread

end TableIndex.Text
