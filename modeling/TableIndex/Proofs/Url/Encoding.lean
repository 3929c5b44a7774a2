import TableIndex.Proofs.Text.Utf8
import TableIndex.Url.Path

/-!
# What encoded text says

Encoding can be undone where the percent sign is itself encoded: the bytes of an encoded text are those of the text.
So different texts stay different, and an encoded piece of a path is a dot segment or a drive only if the text was.
-/

namespace TableIndex.Url

open TableIndex.Text

variable {inSet : Char → Bool} {c : Char} {cs ds : List Char} {b : Nat} {bs : List Nat}

/-! ## The bytes of an encoded text -/

theorem decodeBytes_percentByte (h : b < 0x100) (cs : List Char) :
    decodeBytes (percentByte b ++ cs) = b :: decodeBytes cs := by
  have hhigh := hexValue?_upperHexDigit (n := b / 16) (by omega)
  have hlow := hexValue?_upperHexDigit (n := b % 16) (by omega)
  rw [percentByte, List.cons_append, List.cons_append, List.cons_append, List.nil_append, decodeBytes, hhigh, hlow]
  simp only
  rw [show 16 * (b / 16) + b % 16 = b by omega]

theorem decodeBytes_flatMap (h : ∀ b ∈ bs, b < 0x100) (cs : List Char) :
    decodeBytes (bs.flatMap percentByte ++ cs) = bs ++ decodeBytes cs := by
  induction bs with
  | nil => rfl
  | cons b bs ih =>
      obtain ⟨hb, hbs⟩ := List.forall_mem_cons.mp h
      rw [List.flatMap_cons, List.append_assoc, decodeBytes_percentByte hb, ih hbs, List.cons_append]

theorem decodeBytes_cons (h : c ≠ '%') (cs : List Char) : decodeBytes (c :: cs) = utf8 c ++ decodeBytes cs := by
  rw [decodeBytes]
  exact fun _ _ _ hc _ => h hc

theorem encode_cons (c : Char) (cs : List Char) : encode inSet (c :: cs) =
    (if 0x80 ≤ c.toNat || inSet c then (utf8 c).flatMap percentByte else [c]) ++ encode inSet cs := rfl

theorem decodeBytes_encode (h : inSet '%' = true) (cs : List Char) :
    decodeBytes (encode inSet cs) = cs.flatMap utf8 := by
  induction cs with
  | nil => simp [encode, decodeBytes]
  | cons c cs ih =>
      rw [encode_cons, List.flatMap_cons]
      split
      · rw [decodeBytes_flatMap (fun _ => lt_of_mem_utf8), ih]
      · next hfree =>
          have hc : c ≠ '%' := by
            rintro rfl
            simp [h] at hfree
          rw [List.singleton_append, decodeBytes_cons hc, ih]

theorem encode_injective (h : inSet '%' = true) (heq : encode inSet cs = encode inSet ds) : cs = ds := by
  have hbytes := congrArg decodeBytes heq
  rw [decodeBytes_encode h, decodeBytes_encode h] at hbytes
  exact flatMap_utf8_injective hbytes

/-! ## Characters -/

theorem utf8_ne_nil (c : Char) : utf8 c ≠ [] := by
  simp only [utf8]
  split
  · exact List.cons_ne_nil _ _
  · split
    · exact List.cons_ne_nil _ _
    · split <;> exact List.cons_ne_nil _ _

theorem encode_eq_nil_iff : encode inSet cs = [] ↔ cs = [] := by
  cases cs with
  | nil => simp [encode]
  | cons c cs =>
      rw [encode_cons]
      split
      · obtain ⟨b, bs, hbytes⟩ := List.exists_cons_of_ne_nil (utf8_ne_nil c)
        simp [hbytes, percentByte]
      · simp

theorem isHexDigit_upperHexDigit {n : Nat} (h : n < 16) : isHexDigit (upperHexDigit n) = true := by
  rw [isHexDigit, hexValue?_upperHexDigit h]
  rfl

/-- What an encoded text is made of. -/
theorem mem_encode (h : c ∈ encode inSet cs) : (c ∈ cs ∧ inSet c = false) ∨ c = '%' ∨ isHexDigit c = true := by
  obtain ⟨d, hd, hc⟩ := List.mem_flatMap.mp h
  split at hc
  · obtain ⟨b, hb, hc⟩ := List.mem_flatMap.mp hc
    have hlt := lt_of_mem_utf8 hb
    simp only [percentByte, List.mem_cons, List.not_mem_nil, or_false] at hc
    rcases hc with hc | hc | hc
    · exact .inr (.inl hc)
    · exact .inr (.inr (hc ▸ isHexDigit_upperHexDigit (by omega)))
    · exact .inr (.inr (hc ▸ isHexDigit_upperHexDigit (by omega)))
  · next hfree =>
      obtain rfl := List.mem_singleton.mp hc
      simp only [Bool.or_eq_true, not_or, Bool.not_eq_true] at hfree
      exact .inl ⟨hd, hfree.2⟩

theorem slash_not_mem_encode (h : '/' ∉ cs ∨ inSet '/' = true) : '/' ∉ encode inSet cs := by
  intro hmem
  rcases mem_encode hmem with ⟨hcs, hset⟩ | hc | hc
  · rcases h with h | h
    · exact h hcs
    · rw [h] at hset
      cases hset
  · cases hc
  · exact absurd hc (by decide)

theorem encode_of_free (h : ∀ c ∈ cs, c.toNat < 0x80 ∧ inSet c = false) : encode inSet cs = cs := by
  induction cs with
  | nil => rfl
  | cons c cs ih =>
      obtain ⟨⟨hlow, hc⟩, hcs⟩ := List.forall_mem_cons.mp h
      rw [encode_cons, ih hcs, if_neg (by simp [hc]; omega)]
      rfl

/-! ## Dots and drives -/

theorem toLower_eq_or (a : Char) :
    a.toLower = a ∨ 0x41 ≤ a.toNat ∧ a.toNat ≤ 0x5A ∧ a.toLower.toNat = a.toNat + 0x20 := by
  unfold Char.toLower
  split
  · next hup =>
    have hlow : 0x41 ≤ a.val.toNat := UInt32.le_iff_toNat_le.mp hup.1
    have hhigh : a.val.toNat ≤ 0x5A := UInt32.le_iff_toNat_le.mp hup.2
    refine .inr ⟨hlow, hhigh, ?_⟩
    change (a.val + ('a'.val - 'A'.val)).toNat = a.val.toNat + 0x20
    rw [UInt32.toNat_add, show ('a'.val - 'A'.val).toNat = 0x20 from rfl]
    omega
  · exact .inl rfl

theorem eq_of_toLower {a : Char} (h : a.toLower = c) (hc : c.toNat < 0x61) : a = c := by
  rcases toLower_eq_or a with ha | ⟨hlow, -, hup⟩
  · exact ha.symm.trans h
  · rw [h] at hup
    omega

theorem hexValue?_of_toLower {a : Char} (h : a.toLower = 'e') : hexValue? a = some 14 := by
  rcases toLower_eq_or a with ha | ⟨-, -, hup⟩
  · rw [← ha, h]
    rfl
  · rw [h, show 'e'.toNat = 0x65 from rfl] at hup
    simp only [hexValue?, show a.toNat = 0x45 by omega]
    rfl

theorem decodeBytes_encodedDot {p t e : Char} (hp : p.toLower = '%') (ht : t.toLower = '2') (he : e.toLower = 'e')
    (cs : List Char) : decodeBytes (p :: t :: e :: cs) = 0x2E :: decodeBytes cs := by
  rw [eq_of_toLower hp (by decide), eq_of_toLower ht (by decide), decodeBytes, hexValue?_of_toLower he]
  rfl

theorem decodeBytes_dot {a : Char} (h : a.toLower = '.') (cs : List Char) :
    decodeBytes (a :: cs) = 0x2E :: decodeBytes cs := by
  rw [eq_of_toLower h (by decide), decodeBytes_cons (by decide)]
  rfl

theorem decodeBytes_of_isSingleDot {piece : Segment} (h : Path.isSingleDot piece = true) :
    decodeBytes piece = [0x2E] := by
  simp only [Path.isSingleDot, List.contains_cons, List.contains_nil, Bool.or_false, Bool.or_eq_true, beq_iff_eq,
    List.map_eq_cons_iff, List.map_eq_nil_iff] at h
  rcases h with ⟨a, _, rfl, ha, rfl⟩ | ⟨p, _, rfl, hp, t, _, rfl, ht, e, _, rfl, he, rfl⟩
  · rw [decodeBytes_dot ha, decodeBytes]
  · rw [decodeBytes_encodedDot hp ht he, decodeBytes]

theorem decodeBytes_of_isDoubleDot {piece : Segment} (h : Path.isDoubleDot piece = true) :
    decodeBytes piece = [0x2E, 0x2E] := by
  simp only [Path.isDoubleDot, List.contains_cons, List.contains_nil, Bool.or_false, Bool.or_eq_true, beq_iff_eq,
    List.map_eq_cons_iff, List.map_eq_nil_iff] at h
  rcases h with ⟨a, _, rfl, ha, b, _, rfl, hb, rfl⟩ |
    ⟨a, _, rfl, ha, p, _, rfl, hp, t, _, rfl, ht, e, _, rfl, he, rfl⟩ |
    ⟨p, _, rfl, hp, t, _, rfl, ht, e, _, rfl, he, a, _, rfl, ha, rfl⟩ |
    ⟨p, _, rfl, hp, t, _, rfl, ht, e, _, rfl, he, q, _, rfl, hq, u, _, rfl, hu, f, _, rfl, hf, rfl⟩
  · rw [decodeBytes_dot ha, decodeBytes_dot hb, decodeBytes]
  · rw [decodeBytes_dot ha, decodeBytes_encodedDot hp ht he, decodeBytes]
  · rw [decodeBytes_encodedDot hp ht he, decodeBytes_dot ha, decodeBytes]
  · rw [decodeBytes_encodedDot hp ht he, decodeBytes_encodedDot hq hu hf, decodeBytes]

/-- A set that keeps dots, and encodes the sign that encodes. -/
structure KeepsDots (inSet : Char → Bool) : Prop where
  percent : inSet '%' = true
  dot : inSet '.' = false

theorem KeepsDots.isSingleDot_encode (h : KeepsDots inSet) (cs : List Char) :
    Path.isSingleDot (encode inSet cs) = true ↔ cs = ['.'] := by
  constructor
  · intro hdot
    have hbytes := decodeBytes_of_isSingleDot hdot
    rw [decodeBytes_encode h.percent] at hbytes
    exact flatMap_utf8_injective (hbytes.trans rfl)
  · rintro rfl
    rw [encode_of_free (by simp [h.dot])]
    rfl

theorem KeepsDots.isDoubleDot_encode (h : KeepsDots inSet) (cs : List Char) :
    Path.isDoubleDot (encode inSet cs) = true ↔ cs = ['.', '.'] := by
  constructor
  · intro hdots
    have hbytes := decodeBytes_of_isDoubleDot hdots
    rw [decodeBytes_encode h.percent] at hbytes
    exact flatMap_utf8_injective (hbytes.trans rfl)
  · rintro rfl
    rw [encode_of_free (by simp [h.dot])]
    rfl

end TableIndex.Url
