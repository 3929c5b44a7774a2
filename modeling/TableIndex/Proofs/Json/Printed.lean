import TableIndex.Proofs.Json.Number
import TableIndex.Proofs.Json.Proper
import TableIndex.Proofs.Text.Cutting

/-!
# Printed values

The compact text of a value is taken apart up to its end, whatever follows it, and what is found there is the value
again.
-/

namespace TableIndex.Json

variable {rest : List Char}

/-! ## Strings -/

theorem readPieces_plain {c : Char} (hquote : c ≠ '"') (hslash : c ≠ '\\') (hlow : ¬c.toNat < 0x20) :
    readPieces (c :: rest) = (readPieces rest).map fun (ps, rest) => (.char c :: ps, rest) := by
  rw [readPieces]
  · simp [hslash, hlow]
  all_goals simp [hquote, hslash]

theorem readPieces_escape {e c : Char} (h : escape? e = some c) :
    readPieces ('\\' :: e :: rest) = (readPieces rest).map fun (ps, rest) => (.char c :: ps, rest) := by
  have hu : e ≠ 'u' := by
    rintro rfl
    contradiction
  rw [readPieces, h]
  · rw [Option.map_eq_bind]
    rfl
  · simp [hu]

theorem readPieces_unit {n : Nat} (h : n < 0x20) :
    readPieces ('\\' :: 'u' :: '0' :: '0' :: Text.hexDigit (n / 16) :: Text.hexDigit (n % 16) :: rest)
      = (readPieces rest).map fun (ps, rest) => (.unit n :: ps, rest) := by
  have hunit : unit? '0' '0' (Text.hexDigit (n / 16)) (Text.hexDigit (n % 16)) = some n := by
    rw [unit?, Text.hexValue?_hexDigit (by omega), Text.hexValue?_hexDigit (by omega)]
    have hsum : n / 16 * 16 + n % 16 = n := Nat.div_add_mod' n 16
    simp [Text.hexValue?, hsum]
  rw [readPieces, hunit, Option.map_eq_bind]
  rfl

/-- The escape of a character is read as one piece, which stands for the character. -/
theorem readPieces_escaped (c : Char) : ∃ p : Piece,
    (∀ rest, readPieces (escaped c ++ rest) = (readPieces rest).map fun (ps, rest) => (p :: ps, rest)) ∧
    ∀ ps, decodePieces (p :: ps) = (decodePieces ps).map (c :: ·) := by
  unfold escaped
  split
  · exact ⟨.char '"', fun rest => readPieces_escape rfl, fun _ => rfl⟩
  · exact ⟨.char '\\', fun rest => readPieces_escape rfl, fun _ => rfl⟩
  · exact ⟨.char '\n', fun rest => readPieces_escape rfl, fun _ => rfl⟩
  · exact ⟨.char '\r', fun rest => readPieces_escape rfl, fun _ => rfl⟩
  · exact ⟨.char '\t', fun rest => readPieces_escape rfl, fun _ => rfl⟩
  case h_6 hquote hslash _ _ _ =>
    have hc {n : Nat} (h : (c.toNat == n) = true) : Char.ofNat n = c := by
      rw [← beq_iff_eq.mp h]
      exact Char.ofNat_toNat c
    dsimp only
    split
    case isTrue h => exact ⟨.char c, fun rest => readPieces_escape (congrArg some (hc h)), fun _ => rfl⟩
    case isFalse =>
      split
      case isTrue h => exact ⟨.char c, fun rest => readPieces_escape (congrArg some (hc h)), fun _ => rfl⟩
      case isFalse =>
        split
        case isTrue hlow =>
          refine ⟨.unit c.toNat, fun rest => readPieces_unit hlow, fun ps => ?_⟩
          have hhigh : isHighUnit c.toNat = false := by simp [isHighUnit]; omega
          have hlow : isLowUnit c.toNat = false := by simp [isLowUnit]; omega
          rw [decodePieces.eq_def]
          simp only [hhigh, hlow, Bool.false_eq_true, if_false, Char.ofNat_toNat]
        case isFalse hlow => exact ⟨.char c, fun rest => readPieces_plain hquote hslash hlow, fun _ => rfl⟩

/-- A printed string is read up to its closing quote. -/
theorem readPieces_quoted (s rest : List Char) :
    ∃ ps, readPieces (s.flatMap escaped ++ '"' :: rest) = some (ps, rest) ∧ decodePieces ps = some s := by
  induction s with
  | nil => exact ⟨[], rfl, rfl⟩
  | cons c s ih =>
      obtain ⟨ps, hread, hdecode⟩ := ih
      obtain ⟨p, hp, hpiece⟩ := readPieces_escaped c
      refine ⟨p :: ps, ?_, ?_⟩
      · rw [List.flatMap_cons, List.append_assoc, hp, hread]
        rfl
      · rw [hpiece, hdecode]
        rfl

/-! ## What a form stands for -/

mutual

/-- What a form stands for. The members of an object stand as they are written, repeats included, and nothing is too
long or too deep. -/
def Form.value? : Form → Option Json
  | .null => some .null
  | .bool b => some (.bool b)
  | .number t => t.value?.map .number
  | .string ps => (decodeString ps).map .string
  | .array items => (itemValues? items).map .array
  | .object members => (memberValues? members).map .object

/-- What the items of an array stand for. -/
def itemValues? : List Form → Option (List Json)
  | [] => some []
  | f :: fs => do
    let v ← f.value?
    let vs ← itemValues? fs
    some (v :: vs)

/-- What the members of an object stand for. -/
def memberValues? : List (List Piece × Form) → Option (List (String × Json))
  | [] => some []
  | (ps, f) :: fs => do
    let k ← decodeString ps
    let v ← f.value?
    let vs ← memberValues? fs
    some ((k, v) :: vs)

end

/-! ## Printed values -/

theorem NumberText.WellFormed.exists_head {t : NumberText} (ht : t.WellFormed) :
    ∃ c cs, t.chars = c :: cs ∧ (c = '-' ∨ c.isDigit = true) := by
  obtain ⟨d, ds, hwhole⟩ := List.exists_cons_of_ne_nil ht.whole.ne_nil
  rw [NumberText.chars, hwhole]
  cases t.negative with
  | true => exact ⟨'-', _, rfl, .inl rfl⟩
  | false => exact ⟨d, _, rfl, .inr (ht.whole.isDigit d (hwhole ▸ List.mem_cons_self))⟩

/-- What the reader passes over. -/
def blanks : List Char := [' ', '\n', '\t', '\r']

/-- What ends an array or an object. -/
def closings : List Char := [']', '}']

/-- What starts a value that is no number. -/
def openings : List Char := ['n', 't', 'f', '"', '[', '{']

theorem not_starts_number {c : Char} (hc : c = '-' ∨ c.isDigit = true) :
    c ∉ blanks ++ closings ++ openings := by
  have hall : (blanks ++ closings ++ openings).all (fun d => d != '-' && !d.isDigit) = true := by decide
  intro hmem
  have hne := List.all_eq_true.mp hall c hmem
  simp only [Bool.and_eq_true, bne_iff_ne, Bool.not_eq_true'] at hne
  rcases hc with hc | hc
  · exact hne.1 hc
  · exact Bool.false_ne_true (hne.2.symm.trans hc)

theorem exists_text {n : Number} (hn : n.Proper) :
    ∃ t : NumberText, t.WellFormed ∧ t.chars = n.text ∧ t.value? = some n := by
  cases n with
  | int i => exact exists_text_int i
  | float x => exact exists_text_float hn

/-- Printed values do not start with what the reader passes over or takes for an end. -/
theorem compactChars_starts {v : Json} (hv : v.Proper) :
    ∃ c cs, compactChars v = c :: cs ∧ c ∉ blanks ++ closings := by
  cases v with
  | null => exact ⟨_, _, rfl, by decide⟩
  | bool b => cases b <;> exact ⟨_, _, rfl, by decide⟩
  | number n =>
      obtain ⟨t, ht, hchars, -⟩ := exists_text hv
      obtain ⟨c, cs, hhead, hc⟩ := ht.exists_head
      exact ⟨c, cs, hchars.symm.trans hhead, fun hmem => not_starts_number hc (List.mem_append_left _ hmem)⟩
  | string s => exact ⟨_, _, rfl, by decide⟩
  | array items => exact ⟨_, _, rfl, by decide⟩
  | object members => exact ⟨_, _, rfl, by decide⟩

theorem skipSpace_cons {c : Char} (h : c ∉ blanks) : skipSpace (c :: rest) = c :: rest := by
  simp only [blanks, List.mem_cons, List.not_mem_nil, or_false, not_or] at h
  simp [skipSpace, h]

theorem readValue_number {c : Char} (fuel : Nat) (hc : c = '-' ∨ c.isDigit = true) :
    readValue (fuel + 1) (c :: rest) = (readNumber (c :: rest)).map fun (t, rest) => (.number t, rest) := by
  have hne := not_starts_number hc
  rw [readValue, skipSpace_cons fun hmem => hne (List.mem_append_left _ (List.mem_append_left _ hmem))]
  split
  case h_7 => rfl
  all_goals
    rename_i h
    rw [(List.cons.inj h).1] at hne
    exact absurd hne (by decide)

theorem readValue_array {c : Char} {cs : List Char} (fuel : Nat) (hc : c ∉ blanks ++ closings) :
    readValue (fuel + 1) ('[' :: c :: cs) = (readItems fuel (c :: cs)).map fun (fs, rest) => (.array fs, rest) := by
  rw [readValue, skipSpace_cons (by decide)]
  simp only [skipSpace_cons fun hmem => hc (List.mem_append_left _ hmem)]
  split
  case h_1 h =>
    rw [(List.cons.inj h).1] at hc
    exact absurd hc (by decide)
  case h_2 => rfl

theorem readValue_object {c : Char} {cs : List Char} (fuel : Nat) (hc : c ∉ blanks ++ closings) :
    readValue (fuel + 1) ('{' :: c :: cs) = (readMembers fuel (c :: cs)).map fun (fs, rest) => (.object fs, rest) := by
  rw [readValue, skipSpace_cons (by decide)]
  simp only [skipSpace_cons fun hmem => hc (List.mem_append_left _ hmem)]
  split
  case h_1 h =>
    rw [(List.cons.inj h).1] at hc
    exact absurd hc (by decide)
  case h_2 => rfl

variable {fuel : Nat} {cs : List Char} {f : Form} {k : List Piece}

theorem readItems_last (h : readValue fuel cs = some (f, ']' :: rest)) :
    readItems (fuel + 1) cs = some ([f], rest) := by
  simp only [readItems, h, skipSpace_cons (show ']' ∉ blanks by decide)]

theorem readItems_next (h : readValue fuel cs = some (f, ',' :: rest)) :
    readItems (fuel + 1) cs = (readItems fuel rest).map fun (fs, rest) => (f :: fs, rest) := by
  simp only [readItems, h, skipSpace_cons (show ',' ∉ blanks by decide)]

theorem readKey_quoted (s : String) (rest : List Char) :
    ∃ k, readKey (quoted s ++ rest) = some (k, rest) ∧ decodeString k = some s := by
  obtain ⟨k, hread, hdecode⟩ := readPieces_quoted s.toList rest
  refine ⟨k, ?_, ?_⟩
  · simp only [readKey, quoted, List.cons_append, skipSpace_cons (show '"' ∉ blanks by decide), List.append_assoc,
      List.nil_append, hread]
  · rw [decodeString, hdecode, Option.map_some, String.ofList_toList]

theorem readMembers_last {cs' : List Char} (hkey : readKey cs = some (k, ':' :: cs'))
    (h : readValue fuel cs' = some (f, '}' :: rest)) : readMembers (fuel + 1) cs = some ([(k, f)], rest) := by
  simp only [readMembers, hkey, h, skipSpace_cons (show ':' ∉ blanks by decide),
    skipSpace_cons (show '}' ∉ blanks by decide)]

theorem readMembers_next {cs' : List Char} (hkey : readKey cs = some (k, ':' :: cs'))
    (h : readValue fuel cs' = some (f, ',' :: rest)) :
    readMembers (fuel + 1) cs = (readMembers fuel rest).map fun (fs, rest) => ((k, f) :: fs, rest) := by
  simp only [readMembers, hkey, h, skipSpace_cons (show ':' ∉ blanks by decide),
    skipSpace_cons (show ',' ∉ blanks by decide)]

theorem stops_cons {c : Char} (rest : List Char) (h : c ∈ [',', ']', '}']) : Stops (c :: rest) := by
  rintro _ ⟨⟩
  simp only [List.mem_cons, List.not_mem_nil, or_false] at h
  rcases h with rfl | rfl | rfl <;> decide

theorem joined_starts {v : Json} (hv : v.Proper) (ws : List (List Char)) :
    ∃ c cs, Text.joined [','] (compactChars v :: ws) = c :: cs ∧ c ∉ blanks ++ closings := by
  obtain ⟨c, cs, hhead, hc⟩ := compactChars_starts hv
  cases ws with
  | nil => exact ⟨c, cs, hhead, hc⟩
  | cons w ws => exact ⟨c, _, (Text.joined_cons (List.cons_ne_nil w ws)).trans (congrArg (· ++ _) hhead), hc⟩

-- By induction on the value. Two units of fuel for each character suffice: an array or object takes one for itself
-- and its first item another, which its brackets pay for, and every further item is paid for by its comma.

mutual

/-- A printed value is read up to its end, and stands for itself. -/
theorem readValue_compact (v : Json) (hv : v.Proper) (fuel : Nat) (rest : List Char)
    (hfuel : 2 * (compactChars v).length ≤ fuel + 2) (hrest : Stops rest) :
    ∃ f, readValue (fuel + 1) (compactChars v ++ rest) = some (f, rest) ∧ f.value? = some v := by
  match v with
  | .null => exact ⟨.null, rfl, rfl⟩
  | .bool true => exact ⟨.bool true, rfl, rfl⟩
  | .bool false => exact ⟨.bool false, rfl, rfl⟩
  | .number n =>
      obtain ⟨t, ht, hchars, hvalue⟩ := exists_text hv
      obtain ⟨c, cs, hhead, hc⟩ := ht.exists_head
      refine ⟨.number t, ?_, by rw [Form.value?, hvalue, Option.map_some]⟩
      have hread := readNumber_chars ht hrest
      rw [compactChars, ← hchars]
      rw [hhead, List.cons_append] at hread ⊢
      rw [readValue_number fuel hc, hread, Option.map_some]
  | .string s =>
      obtain ⟨ps, hread, hdecode⟩ := readPieces_quoted s.toList rest
      refine ⟨.string ps, ?_, ?_⟩
      · simp only [compactChars, quoted, List.cons_append, List.append_assoc, List.nil_append, readValue,
          skipSpace_cons (show '"' ∉ blanks by decide), hread, Option.map_some]
      · rw [Form.value?, decodeString, hdecode, Option.map_some, Option.map_some, String.ofList_toList]
  | .array [] => exact ⟨.array [], rfl, rfl⟩
  | .array (v :: vs) =>
      rw [compactChars, List.length_append, List.length_cons, List.length_singleton] at hfuel
      obtain ⟨fuel, rfl⟩ := Nat.exists_eq_add_of_le' (show 1 ≤ fuel by omega)
      obtain ⟨fs, hread, hvalue⟩ := readItems_compact (v :: vs) hv nofun fuel rest (by omega)
      obtain ⟨c, cs, hhead, hc⟩ := joined_starts hv.1 (compactItems vs)
      refine ⟨.array fs, ?_, by rw [Form.value?, hvalue, Option.map_some]⟩
      rw [compactItems, hhead, List.cons_append] at hread
      rw [compactChars, compactItems, hhead, List.append_assoc, List.cons_append, List.cons_append, List.singleton_append,
        readValue_array _ hc, hread, Option.map_some]
  | .object [] => exact ⟨.object [], rfl, rfl⟩
  | .object ((k, v) :: ms) =>
      rw [compactChars, List.length_append, List.length_cons, List.length_singleton] at hfuel
      obtain ⟨fuel, rfl⟩ := Nat.exists_eq_add_of_le' (show 1 ≤ fuel by omega)
      obtain ⟨fs, hread, hvalue⟩ := readMembers_compact ((k, v) :: ms) hv nofun fuel rest (by omega)
      obtain ⟨cs, hhead⟩ : ∃ cs, Text.joined [','] (compactMembers ((k, v) :: ms)) = '"' :: cs := by
        cases ms <;> exact ⟨_, rfl⟩
      refine ⟨.object fs, ?_, by rw [Form.value?, hvalue, Option.map_some]⟩
      rw [hhead, List.cons_append] at hread
      rw [compactChars, hhead, List.append_assoc, List.cons_append, List.cons_append, List.singleton_append,
        readValue_object _ (by decide), hread, Option.map_some]

/-- The items of a printed array are read up to its closing bracket. -/
theorem readItems_compact (vs : List Json) (hvs : ProperItems vs) (hne : vs ≠ []) (fuel : Nat) (rest : List Char)
    (hfuel : 2 * (Text.joined [','] (compactItems vs)).length ≤ fuel + 1) :
    ∃ fs, readItems (fuel + 1) (Text.joined [','] (compactItems vs) ++ ']' :: rest) = some (fs, rest) ∧
      itemValues? fs = some vs := by
  match vs with
  | [] => exact absurd rfl hne
  | [v] =>
      have hlen : 0 < (compactChars v).length := by
        obtain ⟨c, cs, hhead, -⟩ := compactChars_starts hvs.1
        simp [hhead]
      replace hfuel : 2 * (compactChars v).length ≤ fuel + 1 := hfuel
      obtain ⟨fuel, rfl⟩ := Nat.exists_eq_add_of_le' (show 1 ≤ fuel by omega)
      obtain ⟨f, hread, hvalue⟩ :=
        readValue_compact v hvs.1 fuel (']' :: rest) (by omega) (stops_cons rest (by decide))
      exact ⟨[f], readItems_last hread, by rw [itemValues?, hvalue]; rfl⟩
  | v :: w :: vs =>
      have hjoined : Text.joined [','] (compactItems (v :: w :: vs))
          = compactChars v ++ ',' :: Text.joined [','] (compactItems (w :: vs)) := Text.joined_cons nofun
      rw [hjoined, List.length_append, List.length_cons] at hfuel
      obtain ⟨fuel, rfl⟩ := Nat.exists_eq_add_of_le' (show 1 ≤ fuel by omega)
      obtain ⟨fs, hreads, hvalues⟩ := readItems_compact (w :: vs) hvs.2 nofun fuel rest (by omega)
      obtain ⟨f, hread, hvalue⟩ := readValue_compact v hvs.1 fuel
        (',' :: (Text.joined [','] (compactItems (w :: vs)) ++ ']' :: rest)) (by omega) (stops_cons _ (by decide))
      refine ⟨f :: fs, ?_, by rw [itemValues?, hvalue, hvalues]; rfl⟩
      rw [hjoined, List.append_assoc, List.cons_append, readItems_next hread, hreads, Option.map_some]

/-- The members of a printed object are read up to its closing brace. -/
theorem readMembers_compact (ms : List (String × Json)) (hms : ProperMembers ms) (hne : ms ≠ []) (fuel : Nat)
    (rest : List Char) (hfuel : 2 * (Text.joined [','] (compactMembers ms)).length ≤ fuel + 1) :
    ∃ fs, readMembers (fuel + 1) (Text.joined [','] (compactMembers ms) ++ '}' :: rest) = some (fs, rest) ∧
      memberValues? fs = some ms := by
  match ms with
  | [] => exact absurd rfl hne
  | [(k, v)] =>
      replace hfuel : 2 * (quoted k ++ ':' :: compactChars v).length ≤ fuel + 1 := hfuel
      rw [List.length_append, List.length_cons] at hfuel
      obtain ⟨fuel, rfl⟩ := Nat.exists_eq_add_of_le' (show 1 ≤ fuel by omega)
      obtain ⟨f, hread, hvalue⟩ :=
        readValue_compact v hms.1 fuel ('}' :: rest) (by omega) (stops_cons rest (by decide))
      obtain ⟨ps, hkey, hdecode⟩ := readKey_quoted k (':' :: (compactChars v ++ '}' :: rest))
      refine ⟨[(ps, f)], ?_, by rw [memberValues?, hdecode, hvalue]; rfl⟩
      rw [compactMembers, compactMembers, Text.joined, List.append_assoc, List.cons_append]
      exact readMembers_last hkey hread
  | (k, v) :: m :: ms =>
      have hjoined : Text.joined [','] (compactMembers ((k, v) :: m :: ms))
          = (quoted k ++ ':' :: compactChars v) ++ ',' :: Text.joined [','] (compactMembers (m :: ms)) :=
        Text.joined_cons nofun
      rw [hjoined, List.length_append, List.length_append, List.length_cons, List.length_cons] at hfuel
      obtain ⟨fuel, rfl⟩ := Nat.exists_eq_add_of_le' (show 1 ≤ fuel by omega)
      obtain ⟨fs, hreads, hvalues⟩ := readMembers_compact (m :: ms) hms.2 nofun fuel rest (by omega)
      obtain ⟨f, hread, hvalue⟩ := readValue_compact v hms.1 fuel
        (',' :: (Text.joined [','] (compactMembers (m :: ms)) ++ '}' :: rest)) (by omega) (stops_cons _ (by decide))
      obtain ⟨ps, hkey, hdecode⟩ := readKey_quoted k
        (':' :: (compactChars v ++ ',' :: (Text.joined [','] (compactMembers (m :: ms)) ++ '}' :: rest)))
      refine ⟨(ps, f) :: fs, ?_, by rw [memberValues?, hdecode, hvalue, hvalues]; rfl⟩
      rw [hjoined, List.append_assoc, List.append_assoc, List.cons_append, List.cons_append,
        readMembers_next hkey hread, hreads, Option.map_some]

end

/-! ## Whole texts -/

theorem read?_compact {v : Json} (hv : v.Proper) :
    ∃ f, Form.read? (compact v) = some f ∧ f.value? = some v := by
  obtain ⟨f, hread, hvalue⟩ := readValue_compact v hv (2 * (compactChars v).length + 1) [] (by omega) nofun
  refine ⟨f, ?_, hvalue⟩
  rw [List.append_nil] at hread
  simp only [Form.read?, compact, String.toList_ofList, Nat.mul_succ, hread]
  rfl

theorem Form.eq_object {f : Form} {members : List (String × Json)} (h : f.value? = some (.object members)) :
    ∃ fs, f = .object fs ∧ memberValues? fs = some members := by
  cases f with
  | object fs =>
      obtain ⟨ms, hms, heq⟩ := Option.map_eq_some_iff.mp (by rwa [Form.value?] at h)
      cases heq
      exact ⟨fs, rfl, hms⟩
  | _ => simp [Form.value?] at h

end TableIndex.Json
