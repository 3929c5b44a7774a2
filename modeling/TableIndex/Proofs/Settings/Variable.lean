import TableIndex.Proofs.Text.Cutting
import TableIndex.Settings.Variable

/-!
# What variables are read as

The values of variables have a grammar (`Stands`), and the reader reads just that, whatever fuel it has as long as
there is enough of it for the length of the text (`Sound`, `Reads.read`). A text that is no `Literal` of the grammar as
a whole is read as it stands.
-/

namespace TableIndex.Settings.Variable

variable {cs ds left rest : List Char} {v : Value} {vs : List Value} {ms : List (String × Value)} {m n : Nat}

/-! ## The grammar of values -/

/-- Whether a text starts as only values do that are not bare. -/
def isMarked : List Char → Bool
  | 't' :: 'r' :: 'u' :: 'e' :: _ => true
  | 'f' :: 'a' :: 'l' :: 's' :: 'e' :: _ => true
  | '{' :: _ => true
  | '[' :: _ => true
  | '"' :: _ => true
  | '\'' :: _ => true
  | _ => false

mutual

/-- A value that starts a text, and what is behind it. -/
inductive Stands : List Char → Value → List Char → Prop where
  | yes {rest : List Char} : Stands ('t' :: 'r' :: 'u' :: 'e' :: rest) (.bool true) rest
  | no {rest : List Char} : Stands ('f' :: 'a' :: 'l' :: 's' :: 'e' :: rest) (.bool false) rest
  | char {c : Char} {rest : List Char} : Stands ('\'' :: c :: '\'' :: rest) (.char c) rest
  | quoted {cs rest : List Char} {s : String} : readQuoted cs = some (s, rest) →
      Stands ('"' :: cs) (.text s) rest
  | list {cs rest : List Char} {vs : List Value} : Items cs vs rest → Stands ('[' :: cs) (.list vs) rest
  | dict {cs rest : List Char} {ms : List (String × Value)} : Members cs ms rest →
      Stands ('{' :: cs) (.ofDict (SortedMap.ofList ms)) rest
  | bare {cs : List Char} : isMarked cs = false →
      Stands cs (bare (Text.trimBy Text.isSpace (cs.takeWhile (!isSeparator ·)))) (cs.dropWhile (!isSeparator ·))

/-- A value with the blanks around it. -/
inductive Reads : List Char → Value → List Char → Prop where
  | mk {cs left rest : List Char} {v : Value} : Stands (skipBlanks cs) v left → skipBlanks left = rest →
      Reads cs v rest

/-- The items of a list with the closing bracket; one more comma may be in front of it. -/
inductive Items : List Char → List Value → List Char → Prop where
  | close {rest : List Char} : Items (']' :: rest) [] rest
  | last {cs rest : List Char} {v : Value} : cs.head? ≠ some ']' → Reads cs v (']' :: rest) → Items cs [v] rest
  | next {cs more rest : List Char} {v : Value} {vs : List Value} : cs.head? ≠ some ']' →
      Reads cs v (',' :: more) → Items more vs rest → Items cs (v :: vs) rest

/-- The members of a dictionary with the closing brace; one more comma may be in front of it. -/
inductive Members : List Char → List (String × Value) → List Char → Prop where
  | close {rest : List Char} : Members ('}' :: rest) [] rest
  | last {cs behind rest : List Char} {k : String} {v : Value} : cs.head? ≠ some '}' →
      readKey cs = some (k, behind) → Reads behind v ('}' :: rest) → Members cs [(k, v)] rest
  | next {cs behind more rest : List Char} {k : String} {v : Value} {ms : List (String × Value)} :
      cs.head? ≠ some '}' → readKey cs = some (k, behind) → Reads behind v (',' :: more) → Members more ms rest →
      Members cs ((k, v) :: ms) rest

end

/-! ## What is left -/

theorem skipBlanks_suffix (cs : List Char) : skipBlanks cs <:+ cs := List.dropWhile_suffix _

theorem cutQuoted_eq {inner : List Char} (h : cutQuoted cs = some (inner, rest)) : cs = inner ++ '"' :: rest := by
  induction cs using cutQuoted.induct generalizing inner with
  | case1 => cases h
  | case2 cs =>
      cases h
      rfl
  | case3 c cs ih =>
      rw [cutQuoted] at h
      obtain ⟨⟨s, r⟩, hcut, hs⟩ := Option.map_eq_some_iff.mp h
      cases hs
      rw [ih hcut]
      rfl
  | case4 c cs hquote hslash ih =>
      rw [cutQuoted] at h
      · obtain ⟨⟨s, r⟩, hcut, hs⟩ := Option.map_eq_some_iff.mp h
        cases hs
        rw [ih hcut]
        rfl
      · exact hquote
      · exact hslash

theorem suffix_of_readQuoted {s : String} (h : readQuoted cs = some (s, rest)) : '"' :: rest <:+ cs := by
  obtain ⟨⟨inner, r⟩, hcut, h⟩ := Option.bind_eq_some_iff.mp h
  obtain ⟨s', -, hs⟩ := Option.bind_eq_some_iff.mp h
  cases hs
  exact ⟨inner, (cutQuoted_eq hcut).symm⟩

/-- A key is followed by an equals sign. -/
theorem suffix_of_equals {k key : String} (hleft : left <:+ cs)
    (h : (match skipBlanks left with
      | '=' :: rest => some (key, rest)
      | _ => none) = some (k, rest)) : '=' :: rest <:+ cs := by
  split at h
  · next behind hbehind =>
      cases h
      rw [← hbehind]
      exact (skipBlanks_suffix left).trans hleft
  · cases h

theorem suffix_of_readKey {k : String} (h : readKey cs = some (k, rest)) : '=' :: rest <:+ cs := by
  rw [readKey] at h
  split at h
  · next ds hds =>
      obtain ⟨⟨key, left⟩, hkey, h⟩ := Option.bind_eq_some_iff.mp h
      have hleft : left <:+ '"' :: ds :=
        (List.suffix_cons _ _).trans ((suffix_of_readQuoted hkey).trans (List.suffix_cons _ _))
      exact suffix_of_equals (hleft.trans (hds ▸ skipBlanks_suffix cs)) h
  · simp only at h
    split at h
    · cases h
    · exact suffix_of_equals ((List.dropWhile_suffix _).trans (skipBlanks_suffix cs)) h

mutual

theorem Stands.suffix {cs rest : List Char} {v : Value} (h : Stands cs v rest) : rest <:+ cs := by
  match h with
  | .yes => exact ⟨['t', 'r', 'u', 'e'], rfl⟩
  | .no => exact ⟨['f', 'a', 'l', 's', 'e'], rfl⟩
  | .char (c := c) => exact ⟨['\'', c, '\''], rfl⟩
  | .quoted hs => exact (List.suffix_cons _ _).trans ((suffix_of_readQuoted hs).trans (List.suffix_cons _ _))
  | .list hi => exact hi.suffix.trans (List.suffix_cons _ _)
  | .dict hm => exact hm.suffix.trans (List.suffix_cons _ _)
  | .bare _ => exact List.dropWhile_suffix _

theorem Reads.suffix {cs rest : List Char} {v : Value} (h : Reads cs v rest) : rest <:+ cs := by
  match h with
  | .mk hv hrest =>
      rw [← hrest]
      exact (skipBlanks_suffix _).trans (hv.suffix.trans (skipBlanks_suffix _))

theorem Items.suffix {cs rest : List Char} {vs : List Value} (h : Items cs vs rest) : rest <:+ cs := by
  match h with
  | .close => exact List.suffix_cons _ _
  | .last _ hv => exact (List.suffix_cons _ _).trans hv.suffix
  | .next _ hv hvs => exact hvs.suffix.trans ((List.suffix_cons _ _).trans hv.suffix)

theorem Members.suffix {cs rest : List Char} {ms : List (String × Value)} (h : Members cs ms rest) :
    rest <:+ cs := by
  match h with
  | .close => exact List.suffix_cons _ _
  | .last _ hk hv =>
      have hbehind := (List.suffix_cons _ _).trans (suffix_of_readKey hk)
      exact (List.suffix_cons _ _).trans (hv.suffix.trans hbehind)
  | .next _ hk hv hms =>
      have hbehind := (List.suffix_cons _ _).trans (suffix_of_readKey hk)
      exact hms.suffix.trans ((List.suffix_cons _ _).trans (hv.suffix.trans hbehind))

end

/-! ## Reading -/

/-- What is read with some fuel is in the grammar. -/
structure Sound (n : Nat) : Prop where
  value {cs rest : List Char} {v : Value} : readValue n cs = some (v, rest) → Reads cs v rest
  items {cs rest : List Char} {vs : List Value} : readItems n cs = some (vs, rest) → Items cs vs rest
  members {cs rest : List Char} {ms : List (String × Value)} : readMembers n cs = some (ms, rest) →
    Members cs ms rest

theorem exists_of_map {α : Type} {read : Option (α × List Char)} {f : α → Value}
    (h : (do
      let (v, rest) ← read.map fun (a, rest) => (f a, rest)
      some (v, skipBlanks rest)) = some (v, rest)) :
    ∃ a left, read = some (a, left) ∧ v = f a ∧ skipBlanks left = rest := by
  obtain ⟨_, hread, h⟩ := Option.bind_eq_some_iff.mp h
  obtain ⟨⟨a, left⟩, hsome, rfl⟩ := Option.map_eq_some_iff.mp hread
  cases h
  exact ⟨a, left, hsome, rfl, rfl⟩

theorem not_cons_of_head {c : Char} (h : cs.head? ≠ some c) (rest : List Char) (hcs : cs = c :: rest) : False :=
  h (by rw [hcs, List.head?_cons])

theorem Sound.value_succ (hn : Sound n) (h : readValue (n + 1) cs = some (v, rest)) : Reads cs v rest := by
  rw [readValue] at h
  split at h
  case h_1 left hcs =>
    cases h
    exact .mk (hcs ▸ .yes) rfl
  case h_2 left hcs =>
    cases h
    exact .mk (hcs ▸ .no) rfl
  case h_3 ds hcs =>
    obtain ⟨ms, left, hms, rfl, hrest⟩ := exists_of_map (f := fun ms => .ofDict (SortedMap.ofList ms)) h
    exact .mk (hcs ▸ .dict (hn.members hms)) hrest
  case h_4 ds hcs =>
    obtain ⟨vs, left, hvs, rfl, hrest⟩ := exists_of_map h
    exact .mk (hcs ▸ .list (hn.items hvs)) hrest
  case h_5 ds hcs =>
    obtain ⟨s, left, hs, rfl, hrest⟩ := exists_of_map h
    exact .mk (hcs ▸ .quoted hs) hrest
  case h_6 c left hcs =>
    cases h
    exact .mk (hcs ▸ .char) rfl
  case h_7 => cases h
  case h_8 hyes hno hdict hlist hquoted hchar hlone =>
    cases h
    refine .mk (.bare ?_) rfl
    rw [isMarked]
    · exact hyes
    · exact hno
    · exact hdict
    · exact hlist
    · exact hquoted
    · exact hlone

theorem Sound.items_succ (hn : Sound n) (h : readItems (n + 1) cs = some (vs, rest)) : Items cs vs rest := by
  by_cases hcs : cs.head? = some ']'
  · obtain ⟨left, rfl⟩ := List.head?_eq_some_iff.mp hcs
    cases h
    exact .close
  · rw [readItems] at h
    · obtain ⟨⟨v, left⟩, hv, h⟩ := Option.bind_eq_some_iff.mp h
      simp only at h
      split at h
      · obtain ⟨⟨vs, left⟩, hvs, h⟩ := Option.bind_eq_some_iff.mp h
        cases h
        exact .next hcs (hn.value hv) (hn.items hvs)
      · cases h
        exact .last hcs (hn.value hv)
      · cases h
    · exact not_cons_of_head hcs

theorem Sound.members_succ (hn : Sound n) (h : readMembers (n + 1) cs = some (ms, rest)) :
    Members cs ms rest := by
  by_cases hcs : cs.head? = some '}'
  · obtain ⟨left, rfl⟩ := List.head?_eq_some_iff.mp hcs
    cases h
    exact .close
  · rw [readMembers] at h
    · obtain ⟨⟨k, behind⟩, hk, h⟩ := Option.bind_eq_some_iff.mp h
      obtain ⟨⟨v, left⟩, hv, h⟩ := Option.bind_eq_some_iff.mp h
      simp only at h
      split at h
      · obtain ⟨⟨ms, left⟩, hms, h⟩ := Option.bind_eq_some_iff.mp h
        cases h
        exact .next hcs hk (hn.value hv) (hn.members hms)
      · cases h
        exact .last hcs hk (hn.value hv)
      · cases h
    · exact not_cons_of_head hcs

theorem sound (n : Nat) : Sound n := by
  induction n with
  | zero =>
      constructor
      · intro cs rest v h
        cases h
      · intro cs rest vs h
        cases h
      · intro cs rest ms h
        cases h
  | succ n ih => exact ⟨ih.value_succ, ih.items_succ, ih.members_succ⟩

/-! A list or a dictionary is shorter than the text that it starts, and a value may be as long as the items or members
that it starts: a value needs fuel for twice its length and one more, items and members for one more than that. -/

mutual

theorem Stands.read {cs ds left : List Char} {v : Value} {m : Nat} (h : Stands ds v left)
    (hcs : skipBlanks cs = ds) (hm : 2 * ds.length ≤ m) : readValue (m + 1) cs = some (v, skipBlanks left) := by
  rw [readValue, hcs]
  match h with
  | .yes => rfl
  | .no => rfl
  | .char => rfl
  | .quoted hs => simp only [hs, Option.map_some]; rfl
  | .list hvs =>
      have hvs := hvs.read (m := m) (by rw [List.length_cons] at hm; omega)
      simp only [hvs, Option.map_some]
      rfl
  | .dict hms =>
      have hms := hms.read (m := m) (by rw [List.length_cons] at hm; omega)
      simp only [hms, Option.map_some]
      rfl
  | .bare hmark =>
      -- the reader has a case for every mark, and one for all other texts
      split
      all_goals first | cases hmark | rfl

theorem Reads.read {cs rest : List Char} {v : Value} {m : Nat} (h : Reads cs v rest)
    (hm : 2 * cs.length + 1 ≤ m) : readValue m cs = some (v, rest) := by
  match h with
  | .mk hv hrest =>
      obtain ⟨m, rfl⟩ : ∃ k, m = k + 1 := ⟨m - 1, by omega⟩
      have hlength := (skipBlanks_suffix cs).length_le
      rw [← hrest]
      exact hv.read rfl (by omega)

theorem Items.read {cs rest : List Char} {vs : List Value} {m : Nat} (h : Items cs vs rest)
    (hm : 2 * cs.length + 2 ≤ m) : readItems m cs = some (vs, rest) := by
  obtain ⟨m, rfl⟩ : ∃ k, m = k + 1 := ⟨m - 1, by omega⟩
  match h with
  | .close => rfl
  | .last hhead hv =>
      have hv := hv.read (m := m) (by omega)
      rw [readItems]
      · rw [hv]
        rfl
      · exact not_cons_of_head hhead
  | .next hhead hv hvs =>
      have hmore := hv.suffix.length_le
      rw [List.length_cons] at hmore
      have hv := hv.read (m := m) (by omega)
      have hvs := hvs.read (m := m) (by omega)
      rw [readItems]
      · simp only [hv, hvs, Option.bind_eq_bind, Option.bind_some]
      · exact not_cons_of_head hhead

theorem Members.read {cs rest : List Char} {ms : List (String × Value)} {m : Nat} (h : Members cs ms rest)
    (hm : 2 * cs.length + 2 ≤ m) : readMembers m cs = some (ms, rest) := by
  obtain ⟨m, rfl⟩ : ∃ k, m = k + 1 := ⟨m - 1, by omega⟩
  match h with
  | .close => rfl
  | .last hhead hk hv =>
      have hbehind := (suffix_of_readKey hk).length_le
      rw [List.length_cons] at hbehind
      have hv := hv.read (m := m) (by omega)
      rw [readMembers]
      · simp only [hk, hv, Option.bind_eq_bind, Option.bind_some]
      · exact not_cons_of_head hhead
  | .next hhead hk hv hms =>
      have hbehind := (suffix_of_readKey hk).length_le
      have hmore := hv.suffix.length_le
      rw [List.length_cons] at hbehind hmore
      have hv := hv.read (m := m) (by omega)
      have hms := hms.read (m := m) (by omega)
      rw [readMembers]
      · simp only [hk, hv, hms, Option.bind_eq_bind, Option.bind_some]
      · exact not_cons_of_head hhead

end

/-! ## Numbers -/

/-- Whether a character may stand in a number. -/
def isNumeric (c : Char) : Bool := c.isDigit || ['+', '-', '.', 'e', 'E'].contains c

theorem isNumeric_of_isDigit {c : Char} (h : c.isDigit = true) : isNumeric c = true := by
  rw [isNumeric, h, Bool.true_or]

/-- A text without the sign that it starts with. -/
def unsigned : List Char → List Char
  | '+' :: cs => cs
  | '-' :: cs => cs
  | cs => cs

theorem exists_sign (cs : List Char) : ∃ s, cs = s ++ unsigned cs ∧ ∀ c ∈ s, isNumeric c = true := by
  unfold unsigned
  split
  · exact ⟨['+'], rfl, List.forall_mem_singleton.mpr rfl⟩
  · exact ⟨['-'], rfl, List.forall_mem_singleton.mpr rfl⟩
  · exact ⟨[], rfl, List.forall_mem_nil _⟩

theorem isNumeric_of_exponent {e : Char}
    (h : ((e == 'e' || e == 'E') && !(unsigned ds).isEmpty && (unsigned ds).all Char.isDigit) = true) :
    ∀ c ∈ e :: ds, isNumeric c = true := by
  obtain ⟨s, hds, hs⟩ := exists_sign ds
  simp only [Bool.and_eq_true, Bool.or_eq_true, beq_iff_eq, List.all_eq_true] at h
  refine List.forall_mem_cons.mpr ⟨?_, ?_⟩
  · rcases h.1.1 with rfl | rfl <;> rfl
  · rw [hds]
    exact List.forall_mem_append.mpr ⟨hs, fun c hc => isNumeric_of_isDigit (h.2 c hc)⟩

/-- A number with a point holds nothing but what may stand in a number. -/
theorem isPointed_chars (h : isPointed cs = true) : '.' ∈ cs ∧ ∀ c ∈ cs, isNumeric c = true := by
  obtain ⟨s, hcs, hs⟩ := exists_sign cs
  unfold isPointed at h
  simp only at h
  split at h
  · next fraction hfraction =>
      replace hfraction : (unsigned cs).dropWhile Char.isDigit = '.' :: fraction := hfraction
      have hpoint : '.' ∈ unsigned cs := (List.dropWhile_suffix _).subset (hfraction ▸ List.mem_cons_self)
      have hnumeric : ∀ c ∈ fraction, isNumeric c = true := by
        refine Text.forall_of_dropWhile (fun c => isNumeric_of_isDigit) ?_
        have hexponent := (Bool.and_eq_true_iff.mp h).2
        split at hexponent
        · next hnil => simp [hnil]
        · next e left hleft =>
            rw [hleft]
            exact isNumeric_of_exponent hexponent
      rw [hcs]
      refine ⟨List.mem_append_right s hpoint, List.forall_mem_append.mpr ⟨hs, ?_⟩⟩
      refine Text.forall_of_dropWhile (fun c => isNumeric_of_isDigit) ?_
      rw [hfraction]
      exact List.forall_mem_cons.mpr ⟨rfl, hnumeric⟩
  · cases h

theorem digits?_chars {k : Nat} (h : digits? ds = some k) : '.' ∉ ds ∧ ∀ c ∈ ds, isNumeric c = true := by
  unfold digits? at h
  split at h
  · cases h
  · next hds =>
      have hdigits : ∀ c ∈ ds, c.isDigit = true := by simp_all
      refine ⟨fun hpoint => ?_, fun c hc => isNumeric_of_isDigit (hdigits c hc)⟩
      cases hdigits _ hpoint

/-- So does a whole number, and it has no point. -/
theorem whole?_chars {k : Int} (h : whole? cs = some k) : '.' ∉ cs ∧ ∀ c ∈ cs, isNumeric c = true := by
  unfold whole? at h
  split at h
  · obtain ⟨k, hk, -⟩ := Option.bind_eq_some_iff.mp h
    simpa [isNumeric] using digits?_chars hk
  · obtain ⟨k, hk, -⟩ := Option.bind_eq_some_iff.mp h
    simpa [isNumeric] using digits?_chars hk
  · obtain ⟨k, hk, -⟩ := Option.bind_eq_some_iff.mp h
    exact digits?_chars hk

/-! ## Literals -/

/-- The texts that are read as something else than they say. -/
inductive Literal : List Char → Value → Prop where
  | yes : Literal ['t', 'r', 'u', 'e'] (.bool true)
  | no : Literal ['f', 'a', 'l', 's', 'e'] (.bool false)
  | fraction {cs : List Char} : isPointed cs = true → Literal cs .fraction
  | whole {cs : List Char} {k : Int} : whole? cs = some k → Literal cs (.whole k)
  | char {c : Char} : Literal ['\'', c, '\''] (.char c)
  | quoted {cs : List Char} {s : String} : readQuoted cs = some (s, []) → Literal ('"' :: cs) (.text s)
  | list {cs : List Char} {vs : List Value} : Items cs vs [] → Literal ('[' :: cs) (.list vs)
  | dict {cs : List Char} {ms : List (String × Value)} : Members cs ms [] →
      Literal ('{' :: cs) (.ofDict (SortedMap.ofList ms))

theorem isSpace_of_isBlank {c : Char} (h : isBlank c = true) : Text.isSpace c = true := by
  simp only [isBlank, Bool.or_eq_true, beq_iff_eq] at h
  rcases h with (((rfl | rfl) | rfl) | rfl) | h
  · rfl
  · rfl
  · rfl
  · rfl
  · simp [Text.isSpace, h]

theorem skipBlanks_of_trimmed (h : Text.trimBy Text.isSpace cs = cs) : skipBlanks cs = cs := by
  have hdrop := Text.dropWhile_of_trimmed h
  cases cs with
  | nil => rfl
  | cons c cs =>
      have hc : Text.isSpace c = false := by
        have hnot := List.head?_dropWhile_not Text.isSpace (c :: cs)
        rwa [hdrop] at hnot
      refine List.dropWhile_cons_of_neg fun hblank => ?_
      rw [isSpace_of_isBlank hblank] at hc
      cases hc

/-- Nothing is left of a text that needs no trimming if only blanks are. -/
theorem eq_nil_of_skipBlanks (h : Text.trimBy Text.isSpace cs = cs) (hleft : left <:+ cs)
    (hblank : skipBlanks left = []) : left = [] := by
  by_contra hne
  obtain ⟨front, hfront⟩ := hleft
  have hlast : cs.getLast? = some (left.getLast hne) := by
    rw [← hfront, List.getLast?_append, List.getLast?_eq_some_getLast hne, Option.some_or]
  have hspace := isSpace_of_isBlank (List.dropWhile_eq_nil_iff.mp hblank _ (List.getLast_mem hne))
  have hnot := Text.getLast?_trimBy Text.isSpace cs (left.getLast hne) (h.symm ▸ hlast)
  rw [hspace] at hnot
  cases hnot

theorem bare_eq (cs : List Char) : bare cs = .text (String.ofList cs) ∨ Literal cs (bare cs) := by
  rw [bare]
  split
  · next h => exact .inr (.fraction h)
  · split
    · next k hk => exact .inr (.whole hk)
    · exact .inl rfl

theorem Stands.literal (htrim : Text.trimBy Text.isSpace cs = cs) (h : Stands cs v left) (hleft : left = []) :
    v = .text (String.ofList cs) ∨ Literal cs v := by
  cases h with
  | yes => exact .inr (hleft ▸ .yes)
  | no => exact .inr (hleft ▸ .no)
  | char => exact .inr (hleft ▸ .char)
  | quoted hs => exact .inr (.quoted (hleft ▸ hs))
  | list hvs => exact .inr (.list (hleft ▸ hvs))
  | dict hms => exact .inr (.dict (hleft ▸ hms))
  | bare hmark =>
      have hall : cs.takeWhile (!isSeparator ·) = cs := by
        have hsplit := List.takeWhile_append_dropWhile (p := (!isSeparator ·)) (l := cs)
        rwa [hleft, List.append_nil] at hsplit
      rw [hall, htrim]
      exact bare_eq cs

theorem not_isSeparator_of_isNumeric {c : Char} (h : isNumeric c = true) : (!isSeparator c) = true := by
  rw [Bool.not_eq_true', Bool.eq_false_iff]
  intro hsep
  simp only [isSeparator, List.contains_eq_mem, List.mem_cons, List.not_mem_nil, or_false, decide_eq_true_eq] at hsep
  rcases hsep with rfl | rfl | rfl | rfl | rfl <;> cases h

theorem isMarked_of_isNumeric (h : ∀ c ∈ cs, isNumeric c = true) : isMarked cs = false := by
  unfold isMarked
  split
  case h_7 => rfl
  all_goals cases h _ List.mem_cons_self

/-- A text made of what may stand in a number is bare as a whole. -/
theorem Stands.number (htrim : Text.trimBy Text.isSpace cs = cs) (h : ∀ c ∈ cs, isNumeric c = true) :
    Stands cs (Variable.bare cs) [] := by
  have hsep : ∀ c ∈ cs, (!isSeparator c) = true := fun c hc => not_isSeparator_of_isNumeric (h c hc)
  have hbare := Stands.bare (isMarked_of_isNumeric h)
  rw [List.takeWhile_eq_self_iff.mpr hsep, List.dropWhile_eq_nil_iff.mpr hsep, htrim] at hbare
  exact hbare

theorem Literal.stands (htrim : Text.trimBy Text.isSpace cs = cs) (h : Literal cs v) : Stands cs v [] := by
  cases h with
  | yes => exact .yes
  | no => exact .no
  | char => exact .char
  | quoted hs => exact .quoted hs
  | list hvs => exact .list hvs
  | dict hms => exact .dict hms
  | fraction h =>
      have hstands := Stands.number htrim (isPointed_chars h).2
      rwa [Variable.bare, if_pos h] at hstands
  | whole h =>
      obtain ⟨hpoint, hnumeric⟩ := whole?_chars h
      have hstands := Stands.number htrim hnumeric
      rwa [Variable.bare, if_neg fun hp => hpoint (isPointed_chars hp).1, h] at hstands

/-- An escape stands for one character. -/
theorem length_of_unescape? {s : List Char} (h : unescape? cs = some s) : s.length ≤ cs.length := by
  induction hk : cs.length using Nat.strong_induction_on generalizing cs s with
  | h k ih =>
      rw [unescape?.eq_def] at h
      split at h
      · cases h
        exact Nat.zero_le k
      · next c rest =>
          simp only [List.length_cons] at hk
          split at h
          · simp only at h
            generalize (if (c == 'u') = true then 4 else 8) = n at h
            split at h
            · obtain ⟨s, hs, rfl⟩ := Option.map_eq_some_iff.mp h
              have hrest : (rest.drop n).length ≤ rest.length := (List.drop_suffix n rest).length_le
              have hlength := ih _ (by omega) hs rfl
              rw [List.length_cons]
              omega
            · cases h
          · obtain ⟨d, -, h⟩ := Option.bind_eq_some_iff.mp h
            obtain ⟨s, hs, h⟩ := Option.bind_eq_some_iff.mp h
            cases h
            have hlength := ih _ (by omega) hs rfl
            rw [List.length_cons]
            omega
      · next c rest _ =>
          rw [List.length_cons] at hk
          split at h
          · cases h
          · obtain ⟨s, hs, rfl⟩ := Option.map_eq_some_iff.mp h
            have hlength := ih _ (by omega) hs rfl
            rw [List.length_cons]
            omega

theorem length_of_readQuoted {s : String} (h : readQuoted cs = some (s, rest)) : s.toList.length < cs.length := by
  obtain ⟨⟨inner, left⟩, hcut, h⟩ := Option.bind_eq_some_iff.mp h
  obtain ⟨t, ht, h⟩ := Option.bind_eq_some_iff.mp h
  cases h
  have hlength := length_of_unescape? ht
  rw [String.toList_ofList, cutQuoted_eq hcut, List.length_append, List.length_cons]
  omega

/-- No literal says itself. -/
theorem Literal.ne_text (h : Literal cs v) : v ≠ .text (String.ofList cs) := by
  rintro rfl
  cases h with
  | quoted hs =>
      have hlength := length_of_readQuoted hs
      rw [String.toList_ofList, List.length_cons] at hlength
      omega

theorem Literal.ne_char {c : Char} (h : Literal cs (.char c)) : cs ≠ [c] := by
  cases h with
  | char => nofun

/-! ## Values -/

theorem value_of_reads {text : String} (h : Reads text.toList v []) : value text = v := by
  have hread := h.read (m := 2 * (text.toList.length + 1)) (by omega)
  simp only [value, hread]

theorem value_eq_or_reads (text : String) : value text = .text text ∨ Reads text.toList (value text) [] := by
  rw [value]
  split
  · next v hread => exact .inr ((sound _).value hread)
  · exact .inl rfl

theorem bare_ne_null (cs : List Char) : bare cs ≠ .null := by
  rw [bare]
  split
  · nofun
  · split <;> nofun

theorem Stands.ne_null (h : Stands cs v rest) : v ≠ .null := by
  cases h with
  | bare _ => exact bare_ne_null _
  | _ => nofun

theorem value_ne_null (text : String) : value text ≠ .null := by
  rcases value_eq_or_reads text with hvalue | ⟨hstands, -⟩
  · rw [hvalue]
    nofun
  · exact hstands.ne_null

theorem trimBy_toList {text : String} (h : Text.trim text = text) :
    Text.trimBy Text.isSpace text.toList = text.toList := by
  have h := congrArg String.toList h
  rwa [Text.trim, String.toList_ofList] at h

/-- A literal is read as what it is. -/
theorem value_of_literal {text : String} (h : Text.trim text = text) (hv : Literal text.toList v) :
    value text = v :=
  value_of_reads (.mk (skipBlanks_of_trimmed (trimBy_toList h) ▸ hv.stands (trimBy_toList h)) rfl)

/-- Any other text is read as it stands. -/
theorem value_of_not_literal {text : String} (h : Text.trim text = text)
    (hv : ¬∃ v, Literal text.toList v) : value text = .text text := by
  rcases value_eq_or_reads text with hvalue | ⟨hstands, hleft⟩
  · exact hvalue
  · rw [skipBlanks_of_trimmed (trimBy_toList h)] at hstands
    have hnil := eq_nil_of_skipBlanks (trimBy_toList h) hstands.suffix hleft
    rcases hstands.literal (trimBy_toList h) hnil with hvalue | hliteral
    · rwa [String.ofList_toList] at hvalue
    · exact absurd ⟨_, hliteral⟩ hv

end TableIndex.Settings.Variable
