import TableIndex.Proofs.Schema.Declaration
import TableIndex.Proofs.Schema.Plan

/-!
# The grammar of schemas as text

A text is a schema exactly if every declaration in it is well-formed and no two declare the same name; otherwise
the first declaration that is wrong, or that repeats a name, says what is reported (`parse_exact`).
-/

namespace TableIndex

namespace Schema

variable {s : Schema} {text : String} {pieces before after : List (List (List Char))} {piece : List (List Char)}
  {f : Field} {name : String} {names : List String} {e : SchemaTextError} {position : Nat}

/-! ## Declarations in a text -/

/-- The declarations in a text: the words of every piece between commas that is not blank. -/
def Declarations (text : String) (pieces : List (List (List Char))) : Prop :=
  ∃ parts, Text.Pieces ',' text.toList parts ∧
    List.Forall₂ Text.Words (parts.filter fun part => part.any (!Text.isSpace ·)) pieces

theorem forall₂_words_iff {parts : List (List Char)} :
    List.Forall₂ Text.Words parts pieces ↔ parts.map Text.words = pieces := by
  have hwords : Text.Words = fun cs ws => Text.words cs = ws := by
    funext cs ws
    exact propext Text.words_iff
  rw [hwords, ← List.forall₂_map_left_iff, List.forall₂_eq_eq_eq]

theorem declarations_iff : Declarations text pieces ↔ declarations text = pieces := by
  have hblank : (!·.isEmpty) ∘ Text.words = fun part : List Char => part.any (!Text.isSpace ·) := by
    funext part
    have hnil := (Text.words_spec part).eq_nil_iff
    cases hany : part.any (!Text.isSpace ·) <;> simp_all
  rw [declarations, List.filter_map, hblank]
  constructor
  · rintro ⟨parts, hparts, hwords⟩
    rw [Text.pieces_iff.mp hparts]
    exact forall₂_words_iff.mp hwords
  · rintro rfl
    exact ⟨_, Text.pieces_iff.mpr rfl, forall₂_words_iff.mpr rfl⟩

theorem solid_of_declarations (h : piece ∈ declarations text) : Solid piece := by
  obtain ⟨part, -, rfl⟩ := List.mem_map.mp (List.mem_filter.mp h).1
  exact fun token htoken => ((Text.words_spec part).free token htoken).2

/-- A declaration is well-formed and has the name. -/
def Names (piece : List (List Char)) (name : String) : Prop := ∃ pairs, Formed piece pairs name

/-- Declarations that are well-formed, with distinct names. -/
structure Sound (pieces : List (List (List Char))) (names : List String) : Prop where
  named : List.Forall₂ Names pieces names
  distinct : names.Nodup

/-- A declaration is well-formed and declares the field. -/
def Declared (piece : List (List Char)) (f : Field) : Prop := ∃ pairs, Formed piece pairs f.name ∧ Declares pairs f

/-- What is wrong with a declaration after declarations of the given names. -/
inductive Offends (names : List String) (piece : List (List Char)) : SchemaTextError → Prop where
  | fault {e : SchemaTextError} : Fault names.length piece e → Offends names piece e
  | repeated {name : String} : Names piece name → name ∈ names → Offends names piece (.duplicateField name)

theorem Sound.snoc (h : Sound pieces names) (hpiece : Names piece name) (hname : name ∉ names) :
    Sound (pieces ++ [piece]) (names ++ [name]) :=
  ⟨List.rel_append h.named (.cons hpiece .nil), List.concat_eq_append ▸ h.distinct.concat hname⟩

/-- Declarations are sound, or there is a first one that offends. -/
theorem sound_or_offends (pieces : List (List (List Char))) : (∃ names, Sound pieces names) ∨
    ∃ before piece after, pieces = before ++ piece :: after ∧ ∃ names e, Sound before names ∧ Offends names piece e := by
  refine all_or_first (P := fun pieces => ∃ names, Sound pieces names) ?_ ?_ pieces
  · exact ⟨[], .nil, .nil⟩
  · rintro pieces piece ⟨names, hsound⟩
    rcases formed_or_fault names.length piece with ⟨pairs, name, hpiece⟩ | ⟨e, hfault⟩
    · by_cases hname : name ∈ names
      · exact .inr ⟨names, _, hsound, .repeated ⟨pairs, hpiece⟩ hname⟩
      · exact .inl ⟨names ++ [name], hsound.snoc ⟨pairs, hpiece⟩ hname⟩
    · exact .inr ⟨names, e, hsound, .fault hfault⟩

/-! ## Reading texts -/

theorem readFields_cons {rest : List (List (List Char))} (hread : readField position piece = .ok f)
    (hno : f.name ∉ s.names) :
    readFields s position (piece :: rest) = readFields (s.add f) (position + 1) rest := by
  have hc : s.contains f.name = false := Bool.eq_false_iff.mpr fun hc => hno ((KeyedList.mem_keys_iff ..).mpr hc)
  simp [readFields, bind, Except.bind, hread, hc]

theorem toList_add (h : f.name ∉ s.names) : (s.add f).toList = s.toList ++ [f] :=
  KeyedList.upsertItem_of_not_mem h

theorem names_add (h : f.name ∉ s.names) : (s.add f).names = s.names ++ [f.name] :=
  (KeyedList.keys_upsert s.fields f).trans (if_neg h)

/-- Well-formed declarations with new names add their fields, and what comes after them is read as it would be
after a schema with these fields. -/
theorem readFields_of_names (hsolid : ∀ piece ∈ pieces, Solid piece) (h : List.Forall₂ Names pieces names)
    (hd : (s.names ++ names).Nodup) (position : Nat) (rest : List (List (List Char))) :
    ∃ t fs, readFields s position (pieces ++ rest) = readFields t (position + names.length) rest ∧
      t.uniqueKey = s.uniqueKey ∧ t.names = s.names ++ names ∧ t.toList = s.toList ++ fs ∧
      List.Forall₂ Declared pieces fs := by
  induction h generalizing s position with
  | nil => exact ⟨s, [], rfl, rfl, (List.append_nil _).symm, (List.append_nil _).symm, .nil⟩
  | @cons piece name pieces names hpiece _ ih =>
      obtain ⟨pairs, hpiece⟩ := hpiece
      obtain ⟨hsolid, hrest⟩ := List.forall_mem_cons.mp hsolid
      obtain ⟨f, hread, rfl, hf⟩ := readField_of_formed hsolid hpiece position
      have hno : f.name ∉ s.names := fun hmem =>
        (List.nodup_append.mp hd).2.2 f.name hmem f.name List.mem_cons_self rfl
      rw [List.append_cons, ← names_add hno] at hd
      obtain ⟨t, fs, hrun, hkey, hnames, hlist, hfs⟩ := ih hrest hd (position + 1)
      refine ⟨t, f :: fs, ?_, hkey, ?_, ?_, .cons ⟨pairs, hpiece, hf⟩ hfs⟩
      · rw [List.cons_append, readFields_cons hread hno, hrun, List.length_cons, Nat.add_right_comm, Nat.add_assoc]
      · rw [hnames, names_add hno, ← List.append_cons]
      · rw [hlist, toList_add hno, ← List.append_cons]

theorem readFields_of_offends {rest : List (List (List Char))} (hsolid : Solid piece)
    (h : Offends s.names piece e) : readFields s s.names.length (piece :: rest) = .error e := by
  cases h with
  | fault hfault => simp [readFields, bind, Except.bind, readField_of_fault hsolid hfault]
  | repeated hpiece hname =>
      obtain ⟨pairs, hpiece⟩ := hpiece
      obtain ⟨f, hread, rfl, -⟩ := readField_of_formed hsolid hpiece s.names.length
      have hc : s.contains f.name = true := (KeyedList.mem_keys_iff ..).mp hname
      simp [readFields, bind, Except.bind, hread, hc, throw, throwThe, MonadExceptOf.throw]

/-- What adding the fields that are read keeps holds of the schema that is read. -/
theorem of_readFields {P : Schema → Prop} {t : Schema} (hs : P s)
    (hadd : ∀ piece ∈ pieces, ∀ position s f, P s → readField position piece = .ok f → P (s.add f))
    (h : readFields s position pieces = .ok t) : P t := by
  induction pieces generalizing s position with
  | nil => exact Except.ok.inj h ▸ hs
  | cons piece pieces ih =>
      obtain ⟨hpiece, hpieces⟩ := List.forall_mem_cons.mp hadd
      simp only [readFields, bind, Except.bind] at h
      split at h
      · cases h
      · next f hf =>
        split at h
        · cases h
        · exact ih (hpiece _ _ _ hs hf) hpieces h

/-- What holds of every field that is read holds of the fields of a schema that is read. -/
theorem forall_of_readFields {P : Field → Prop} {t : Schema} (hs : ∀ f ∈ s.toList, P f)
    (hpieces : ∀ piece ∈ pieces, ∀ position f, readField position piece = .ok f → P f)
    (h : readFields s position pieces = .ok t) : ∀ f ∈ t.toList, P f := by
  refine of_readFields (P := fun s => ∀ f ∈ s.toList, P f) hs (fun piece hpiece _ s f hs hf g hg => ?_) h
  rcases KeyedList.mem_upsertItem hg with rfl | hg
  · exact hpieces piece hpiece _ _ hf
  · exact hs g hg

theorem uniqueKey_of_readFields {t : Schema} (h : readFields s position pieces = .ok t) : t.uniqueKey = s.uniqueKey :=
  of_readFields (P := fun t => t.uniqueKey = s.uniqueKey) rfl (fun _ _ _ _ _ hs _ => hs) h

theorem uniqueKey_ofFields (primaryKey : Option String) (fields : List Field) :
    (ofFields (primaryKey.getD "") fields).uniqueKey = (primaryKey.filter (!Text.isBlank ·)).getD idKey := by
  cases primaryKey with
  | none => rfl
  | some key =>
      rw [ofFields, Option.getD_some, Option.filter]
      cases Text.isBlank key <;> rfl

theorem parse_of_sound (primaryKey : Option String) (h : Sound (declarations text) names) :
    ∃ s, parse primaryKey text = .ok s ∧ s.uniqueKey = (primaryKey.filter (!Text.isBlank ·)).getD idKey ∧
      List.Forall₂ Declared (declarations text) s.toList := by
  obtain ⟨t, fs, hrun, hkey, -, hlist, hfs⟩ := readFields_of_names (s := ofFields (primaryKey.getD "") [])
    (fun _ => solid_of_declarations) h.named h.distinct 0 []
  rw [List.append_nil] at hrun
  exact ⟨t, hrun, hkey.trans (uniqueKey_ofFields primaryKey []), hlist ▸ hfs⟩

theorem parse_of_offends (primaryKey : Option String) (hsplit : declarations text = before ++ piece :: after)
    (h : Sound before names) (hoffends : Offends names piece e) : parse primaryKey text = .error e := by
  have hsolid : ∀ p ∈ before ++ piece :: after, Solid p := fun _ hp => solid_of_declarations (hsplit ▸ hp)
  obtain ⟨t, fs, hrun, -, rfl, -, -⟩ := readFields_of_names (s := ofFields (primaryKey.getD "") [])
    (fun p hp => hsolid p (List.mem_append_left _ hp)) h.named h.distinct 0 (piece :: after)
  rw [Nat.zero_add] at hrun
  rw [parse, hsplit, hrun]
  exact readFields_of_offends (hsolid piece (List.mem_append_right _ List.mem_cons_self)) hoffends

/-- The parser accepts its grammar and nothing else, gives what the text declares, and reports the first
declaration that offends. -/
theorem parse_exact (primaryKey : Option String) (text : String) : ∃ pieces,
    (∀ pieces', Declarations text pieces' ↔ pieces' = pieces) ∧
    ((∃ s, parse primaryKey text = .ok s) ↔ ∃ names, Sound pieces names) ∧
    (∀ s, parse primaryKey text = .ok s →
      s.uniqueKey = (primaryKey.filter (!Text.isBlank ·)).getD idKey ∧ List.Forall₂ Declared pieces s.toList) ∧
    ∀ e, parse primaryKey text = .error e ↔ ∃ before piece after, pieces = before ++ piece :: after ∧
      ∃ names, Sound before names ∧ Offends names piece e := by
  have hoffends : ∀ {e}, (∃ before piece after, declarations text = before ++ piece :: after ∧
      ∃ names, Sound before names ∧ Offends names piece e) → parse primaryKey text = .error e :=
    fun ⟨_, _, _, hsplit, _, hsound, hoffends⟩ => parse_of_offends primaryKey hsplit hsound hoffends
  refine ⟨declarations text, fun _ => declarations_iff.trans eq_comm, ?_⟩
  rcases sound_or_offends (declarations text) with ⟨names, hsound⟩ | ⟨before, piece, after, hsplit, names, e, hfirst⟩
  · obtain ⟨s, hs, hkey, hfields⟩ := parse_of_sound primaryKey hsound
    refine ⟨⟨fun _ => ⟨names, hsound⟩, fun _ => ⟨s, hs⟩⟩, fun t ht => ?_, fun e => ⟨fun he => ?_, hoffends⟩⟩
    · obtain rfl := Except.ok.inj (hs.symm.trans ht)
      exact ⟨hkey, hfields⟩
    · cases hs.symm.trans he
  · have he := hoffends ⟨before, piece, after, hsplit, names, hfirst⟩
    refine ⟨⟨fun ⟨s, hs⟩ => ?_, fun ⟨names, hsound⟩ => ?_⟩, fun t ht => ?_, fun e' => ⟨fun he' => ?_, hoffends⟩⟩
    · cases he.symm.trans hs
    · obtain ⟨s, hs, -⟩ := parse_of_sound primaryKey hsound
      exact ⟨s, hs⟩
    · cases he.symm.trans ht
    · obtain rfl := Except.error.inj (he.symm.trans he')
      exact ⟨before, piece, after, hsplit, names, hfirst⟩

-- Blank declarations are not counted, and the fault of a declaration comes before the repetition of its name.
example : parse none "name:a, ,stored:no name:a" =
    .error (.invalidField (.invalidProperty "a" Field.storedKey (.string "no"))) := rfl

end Schema

end TableIndex
