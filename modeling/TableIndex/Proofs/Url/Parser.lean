import TableIndex.Proofs.Url.Encoding
import TableIndex.Proofs.Url.Path
import TableIndex.Url.Parser

/-!
# What a URL is read from

The path of a URL is read from the end of what stands between its scheme and the first mark of a query or a fragment,
and nothing behind that mark changes it. So its segments hold no slash, and it ends with an empty segment where the
text in front of the marks ends with a slash.
-/

namespace TableIndex.Url

open TableIndex.Text

variable {α β : Type} {scheme : Scheme} {cs front left : List Char} {tail : Option (List Char) × Option (List Char)}

/-! ## Parts of a text -/

theorem exists_of_bind {x : Except ParseError α} {f : α → Except ParseError β} {b : β} (h : x >>= f = .ok b) :
    ∃ a, x = .ok a ∧ f a = .ok b := by
  cases x with
  | error e => nomatch h
  | ok a => exact ⟨a, rfl, h⟩

theorem not_thrown {p : Prop} [Decidable p] {e : ParseError} {f : α → Except ParseError β} {x : Except ParseError β}
    {b : β} (h : (if p then throw e >>= f else x) = .ok b) : x = .ok b := by
  split at h
  · nomatch h
  · exact h

theorem cutHost_append (bracketed : Bool) (cs : List Char) :
    (cutHost bracketed cs).1 ++ (cutHost bracketed cs).2 = cs := by
  induction cs generalizing bracketed with
  | nil => rfl
  | cons c cs ih =>
      rw [cutHost]
      split
      · rfl
      · exact congrArg (c :: ·) (ih _)

theorem suffix_of_readPort {port : Option Nat} (h : readPort scheme cs = .ok (port, left)) : left <:+ cs := by
  simp only [readPort] at h
  split at h
  · nomatch h
  · split at h
    · nomatch h
    · obtain ⟨-, rfl⟩ := Prod.mk.inj (Except.ok.inj h)
      exact List.dropWhile_suffix _

theorem suffix_of_cutUser {user host : List Char} (h : cutUser cs = some (user, host)) : host <:+ cs := by
  simp only [cutUser] at h
  split at h
  · nomatch h
  · obtain ⟨-, rfl⟩ := Prod.mk.inj (Option.some.inj h)
    rw [← List.reverse_prefix, List.reverse_reverse]
    exact List.takeWhile_prefix _

theorem suffix_of_readHostAndPort {user password : List Char} {a : Authority}
    (h : readHostAndPort scheme user password cs = .ok (a, left)) : left <:+ cs := by
  have hcut := cutHost_append false cs
  simp only [readHostAndPort] at h
  have h := not_thrown h
  split at h
  -- Both kinds of hosts are followed by the same.
  all_goals
    obtain ⟨host, -, h⟩ := exists_of_bind h
    split at h
    · next c digits hrest =>
      obtain ⟨⟨port, rest⟩, hport, h⟩ := exists_of_bind (not_thrown h)
      obtain ⟨-, rfl⟩ := Prod.mk.inj (Except.ok.inj h)
      rw [hrest] at hcut
      exact (suffix_of_readPort hport).trans ⟨(cutHost false cs).1 ++ [c], by rw [List.append_assoc]; exact hcut⟩
    · obtain ⟨-, rfl⟩ := Prod.mk.inj (Except.ok.inj (not_thrown h))
      exact List.nil_suffix

theorem suffix_of_readAuthority {more : Bool} {a : Authority}
    (h : readAuthority scheme more cs = .ok (a, left)) : left <:+ cs := by
  unfold readAuthority at h
  split at h
  · exact suffix_of_readHostAndPort h
  · next user host hcut =>
    split at h
    · nomatch h
    · exact (suffix_of_readHostAndPort h).trans (suffix_of_cutUser hcut)

theorem withoutSlash_suffix (special : Bool) (cs : List Char) : withoutSlash special cs <:+ cs := by
  unfold withoutSlash
  split
  · split
    · exact List.suffix_cons _ _
    · exact List.suffix_refl _
  · exact List.suffix_refl _

/-! ## What the path is read from -/

/-- The path of a URL, as it is read from the end of a text. -/
inductive ReadFrom (scheme : Scheme) (front : List Char) : List Segment → Prop where
  | none : scheme.isSpecial = false → ReadFrom scheme front []
  | file {cs : List Char} : scheme = .file → cs <:+ front → ReadFrom scheme front (Path.dropEmpty (readPath scheme cs))
  | other {cs : List Char} : scheme ≠ .file → cs <:+ front → ReadFrom scheme front (readPath scheme cs)

/-- What is read behind a scheme. -/
def readBody (scheme : Scheme) (cs : List Char) (tail : Option (List Char) × Option (List Char)) :
    Except ParseError Url :=
  if scheme = .file then parseFile cs tail
  else if scheme.isSpecial then parseWithAuthority scheme (cs.dropWhile (isSlash true)) tail
  else match cs with
    | '/' :: '/' :: cs => parseWithAuthority scheme cs tail
    | '/' :: cs => .ok (assemble scheme none (.hierarchy (readPath scheme cs)) tail)
    | cs => .ok (assemble scheme none (.plain (encode controlSet cs)) tail)

theorem parse_eq (text : List Char) : parse text = match readScheme? (cleaned text) with
    | none => .error .relative
    | some (scheme, cs) => readBody scheme (cutTail cs).1 (cutTail cs).2 := rfl

/-- A URL whose path was read from the end of a text. -/
def IsReadFrom (u : Url) (scheme : Scheme) (front : List Char) : Prop :=
  u.scheme = scheme ∧ ∀ segments, u.path = .hierarchy segments → ReadFrom scheme front segments

theorem isReadFrom_of_parseWithAuthority {u : Url} (hscheme : scheme ≠ .file)
    (h : parseWithAuthority scheme cs tail = .ok u) : IsReadFrom u scheme cs := by
  simp only [parseWithAuthority] at h
  obtain ⟨⟨a, left⟩, hauthority, h⟩ := exists_of_bind h
  obtain rfl := Except.ok.inj h
  refine ⟨rfl, ?_⟩
  rintro segments hsegments
  obtain rfl := Location.hierarchy.inj hsegments
  have hfront : cs.takeWhile (!endsAuthority scheme.isSpecial ·) ++
      cs.drop (cs.takeWhile (!endsAuthority scheme.isSpecial ·)).length = cs :=
    List.prefix_iff_eq_append.mp (List.takeWhile_prefix _)
  split
  · obtain ⟨start, hstart⟩ := suffix_of_readAuthority hauthority
    refine .other hscheme ⟨start, ?_⟩
    rw [← List.append_assoc, hstart, hfront]
  · split
    · next hnone =>
      simp only [Bool.and_eq_true, Bool.not_eq_true'] at hnone
      exact .none hnone.2
    · exact .other hscheme ((withoutSlash_suffix _ _).trans ⟨_, hfront⟩)

theorem isReadFrom_assembleFile {host : Host} {rest : List Char} (h : rest <:+ cs) :
    IsReadFrom (assembleFile host (readPath .file rest) tail) .file cs := by
  refine ⟨rfl, ?_⟩
  rintro segments hsegments
  obtain rfl := Location.hierarchy.inj hsegments
  exact .file rfl h

theorem isReadFrom_of_parseFile {u : Url} (h : parseFile cs tail = .ok u) : IsReadFrom u .file cs := by
  unfold parseFile at h
  split at h
  · next a b rest =>
    split at h
    · have hrest : rest <:+ a :: b :: rest := (List.suffix_cons b rest).trans (List.suffix_cons a _)
      simp only at h
      split at h
      -- The path is read from the same part of the text on every host.
      all_goals
        obtain ⟨host, -, h⟩ := exists_of_bind h
        obtain rfl := Except.ok.inj h
        refine isReadFrom_assembleFile (List.IsSuffix.trans ?_ hrest)
        split
        · exact List.suffix_refl rest
        · exact (withoutSlash_suffix _ _).trans (List.drop_suffix _ _)
    · obtain rfl := Except.ok.inj h
      exact isReadFrom_assembleFile (withoutSlash_suffix _ _)
  · obtain rfl := Except.ok.inj h
    exact isReadFrom_assembleFile (withoutSlash_suffix _ _)

theorem IsReadFrom.mono {u : Url} {rest : List Char} (h : IsReadFrom u scheme rest) (hrest : rest <:+ cs) :
    IsReadFrom u scheme cs := by
  refine ⟨h.1, fun segments hsegments => ?_⟩
  cases h.2 segments hsegments with
  | none hscheme => exact .none hscheme
  | file hscheme hsuffix => exact .file hscheme (hsuffix.trans hrest)
  | other hscheme hsuffix => exact .other hscheme (hsuffix.trans hrest)

theorem isReadFrom_of_readBody {u : Url} (h : readBody scheme cs tail = .ok u) : IsReadFrom u scheme cs := by
  unfold readBody at h
  split at h
  · next hscheme =>
    subst hscheme
    exact isReadFrom_of_parseFile h
  · next hscheme =>
    split at h
    · exact (isReadFrom_of_parseWithAuthority hscheme h).mono (List.dropWhile_suffix _)
    · split at h
      · exact (isReadFrom_of_parseWithAuthority hscheme h).mono
          ((List.suffix_cons _ _).trans (List.suffix_cons _ _))
      · obtain rfl := Except.ok.inj h
        refine ⟨rfl, ?_⟩
        rintro segments hsegments
        obtain rfl := Location.hierarchy.inj hsegments
        exact .other hscheme (List.suffix_cons _ _)
      · obtain rfl := Except.ok.inj h
        exact ⟨rfl, nofun⟩

/-! ## Segments -/

theorem slashless_readPath (scheme : Scheme) (cs : List Char) : Path.Slashless (readPath scheme cs) := by
  refine Path.Slashless.appendAll nofun fun piece hpiece => ?_
  obtain ⟨w, hw, rfl⟩ := List.mem_map.mp hpiece
  refine slash_not_mem_encode (.inl fun hslash => ?_)
  nomatch free_of_mem_splitBy (isSlash scheme.isSpecial) cs w hw '/' hslash

theorem getLast?_readPath (h : cs = [] ∨ cs.getLast? = some '/') : (readPath scheme cs).getLast? = some [] := by
  refine Path.getLast?_appendAll ?_
  have hlast : (splitBy (isSlash scheme.isSpecial) cs).getLast? = some [] := by
    rcases h with rfl | h
    · rfl
    · obtain ⟨front, rfl⟩ := List.getLast?_eq_some_iff.mp h
      exact getLast?_splitBy rfl front
  rw [List.getLastD_eq_getLast?, List.getLast?_map, hlast]
  rfl

/-! ## Paths that are read -/

variable {u : Url} {segments : List Segment} {text a b : List Char} {m : Char}

theorem ReadFrom.slashless (h : ReadFrom scheme front segments) : Path.Slashless segments := by
  cases h with
  | none _ => exact nofun
  | file _ _ => exact (slashless_readPath scheme _).dropEmpty
  | other _ _ => exact slashless_readPath scheme _

theorem ReadFrom.rooted (h : ReadFrom scheme front segments) : Path.Rooted (scheme == .file) segments := by
  cases h with
  | none _ => exact fun _ => nofun
  | file _ _ => exact Path.rooted_dropEmpty _
  | other hscheme _ => exact fun hfile => absurd (beq_iff_eq.mp hfile) hscheme

theorem ReadFrom.ne_nil (h : ReadFrom scheme front segments) (hspecial : scheme.isSpecial = true) : segments ≠ [] := by
  cases h with
  | none hscheme => nomatch hscheme.symm.trans hspecial
  | file _ _ => exact fun hnil => Path.appendAll_ne_nil (Path.dropEmpty_eq_nil_iff.mp hnil)
  | other _ _ => exact Path.appendAll_ne_nil

theorem ReadFrom.getLast? (h : ReadFrom scheme front segments) (hend : front.getLast? = some '/') :
    segments.getLast? = some [] ∨ segments = [] ∧ scheme.isSpecial = false := by
  have hsuffix : ∀ cs, cs <:+ front → cs = [] ∨ cs.getLast? = some '/' := by
    rintro cs ⟨start, rfl⟩
    cases cs with
    | nil => exact .inl rfl
    | cons c cs =>
        rw [List.getLast?_append, List.getLast?_cons, Option.some_or, ← List.getLast?_cons] at hend
        exact .inr hend
  cases h with
  | none hscheme => exact .inr ⟨rfl, hscheme⟩
  | file _ hcs => exact .inl ((Path.getLast?_dropEmpty _).trans (getLast?_readPath (hsuffix _ hcs)))
  | other _ hcs => exact .inl (getLast?_readPath (hsuffix _ hcs))

theorem isReadFrom_of_parse (h : parse text = .ok u) : ∃ scheme cs, readScheme? (cleaned text) = some (scheme, cs) ∧
    IsReadFrom u scheme (cutTail cs).1 := by
  rw [parse_eq] at h
  split at h
  · nomatch h
  · next scheme cs hread => exact ⟨scheme, cs, hread, isReadFrom_of_readBody h⟩

theorem hierarchical_of_parse (h : parse text = .ok u) (hpath : u.path = .hierarchy segments) :
    Hierarchical u segments := by
  obtain ⟨scheme, cs, -, rfl, hread⟩ := isReadFrom_of_parse h
  have hsegments := hread segments hpath
  exact ⟨hpath, hsegments.slashless, hsegments.rooted, hsegments.ne_nil⟩

/-! ## Marks -/

/-- What starts a query or a fragment. -/
def isMark (c : Char) : Bool := c == '?' || c == '#'

theorem isMark_iff {c : Char} : isMark c = true ↔ c = '?' ∨ c = '#' := by simp [isMark]

/-- A text without line breaks, and without control characters and spaces at its start. -/
def cleanedStart (cs : List Char) : List Char := (cs.dropWhile (·.toNat ≤ 0x20)).filter (!isLineBreak ·)

/-- A text without line breaks, and without control characters and spaces at its end. -/
def cleanedEnd (cs : List Char) : List Char :=
  ((cs.reverse.dropWhile (·.toNat ≤ 0x20)).reverse).filter (!isLineBreak ·)

theorem cleanedStart_subset (cs : List Char) : cleanedStart cs ⊆ cs :=
  fun _ hc => (List.dropWhile_suffix _).subset (List.mem_filter.mp hc).1

theorem cleaned_append (hlow : 0x20 < m.toNat) (a b : List Char) :
    cleaned (a ++ m :: b) = cleanedStart a ++ m :: cleanedEnd b := by
  have hkept : (!isLineBreak m) = true := by
    rw [Bool.not_eq_true', Bool.eq_false_iff]
    intro hbreak
    simp only [isLineBreak, Bool.or_eq_true, beq_iff_eq] at hbreak
    rcases hbreak with (rfl | rfl) | rfl <;> exact absurd hlow (by decide)
  rw [cleaned, trimBy_append (by simpa using hlow), List.filter_append]
  exact congrArg (cleanedStart a ++ ·) (List.filter_cons_of_pos hkept)

theorem cleaned_subset (text : List Char) : cleaned text ⊆ text :=
  fun _ hc => trimBy_subset _ text (List.mem_filter.mp hc).1

theorem readScheme?_append (hm : isMark m = true) (a b : List Char) :
    readScheme? (a ++ m :: b) = (readScheme? a).map fun (scheme, cs) => (scheme, cs ++ m :: b) := by
  have hne : m ≠ ':' := by
    rintro rfl
    cases hm
  cases ha : splitFirst ':' a with
  | some parts =>
      obtain ⟨name, rest⟩ := parts
      obtain ⟨rfl, hname⟩ := splitFirst_eq_some_iff.mp ha
      have hab : splitFirst ':' (name ++ ':' :: rest ++ m :: b) = some (name, rest ++ m :: b) := by
        rw [List.append_assoc, List.cons_append]
        exact splitFirst_append hname
      simp only [readScheme?, ha, hab, Option.bind_eq_bind, Option.bind_some]
      cases name.head? with
      | none => rfl
      | some first =>
          simp only [Option.bind_some]
          split
          · rfl
          · rfl
  | none =>
      have hcolon := splitFirst_eq_none_iff.mp ha
      have hnone : readScheme? a = none := by rw [readScheme?, ha]; rfl
      rw [hnone, Option.map_none]
      cases hab : splitFirst ':' (a ++ m :: b) with
      | none => rw [readScheme?, hab]; rfl
      | some parts =>
          obtain ⟨name, rest⟩ := parts
          -- The first colon is behind the mark, which no name of a scheme holds.
          have hmem : m ∈ name := by
            rcases List.append_eq_append_iff.mp (splitFirst_eq_some hab) with ⟨t, rfl, ht⟩ | ⟨t, rfl, ht⟩
            · cases t with
              | nil => exact absurd (List.cons.inj ht).1 hne
              | cons c t => exact List.mem_append_right _ ((List.cons.inj ht).1 ▸ List.mem_cons_self)
            · cases t with
              | nil => exact absurd (List.cons.inj ht).1.symm hne
              | cons c t => exact absurd (List.mem_append_right _ ((List.cons.inj ht).1 ▸ List.mem_cons_self)) hcolon
          have hall : name.all (fun c => c.isAlphanum || c == '+' || c == '-' || c == '.') = false :=
            List.all_eq_false.mpr ⟨m, hmem, by rcases isMark_iff.mp hm with rfl | rfl <;> decide⟩
          simp only [readScheme?, hab, hall, Option.bind_eq_bind, Option.bind_some, Bool.and_false]
          cases name.head? with
          | none => rfl
          | some first => rfl

theorem of_readScheme? (h : readScheme? a = some (scheme, cs)) : ∃ name, a = name ++ ':' :: cs := by
  simp only [readScheme?, Option.bind_eq_bind, Option.bind_eq_some_iff] at h
  obtain ⟨⟨name, rest⟩, hcut, first, -, h⟩ := h
  split at h
  · obtain ⟨-, rfl⟩ := Prod.mk.inj (Option.some.inj h)
    exact ⟨name, splitFirst_eq_some hcut⟩
  · nomatch h

/-- Whether there is a query or a fragment. -/
def hasTail (tail : Option (List Char) × Option (List Char)) : Bool := tail.1.isSome || tail.2.isSome

theorem cutTail_append (ha : ∀ c ∈ a, isMark c = false) (hm : isMark m = true) (b : List Char) :
    ∃ tail, cutTail (a ++ m :: b) = (a, tail) ∧ hasTail tail = true := by
  have hquery : '?' ∉ a := fun hc => by cases ha _ hc
  have hfragment : '#' ∉ a := fun hc => by cases ha _ hc
  rcases isMark_iff.mp hm with rfl | rfl
  · cases hb : splitFirst '#' b with
    | none =>
        have hnone : splitFirst '#' (a ++ '?' :: b) = none := by
          rw [splitFirst_eq_none_iff] at hb ⊢
          simp [hb, hfragment]
        exact ⟨(some b, none), by simp [cutTail, hnone, splitFirst_append hquery], rfl⟩
    | some parts =>
        obtain ⟨query, fragment⟩ := parts
        obtain ⟨rfl, hquery'⟩ := splitFirst_eq_some_iff.mp hb
        have hsome : splitFirst '#' (a ++ '?' :: (query ++ '#' :: fragment)) = some (a ++ '?' :: query, fragment) := by
          rw [← List.cons_append, ← List.append_assoc]
          refine splitFirst_append ?_
          rw [List.mem_append, List.mem_cons]
          rintro (hc | hc | hc)
          · exact hfragment hc
          · cases hc
          · exact hquery' hc
        exact ⟨(some query, some fragment), by simp [cutTail, hsome, splitFirst_append hquery], rfl⟩
  · exact ⟨(none, some b), by simp [cutTail, splitFirst_append hfragment, splitFirst_eq_none_iff.mpr hquery], rfl⟩

theorem cutTail_of_free (h : ∀ c ∈ a, isMark c = false) : cutTail a = (a, none, none) := by
  have hquery : '?' ∉ a := fun hc => by cases h _ hc
  have hfragment : '#' ∉ a := fun hc => by cases h _ hc
  simp [cutTail, splitFirst_eq_none_iff.mpr hquery, splitFirst_eq_none_iff.mpr hfragment]

variable {t t' : Option (List Char) × Option (List Char)}

/-- A URL without its query and its fragment. -/
def withoutTail (u : Url) : Url := { u with query := none, fragment := none }

theorem parseWithAuthority_tail (h : hasTail t = true) (h' : hasTail t' = true) (scheme : Scheme) (cs : List Char) :
    (parseWithAuthority scheme cs t).map withoutTail = (parseWithAuthority scheme cs t').map withoutTail := by
  unfold hasTail at h h'
  simp only [parseWithAuthority, Bool.or_assoc, h, h', Bool.or_true]
  cases readAuthority scheme true (cs.takeWhile (!endsAuthority scheme.isSpecial ·)) with
  | error e => rfl
  | ok parts => rfl

theorem parseFile_tail (t t' : Option (List Char) × Option (List Char)) (cs : List Char) :
    (parseFile cs t).map withoutTail = (parseFile cs t').map withoutTail := by
  unfold parseFile
  split
  · split
    · simp only
      split
      · rfl
      · next rest _ _ =>
        cases readFileHost (rest.takeWhile (!isSlash true ·)) with
        | error e => rfl
        | ok host => rfl
    · rfl
  · rfl

theorem readBody_tail (h : hasTail t = true) (h' : hasTail t' = true) (scheme : Scheme) (cs : List Char) :
    (readBody scheme cs t).map withoutTail = (readBody scheme cs t').map withoutTail := by
  unfold readBody
  split
  · exact parseFile_tail t t' cs
  · split
    · exact parseWithAuthority_tail h h' scheme _
    · split
      · exact parseWithAuthority_tail h h' scheme _
      · rfl
      · rfl

/-- What stands behind the first mark of a text changes a query or a fragment only. -/
theorem parse_tail (ha : ∀ c ∈ a, isMark c = false) (hm : isMark m = true) (b b' : List Char) :
    (parse (a ++ m :: b)).map withoutTail = (parse (a ++ m :: b')).map withoutTail := by
  have hlow : 0x20 < m.toNat := by rcases isMark_iff.mp hm with rfl | rfl <;> decide
  rw [parse_eq, parse_eq, cleaned_append hlow, cleaned_append hlow, readScheme?_append hm, readScheme?_append hm]
  cases hread : readScheme? (cleanedStart a) with
  | none => rfl
  | some parts =>
      obtain ⟨scheme, cs⟩ := parts
      have hcs : ∀ c ∈ cs, isMark c = false := by
        intro c hc
        obtain ⟨name, hname⟩ := of_readScheme? hread
        have hmem : c ∈ name ++ ':' :: cs := List.mem_append_right _ (List.mem_cons_of_mem _ hc)
        rw [← hname] at hmem
        exact ha c (cleanedStart_subset a hmem)
      obtain ⟨t, hcut, ht⟩ := cutTail_append hcs hm (cleanedEnd b)
      obtain ⟨t', hcut', ht'⟩ := cutTail_append hcs hm (cleanedEnd b')
      simp only [Option.map_some, hcut, hcut']
      exact readBody_tail ht ht' scheme cs

/-- A text without marks that ends with a slash is a URL whose path does so. -/
theorem getLast?_of_parse (h : parse text = .ok u) (hpath : u.path = .hierarchy segments)
    (hfree : ∀ c ∈ text, isMark c = false) (hend : text.getLast? = some '/') :
    segments.getLast? = some [] ∨ segments = [] ∧ u.scheme.isSpecial = false := by
  obtain ⟨scheme, cs, hscheme, hread⟩ := isReadFrom_of_parse h
  obtain ⟨name, hname⟩ := of_readScheme? hscheme
  have hcs : ∀ c ∈ cs, isMark c = false := fun c hc => hfree c (cleaned_subset text
    (hname ▸ List.mem_append_right _ (List.mem_cons_of_mem _ hc)))
  rw [cutTail_of_free hcs] at hread
  rw [hread.1]
  refine (hread.2 segments hpath).getLast? ?_
  obtain ⟨front, rfl⟩ := List.getLast?_eq_some_iff.mp hend
  have hclean := cleaned_append (m := '/') (by decide) front []
  rw [hname] at hclean
  have hlast := congrArg List.getLast? hclean
  simp only [cleanedEnd, List.reverse_nil, List.dropWhile_nil, List.filter_nil, List.getLast?_append,
    List.getLast?_cons, List.getLast?_nil, Option.some_or, Option.getD_none] at hlast
  cases hc : cs.getLast? with
  | none =>
      rw [hc] at hlast
      cases hlast
  | some c =>
      rw [hc] at hlast
      exact hlast

end TableIndex.Url
