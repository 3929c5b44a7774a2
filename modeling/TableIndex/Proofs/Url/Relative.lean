import TableIndex.Proofs.Url.Encoding
import TableIndex.Proofs.Url.Path
import TableIndex.Url.Relative

/-!
# Segments below a path

What a path becomes when it is joined to a relative one, and when pieces are put below it one after the other. A plain
piece becomes one segment behind those that the path has of its own; two dots take one of these away.
-/

namespace TableIndex.Url

open TableIndex.Text

namespace Path

variable {ofFiles : Bool} {path names : List Segment} {piece s : Segment}

/-- A piece that stands for a segment. -/
structure Plain (piece : Segment) : Prop where
  nonempty : piece ≠ []
  not_single : isSingleDot piece = false
  not_double : isDoubleDot piece = false

/-- A plain piece that stays as it is at the start of a path of files, too. -/
structure Fixed (piece : Segment) : Prop extends Plain piece where
  no_drive : drive? piece = none

theorem Plain.close_eq (h : Plain piece) (ofFiles : Bool) (path : List Segment) :
    close ofFiles path piece = path ++ [asSegment (ofFiles && path.isEmpty) piece] := by
  rw [close, h.not_double, h.not_single]
  rfl

theorem close_of_isDoubleDot (h : isDoubleDot piece = true) (ofFiles : Bool) (path : List Segment) :
    close ofFiles path piece = up path ++ [[]] := by
  rw [close, if_pos h]

theorem Fixed.asSegment_eq (h : Fixed piece) (first : Bool) : asSegment first piece = piece := by
  cases first with
  | false => rfl
  | true => rw [asSegment, if_pos rfl, h.no_drive, Option.getD_none]

/-! ## The segments of its own that a path has -/

/-- The path without the empty segment that is all the root has. -/
def own (path : List Segment) : List Segment := if path = [[]] then [] else path

theorem own_of_ne (h : path ≠ [[]]) : own path = path := if_neg h

theorem own_append (h : s ≠ []) (path : List Segment) : own (path ++ [s]) = path ++ [s] := by
  refine own_of_ne fun heq => h ?_
  have hlast := congrArg List.getLast? heq
  rw [List.getLast?_concat] at hlast
  exact Option.some.inj hlast

theorem own_append_nil_ne (h : s ≠ []) (path front : List Segment) : own (path ++ [[]]) ≠ front ++ [s] := by
  unfold own
  intro heq
  have hlast := congrArg List.getLast? heq
  rw [List.getLast?_concat] at hlast
  split at hlast
  · nomatch hlast
  · rw [List.getLast?_concat] at hlast
    exact h (Option.some.inj hlast).symm

theorem Slashless.own (h : Slashless path) : Slashless (own path) := by
  unfold Path.own
  split
  · exact nofun
  · exact h

theorem Rooted.head?_own (h : Rooted true path) : (own path).head? ≠ some [] := by
  unfold own
  split
  · exact nofun
  · next hne => exact fun hhead => hne (h rfl hhead)

theorem isPrefix_up (path : List Segment) : up path <+: path := by
  unfold up
  split
  · exact List.prefix_refl path
  · exact List.dropLast_prefix path

theorem rooted_single (s : Segment) : Rooted ofFiles [s] := by
  intro _ hhead
  rw [Option.some.inj hhead]

theorem Rooted.append (h : Rooted ofFiles path) {front back : List Segment} (hfront : front <+: own path)
    (hback : Rooted ofFiles back) : Rooted ofFiles (front ++ back) := by
  rintro rfl hhead
  cases front with
  | nil => exact hback rfl hhead
  | cons t front =>
      obtain ⟨rest, hrest⟩ := hfront
      obtain rfl := Option.some.inj hhead
      refine absurd ?_ h.head?_own
      rw [← hrest]
      rfl

theorem child_eq (h : Rooted ofFiles (close ofFiles (own path) piece)) :
    child ofFiles path piece = close ofFiles (own path) piece := by
  cases ofFiles with
  | false => rfl
  | true => exact h.dropEmpty_eq

theorem child_of_plain (hpath : Rooted ofFiles path) (h : Plain piece) :
    child ofFiles path piece = own path ++ [asSegment (ofFiles && (own path).isEmpty) piece] := by
  have hclose := h.close_eq ofFiles (own path)
  rw [← hclose]
  refine child_eq ?_
  rw [hclose]
  exact hpath.append (List.prefix_refl _) (rooted_single _)

theorem child_of_isDoubleDot (hpath : Rooted ofFiles path) (h : isDoubleDot piece = true) :
    child ofFiles path piece = up (own path) ++ [[]] := by
  have hclose := close_of_isDoubleDot h ofFiles (own path)
  rw [← hclose]
  refine child_eq ?_
  rw [hclose]
  exact hpath.append (isPrefix_up _) (rooted_single _)

theorem foldl_child {name : Segment} (hpath : Rooted ofFiles path) (h : ∀ n ∈ name :: names, Fixed n) :
    (name :: names).foldl (child ofFiles) path = own path ++ name :: names := by
  induction names generalizing path name with
  | nil =>
      have hname := h name List.mem_cons_self
      rw [List.foldl_cons, child_of_plain hpath hname.toPlain, hname.asSegment_eq]
      rfl
  | cons n names ih =>
      obtain ⟨hname, hnames⟩ := List.forall_mem_cons.mp h
      rw [List.foldl_cons, child_of_plain hpath hname.toPlain, hname.asSegment_eq,
        ih (hpath.append (List.prefix_refl _) (rooted_single name)) hnames, own_append hname.nonempty,
        List.append_assoc, List.singleton_append]

/-! ## Without the closing slash -/

theorem isPrefix_withoutClosing (path : List Segment) : withoutClosing path <+: path := by
  unfold withoutClosing
  split
  · exact List.dropLast_prefix path
  · exact List.prefix_refl path

theorem Rooted.withoutClosing (h : Rooted ofFiles path) : Rooted ofFiles (withoutClosing path) := by
  intro hfiles hhead
  obtain ⟨back, hback⟩ := isPrefix_withoutClosing path
  have hpath : path.head? = some [] := by rw [← hback, List.head?_append, hhead, Option.some_or]
  rw [h hfiles hpath]
  rfl

theorem withoutClosing_append_nil {front : List Segment} (h : front ≠ []) :
    Path.withoutClosing (front ++ [[]]) = front := by
  have hlength : 0 < front.length := List.length_pos_iff.mpr h
  rw [Path.withoutClosing, if_pos, List.dropLast_concat]
  simp [hlength]

theorem withoutClosing_append_of_ne (h : s ≠ []) (front : List Segment) :
    Path.withoutClosing (front ++ [s]) = front ++ [s] := by
  rw [Path.withoutClosing, if_neg]
  simp [h]

/-- The segments of a path before its closing slash. -/
def stem (path : List Segment) : List Segment := if path.getLast? = some [] then path.dropLast else path

/-- The segments that a path has of its own are those before the closing slash, but for two slashes. -/
theorem own_withoutClosing (h : path ≠ [[], []]) : own (Path.withoutClosing path) = stem path := by
  unfold stem
  rcases List.eq_nil_or_concat path with rfl | ⟨front, s, rfl⟩
  · rfl
  · rw [List.concat_eq_append] at h ⊢
    rw [List.getLast?_concat, List.dropLast_concat]
    by_cases hs : s = []
    · subst hs
      rw [if_pos rfl]
      cases front with
      | nil => rfl
      | cons t front =>
          rw [withoutClosing_append_nil (List.cons_ne_nil t front)]
          exact own_of_ne fun heq => h (by rw [heq]; rfl)
    · rw [if_neg fun heq => hs (Option.some.inj heq), withoutClosing_append_of_ne hs, own_append hs]

theorem Slashless.stem (h : Slashless path) : Slashless (stem path) := by
  unfold Path.stem
  split
  · exact h.dropLast
  · exact h

/-- The text of a path before its closing slash. -/
def stemText (cs : List Char) : List Char := if cs.getLast? = some '/' then cs.dropLast else cs

theorem text_stem (h : Slashless path) : text (stem path) = stemText (text path) := by
  unfold stem stemText
  by_cases hclosed : path.getLast? = some []
  · rw [if_pos hclosed, if_pos ((getLast?_text_iff h).mpr hclosed)]
    obtain ⟨front, rfl⟩ := List.getLast?_eq_some_iff.mp hclosed
    rw [text_closed, List.dropLast_concat, List.dropLast_concat]
  · rw [if_neg hclosed, if_neg fun hslash => hclosed ((getLast?_text_iff h).mp hslash)]

/-- Of the paths of files only the root has no segment of its own. -/
theorem own_withoutClosing_eq_nil_iff (h : Rooted true path) (hne : path ≠ []) :
    own (Path.withoutClosing path) = [] ↔ path = [[]] := by
  constructor
  · intro hnil
    have hslashes : path ≠ [[], []] := by
      rintro rfl
      nomatch h rfl rfl
    rw [own_withoutClosing hslashes] at hnil
    unfold stem at hnil
    split at hnil
    · next hclosed =>
      obtain ⟨front, rfl⟩ := List.getLast?_eq_some_iff.mp hclosed
      rw [List.dropLast_concat] at hnil
      rw [hnil]
      rfl
    · exact absurd hnil hne
  · rintro rfl
    rfl

/-! ## One piece below a path -/

/-- What is in front of the names that follow a piece below a path. -/
def place (ofFiles : Bool) (path : List Segment) (piece : Segment) : List Segment :=
  own (child ofFiles (Path.withoutClosing path) piece)

theorem rooted_child : Rooted ofFiles (child ofFiles path piece) := by
  cases ofFiles with
  | false => exact nofun
  | true => exact rooted_dropEmpty _

theorem place_of_plain (hpath : Rooted ofFiles path) (h : Plain piece) : place ofFiles path piece =
    own (Path.withoutClosing path) ++ [asSegment (ofFiles && (own (Path.withoutClosing path)).isEmpty) piece] := by
  rw [place, child_of_plain hpath.withoutClosing h, own_append]
  exact fun heq => h.nonempty (asSegment_eq_nil_iff.mp heq)

theorem place_of_isDoubleDot (hpath : Rooted ofFiles path) (h : isDoubleDot piece = true) :
    place ofFiles path piece = own (up (own (Path.withoutClosing path)) ++ [[]]) := by
  rw [place, child_of_isDoubleDot hpath.withoutClosing h]

theorem Slashless.place (hpath : Slashless path) (h : '/' ∉ piece) : Slashless (place ofFiles path piece) := by
  have hfront : Slashless (Path.withoutClosing path) := fun s hs => hpath s ((isPrefix_withoutClosing path).subset hs)
  have hclose : Slashless (Path.close ofFiles (Path.own (Path.withoutClosing path)) piece) :=
    hfront.own.close h
  refine Slashless.own ?_
  cases ofFiles with
  | false => exact hclose
  | true => exact hclose.dropEmpty

theorem place_ne_of_isDoubleDot (hpath : Rooted ofFiles path) (h : isDoubleDot piece = true) (hs : s ≠ [])
    (front : List Segment) : place ofFiles path piece ≠ front ++ [s] := by
  rw [place_of_isDoubleDot hpath h]
  exact own_append_nil_ne hs _ front

/-- A piece is one segment behind all others, unless it is two dots or takes the place of two slashes. -/
theorem place_eq_stem_append_iff (hpath : Rooted ofFiles path) (hslash : '/' ∉ piece)
    (hpiece : Plain piece ∨ isDoubleDot piece = true) :
    (∃ s, s ≠ [] ∧ '/' ∉ s ∧ place ofFiles path piece = stem path ++ [s]) ↔
      path ≠ [[], []] ∧ isDoubleDot piece = false := by
  constructor
  · rintro ⟨s, hs, -, heq⟩
    rcases hpiece with hplain | hdots
    · refine ⟨?_, hplain.not_double⟩
      rintro rfl
      rw [place_of_plain hpath hplain] at heq
      have hlength : 1 = 2 := congrArg List.length heq
      nomatch hlength
    · exact absurd heq (place_ne_of_isDoubleDot hpath hdots hs _)
  · rintro ⟨hslashes, hdots⟩
    rcases hpiece with hplain | hdots'
    · have hplace := place_of_plain hpath hplain
      rw [own_withoutClosing hslashes] at hplace
      refine ⟨_, ?_, asSegment_slashless hslash, hplace⟩
      exact fun hnil => hplain.nonempty (asSegment_eq_nil_iff.mp hnil)
    · nomatch hdots.symm.trans hdots'

theorem own_ne (path : List Segment) : own path ≠ [[]] := by
  unfold own
  split
  · exact nofun
  · assumption

theorem head?_up {name : Segment} (hname : name ≠ []) (hne : path ≠ [[]]) (names : List Segment) :
    (own (up path ++ [[]]) ++ name :: names).head? = some [] ↔ path.head? = some [] := by
  cases hup : up path with
  | nil =>
      -- Nothing is left in front of the names, so the path was a single segment, and not an empty one.
      have hpath : path.dropLast = [] := by
        unfold up at hup
        split at hup
        · rw [hup]
          rfl
        · exact hup
      refine iff_of_false (fun hhead => hname (Option.some.inj hhead)) fun hhead => hne ?_
      cases path with
      | nil => nomatch hhead
      | cons b rest =>
          cases rest with
          | nil => rw [Option.some.inj hhead]
          | cons _ _ => nomatch hpath
  | cons b front =>
      obtain ⟨back, hback⟩ := isPrefix_up path
      rw [own_of_ne (by simp), ← hback, hup]
      rfl

/-- Whether a path starts with an empty segment does not depend on what is put below it. -/
theorem head?_place {name : Segment} (hpath : Rooted ofFiles path) (hpiece : Plain piece ∨ isDoubleDot piece = true)
    (hname : name ≠ []) (names : List Segment) : (place ofFiles path piece ++ name :: names).head? = some [] ↔
      (own (Path.withoutClosing path)).head? = some [] := by
  rcases hpiece with hplain | hdots
  · rw [place_of_plain hpath hplain]
    cases own (Path.withoutClosing path) with
    | nil => exact iff_of_false (fun hhead => hplain.nonempty (asSegment_eq_nil_iff.mp (Option.some.inj hhead))) nofun
    | cons b front => exact Iff.rfl
  · rw [place_of_isDoubleDot hpath hdots]
    exact head?_up hname (own_ne _) names

/-! ## A relative path in the place of the last segment -/

theorem foldl_step (h : ∀ n ∈ names, Fixed n) (path : List Segment) :
    names.foldl (step ofFiles) path = path ++ names := by
  induction names generalizing path with
  | nil => rw [List.foldl_nil, List.append_nil]
  | cons n names ih =>
      obtain ⟨hn, hnames⟩ := List.forall_mem_cons.mp h
      have hstep : step ofFiles path n = path ++ [n] := by
        rw [step, hn.not_double, hn.not_single, push_eq, hn.asSegment_eq]
        rfl
      rw [List.foldl_cons, hstep, ih hnames, List.append_assoc, List.singleton_append]

theorem appendAll_of_fixed (hne : names ≠ []) (h : ∀ n ∈ names, Fixed n) (path : List Segment) :
    appendAll ofFiles path names = path ++ names := by
  rcases List.eq_nil_or_concat names with rfl | ⟨front, n, rfl⟩
  · exact absurd rfl hne
  · rw [List.concat_eq_append] at h ⊢
    have hn : Fixed n := h n (by simp)
    rw [appendAll, List.dropLast_concat, List.getLastD_concat,
      foldl_step fun m hm => h m (List.mem_append_left _ hm), hn.close_eq, hn.asSegment_eq, List.append_assoc]

theorem dropLast_prefix_own (path : List Segment) : path.dropLast <+: own path := by
  unfold own
  split
  · next heq => rw [heq]; exact List.prefix_refl _
  · exact List.dropLast_prefix path

theorem rooted_of_fixed (h : ∀ n ∈ names, Fixed n) : Rooted ofFiles names := by
  intro _ hhead
  exact absurd rfl (h [] (List.mem_of_mem_head? hhead)).nonempty

end Path

open TableIndex.Url.Path

theorem resolve_of_closed {ofFiles : Bool} {path names : List Segment} (hclosed : path.getLast? = some [])
    (hne : names ≠ []) (h : ∀ n ∈ names, Fixed n) :
    resolve ofFiles path names = path.dropLast ++ names := by
  have hdrive : (if ofFiles then path.getLast?.filter fun s => drive? s == some s else none) = none := by
    rw [hclosed]
    split <;> rfl
  rw [resolve, appendAll_of_fixed hne h]
  exact hdrive

theorem join_of_closed {u : Url} {path names : List Segment} (hu : Hierarchical u path)
    (hclosed : path.getLast? = some []) (hne : names ≠ []) (h : ∀ n ∈ names, Fixed n) :
    u.join names =
      some { u with path := .hierarchy (path.dropLast ++ names), query := none, fragment := none } := by
  have hrooted := hu.rooted
  rw [join, hu.path_eq]
  simp only [resolve_of_closed hclosed hne h]
  split
  · next hfile =>
    rw [hfile] at hrooted
    rw [(hrooted.append (dropLast_prefix_own path) (rooted_of_fixed h)).dropEmpty_eq]
  · rfl

/-! ## Names as segments -/

variable {special : Bool} {name : String}

/-- The characters of a name that count in a URL. -/
def kept (name : String) : List Char := name.toList.filter (!isLineBreak ·)

/-- What is encoded in a name. -/
def nameSet (special : Bool) : Char → Bool := if special then specialSegmentSet else segmentSet

theorem toSegment_eq (special : Bool) (name : String) : toSegment special name = encode (nameSet special) (kept name) :=
  rfl

theorem keepsDots_nameSet (special : Bool) : KeepsDots (nameSet special) := by
  cases special with
  | false => exact ⟨rfl, rfl⟩
  | true => exact ⟨rfl, rfl⟩

theorem slash_not_mem_toSegment (special : Bool) (name : String) : '/' ∉ toSegment special name := by
  refine slash_not_mem_encode (.inr ?_)
  cases special with
  | false => rfl
  | true => rfl

theorem toSegment_eq_iff {n m : String} : toSegment special n = toSegment special m ↔ kept n = kept m := by
  rw [toSegment_eq, toSegment_eq]
  exact ⟨encode_injective (keepsDots_nameSet special).percent, congrArg _⟩

theorem toNat_of_isAlpha {c : Char} (h : c.isAlpha = true) :
    0x41 ≤ c.toNat ∧ c.toNat ≤ 0x5A ∨ 0x61 ≤ c.toNat ∧ c.toNat ≤ 0x7A := by
  rcases Bool.or_eq_true_iff.mp h with hup | hlow
  · have hrange := of_decide_eq_true hup
    exact .inl ⟨UInt32.le_iff_toNat_le.mp hrange.1, UInt32.le_iff_toNat_le.mp hrange.2⟩
  · have hrange := (Bool.and_eq_true _ _).mp hlow
    exact .inr ⟨UInt32.le_iff_toNat_le.mp (of_decide_eq_true hrange.1),
      UInt32.le_iff_toNat_le.mp (of_decide_eq_true hrange.2)⟩

theorem nameSet_of_isAlpha {c : Char} (h : c.isAlpha = true) : nameSet special c = false := by
  have hrange := toNat_of_isAlpha h
  have hfree : specialSegmentSet c = false := by
    cases hset : specialSegmentSet c with
    | false => rfl
    | true =>
        exfalso
        simp only [specialSegmentSet, segmentSet, pathSet, fragmentSet, controlSet, Bool.or_eq_true,
          List.contains_eq_mem, List.mem_cons, List.not_mem_nil, or_false, decide_eq_true_eq, beq_iff_eq,
          or_assoc] at hset
        rcases hset with hlow | hhigh | hset
        · omega
        · omega
        · rcases hset with rfl | rfl | rfl | rfl | rfl | rfl | rfl | rfl | rfl | rfl | rfl | rfl <;> cases h
  cases special with
  | true => exact hfree
  | false => exact (Bool.or_eq_false_iff.mp hfree).1

theorem encode_of_drive {cs d : Segment} (h : drive? cs = some d) (special : Bool) :
    encode (nameSet special) cs = cs := by
  obtain ⟨c, hc, -, hcs⟩ := drive?_eq_some h
  have hrange := toNat_of_isAlpha hc
  refine encode_of_free fun b hb => ?_
  have hmem : b = c ∨ b = ':' ∨ b = '|' := by
    rcases hcs with rfl | rfl
    · simp only [List.mem_cons, List.not_mem_nil, or_false] at hb
      exact hb.imp_right .inl
    · simp only [List.mem_cons, List.not_mem_nil, or_false] at hb
      exact hb.imp_right .inr
  rcases hmem with rfl | rfl | rfl
  · exact ⟨by omega, nameSet_of_isAlpha hc⟩
  · exact ⟨by decide, by cases special <;> decide⟩
  · exact ⟨by decide, by cases special <;> decide⟩

theorem drive?_toSegment (special : Bool) (name : String) : drive? (toSegment special name) = drive? (kept name) := by
  rw [toSegment_eq]
  cases hkept : drive? (kept name) with
  | some d => rw [encode_of_drive hkept special, hkept]
  | none =>
      cases hencoded : drive? (encode (nameSet special) (kept name)) with
      | none => rfl
      | some d =>
          have htwice := encode_of_drive hencoded special
          rw [encode_injective (keepsDots_nameSet special).percent htwice, hkept] at hencoded
          nomatch hencoded

/-- A name of which something is left that is no dots. -/
structure Proper (name : String) : Prop where
  nonempty : kept name ≠ []
  not_single : kept name ≠ ['.']
  not_double : kept name ≠ ['.', '.']

theorem Proper.plain (h : Proper name) (special : Bool) : Plain (toSegment special name) where
  nonempty := fun heq => h.nonempty (encode_eq_nil_iff.mp heq)
  not_single := Bool.eq_false_iff.mpr fun hdot =>
    h.not_single (((keepsDots_nameSet special).isSingleDot_encode _).mp hdot)
  not_double := Bool.eq_false_iff.mpr fun hdots =>
    h.not_double (((keepsDots_nameSet special).isDoubleDot_encode _).mp hdots)

theorem Proper.not_dots (h : Proper name) : isDots name = false := by
  refine Bool.eq_false_iff.mpr fun hdots => ?_
  simp only [isDots, Bool.or_eq_true, beq_iff_eq] at hdots
  rcases hdots with rfl | rfl
  · exact h.not_single rfl
  · exact h.not_double rfl

theorem isDoubleDot_toSegment (special : Bool) (name : String) :
    isDoubleDot (toSegment special name) = true ↔ kept name = ['.', '.'] :=
  (keepsDots_nameSet special).isDoubleDot_encode (kept name)

/-- Names below a URL stand behind the place of the first one. -/
theorem below_eq {u : Url} {path : List Segment} {table : String} {names : List String}
    (hpath : u.path = .hierarchy path) (htable : isDots table = false) (hne : names ≠ [])
    (h : ∀ n ∈ names, Proper n ∧ drive? (kept n) = none) :
    u.below (table :: names) =
      some { u with path := .hierarchy (place (u.scheme == .file) path (toSegment u.scheme.isSpecial table) ++
        names.map (toSegment u.scheme.isSpecial)) } := by
  obtain ⟨n, rest, rfl⟩ := List.exists_cons_of_ne_nil hne
  have hnames : (table :: n :: rest).filter (!isDots ·) = table :: n :: rest := by
    refine List.filter_eq_self.mpr (List.forall_mem_cons.mpr ⟨by simp [htable], fun m hm => ?_⟩)
    rw [(h m hm).1.not_dots]
    rfl
  have hsegments : ∀ s ∈ (n :: rest).map (toSegment u.scheme.isSpecial), Fixed s := by
    intro s hs
    obtain ⟨m, hm, rfl⟩ := List.mem_map.mp hs
    exact ⟨(h m hm).1.plain _, (drive?_toSegment _ m).trans (h m hm).2⟩
  rw [below, hpath]
  simp only [hnames, List.map_cons, List.foldl_cons]
  rw [← List.foldl_cons, foldl_child rooted_child hsegments]
  rfl

end TableIndex.Url
