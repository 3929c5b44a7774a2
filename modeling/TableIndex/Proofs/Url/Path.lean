import TableIndex.Proofs.Text.Cutting
import TableIndex.Url.Basic

/-!
# Segments and their text

A path whose segments hold no slash is told by its text alone. Reading the pieces of a text keeps it so, and a path of
files that has lost the empty segments at its start does not get new ones.
-/

namespace TableIndex.Url

namespace Path

open TableIndex.Text

variable {ofFiles : Bool} {path ps qs : List Segment} {piece s : Segment} {c : Char}

/-- A path none of whose segments holds a slash. -/
def Slashless (path : List Segment) : Prop := ∀ s ∈ path, '/' ∉ s

/-- A path of files has no empty segment at its start, unless it is the root. -/
def Rooted (ofFiles : Bool) (path : List Segment) : Prop := ofFiles = true → path.head? = some [] → path = [[]]

/-! ## Text -/

theorem text_append (ps qs : List Segment) : text (ps ++ qs) = text ps ++ text qs := List.flatMap_append

theorem text_cons (s : Segment) (path : List Segment) : text (s :: path) = '/' :: s ++ text path := rfl

theorem joined_nil_cons (path : List Segment) : joined ['/'] ([] :: path) = text path := by
  induction path with
  | nil => rfl
  | cons s path ih =>
      cases path with
      | nil => simp [joined, text]
      | cons v path =>
          rw [joined_cons (List.cons_ne_nil v path), List.nil_append] at ih
          rw [joined_cons (List.cons_ne_nil s (v :: path)), joined_cons (List.cons_ne_nil v path), text_cons, ← ih]
          rfl

theorem splitAt_text (h : Slashless path) : splitAt '/' (text path) = [] :: path :=
  Pieces.eq ⟨List.cons_ne_nil [] path, joined_nil_cons path, List.forall_mem_cons.mpr ⟨List.not_mem_nil, h⟩⟩

theorem text_injective (hp : Slashless ps) (hq : Slashless qs) (h : text ps = text qs) : ps = qs := by
  have hsplit := congrArg (splitAt '/') h
  rw [splitAt_text hp, splitAt_text hq] at hsplit
  exact (List.cons.inj hsplit).2

theorem text_eq_nil_iff : text path = [] ↔ path = [] := by
  cases path with
  | nil => exact iff_of_true rfl rfl
  | cons s path => exact iff_of_false (List.cons_ne_nil _ _) (List.cons_ne_nil s path)

theorem text_closed (path : List Segment) : text (path ++ [[]]) = text path ++ ['/'] := text_append path [[]]

theorem getLast?_text_iff (h : Slashless path) : (text path).getLast? = some '/' ↔ path.getLast? = some [] := by
  rcases List.eq_nil_or_concat path with rfl | ⟨front, s, rfl⟩
  · simp [text]
  · rw [List.concat_eq_append] at h ⊢
    have hs : '/' ∉ s := h s (by simp)
    rw [List.getLast?_concat, text_append, text_cons, Option.some.injEq]
    cases hlast : s.getLast? with
    | none =>
        rw [List.getLast?_eq_none_iff.mp hlast]
        simp [text]
    | some c =>
        have hc : c ∈ s := List.mem_of_getLast? hlast
        have hslash : c ≠ '/' := fun he => hs (he ▸ hc)
        have hne : s ≠ [] := List.ne_nil_of_mem hc
        simp [text, List.getLast?_append, List.getLast?_cons, hlast, hslash, hne]

/-! ## Pieces read into a path -/

theorem Slashless.append (hp : Slashless ps) (hq : Slashless qs) : Slashless (ps ++ qs) := by
  intro s hs
  rcases List.mem_append.mp hs with hs | hs
  · exact hp s hs
  · exact hq s hs

theorem Slashless.single (h : '/' ∉ piece) : Slashless [piece] := List.forall_mem_singleton.mpr h

theorem Slashless.dropLast (h : Slashless path) : Slashless path.dropLast :=
  fun s hs => h s (List.dropLast_subset path hs)

theorem Slashless.up (h : Slashless path) : Slashless (up path) := by
  unfold Path.up
  split
  · exact h
  · exact h.dropLast

theorem drive?_eq_some (h : drive? piece = some s) : ∃ c, c.isAlpha = true ∧ s = [c, ':'] ∧
    (piece = [c, ':'] ∨ piece = [c, '|']) := by
  unfold drive? at h
  split at h
  · next c m =>
    split at h
    · next hc =>
      simp only [Bool.and_eq_true, Bool.or_eq_true, beq_iff_eq] at hc
      obtain ⟨hc, rfl | rfl⟩ := hc
      · exact ⟨c, hc, (Option.some.inj h).symm, .inl rfl⟩
      · exact ⟨c, hc, (Option.some.inj h).symm, .inr rfl⟩
    · nomatch h
  · nomatch h

theorem drive?_idem (h : drive? piece = some s) : drive? s = some s := by
  obtain ⟨c, hc, rfl, -⟩ := drive?_eq_some h
  simp [drive?, hc]

/-- The segment that a piece becomes at the start of a path of files, or elsewhere. -/
def asSegment (first : Bool) (piece : Segment) : Segment := if first then (drive? piece).getD piece else piece

theorem asSegment_slashless {first : Bool} (h : '/' ∉ piece) : '/' ∉ asSegment first piece := by
  unfold asSegment
  split
  · cases hdrive : drive? piece with
    | none => exact h
    | some d =>
        obtain ⟨c, hc, rfl, -⟩ := drive?_eq_some hdrive
        have hslash : '/' ≠ c := by
          rintro rfl
          cases hc
        simp [hslash]
  · exact h

theorem asSegment_eq_nil_iff {first : Bool} : asSegment first piece = [] ↔ piece = [] := by
  unfold asSegment
  split
  · cases hdrive : drive? piece with
    | none => exact Iff.rfl
    | some d =>
        obtain ⟨c, -, rfl, hpiece⟩ := drive?_eq_some hdrive
        refine iff_of_false nofun ?_
        rcases hpiece with rfl | rfl <;> exact nofun
  · exact Iff.rfl

/-- Two pieces become one segment only if they are the same, or name the same drive where drives are read. -/
theorem asSegment_eq_iff {first : Bool} {p q : Segment} : asSegment first p = asSegment first q ↔
    p = q ∨ first = true ∧ ∃ d, drive? p = some d ∧ drive? q = some d := by
  cases first with
  | false => simp [asSegment]
  | true =>
      simp only [asSegment, if_true, true_and]
      cases hp : drive? p with
      | none =>
          cases hq : drive? q with
          | none => simp
          | some d =>
              have hne : p ≠ d := by
                rintro rfl
                rw [drive?_idem hq] at hp
                nomatch hp
              have hne' : p ≠ q := by
                rintro rfl
                nomatch hp.symm.trans hq
              simp [hne, hne']
      | some d =>
          cases hq : drive? q with
          | none =>
              have hne : d ≠ q := by
                rintro rfl
                rw [drive?_idem hp] at hq
                nomatch hq
              have hne' : p ≠ q := by
                rintro rfl
                nomatch hq.symm.trans hp
              simp [hne, hne']
          | some e =>
              simp only [Option.getD_some, Option.some.injEq, exists_eq_left']
              refine ⟨fun hde => .inr hde.symm, ?_⟩
              rintro (rfl | rfl)
              · exact Option.some.inj (hp.symm.trans hq)
              · rfl

theorem push_eq (ofFiles : Bool) (path : List Segment) (piece : Segment) :
    push ofFiles path piece = path ++ [asSegment (ofFiles && path.isEmpty) piece] := rfl

theorem Slashless.push (hpath : Slashless path) (h : '/' ∉ piece) : Slashless (push ofFiles path piece) :=
  hpath.append (.single (asSegment_slashless h))

theorem Slashless.step (hpath : Slashless path) (h : '/' ∉ piece) : Slashless (step ofFiles path piece) := by
  unfold Path.step
  split
  · exact hpath.up
  · split
    · exact hpath
    · exact hpath.push h

theorem Slashless.close (hpath : Slashless path) (h : '/' ∉ piece) : Slashless (close ofFiles path piece) := by
  unfold Path.close
  split
  · exact hpath.up.append (.single List.not_mem_nil)
  · split
    · exact hpath.append (.single List.not_mem_nil)
    · exact hpath.push h

theorem Slashless.foldl_step (hpath : Slashless path) (h : Slashless ps) :
    Slashless (ps.foldl (Path.step ofFiles) path) := by
  induction ps generalizing path with
  | nil => exact hpath
  | cons p ps ih =>
      obtain ⟨hp, hps⟩ := List.forall_mem_cons.mp h
      exact ih (hpath.step hp) hps

theorem Slashless.appendAll (hpath : Slashless path) (h : Slashless ps) : Slashless (appendAll ofFiles path ps) := by
  refine (hpath.foldl_step h.dropLast).close ?_
  rcases List.eq_nil_or_concat ps with rfl | ⟨front, s, rfl⟩
  · exact List.not_mem_nil
  · rw [List.concat_eq_append] at h ⊢
    rw [List.getLastD_concat]
    exact h s (by simp)

theorem getLast?_appendAll (h : ps.getLastD [] = []) : (appendAll ofFiles path ps).getLast? = some [] := by
  rw [appendAll, h, close, if_neg (by decide), if_neg (by decide), push_eq, List.getLast?_concat,
    asSegment_eq_nil_iff.mpr rfl]

theorem appendAll_ne_nil : appendAll ofFiles path ps ≠ [] := by
  unfold appendAll close
  split
  · simp
  · split
    · simp
    · simp [push_eq]

/-! ## Empty segments at the start -/

theorem dropEmpty_suffix (path : List Segment) : dropEmpty path <:+ path := by
  induction path using dropEmpty.induct with
  | case1 s ss ih =>
      rw [dropEmpty]
      exact ih.trans (List.suffix_cons [] (s :: ss))
  | case2 path h => exact ⟨[], by rw [List.nil_append, dropEmpty.eq_2 path h]⟩

theorem Slashless.dropEmpty (h : Slashless path) : Slashless (dropEmpty path) :=
  fun s hs => h s ((dropEmpty_suffix path).subset hs)

theorem getLast?_dropEmpty (path : List Segment) : (dropEmpty path).getLast? = path.getLast? := by
  induction path using dropEmpty.induct with
  | case1 s ss ih => rw [dropEmpty, ih, List.getLast?_cons_cons]
  | case2 path h => rw [dropEmpty]; exact h

theorem dropEmpty_eq_nil_iff : dropEmpty path = [] ↔ path = [] := by
  rw [← List.getLast?_eq_none_iff, getLast?_dropEmpty, List.getLast?_eq_none_iff]

theorem rooted_dropEmpty (path : List Segment) : Rooted ofFiles (dropEmpty path) := by
  intro _ hhead
  induction path using dropEmpty.induct with
  | case1 s ss ih =>
      rw [dropEmpty] at hhead ⊢
      exact ih hhead
  | case2 path h =>
      rw [dropEmpty.eq_2 _ h] at hhead ⊢
      cases path with
      | nil => nomatch hhead
      | cons s ss =>
          obtain rfl := Option.some.inj hhead
          cases ss with
          | nil => rfl
          | cons v vs => exact absurd rfl (h v vs)

theorem Rooted.dropEmpty_eq (h : Rooted true path) : dropEmpty path = path := by
  rw [dropEmpty]
  rintro s ss rfl
  nomatch h rfl rfl

end Path

/-- A URL with a path that is a hierarchy, as it is read from a text. -/
structure Hierarchical (u : Url) (segments : List Segment) : Prop where
  path_eq : u.path = .hierarchy segments
  slashless : Path.Slashless segments
  rooted : Path.Rooted (u.scheme == .file) segments
  nonempty : u.scheme.isSpecial = true → segments ≠ []

theorem Hierarchical.text_eq {u : Url} {segments : List Segment} (h : Hierarchical u segments) :
    u.path.text = Path.text segments := by
  rw [h.path_eq]
  rfl

theorem authorityText_eq {u : Url} {segments : List Segment} (hpath : u.path = .hierarchy segments)
    (hne : segments ≠ [[]]) : u.authorityText = match u.authority with
      | some a => '/' :: '/' :: a.text
      | none => if segments.head? = some [] then ['/', '.'] else [] := by
  rw [authorityText, hpath]
  cases u.authority with
  | some a => rfl
  | none =>
      match segments with
      | [] => rfl
      | [[]] => exact absurd rfl hne
      | [] :: _ :: _ => rfl
      | (_ :: _) :: _ => rfl

/-- URLs that only their paths tell apart are told apart by their texts. -/
theorem text_eq_iff {u : Url} {ps qs : List Segment} (hp : Path.Slashless ps) (hq : Path.Slashless qs) (hps : ps ≠ [[]])
    (hqs : qs ≠ [[]]) (hhead : ps.head? = some [] ↔ qs.head? = some []) :
    ({ u with path := .hierarchy ps } : Url).text = ({ u with path := .hierarchy qs } : Url).text ↔ ps = qs := by
  have hauthority : ({ u with path := .hierarchy ps } : Url).authorityText =
      ({ u with path := .hierarchy qs } : Url).authorityText := by
    rw [authorityText_eq (u := { u with path := .hierarchy ps }) rfl hps,
      authorityText_eq (u := { u with path := .hierarchy qs }) rfl hqs]
    simp only [hhead]
  refine ⟨fun h => Path.text_injective hp hq ?_, fun h => h ▸ rfl⟩
  simp only [text, textWithoutFragment, hauthority, List.append_cancel_right_eq] at h
  exact List.append_cancel_left h

end TableIndex.Url
