import TableIndex.Proofs.Http.Calls
import TableIndex.Proofs.Http.Endpoint

/-!
# The addresses of tables

Below an endpoint a table has one segment of its own, and the names that a call asks for stand behind it. Line breaks
in the name of a table count for nothing, neither where tables are told apart nor where dots are looked for, but the
guard of the client looks at the name as it is: two dots with a line break between them pass it, and go one level up.
-/

namespace TableIndex.Http

open Url

variable {α : Type} {call : Call α} {c : Client} {endpoint u : Url} {segments : List Segment}
  {table table' n : String} {names names' : List String}

/-! ## Names behind a table -/

/-- What the calls to a table name behind it. -/
def handlers : List (List String) := [["schema", "fields"], ["schema", "uniquekey"], ["schema"], ["update"]]

theorem mem_handlers (h : call.place = .table table names) : names ∈ handlers := by
  cases call <;> cases h <;> simp [handlers]

theorem ne_nil_of_mem_handlers : ∀ names ∈ handlers, names ≠ [] := by decide

theorem name_of_mem_handlers : ∀ names ∈ handlers, ∀ n ∈ names, n ∈ ["schema", "fields", "uniquekey", "update"] := by
  decide

theorem eq_of_getLast?_eq : ∀ names ∈ handlers, ∀ names' ∈ handlers,
    (names.map String.toList).getLast? = (names'.map String.toList).getLast? → names = names' := by
  decide

theorem ne_nil_of_mem_names : ∀ names ∈ handlers, ∀ s ∈ names.map String.toList, s ≠ [] := by decide

theorem proper_of_mem_handlers (h : names ∈ handlers) (hn : n ∈ names) : Proper n ∧ Path.drive? (kept n) = none := by
  have hname := name_of_mem_handlers names h n hn
  simp only [List.mem_cons, List.not_mem_nil, or_false] at hname
  rcases hname with rfl | rfl | rfl | rfl <;> exact ⟨⟨by decide, by decide, by decide⟩, by decide⟩

theorem toSegment_of_mem_handlers (h : names ∈ handlers) (special : Bool) :
    names.map (toSegment special) = names.map String.toList := by
  refine List.map_congr_left fun n hn => ?_
  have hname := name_of_mem_handlers names h n hn
  simp only [List.mem_cons, List.not_mem_nil, or_false] at hname
  cases special <;> rcases hname with rfl | rfl | rfl | rfl <;> decide

/-! ## The guard -/

/-- What is left of the name of a table that passes the guard: a segment, or two dots. -/
def Passes (table : String) : Prop := Proper table ∨ kept table = ['.', '.']

theorem isSpace_of_isLineBreak {b : Char} (h : isLineBreak b = true) : Text.isSpace b = true := by
  simp only [isLineBreak, Bool.or_eq_true, beq_iff_eq] at h
  rcases h with (rfl | rfl) | rfl <;> decide

theorem passes_guard (h : Client.isNoSegment table = false) : isDots table = false ∧ Passes table := by
  have hguard : Text.trim table ≠ "" ∧ Text.trim table ≠ "." ∧ Text.trim table ≠ ".." := by
    simpa [Client.isNoSegment] using h
  have hempty : kept table ≠ [] := by
    intro hkept
    refine hguard.1 (Text.trim_of_isBlank ((Text.isBlank_iff table).mpr fun b hb => isSpace_of_isLineBreak ?_))
    simpa using List.filter_eq_nil_iff.mp hkept b hb
  have hdot : kept table ≠ ['.'] := by
    intro hkept
    obtain ⟨front, back, htable, hfront, -, hback⟩ := List.filter_eq_cons_iff.mp hkept
    refine hguard.2.1 ?_
    rw [Text.trim, htable, Text.trimBy_of_forall (by decide)
      (fun b hb => isSpace_of_isLineBreak (by simpa using hfront b hb))
      (fun b hb => isSpace_of_isLineBreak (by simpa using List.filter_eq_nil_iff.mp hback b hb))]
  constructor
  · refine Bool.eq_false_iff.mpr fun hdots => ?_
    simp only [isDots, Bool.or_eq_true, beq_iff_eq] at hdots
    rcases hdots with rfl | rfl
    · exact hguard.2.1 (by decide)
    · exact hguard.2.2 (by decide)
  · by_cases hdots : kept table = ['.', '.']
    · exact .inr hdots
    · exact .inl ⟨hempty, hdot, hdots⟩

/-! ## The path of a table -/

/-- The path of a table below an endpoint, in front of the names behind it. -/
def tablePlace (endpoint : Url) (segments : List Segment) (table : String) : List Segment :=
  Path.place (endpoint.scheme == .file) segments (toSegment endpoint.scheme.isSpecial table)

/-- The path of names behind a table. -/
def tablePath (endpoint : Url) (segments : List Segment) (table : String) (names : List String) : List Segment :=
  tablePlace endpoint segments table ++ names.map String.toList

theorem tableUrl_eq (h : Hierarchical c.options.endpoint segments) (hnames : names ∈ handlers)
    (hu : c.tableUrl table names = .ok u) : Passes table ∧
      u = { c.options.endpoint with path := .hierarchy (tablePath c.options.endpoint segments table names) } := by
  unfold Client.tableUrl at hu
  split at hu
  · nomatch hu
  · next hguard =>
    obtain ⟨hdots, hpasses⟩ := passes_guard (Bool.eq_false_iff.mpr hguard)
    refine ⟨hpasses, ?_⟩
    rw [Client.url, below_eq h.path_eq hdots (ne_nil_of_mem_handlers names hnames)
      fun n hn => proper_of_mem_handlers hnames hn, toSegment_of_mem_handlers hnames] at hu
    exact (Except.ok.inj hu).symm

theorem Passes.plain_or_dots (h : Passes table) (special : Bool) :
    Path.Plain (toSegment special table) ∨ Path.isDoubleDot (toSegment special table) = true :=
  h.imp (fun hproper => hproper.plain special) (isDoubleDot_toSegment special table).mpr

theorem slashless_names (h : names ∈ handlers) : Path.Slashless (names.map String.toList) := by
  rw [← toSegment_of_mem_handlers h false]
  intro s hs
  obtain ⟨n, -, rfl⟩ := List.mem_map.mp hs
  exact slash_not_mem_toSegment false n

theorem slashless_tablePath (h : Hierarchical endpoint segments) (hnames : names ∈ handlers) (table : String) :
    Path.Slashless (tablePath endpoint segments table names) :=
  (h.slashless.place (slash_not_mem_toSegment _ table)).append (slashless_names hnames)

theorem tablePath_ne_root (h : names ∈ handlers) (endpoint : Url) (segments : List Segment) (table : String) :
    tablePath endpoint segments table names ≠ [[]] := by
  obtain ⟨n, rest, rfl⟩ := List.exists_cons_of_ne_nil (ne_nil_of_mem_handlers names h)
  have hn := ne_nil_of_mem_names _ h _ List.mem_cons_self
  rw [tablePath]
  cases tablePlace endpoint segments table with
  | nil => exact fun heq => hn (List.cons.inj heq).1
  | cons b front =>
      intro heq
      have htail : front ++ (n :: rest).map String.toList = [] := (List.cons.inj heq).2
      exact List.cons_ne_nil _ _ (List.append_eq_nil_iff.mp htail).2

theorem head?_tablePath (h : Hierarchical endpoint segments) (hnames : names ∈ handlers) (htable : Passes table) :
    (tablePath endpoint segments table names).head? = some [] ↔
      (Path.own (Path.withoutClosing segments)).head? = some [] := by
  obtain ⟨n, rest, rfl⟩ := List.exists_cons_of_ne_nil (ne_nil_of_mem_handlers names hnames)
  exact Path.head?_place h.rooted (htable.plain_or_dots _) (ne_nil_of_mem_names _ hnames _ List.mem_cons_self) _

theorem getLast?_tablePath (h : names ∈ handlers) (endpoint : Url) (segments : List Segment) (table : String) :
    (tablePath endpoint segments table names).getLast? = (names.map String.toList).getLast? := by
  rw [tablePath, List.getLast?_append]
  cases hlast : (names.map String.toList).getLast? with
  | some s => rfl
  | none =>
      have hnil := List.map_eq_nil_iff.mp (List.getLast?_eq_none_iff.mp hlast)
      exact absurd hnil (ne_nil_of_mem_handlers names h)

/-! ## One segment -/

/-- The path of a URL is that of an endpoint without its closing slash, one segment, and names. -/
def OneSegment (endpoint u : Url) (names : List String) : Prop :=
  ∃ segment, segment ≠ [] ∧ '/' ∉ segment ∧
    u.path.text = Path.stemText endpoint.path.text ++ '/' :: segment ++ Path.text (names.map String.toList)

theorem text_tablePath_iff (h : Hierarchical endpoint segments) (hnames : names ∈ handlers) {s : Segment}
    (hs : '/' ∉ s) : Path.text (tablePath endpoint segments table names) =
      Path.stemText endpoint.path.text ++ '/' :: s ++ Path.text (names.map String.toList) ↔
      tablePlace endpoint segments table = Path.stem segments ++ [s] := by
  have hlist : Path.text (Path.stem segments) ++ '/' :: s ++ Path.text (names.map String.toList) =
      Path.text (Path.stem segments ++ [s] ++ names.map String.toList) := by
    rw [Path.text_append, Path.text_append]
    simp [Path.text]
  rw [h.text_eq, ← Path.text_stem h.slashless, hlist]
  constructor
  · intro heq
    have hslashless := (h.slashless.stem.append (.single hs)).append (slashless_names hnames)
    exact List.append_cancel_right (Path.text_injective (slashless_tablePath h hnames table) hslashless heq)
  · intro heq
    rw [tablePath, heq]

theorem oneSegment_iff (h : Hierarchical endpoint segments) (hnames : names ∈ handlers) (htable : Passes table) :
    OneSegment endpoint { endpoint with path := .hierarchy (tablePath endpoint segments table names) } names ↔
      endpoint.path.text ≠ ['/', '/'] ∧ kept table ≠ ['.', '.'] := by
  have hslashes : endpoint.path.text = ['/', '/'] ↔ segments = [[], []] := by
    rw [h.text_eq]
    refine ⟨fun htext => Path.text_injective h.slashless ?_ htext, fun heq => heq ▸ rfl⟩
    simp [Path.Slashless]
  rw [ne_eq, hslashes, ne_eq, ← isDoubleDot_toSegment endpoint.scheme.isSpecial, Bool.not_eq_true,
    ← Path.place_eq_stem_append_iff h.rooted (slash_not_mem_toSegment _ table) (htable.plain_or_dots _)]
  constructor
  · rintro ⟨s, hs, hslash, heq⟩
    exact ⟨s, hs, hslash, (text_tablePath_iff h hnames hslash).mp heq⟩
  · rintro ⟨s, hs, hslash, heq⟩
    exact ⟨s, hs, hslash, (text_tablePath_iff h hnames hslash).mpr heq⟩

/-! ## The same segment -/

/-- Names of tables that are one segment: they are the same but for line breaks, or name the same drive of files. -/
def SameSegment (endpoint : Url) (table table' : String) : Prop :=
  kept table = kept table' ∨ (endpoint.scheme = .file ∧ endpoint.path.text = ['/']) ∧
    ∃ drive, Path.drive? (kept table) = some drive ∧ Path.drive? (kept table') = some drive

theorem SameSegment.symm (h : SameSegment endpoint table table') : SameSegment endpoint table' table :=
  h.imp Eq.symm fun ⟨hroot, drive, hdrive, hdrive'⟩ => ⟨hroot, drive, hdrive', hdrive⟩

theorem not_sameSegment_of_dots (h : Proper table) (hdots : kept table' = ['.', '.']) :
    ¬ SameSegment endpoint table table' := by
  rintro (heq | ⟨-, drive, -, hdrive⟩)
  · exact h.not_double (heq.trans hdots)
  · rw [hdots] at hdrive
    nomatch hdrive

-- Drives are read at the root of files only.
theorem readsDrives_iff (h : Hierarchical endpoint segments) :
    (endpoint.scheme == .file && (Path.own (Path.withoutClosing segments)).isEmpty) = true ↔
      endpoint.scheme = .file ∧ endpoint.path.text = ['/'] := by
  rw [Bool.and_eq_true, beq_iff_eq, List.isEmpty_iff]
  refine and_congr_right fun hfile => ?_
  have hrooted := h.rooted
  have hne := h.nonempty (by rw [hfile]; rfl)
  rw [beq_iff_eq.mpr hfile] at hrooted
  rw [Path.own_withoutClosing_eq_nil_iff hrooted hne, h.text_eq]
  refine ⟨fun heq => heq ▸ rfl, fun htext => Path.text_injective h.slashless ?_ htext⟩
  simp [Path.Slashless]

theorem tablePlace_of_proper (h : Hierarchical endpoint segments) (htable : Proper table) :
    tablePlace endpoint segments table = Path.own (Path.withoutClosing segments) ++
      [Path.asSegment (endpoint.scheme == .file && (Path.own (Path.withoutClosing segments)).isEmpty)
        (toSegment endpoint.scheme.isSpecial table)] :=
  Path.place_of_plain h.rooted (htable.plain _)

theorem tablePlace_ne_of_dots (h : Hierarchical endpoint segments) (htable : Proper table)
    (hdots : kept table' = ['.', '.']) : tablePlace endpoint segments table' ≠ tablePlace endpoint segments table := by
  rw [tablePlace_of_proper h htable]
  refine Path.place_ne_of_isDoubleDot h.rooted ((isDoubleDot_toSegment _ table').mpr hdots) ?_ _
  exact fun hnil => (htable.plain _).nonempty (Path.asSegment_eq_nil_iff.mp hnil)

theorem tablePlace_eq_iff (h : Hierarchical endpoint segments) (htable : Passes table) (htable' : Passes table') :
    tablePlace endpoint segments table = tablePlace endpoint segments table' ↔ SameSegment endpoint table table' := by
  rcases htable with hproper | hdots
  · rcases htable' with hproper' | hdots'
    · rw [tablePlace_of_proper h hproper, tablePlace_of_proper h hproper', List.append_cancel_left_eq,
        List.cons.injEq, and_iff_left rfl, Path.asSegment_eq_iff, toSegment_eq_iff, readsDrives_iff h,
        drive?_toSegment, drive?_toSegment]
      rfl
    · exact iff_of_false (tablePlace_ne_of_dots h hproper hdots').symm (not_sameSegment_of_dots hproper hdots')
  · rcases htable' with hproper' | hdots'
    · refine iff_of_false (tablePlace_ne_of_dots h hproper' hdots) fun hsame => ?_
      exact not_sameSegment_of_dots hproper' hdots hsame.symm
    · have hsame := hdots.trans hdots'.symm
      refine iff_of_true ?_ (.inl hsame)
      rw [tablePlace, tablePlace, toSegment_eq_iff.mpr hsame]

theorem tablePath_eq_iff (h : Hierarchical endpoint segments) (hnames : names ∈ handlers) (hnames' : names' ∈ handlers)
    (htable : Passes table) (htable' : Passes table') :
    tablePath endpoint segments table names = tablePath endpoint segments table' names' ↔
      names = names' ∧ SameSegment endpoint table table' := by
  rw [← tablePlace_eq_iff h htable htable']
  constructor
  · intro heq
    -- The last name tells which names they are.
    have hlast := congrArg List.getLast? heq
    rw [getLast?_tablePath hnames, getLast?_tablePath hnames'] at hlast
    obtain rfl := eq_of_getLast?_eq names hnames names' hnames' hlast
    exact ⟨rfl, List.append_cancel_right heq⟩
  · rintro ⟨rfl, hplace⟩
    rw [tablePath, tablePath, hplace]

/-- The address of a table is below the endpoint. What the table adds to its path is one segment in front of the names
that a call asks for, unless two dots are left of its name without line breaks, or the path of the endpoint is two
slashes. Two tables have the same address only if line breaks alone tell their names apart, or if they name the same
drive at the root of files. -/
theorem tableUrl_of_ofEndpoint {text : String} {o : Options} (hoptions : Options.ofEndpoint text = .ok o)
    (hendpoint : c.options.endpoint = o.endpoint) (hplace : call.place = .table table names)
    (hu : c.tableUrl table names = .ok u) :
    (u.scheme = o.endpoint.scheme ∧ u.authority = o.endpoint.authority ∧ u.query = o.endpoint.query) ∧
    (OneSegment o.endpoint u names ↔ o.endpoint.path.text ≠ ['/', '/'] ∧ kept table ≠ ['.', '.']) ∧
    ∀ (β : Type) (call' : Call β) table' names' u', call'.place = .table table' names' →
      c.tableUrl table' names' = .ok u' →
      (u.text = u'.text ↔ names = names' ∧ SameSegment o.endpoint table table') := by
  obtain ⟨-, segments, h⟩ := Options.of_ofEndpoint hoptions
  rw [← hendpoint] at h ⊢
  have hnames := mem_handlers hplace
  obtain ⟨htable, rfl⟩ := tableUrl_eq h hnames hu
  refine ⟨⟨rfl, rfl, rfl⟩, oneSegment_iff h hnames htable, ?_⟩
  intro β call' table' names' u' hplace' hu'
  have hnames' := mem_handlers hplace'
  obtain ⟨htable', rfl⟩ := tableUrl_eq h hnames' hu'
  rw [← tablePath_eq_iff h hnames hnames' htable htable']
  refine text_eq_iff (slashless_tablePath h hnames table) (slashless_tablePath h hnames' table')
    (tablePath_ne_root hnames _ _ _) (tablePath_ne_root hnames' _ _ _) ?_
  rw [head?_tablePath h hnames htable, head?_tablePath h hnames' htable']

theorem tableUrl_of_ofEndpoint_orders : ∃ o u, Options.ofEndpoint "http://[::1]:8983/solr" = .ok o ∧
    (Call.listFields "orders").place = .table "orders" ["schema", "fields"] ∧
    Client.tableUrl ⟨o, 0⟩ "orders" ["schema", "fields"] = .ok u ∧ OneSegment o.endpoint u ["schema", "fields"] := by
  let o : Options := { endpoint := Options.loopback ["solr".toList, []] none }
  have hok : Options.ofEndpoint "http://[::1]:8983/solr" = .ok o := rfl
  have hu : Client.tableUrl ⟨o, 0⟩ "orders" ["schema", "fields"] =
      .ok (Options.loopback (["solr", "orders", "schema", "fields"].map String.toList) none) := rfl
  have hplace : (Call.listFields "orders").place = .table "orders" ["schema", "fields"] := rfl
  exact ⟨o, _, hok, hplace, hu, (tableUrl_of_ofEndpoint hok rfl hplace hu).2.1.mpr ⟨by decide, by decide⟩⟩

/-- Two dots with a tab between them take the only segment of the endpoint away, and a tab tells no tables apart. -/
theorem table_escapes_and_aliases : ∃ o u v, Options.ofEndpoint "http://[::1]:8983/solr" = .ok o ∧
    Client.tableUrl ⟨o, 0⟩ ".\t." ["schema", "fields"] = .ok u ∧ u.path.text = "/schema/fields".toList ∧
    ¬ OneSegment o.endpoint u ["schema", "fields"] ∧
    Client.tableUrl ⟨o, 0⟩ "or\tders" ["update"] = .ok v ∧ Client.tableUrl ⟨o, 0⟩ "orders" ["update"] = .ok v := by
  let endpoint := Options.loopback ["solr".toList, []] none
  let u := Options.loopback (["schema", "fields"].map String.toList) none
  let v := Options.loopback (["solr", "orders", "update"].map String.toList) none
  refine ⟨{ endpoint }, u, v, rfl, rfl, by decide, ?_, rfl, rfl⟩
  rintro ⟨segment, -, -, htext⟩
  have hstem : Path.stemText endpoint.path.text = "/solr".toList := by decide
  have hlength := congrArg List.length htext
  rw [hstem, List.length_append, show u.path.text.length = 14 by decide,
    show (Path.text (["schema", "fields"].map String.toList)).length = 14 by decide] at hlength
  simp at hlength

end TableIndex.Http
