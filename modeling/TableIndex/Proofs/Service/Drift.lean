import TableIndex.Proofs.Cluster.Tidy
import TableIndex.Proofs.Service.Run

/-!
# Changes that are refused

A change is planned from the schema in the cache and applied to the one that is served. In runs of one
service on one table it is refused exactly where the two conflict over what is desired, and they never do
while every schema has the unique key `id` and every replacement keeps the protected fields.
-/

namespace TableIndex

/-! ## What the cached schema has to do with the served one -/

/-- A property `B` of served schemas and a relation `P` of a known schema to the served one, which reading
establishes and which changes that `A` allows keep. -/
structure Linked (B : Schema → Prop) (P : Schema → Schema → Prop) (A : Schema → Bool → Prop) :
    Prop where
  built : ∀ {s}, B s → s.Built
  default : B .default
  covers : ∀ {known served : Schema}, P known served → served.Covers known
  read : ∀ {served known : Schema}, B served → served.read = .ok known → P known served
  revised : ∀ {known served desired merge}, B served → A desired merge →
    B (.revised known served desired merge)
  plan : ∀ {known served desired merge}, P known served → A desired merge →
    P (SchemaUpdate.plan known desired merge).schema (.revised known served desired merge)

/-- All that is known is served. -/
theorem linked_covers : Linked Schema.Built (fun known served => served.Covers known)
    fun desired _ => desired.Built where
  built := id
  default := .default
  covers := id
  read := fun hb hr n hn => (Schema.contains_read hb hr n).symm.trans hn
  revised := fun hs hd => hs.revised hd _
  plan := fun hc _ => hc.revised _ _

/-- Schemas under the unique key `id`, of which the same names are known and served. -/
theorem linked_names : Linked (fun s => s.Built ∧ s.uniqueKey = Schema.idKey)
    (fun known served => (∀ n, known.contains n = served.contains n) ∧
      known.uniqueKey = Schema.idKey ∧ served.uniqueKey = Schema.idKey)
    (fun desired merge => desired.Built ∧ desired.uniqueKey = Schema.idKey ∧
      (merge = false → desired.contains Schema.idKey = true ∧
        desired.contains Schema.versionKey = true)) where
  built := And.left
  default := ⟨.default, rfl⟩
  covers := fun h n hn => (h.1 n).symm.trans hn
  read := fun hb hr => ⟨Schema.contains_read hb.1 hr, (hb.1.uniqueKey_read hr).trans hb.2, hb.2⟩
  revised := fun hs hd => ⟨hs.1.revised hd.1 _, hs.2⟩
  plan := by
    rintro known served desired merge ⟨hn, hk, hs⟩ ⟨-, hd, hkeeps⟩
    refine ⟨fun n => ?_, ?_, hs⟩
    · rw [Schema.contains_revised, ← hn]
      cases merge with
      | true =>
          simp only [SchemaUpdate.plan, SchemaUpdate.mergePlan, ↓reduceIte, Schema.contains_mergedWith,
            Bool.true_or, Bool.true_and]
      | false =>
          -- What is protected is desired, so that nothing else is left.
          obtain ⟨hid, hversion⟩ := hkeeps rfl
          show desired.contains n = _
          cases hp : known.isProtected n with
          | true =>
              simp only [Schema.isProtected, hk, Bool.or_eq_true, beq_iff_eq] at hp
              rcases hp with rfl | rfl
              · simp [hid]
              · simp [hversion]
          | false => cases known.contains n <;> simp
    · cases merge with
      | true => exact hd
      | false => exact hd

/-! ## What a run on one table keeps -/

/-- A cluster that serves every call, with schemas that satisfy `B`, and a cache whose schema of the table, if
it has one, is in relation `P` to the one served. -/
structure Steady (B : Schema → Prop) (P : Schema → Schema → Prop) (p : NamingPolicy)
    (table : String) (s : Cached Cluster) : Prop where
  healthy : s.remote.Healthy
  naming : s.remote.naming = p
  schemas : ∀ name t, s.remote.configSets.get? name = some t → B t
  cached : ∀ q known, p.qualify table = some q → s.cache.lookup q = some known →
    s.remote.configSets.contains q = true ∧
      ∃ served, s.remote.served table = some served ∧ P known served

/-- The cached schema of a table conflicts with the served one over a change. -/
def Drifted (naming : NamingPolicy) (s : Cached Cluster) (table : String) (desired : Schema)
    (merge : Bool) : Prop :=
  ∃ q known served, naming.qualify table = some q ∧ s.cache.lookup q = some known ∧
    s.remote.served table = some served ∧ Schema.Conflict known served desired merge

/-- A table that is served and has its config-set is served the same once its collection was created. -/
theorem Cluster.Extends.served {c d : Cluster} {q table : String} {s : Schema} (h : Extends q c d)
    (hq : c.naming.qualify table = some q) (hset : c.configSets.contains q = true)
    (hs : c.served table = some s) : d.served table = some s := by
  obtain ⟨collection, configSet, hres, hcollection, rfl⟩ := served_eq_some hs
  have hsame : d.collections.get? collection = some configSet := by
    rcases h.collections collection with hsame | ⟨rfl, hno, -⟩
    · exact hsame.trans hcollection
    · rw [hcollection] at hno
      cases hno
  have hschema : d.configSets.get? configSet = c.configSets.get? configSet := by
    rcases h.configSets configSet with hsame | ⟨-, hno, -⟩
    · exact hsame
    · simp [SortedMap.contains, hno] at hset
  have hresolve : d.resolve? table = some collection := by
    have htable : d.collections.get? table = c.collections.get? table :=
      (h.collections table).resolve_right fun hnew => NamingPolicy.qualify_ne hq hnew.1.symm
    rw [resolve?, SortedMap.contains, htable, ← SortedMap.contains]
    rw [resolve?] at hres
    split at hres
    · next hthere => rw [if_pos hthere, hres]
    · next hnone =>
        obtain ⟨hqualify, -⟩ := Option.filter_eq_some_iff.mp hres
        rw [if_neg hnone, h.naming]
        exact Option.filter_eq_some_iff.mpr ⟨hqualify, by simp [SortedMap.contains, hsame]⟩
  simp [Cluster.served, hresolve, schemaOfCollection?, hsame, hschema]

section Steady

variable {B : Schema → Prop} {P : Schema → Schema → Prop} {A : Schema → Bool → Prop}
  {naming : NamingPolicy} {table q : String} {s : Cached Cluster} {d : Cluster}

theorem Steady.of_data (h : Steady B P naming table s) (hd : d.data = s.remote.data) :
    Steady B P naming table ⟨s.cache, d⟩ := by
  have hd := Cluster.eq_withCalls hd.symm
  rw [hd]
  exact ⟨⟨h.healthy.opened, h.healthy.failures⟩, h.naming, h.schemas, h.cached⟩

theorem Steady.extends (h : Steady B P naming table s) (hq : naming.qualify table = some q)
    (hd : Cluster.Extends q s.remote d) : Steady B P naming table ⟨s.cache, d⟩ := by
  refine ⟨h.healthy.congr hd.closed hd.failures,
    hd.naming.trans h.naming, fun name t ht => ?_, fun q' known hq' hl => ?_⟩
  · rcases hd.configSets name with hsame | ⟨rfl, -, base, t', hbase, ht'⟩
    · exact h.schemas name t (hsame.symm.trans ht)
    · obtain rfl : t = t' := Option.some.inj (ht.symm.trans ht')
      exact h.schemas base t hbase
  · obtain rfl : q = q' := Option.some.inj (hq.symm.trans hq')
    obtain ⟨hset, served, hserved, hp⟩ := h.cached q known hq hl
    refine ⟨?_, served, hd.served (h.naming.symm ▸ hq) hset hserved, hp⟩
    rcases hd.configSets q with hsame | ⟨-, hno, -⟩
    · rwa [SortedMap.contains, hsame]
    · simp [SortedMap.contains, hno] at hset

theorem Steady.served (link : Linked B P A) (h : Steady B P naming table s) {t : Schema}
    (ht : s.remote.served table = some t) : B t := by
  obtain ⟨collection, configSet, -, -, rfl⟩ := Cluster.served_eq_some ht
  cases hset : s.remote.configSets.get? configSet with
  | none => exact link.default
  | some t => exact h.schemas configSet t hset

/-- Reading keeps everything, and gives a schema that is linked to the one served. -/
theorem Steady.get (link : Linked B P A) (h : Steady B P naming table s) :
    Steady B P naming table (stateAfter (Schema.get naming Cluster.gateway table s)) ∧
      ∀ known s', Schema.get naming Cluster.gateway table s = .ok known s' →
        s'.remote.data = s.remote.data ∧ ∃ q served, naming.qualify table = some q ∧
          s.remote.configSets.contains q = true ∧ s.remote.served table = some served ∧
          P known served ∧ (s.cache.lookup q = some known ∨
            s.cache.lookup q = none ∧ served.read = .ok known) := by
  cases hq : naming.qualify table with
  | none =>
      rw [Schema.get_of_blank hq]
      exact ⟨h, fun _ _ hget => by cases hget⟩
  | some q =>
      cases hl : s.cache.lookup q with
      | some known =>
          rw [Schema.get_of_cached hq hl]
          refine ⟨h, fun _ _ hget => ?_⟩
          cases hget
          obtain ⟨hset, served, hserved, hp⟩ := h.cached q known hq hl
          exact ⟨rfl, q, served, rfl, hset, hserved, hp, .inl hl⟩
      | none =>
          have hdata := Schema.keeps_fetch s.remote q table s.remote rfl
          cases hf : Schema.fetch Cluster.gateway q table s.remote with
          | error e r =>
              rw [hf] at hdata
              rw [Schema.get_of_fetch_error hq hl hf]
              exact ⟨h.of_data hdata, fun _ _ hget => by cases hget⟩
          | ok known r =>
              rw [hf] at hdata
              rw [Schema.get_of_fetch hq hl hf]
              have hreadable := Schema.readable_of_fetch hf
              obtain ⟨served, hserved, hread⟩ := hreadable.read
              have hp := link.read (h.served link hserved) hread
              have hserved' := (Cluster.served_of_data hdata table).trans hserved
              have hset : r.configSets = s.remote.configSets := congrArg (·.configSets) hdata
              have hsteady : Steady B P naming table ⟨s.cache, r⟩ := h.of_data hdata
              refine ⟨⟨hsteady.healthy, hsteady.naming, hsteady.schemas, fun q' known' hq' hl' => ?_⟩,
                fun _ _ hget => ?_⟩
              · obtain rfl : q = q' := Option.some.inj (hq.symm.trans hq')
                obtain rfl := Store.eq_of_lookup_insert hl'
                exact ⟨hset ▸ hreadable.configSet, served, hserved', hp⟩
              · cases hget
                exact ⟨hdata, q, served, rfl, hreadable.configSet, hserved, hp, .inr ⟨hl, hread⟩⟩

theorem Steady.rewritten (link : Linked B P A) (h : Steady B P naming table s)
    (hq : naming.qualify table = some q) (hset : s.remote.configSets.contains q = true)
    {known served desired : Schema} {merge : Bool} (hserved : s.remote.served table = some served)
    (hp : P known served) (ha : A desired merge)
    (hd : Cluster.Rewritten table (.revised known served desired merge) s.remote d) :
    Steady B P naming table ⟨Schema.cacheAfter s.cache q known desired merge, d⟩ := by
  refine ⟨h.healthy.congr hd.closed hd.failures,
    hd.naming.trans h.naming, fun name t ht => ?_, fun q' known' hq' hl => ?_⟩
  · rcases hd.configSets name with hsame | hnew
    · exact h.schemas name t (hsame.symm.trans ht)
    · obtain rfl := Option.some.inj (ht.symm.trans hnew)
      exact link.revised (h.served link hserved) ha
  · obtain rfl : q = q' := Option.some.inj (hq.symm.trans hq')
    refine ⟨hd.contains_configSets hset, _, hd.served, ?_⟩
    simp only [Schema.cacheAfter] at hl
    split at hl
    · next hno =>
        -- Nothing was submitted, so what is served afterwards was served before.
        rw [Cluster.revised_of_idle hno.1]
        obtain ⟨-, served', hs, hp'⟩ := h.cached q known' hq hl
        obtain rfl : served = served' := Option.some.inj (hserved.symm.trans hs)
        exact hp'
    · obtain rfl := Store.eq_of_lookup_insert hl
      exact link.plan hp ha

/-- A change is refused exactly if it conflicts with a schema in the cache, and refused or not, it keeps
everything. -/
theorem Steady.update (link : Linked B P A) (h : Steady B P naming table s) {desired : Schema}
    {merge : Bool} (ha : A desired merge) :
    Steady B P naming table
        (stateAfter (Schema.update naming Cluster.gateway table desired merge s)) ∧
      ((∃ t cause s', Schema.update naming Cluster.gateway table desired merge s =
        .error (.rejected t cause) s') ↔ Drifted naming s table desired merge) := by
  obtain ⟨hsteady, hknown⟩ := h.get link
  have hcached : ∀ q known, naming.qualify table = some q → s.cache.lookup q = some known →
      Schema.get naming Cluster.gateway table s = .ok known s := fun _ _ => Schema.get_of_cached
  cases hget : Schema.get naming Cluster.gateway table s with
  | error e s' =>
      rw [hget] at hsteady
      rw [Schema.update_of_get_error hget]
      refine ⟨hsteady, ⟨fun ⟨t, cause, _, he⟩ => ?_, fun ⟨q, known, _, hq, hl, _⟩ => ?_⟩⟩
      · cases e <;> cases he
      · cases (hcached q known hq hl).symm.trans hget
  | ok known s' =>
      rw [hget] at hsteady
      have hsteady : Steady B P naming table s' := hsteady
      obtain ⟨hdata, q, served, hq, hset, hserved, hp, horigin⟩ := hknown known s' hget
      have hserved' := (Cluster.served_of_data hdata table).trans hserved
      have hsets : s'.remote.configSets = s.remote.configSets := congrArg (·.configSets) hdata
      have hdrift : Drifted naming s table desired merge ↔
          Schema.Conflict known served desired merge := by
        constructor
        · rintro ⟨q', known', served', hq', hl, hs, hconflict⟩
          cases (hcached q' known' hq' hl).symm.trans hget
          obtain rfl : served = served' := Option.some.inj (hserved.symm.trans hs)
          exact hconflict
        · intro hconflict
          rcases horigin with hl | ⟨-, hread⟩
          · exact ⟨q, known, served, hq, hl, hserved, hconflict⟩
          · have hb := link.built (h.served link hserved)
            exact absurd hconflict (Schema.not_conflict_of_contains_eq (Schema.contains_read hb hread)
              (hb.uniqueKey_read hread) desired merge)
      by_cases hconflict : Schema.Conflict known served desired merge
      · obtain ⟨cause, hrefused⟩ := Schema.update_refused hget (hsteady.healthy.serves _) hserved'
          (link.covers hp) hconflict
        rw [hrefused]
        exact ⟨hsteady.of_data rfl, iff_of_true ⟨_, cause, _, rfl⟩ (hdrift.mpr hconflict)⟩
      · obtain ⟨d, hd, hrewritten⟩ := Schema.update_accepted hq hget
          (fun _ => hsteady.healthy.serves _) hserved' (link.covers hp) hconflict
        rw [hd]
        refine ⟨hsteady.rewritten link hq (hsets ▸ hset) hserved' hp ha hrewritten,
          iff_of_false ?_ fun h => hconflict (hdrift.mp h)⟩
        rintro ⟨t, cause, s'', he⟩
        cases he

end Steady

/-! ## Runs on one table -/

/-- A call that creates the collection of a table, reads its schema, or makes a change of it that `A`
allows. -/
def ServiceCall.OnSchema (A : Schema → Bool → Prop) (table : String) : ServiceCall → Prop
  | .create config => config.collectionName = table
  | .getSchema t => t = table
  | .updateSchema t desired merge => t = table ∧ A desired merge
  | _ => False

/-- Whether a change of a schema was refused by the cluster. -/
def ServiceAnswer.isRefusal : ServiceAnswer → Bool
  | .updated (.error (.rejected _ _)) => true
  | _ => false

namespace Service

variable {B : Schema → Prop} {P : Schema → Schema → Prop} {A : Schema → Bool → Prop}
  {naming : NamingPolicy} {base table : String} {st : ServiceState Cluster Unit}

theorem drifted_seen {desired : Schema} {merge : Bool} :
    Drifted naming (seen st) table desired merge ↔
      Drifted naming ⟨st.cache, st.remote⟩ table desired merge := by
  simp only [Drifted, served_seen]
  rfl

theorem steady_answer (base : String) (link : Linked B P A) (h : Steady B P naming table (seen st))
    {call : ServiceCall} (hcall : call.OnSchema A table) :
    Steady B P naming table (seen ((inMemory naming base).answer call st).2) ∧
      (((inMemory naming base).answer call st).1.isRefusal = true ↔
        ∃ desired merge, call = .updateSchema table desired merge ∧
          Drifted naming ⟨st.cache, st.remote⟩ table desired merge) := by
  cases call with
  | create config =>
      obtain rfl : config.collectionName = table := hcall
      simp only [answer, snd_tell, create_run, seen_onRemote]
      refine ⟨?_, iff_of_false ?_ (by rintro ⟨_, _, he, -⟩; cases he)⟩
      · cases hq : naming.qualify config.collectionName with
        | none =>
            rw [Provisioner.create_of_blank (p := ⟨naming, base⟩) hq]
            exact h
        | some q =>
            exact h.extends hq (Provisioner.keeps_create config hq (seen st).remote (seen st).remote
              (Cluster.SameLayout.refl _).extends)
      · cases onRemote (Provisioner.create ⟨naming, base⟩ Cluster.gateway config) (opened st) with
        | ok a st' => exact Bool.false_ne_true
        | error e st' => exact Bool.false_ne_true
  | getSchema t =>
      obtain rfl : t = table := hcall
      simp only [answer, snd_tell, getSchema_run, seen_onCached]
      refine ⟨(h.get link).1, iff_of_false ?_ (by rintro ⟨_, _, he, -⟩; cases he)⟩
      cases onCached (Schema.get naming Cluster.gateway t) (opened st) <;> exact Bool.false_ne_true
  | updateSchema t desired merge =>
      obtain ⟨rfl, ha⟩ := hcall
      simp only [answer, snd_tell, updateSchema_run, seen_onCached]
      obtain ⟨hsteady, hrefused⟩ := h.update link ha
      refine ⟨hsteady, ?_⟩
      have hiff : (∃ desired' merge', ServiceCall.updateSchema t desired merge =
          .updateSchema t desired' merge' ∧ Drifted naming ⟨st.cache, st.remote⟩ t desired' merge') ↔
            Drifted naming (seen st) t desired merge := by
        rw [drifted_seen]
        constructor
        · rintro ⟨_, _, he, hd⟩
          cases he
          exact hd
        · exact fun hd => ⟨desired, merge, rfl, hd⟩
      rw [hiff, ← hrefused]
      cases hupdate : Schema.update naming Cluster.gateway t desired merge (seen st) with
      | ok a c =>
          rw [onCached_of_ok hupdate]
          exact iff_of_false Bool.false_ne_true (by rintro ⟨_, _, _, he⟩; cases he)
      | error e c =>
          rw [onCached_of_error hupdate]
          cases e with
          | rejected t' cause => exact iff_of_true rfl ⟨t', cause, c, rfl⟩
          | connect cause => exact iff_of_false Bool.false_ne_true (by rintro ⟨_, _, _, he⟩; cases he)
          | schemaNotFound t' => exact iff_of_false Bool.false_ne_true (by rintro ⟨_, _, _, he⟩; cases he)
          | getSchema cause => exact iff_of_false Bool.false_ne_true (by rintro ⟨_, _, _, he⟩; cases he)
  | ensure _ => exact hcall.elim
  | delete _ => exact hcall.elim
  | collectionExists _ => exact hcall.elim
  | configSetExists _ => exact hcall.elim
  | invalidate _ => exact hcall.elim
  | index _ _ => exact hcall.elim
  | deleteIds _ _ => exact hcall.elim
  | deleteQuery _ _ => exact hcall.elim
  | destroy => exact hcall.elim

theorem refused_iff_of_steady (base : String) (link : Linked B P A) {calls : List ServiceCall}
    (hcalls : ∀ call ∈ calls, call.OnSchema A table) (h : Steady B P naming table (seen st)) :
    (∃ a ∈ ((inMemory naming base).run calls st).1, a.isRefusal = true) ↔
      ∃ before desired merge after, calls = before ++ .updateSchema table desired merge :: after ∧
        Drifted naming ⟨((inMemory naming base).run before st).2.cache,
          ((inMemory naming base).run before st).2.remote⟩ table desired merge := by
  induction calls generalizing st with
  | nil =>
      refine iff_of_false (by rintro ⟨a, ha, -⟩; cases ha) ?_
      rintro ⟨before, desired, merge, after, he, -⟩
      simp at he
  | cons call calls ih =>
      obtain ⟨hsteady, hrefused⟩ := steady_answer base link h (hcalls call List.mem_cons_self)
      have ih := ih (fun call hc => hcalls call (List.mem_cons_of_mem _ hc)) hsteady
      simp only [run_cons, List.mem_cons, exists_eq_or_imp, hrefused, ih]
      constructor
      · rintro (⟨desired, merge, rfl, hd⟩ | ⟨before, desired, merge, after, rfl, hd⟩)
        · exact ⟨[], desired, merge, calls, rfl, hd⟩
        · exact ⟨call :: before, desired, merge, after, rfl, hd⟩
      · rintro ⟨before, desired, merge, after, he, hd⟩
        cases before with
        | nil =>
            cases he
            exact .inl ⟨desired, merge, rfl, hd⟩
        | cons call' before =>
            cases he
            exact .inr ⟨before, desired, merge, after, rfl, hd⟩

theorem steady_run (base : String) (link : Linked B P A) {calls : List ServiceCall}
    (hcalls : ∀ call ∈ calls, call.OnSchema A table) (h : Steady B P naming table (seen st)) :
    Steady B P naming table (seen ((inMemory naming base).run calls st).2) := by
  induction calls generalizing st with
  | nil => exact h
  | cons call calls ih =>
      exact ih (fun call hc => hcalls call (List.mem_cons_of_mem _ hc))
        (steady_answer base link h (hcalls call List.mem_cons_self)).1

theorem steady_initial {c : Cluster} (table : String) (hnaming : c.naming = naming)
    (hfailures : c.failures = []) (hschemas : ∀ name s, c.configSets.get? name = some s → B s) :
    Steady B P naming table (seen { remote := c }) :=
  ⟨⟨rfl, hfailures⟩, hnaming, hschemas, fun _ _ _ hl => by cases hl⟩

/-- In a run of one service on one table a change is refused exactly if at some change the schema it has
cached conflicts with the one served. This never happens where every schema has the unique key `id` and
every replacement has the fields `id` and `_version_`. -/
theorem refused_iff_drifted {c : Cluster} (hnaming : c.naming = naming) (hfailures : c.failures = [])
    (hbuilt : c.SchemasBuilt) {calls : List ServiceCall}
    (hcalls : ∀ call ∈ calls, call.OnSchema (fun desired _ => desired.Built) table) :
    ((∃ a ∈ ((inMemory naming base).run calls { remote := c }).1, a.isRefusal = true) ↔
      ∃ before desired merge after, calls = before ++ .updateSchema table desired merge :: after ∧
        Drifted naming ⟨((inMemory naming base).run before { remote := c }).2.cache,
          ((inMemory naming base).run before { remote := c }).2.remote⟩ table desired merge) ∧
    ((∀ name s, c.configSets.get? name = some s → s.uniqueKey = Schema.idKey) →
      (∀ desired merge, .updateSchema table desired merge ∈ calls →
        desired.uniqueKey = Schema.idKey ∧ (merge = false →
          desired.contains Schema.idKey = true ∧ desired.contains Schema.versionKey = true)) →
      ∀ a ∈ ((inMemory naming base).run calls { remote := c }).1, a.isRefusal = false) := by
  have hiff := refused_iff_of_steady base linked_covers hcalls
    (steady_initial table hnaming hfailures hbuilt)
  refine ⟨hiff, fun hkeys hdesired a ha => ?_⟩
  refine Bool.eq_false_iff.mpr fun hrefused => ?_
  obtain ⟨before, desired, merge, after, rfl, hdrift⟩ := hiff.mp ⟨a, ha, hrefused⟩
  -- Where the same names are known and served under `id`, nothing can conflict.
  have hcalls' : ∀ call ∈ before, call.OnSchema (fun desired merge => desired.Built ∧
      desired.uniqueKey = Schema.idKey ∧ (merge = false → desired.contains Schema.idKey = true ∧
        desired.contains Schema.versionKey = true)) table := by
    intro call hcall
    have hmem : call ∈ before ++ ServiceCall.updateSchema table desired merge :: after :=
      List.mem_append_left _ hcall
    have hon := hcalls call hmem
    cases call with
    | updateSchema t desired' merge' =>
        obtain ⟨rfl, hb⟩ := hon
        exact ⟨rfl, hb, hdesired desired' merge' hmem⟩
    | _ => exact hon
  have hsteady := steady_run base linked_names hcalls' (steady_initial table hnaming hfailures
    fun name s hs => ⟨hbuilt name s hs, hkeys name s hs⟩)
  obtain ⟨q, known, served, hq, hl, hserved, hconflict⟩ := drifted_seen.mpr hdrift
  obtain ⟨-, served', hserved', hnames, hknown, hkey⟩ := hsteady.cached q known hq hl
  obtain rfl : served = served' := Option.some.inj (hserved.symm.trans hserved')
  exact Schema.not_conflict_of_contains_eq hnames (hknown.trans hkey.symm) desired merge hconflict

/-- Creating `orders`, replacing its schema, and then merging another one into it. -/
def ordersReplaced (replacement merged : Schema) : List ServiceCall :=
  [.create ⟨"orders", none, 1, 1, none, none⟩, .updateSchema "orders" replacement false,
    .updateSchema "orders" merged true]

theorem onSchema_ordersReplaced {replacement merged : Schema} (hr : replacement.Built)
    (hm : merged.Built) : ∀ call ∈ ordersReplaced replacement merged,
      call.OnSchema (fun desired _ => desired.Built) "orders" := by
  intro call hcall
  simp only [ordersReplaced, List.mem_cons, List.not_mem_nil, or_false] at hcall
  rcases hcall with rfl | rfl | rfl
  · exact rfl
  · exact ⟨rfl, hr⟩
  · exact ⟨rfl, hm⟩

/-- After a replacement without the protected fields, the schemas have drifted apart over `id`; a merge of
`total` after a replacement with the protected fields is accepted. -/
theorem drifted_after_replacement :
    let s := inMemory ⟨"DEFAULT"⟩ Cluster.baseConfigSet
    let total := Schema.ofFields "id" [.typed "total" .double]
    (∃ before desired merge after, ordersReplaced total Cluster.baseSchema =
        before ++ .updateSchema "orders" desired merge :: after ∧
      Drifted ⟨"DEFAULT"⟩ ⟨(s.run before { remote := .fresh ⟨"DEFAULT"⟩ }).2.cache,
        (s.run before { remote := .fresh ⟨"DEFAULT"⟩ }).2.remote⟩ "orders" desired merge) ∧
      ∀ a ∈ (s.run (ordersReplaced Cluster.baseSchema total) { remote := .fresh ⟨"DEFAULT"⟩ }).1,
        a.isRefusal = false := by
  intro s total
  have htidy := Cluster.tidy_fresh ⟨"DEFAULT"⟩
  have hbuilt : (Cluster.fresh ⟨"DEFAULT"⟩).SchemasBuilt := fun name s hs =>
    (htidy.schemas name s hs).1.built
  have hbase := Schema.legible_baseSchema.built
  have htotal : total.Built := Schema.Legible.built (.ofTyped (by decide) (by decide) rfl "id")
  refine ⟨(refused_iff_drifted rfl rfl hbuilt (onSchema_ordersReplaced htotal hbase)).1.mp
    (by decide +kernel), ?_⟩
  refine (refused_iff_drifted rfl rfl hbuilt (onSchema_ordersReplaced hbase htotal)).2
    (fun name s hs => (htidy.schemas name s hs).2) fun desired merge hmem => ?_
  · simp only [ordersReplaced, List.mem_cons, List.not_mem_nil, or_false, reduceCtorEq, false_or] at hmem
    rcases hmem with he | he
    · cases he
      exact ⟨rfl, fun _ => ⟨by decide, by decide⟩⟩
    · cases he
      exact ⟨rfl, fun h => by cases h⟩

/-- A replacement without the protected fields leaves a merge that names `id` to be refused. -/
theorem refused_after_replacement :
    let s := inMemory ⟨"DEFAULT"⟩ Cluster.baseConfigSet
    let calls := ordersReplaced (.ofFields "id" [.typed "total" .double])
      (.ofFields "id" [.typed "id" .string])
    (∀ call ∈ calls, call.OnSchema (fun desired _ => desired.Built) "orders") ∧
      ∃ a ∈ (s.run calls { remote := .fresh ⟨"DEFAULT"⟩ }).1, a.isRefusal = true := by
  intro s calls
  have htotal : (Schema.ofFields "id" [.typed "total" .double]).Legible :=
    .ofTyped (by decide) (by decide) rfl "id"
  have hid : (Schema.ofFields "id" [.typed "id" .string]).Legible :=
    .ofTyped (by decide) (by decide) rfl "id"
  exact ⟨onSchema_ordersReplaced htotal.built hid.built, by decide +kernel⟩

end Service

end TableIndex
