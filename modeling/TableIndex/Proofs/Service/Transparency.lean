import Mathlib.Data.List.Forall2
import TableIndex.Proofs.Cluster.Tidy
import TableIndex.Proofs.Service.Run

/-!
# Runs with and without a cache

Two services make the same calls, each to a cluster of its own, and cache schemas in stores of different
kinds. As long as both caches are up to date, the answers are the same and so is what the clusters hold.
-/

namespace TableIndex

/-! ## Behind one cache -/

namespace Cached

variable {ε α : Type} {p : NamingPolicy} {s t : Cached Cluster} {d : Cluster} {q table : String}

/-- A cluster in order, and a cache that is up to date. -/
structure Sound (p : NamingPolicy) (s : Cached Cluster) : Prop where
  tidy : s.remote.Tidy p
  reflects : s.remote.Reflects s.cache

namespace Sound

theorem layout (h : s.Sound p) (hd : s.remote.SameLayout d) : Sound p ⟨s.cache, d⟩ :=
  ⟨h.tidy.layout hd, h.reflects.layout hd⟩

theorem of_data (h : s.Sound p) (hd : d.data = s.remote.data) : Sound p ⟨s.cache, d⟩ :=
  h.layout (.of_data hd)

theorem without (h : s.Sound p) (q : String) : Sound p ⟨s.cache.remove q, s.remote.without q⟩ :=
  ⟨h.tidy.without q, h.reflects.without q⟩

theorem create (h : s.Sound p) (base : String) (config : CollectionConfig) :
    Sound p ⟨s.cache, stateAfter (Provisioner.create ⟨p, base⟩ Cluster.gateway config s.remote)⟩ := by
  cases hq : p.qualify config.collectionName with
  | none =>
      rw [Provisioner.create_of_blank (p := ⟨p, base⟩) hq]
      exact h
  | some q =>
      have hd := Provisioner.keeps_create (p := ⟨p, base⟩) config hq s.remote s.remote
        (Cluster.SameLayout.refl _).extends
      exact ⟨h.tidy.extended hq hd, h.reflects.extended hd⟩

/-- What is read for a table that has a collection is the schema of its config-set. -/
theorem get_of_there (h : s.Sound p) (hplain : p.IsPlain table) (hq : p.qualify table = some q)
    (hthere : s.remote.collections.contains q = true) {served : Schema}
    (hset : s.remote.configSets.get? q = some served) :
    ∃ known s', Schema.get p Cluster.gateway table s = .ok known s' ∧ known.Alike served ∧
      s'.Sound p ∧ s'.remote.data = s.remote.data := by
  cases hl : s.cache.lookup q with
  | some known =>
      obtain ⟨-, served', hset', halike⟩ := h.reflects q known hl
      obtain rfl : served = served' := Option.some.inj (hset.symm.trans hset')
      exact ⟨known, s, Schema.get_of_cached hq hl, halike, h, rfl⟩
  | none =>
      obtain ⟨served', hset', hserved⟩ := h.tidy.served_eq hplain hq hthere
      obtain rfl : served = served' := Option.some.inj (hset.symm.trans hset')
      obtain ⟨known, hread, halike⟩ := (h.tidy.schemas q served hset).1.read
      have hserves := h.tidy.healthy.serves
      have hreadable : Schema.Readable s.remote q table known :=
        ⟨hserves _, hserves _, hserves _, h.tidy.there q hthere, served, hserved, hread⟩
      have hsound := h.of_data (d := s.remote.withCalls (s.remote.calls + 3)) rfl
      exact ⟨known, _, Schema.get_of_fetch hq hl hreadable.fetch, halike.symm,
        ⟨hsound.tidy, hsound.reflects.insert hthere hset halike.symm⟩, rfl⟩

theorem fetch_of_missing (h : s.Sound p) (hplain : p.IsPlain table) (hq : p.qualify table = some q)
    (hno : s.remote.collections.contains q = false) :
    s.cache.lookup q = none ∧
      ∃ e r, Schema.fetch Cluster.gateway q table s.remote = .error e r := by
  constructor
  · cases hl : s.cache.lookup q with
    | none => rfl
    | some known => cases (h.reflects q known hl).1.symm.trans hno
  · cases hf : Schema.fetch Cluster.gateway q table s.remote with
    | error e r => exact ⟨e, r, rfl⟩
    | ok known r =>
        obtain ⟨served, hserved, -⟩ := (Schema.readable_of_fetch hf).read
        cases (h.tidy.contains_of_served hplain hq hserved).symm.trans hno

/-- A change of a table that has a collection is accepted, and changes its config-set. -/
theorem update_of_there (h : s.Sound p) (hplain : p.IsPlain table) (hq : p.qualify table = some q)
    (hthere : s.remote.collections.contains q = true) {served desired : Schema} {merge : Bool}
    (hset : s.remote.configSets.get? q = some served) (hdesired : desired.Legible)
    (hkey : desired.uniqueKey = Schema.idKey)
    (hkeeps : merge = false → desired.contains Schema.idKey = true ∧
      desired.contains Schema.versionKey = true) :
    ∃ s', Schema.update p Cluster.gateway table desired merge s = .ok () s' ∧ s'.Sound p ∧
      s'.remote.data = ({ s.remote with
        configSets :=
          s.remote.configSets.insert q (.revised served served desired merge) } : Cluster).data := by
  obtain ⟨known, s', hget, halike, hsound, hdata⟩ := h.get_of_there hplain hq hthere hset
  have hcollections : s'.remote.collections = s.remote.collections := congrArg (·.collections) hdata
  have hsets : s'.remote.configSets = s.remote.configSets := congrArg (·.configSets) hdata
  have hthere' : s'.remote.collections.contains q = true := hcollections ▸ hthere
  obtain ⟨served', hset', hserved⟩ := hsound.tidy.served_eq hplain hq hthere'
  obtain rfl : served = served' := Option.some.inj ((hsets ▸ hset).symm.trans hset')
  obtain ⟨hlegible, hid⟩ := h.tidy.schemas q served hset
  have hcovers : served.Covers known := fun n hn => (halike.contains n) ▸ hn
  have hconflict := Schema.not_conflict_of_contains_eq halike.contains halike.uniqueKey desired merge
  obtain ⟨d, hd, hrewritten⟩ := Schema.update_accepted hq hget
    (fun _ => hsound.tidy.healthy.serves _) hserved hcovers hconflict
  have hdata' := hsound.tidy.data_of_rewritten hplain hq hthere' hrewritten
  have hrevised := Schema.revised_congr halike.contains halike.uniqueKey served desired merge
  refine ⟨_, hd, ⟨hsound.tidy.rewritten (hlegible.revised hdesired merge) hid hrewritten, ?_⟩, ?_⟩
  · refine Cluster.Reflects.layout ?_ (.of_data hdata')
    rw [Schema.cacheAfter]
    split
    · next hno =>
        -- Nothing was submitted, so what is served afterwards was served before.
        rw [Cluster.revised_of_idle hno.1, SortedMap.insert_of_get? hset']
        exact hsound.reflects
    · exact hsound.reflects.written hthere' (halike.plan hid hkey hkeeps)
  · rw [hdata', hrevised]
    rw [Cluster.eq_withCalls hdata.symm]
    rfl

end Sound

/-! ## Behind two caches -/

/-- Clusters in order that hold the same, and caches that are up to date. -/
structure Twins (p : NamingPolicy) (s t : Cached Cluster) : Prop where
  left : s.Sound p
  right : t.Sound p
  data : s.remote.data = t.remote.data

namespace Twins

theorem onRemote {x : EStateM ε Cluster α} (h : Twins p s t)
    (hx : Respects Cluster.SameData x)
    (hsound : ∀ s, Sound p s → Sound p ⟨s.cache, stateAfter (x s.remote)⟩) :
    Agree Eq (Twins p) (Cached.onRemote x s) (Cached.onRemote x t) := by
  have hagree := hx s.remote t.remote h.data
  have hleft := hsound s h.left
  have hright := hsound t h.right
  rw [Cached.onRemote, Cached.onRemote]
  revert hagree hleft hright
  cases x s.remote <;> cases x t.remote <;> rintro (⟨hab, hd⟩ | ⟨_, hd⟩) hleft hright
  · exact .ok hab ⟨hleft, hright, hd⟩
  · exact .error _ ⟨hleft, hright, hd⟩

theorem get (h : Twins p s t) (hplain : p.IsPlain table) :
    Agree Schema.Alike (Twins p) (Schema.get p Cluster.gateway table s)
      (Schema.get p Cluster.gateway table t) := by
  have hcollections : s.remote.collections = t.remote.collections := congrArg (·.collections) h.data
  have hsets : s.remote.configSets = t.remote.configSets := congrArg (·.configSets) h.data
  cases hq : p.qualify table with
  | none =>
      rw [Schema.get_of_blank hq, Schema.get_of_blank hq]
      exact .error _ h
  | some q =>
      cases hthere : s.remote.collections.contains q with
      | true =>
          obtain ⟨served, hset, -⟩ := h.left.tidy.served_eq hplain hq hthere
          obtain ⟨known, s', hs, halike, hleft, hds⟩ := h.left.get_of_there hplain hq hthere hset
          obtain ⟨known', t', ht, halike', hright, hdt⟩ :=
            h.right.get_of_there hplain hq (hcollections ▸ hthere) (hsets ▸ hset)
          rw [hs, ht]
          exact .ok (halike.trans halike'.symm) ⟨hleft, hright, hds.trans (h.data.trans hdt.symm)⟩
      | false =>
          obtain ⟨hls, e, r, hs⟩ := h.left.fetch_of_missing hplain hq hthere
          obtain ⟨hlt, e', r', ht⟩ := h.right.fetch_of_missing hplain hq (hcollections ▸ hthere)
          have hagree := Schema.respects_fetch q table s.remote t.remote h.data
          have hds := Schema.keeps_fetch s.remote q table s.remote rfl
          have hdt := Schema.keeps_fetch t.remote q table t.remote rfl
          rw [hs] at hds hagree
          rw [ht] at hdt hagree
          rw [Schema.get_of_fetch_error hq hls hs, Schema.get_of_fetch_error hq hlt ht]
          cases hagree with
          | error e hd => exact .error e ⟨h.left.of_data hds, h.right.of_data hdt, hd⟩

theorem update (h : Twins p s t) (hplain : p.IsPlain table) {desired : Schema} {merge : Bool}
    (hdesired : desired.Legible) (hkey : desired.uniqueKey = Schema.idKey)
    (hkeeps : merge = false → desired.contains Schema.idKey = true ∧
      desired.contains Schema.versionKey = true) :
    Agree Eq (Twins p) (Schema.update p Cluster.gateway table desired merge s)
      (Schema.update p Cluster.gateway table desired merge t) := by
  have hcollections : s.remote.collections = t.remote.collections := congrArg (·.collections) h.data
  have hsets : s.remote.configSets = t.remote.configSets := congrArg (·.configSets) h.data
  have hget := h.get hplain
  have hfail : ∀ e s', Schema.get p Cluster.gateway table s = .error e s' →
      Agree Eq (Twins p) (Schema.update p Cluster.gateway table desired merge s)
        (Schema.update p Cluster.gateway table desired merge t) := by
    intro e s' hs
    rw [hs] at hget
    cases ht : Schema.get p Cluster.gateway table t with
    | ok known t' =>
        rw [ht] at hget
        cases hget
    | error e' t' =>
        rw [ht] at hget
        rw [Schema.update_of_get_error hs, Schema.update_of_get_error ht]
        cases hget with
        | error e htwins => exact .error _ htwins
  cases hq : p.qualify table with
  | none => exact hfail _ _ (Schema.get_of_blank hq)
  | some q =>
      cases hthere : s.remote.collections.contains q with
      | true =>
          obtain ⟨served, hset, -⟩ := h.left.tidy.served_eq hplain hq hthere
          obtain ⟨s', hs, hleft, hds⟩ :=
            h.left.update_of_there hplain hq hthere hset hdesired hkey hkeeps
          obtain ⟨t', ht, hright, hdt⟩ := h.right.update_of_there hplain hq (hcollections ▸ hthere)
            (hsets ▸ hset) hdesired hkey hkeeps
          rw [hs, ht]
          refine .ok rfl ⟨hleft, hright, hds.trans (Eq.trans ?_ hdt.symm)⟩
          rw [Cluster.eq_withCalls h.data]
          rfl
      | false =>
          obtain ⟨hl, e, r, hf⟩ := h.left.fetch_of_missing hplain hq hthere
          exact hfail _ _ (Schema.get_of_fetch_error hq hl hf)

theorem delete (h : Twins p s t) (base table : String) :
    Agree Eq (Twins p) (Provisioner.delete ⟨p, base⟩ Cluster.gateway table s)
      (Provisioner.delete ⟨p, base⟩ Cluster.gateway table t) := by
  cases hq : p.qualify table with
  | none =>
      rw [Provisioner.delete_of_blank (p := ⟨p, base⟩) hq]
      exact .ok rfl h
  | some q =>
      have hcollections : s.remote.collections = t.remote.collections :=
        congrArg (·.collections) h.data
      have hs := h.left.tidy
      have ht := h.right.tidy
      have hleft := Provisioner.delete_of_own (p := ⟨p, base⟩) hq hs.healthy hs.own (hs.there q) s.cache
      have hright := Provisioner.delete_of_own (p := ⟨p, base⟩) hq ht.healthy ht.own (ht.there q) t.cache
      rw [hleft, hright, ← hcollections]
      split
      · refine .ok rfl ⟨(h.left.without q).of_data rfl, (h.right.without q).of_data rfl, ?_⟩
        rw [Cluster.eq_withCalls h.data]
        rfl
      · exact .ok rfl ⟨h.left.of_data rfl, h.right.of_data rfl, h.data⟩

end Twins

end Cached

/-! ## Calls -/

/-- A call that keeps cached schemas in step with served ones: it names no table by a physical name, every
schema it brings is legible and has the unique key `id`, and a replacement has the protected fields. -/
def ServiceCall.Tame (p : NamingPolicy) : ServiceCall → Prop
  | .ensure config => ∀ desired, config.schema = some desired →
      p.IsPlain config.collectionName ∧ desired.Legible ∧ desired.uniqueKey = Schema.idKey
  | .getSchema table => p.IsPlain table
  | .updateSchema table desired merge =>
      p.IsPlain table ∧ desired.Legible ∧ desired.uniqueKey = Schema.idKey ∧
        (merge = false → desired.contains Schema.idKey = true ∧
          desired.contains Schema.versionKey = true)
  | _ => True

theorem ServiceAnswer.Same.refl (a : ServiceAnswer) : a.Same a := by
  cases a with
  | schema result =>
      cases result with
      | ok s => exact (Schema.Alike.refl s).same
      | error e => exact rfl
  | _ => exact rfl

section Answers

variable {ε α : Type}

theorem Agree.tell {Q : α → α → Prop} {R : ServiceState Cluster Unit → ServiceState Cluster Unit → Prop}
    {f : Except ε α → ServiceAnswer} {r r' : EStateM.Result ε (ServiceState Cluster Unit) α}
    (h : Agree Q R r r') (hf : ∀ a b, Q a b → (f (.ok a)).Same (f (.ok b))) :
    (Service.tell f r).1.Same (Service.tell f r').1 ∧ R (Service.tell f r).2 (Service.tell f r').2 := by
  cases h with
  | ok hq hr => exact ⟨hf _ _ hq, hr⟩
  | error e hr => exact ⟨.refl _, hr⟩

theorem Agree.tell_eq {R : ServiceState Cluster Unit → ServiceState Cluster Unit → Prop}
    {r r' : EStateM.Result ε (ServiceState Cluster Unit) α} (h : Agree Eq R r r')
    (f : Except ε α → ServiceAnswer) :
    (Service.tell f r).1.Same (Service.tell f r').1 ∧ R (Service.tell f r).2 (Service.tell f r').2 :=
  h.tell fun a _ hab => hab ▸ .refl (f (.ok a))

end Answers

namespace Service

variable {ε α : Type} {p : NamingPolicy} {base table : String} {st st' : ServiceState Cluster Unit}

/-- A service that has not been called yet, and a fresh cluster. -/
def initial (p : NamingPolicy) (k : CacheKind) : ServiceState Cluster Unit where
  handle := none
  cache := .ofKind k
  remote := .fresh p

/-- Services with or without a handle both, whose clusters hold the same and whose calls find clusters and
caches in order. -/
structure Twins (p : NamingPolicy) (st st' : ServiceState Cluster Unit) : Prop where
  handle : st.handle = st'.handle
  data : st.remote.data = st'.remote.data
  seen : Cached.Twins p (seen st) (seen st')

namespace Twins

theorem onCached {Q : α → α → Prop} {act : EStateM ε (Cached Cluster) α} (h : Twins p st st')
    (hact : ∀ s t, Cached.Twins p s t → Agree Q (Cached.Twins p) (act s) (act t)) :
    Agree Q (Twins p) (onCached act (opened st)) (onCached act (opened st')) := by
  have hagree := hact _ _ h.seen
  cases hs : act (Service.seen st) with
  | ok a s =>
      cases ht : act (Service.seen st') with
      | ok b t =>
          rw [hs, ht] at hagree
          rw [onCached_of_ok hs, onCached_of_ok ht]
          cases hagree with
          | ok hab hst => exact .ok hab ⟨rfl, hst.data, hst⟩
      | error e t =>
          rw [hs, ht] at hagree
          cases hagree
  | error e s =>
      cases ht : act (Service.seen st') with
      | ok b t =>
          rw [hs, ht] at hagree
          cases hagree
      | error e' t =>
          rw [hs, ht] at hagree
          rw [onCached_of_error hs, onCached_of_error ht]
          cases hagree with
          | error e hst => exact .error e ⟨rfl, hst.data, hst⟩

/-- What a program that never looks at the number of calls does through an open handle. -/
theorem onRemote {x : EStateM ε Cluster α} (h : Twins p st st')
    (hx : Respects Cluster.SameData x)
    (hsound : ∀ s, Cached.Sound p s → Cached.Sound p ⟨s.cache, stateAfter (x s.remote)⟩) :
    Agree Eq (Twins p) (onRemote x (opened st)) (onRemote x (opened st')) :=
  h.onCached fun _ _ h => h.onRemote hx hsound

theorem onLayout {x : EStateM ε Cluster α} (h : Twins p st st')
    (hx : Respects Cluster.SameData x)
    (hkeeps : ∀ c, Keeps (Cluster.SameLayout c) x) :
    Agree Eq (Twins p) (Service.onRemote x (opened st)) (Service.onRemote x (opened st')) :=
  h.onRemote hx fun s hs => hs.layout (hkeeps s.remote s.remote (.refl _))

theorem create (h : Twins p st st') (base : String) (config : CollectionConfig) :
    Agree Eq (Twins p) ((inMemory p base).create config st) ((inMemory p base).create config st') := by
  rw [create_run, create_run]
  exact h.onRemote (Provisioner.respects_create _ config) fun s hs => hs.create base config

theorem getSchema (h : Twins p st st') (base : String) (hplain : p.IsPlain table) :
    Agree Schema.Alike (Twins p) ((inMemory p base).getSchema table st)
      ((inMemory p base).getSchema table st') := by
  rw [getSchema_run, getSchema_run]
  exact h.onCached fun _ _ h => h.get hplain

theorem updateSchema (h : Twins p st st') (base : String) (hplain : p.IsPlain table)
    {desired : Schema} {merge : Bool} (hdesired : desired.Legible)
    (hkey : desired.uniqueKey = Schema.idKey)
    (hkeeps : merge = false → desired.contains Schema.idKey = true ∧
      desired.contains Schema.versionKey = true) :
    Agree Eq (Twins p) ((inMemory p base).updateSchema table desired merge st)
      ((inMemory p base).updateSchema table desired merge st') := by
  rw [updateSchema_run, updateSchema_run]
  exact h.onCached fun _ _ h => h.update hplain hdesired hkey hkeeps

theorem ensure (h : Twins p st st') (base : String) (config : CollectionConfig)
    (hconfig : ∀ desired, config.schema = some desired →
      p.IsPlain config.collectionName ∧ desired.Legible ∧ desired.uniqueKey = Schema.idKey) :
    Agree Eq (Twins p) ((inMemory p base).ensure config st) ((inMemory p base).ensure config st') := by
  refine ((h.create base config).adaptExcept EnsureError.create).bind fun a b s t hab hst => ?_
  subst hab
  cases hschema : config.schema with
  | none => exact .ok rfl hst
  | some desired =>
      obtain ⟨hplain, hdesired, hkey⟩ := hconfig desired hschema
      have hupdate : Agree Eq (Twins p)
          ((inMemory p base).updateSchema config.collectionName desired true s)
          ((inMemory p base).updateSchema config.collectionName desired true t) :=
        hst.updateSchema base hplain hdesired hkey fun h => by cases h
      refine (hupdate.adaptExcept EnsureError.schema).bind fun _ _ s t _ hst => ?_
      exact .ok rfl hst

theorem delete (h : Twins p st st') (base table : String) :
    Agree Eq (Twins p) ((inMemory p base).delete table st) ((inMemory p base).delete table st') := by
  rw [delete_run, delete_run]
  exact h.onCached fun _ _ h => h.delete base table

theorem invalidate (h : Twins p st st') (base table : String) :
    Agree Eq (Twins p) ((inMemory p base).invalidate (ε := ε) table st)
      ((inMemory p base).invalidate table st') := by
  cases hq : p.qualify table with
  | none =>
      rw [Service.invalidate, show (inMemory p base).naming.qualify table = none from hq]
      exact .ok rfl h
  | some q =>
      rw [Service.invalidate, show (inMemory p base).naming.qualify table = some q from hq]
      refine .ok rfl ⟨h.handle, h.data, ⟨h.seen.left.tidy, h.seen.left.reflects.remove q⟩,
        ⟨h.seen.right.tidy, h.seen.right.reflects.remove q⟩, h.seen.data⟩

theorem destroy (h : Twins p st st') (base : String) :
    Agree Eq (Twins p) ((inMemory p base).destroy st) ((inMemory p base).destroy st') := by
  obtain ⟨handle, cache, remote⟩ := st
  obtain ⟨handle', cache', remote'⟩ := st'
  obtain rfl : handle = handle' := h.handle
  cases handle with
  | none => exact .ok rfl h
  | some _ =>
      -- Closing is undone before the next call.
      have hdata : remote.data = remote'.data := h.data
      have hleft : remote.SameLayout remote.reopen :=
        ⟨rfl, rfl, rfl, rfl, h.seen.left.tidy.healthy.opened.symm⟩
      have hright : remote'.SameLayout remote'.reopen :=
        ⟨rfl, rfl, rfl, rfl, h.seen.right.tidy.healthy.opened.symm⟩
      refine .ok rfl ⟨rfl, ?_, h.seen.left.layout hleft, h.seen.right.layout hright, ?_⟩
      · rw [Cluster.eq_withCalls hdata]
        rfl
      · rw [Cluster.eq_withCalls hdata]
        rfl

/-! ## Answers -/

theorem connected {Q : α → α → Prop} (describe : ConnectError → ε)
    {k : Unit → EStateM ε (ServiceState Cluster Unit) α}
    (h : Agree Q (Twins p) (k () (opened st)) (k () (opened st'))) :
    Agree Q (Twins p) (((inMemory p base).client.adaptExcept describe >>= k) st)
      (((inMemory p base).client.adaptExcept describe >>= k) st') := by
  rw [client_bind, client_bind]
  exact h

theorem collectionExists (h : Twins p st st') (base table : String) :
    Agree Eq (Twins p) ((inMemory p base).collectionExists table st)
      ((inMemory p base).collectionExists table st') := by
  rw [Service.collectionExists]
  exact connected _ (h.onLayout (Provisioner.respects_collectionExists ⟨p, base⟩ table)
    (Provisioner.keeps_collectionExists ⟨p, base⟩ table))

theorem configSetExists (h : Twins p st st') (base table : String) :
    Agree Eq (Twins p) ((inMemory p base).configSetExists table st)
      ((inMemory p base).configSetExists table st') := by
  rw [Service.configSetExists]
  exact connected _ (h.onLayout (Provisioner.respects_configSetExists ⟨p, base⟩ table)
    (Provisioner.keeps_configSetExists ⟨p, base⟩ table))

theorem index (h : Twins p st st') (base table : String) (docs : List Document) :
    Agree Eq (Twins p) ((inMemory p base).index table docs st)
      ((inMemory p base).index table docs st') := by
  rw [Service.index]
  split
  · exact .ok rfl h
  · exact connected _ (h.onLayout (Document.respects_index table docs) (Document.keeps_index table docs))

theorem deleteIds (h : Twins p st st') (base table : String) (ids : List String) :
    Agree Eq (Twins p) ((inMemory p base).deleteIds table ids st)
      ((inMemory p base).deleteIds table ids st') := by
  rw [Service.deleteIds]
  split
  · exact .ok rfl h
  · exact connected _
      (h.onLayout (Document.respects_deleteIds table ids) (Document.keeps_deleteIds table ids))

theorem deleteQuery (h : Twins p st st') (base table query : String) :
    Agree Eq (Twins p) ((inMemory p base).deleteQuery table query st)
      ((inMemory p base).deleteQuery table query st') := by
  rw [Service.deleteQuery]
  split
  · exact .ok rfl h
  · exact connected _
      (h.onLayout (Document.respects_deleteQuery table query) (Document.keeps_deleteQuery table query))

theorem answer (h : Twins p st st') (base : String) {call : ServiceCall} (hcall : call.Tame p) :
    ((inMemory p base).answer call st).1.Same ((inMemory p base).answer call st').1 ∧
      Twins p ((inMemory p base).answer call st).2 ((inMemory p base).answer call st').2 := by
  cases call with
  | create config => exact (h.create base config).tell_eq .created
  | ensure config => exact (h.ensure base config hcall).tell_eq .ensured
  | delete table => exact (h.delete base table).tell_eq .deleted
  | collectionExists table => exact (h.collectionExists base table).tell_eq .found
  | configSetExists table => exact (h.configSetExists base table).tell_eq .found
  | getSchema table => exact (h.getSchema base hcall).tell fun _ _ hab => hab.same
  | updateSchema table desired merge =>
      obtain ⟨hplain, hdesired, hkey, hkeeps⟩ := hcall
      exact (h.updateSchema base hplain hdesired hkey hkeeps).tell_eq .updated
  | invalidate table => exact (h.invalidate base table).tell_eq fun _ => .invalidated
  | index table docs => exact (h.index base table docs).tell_eq .written
  | deleteIds table ids => exact (h.deleteIds base table ids).tell_eq .written
  | deleteQuery table query => exact (h.deleteQuery base table query).tell_eq .written
  | destroy => exact (h.destroy base).tell_eq .destroyed

theorem run (h : Twins p st st') (base : String) {calls : List ServiceCall}
    (hcalls : ∀ call ∈ calls, call.Tame p) :
    List.Forall₂ ServiceAnswer.Same ((inMemory p base).run calls st).1
        ((inMemory p base).run calls st').1 ∧
      Twins p ((inMemory p base).run calls st).2 ((inMemory p base).run calls st').2 := by
  induction calls generalizing st st' with
  | nil => exact ⟨.nil, h⟩
  | cons call calls ih =>
      obtain ⟨hsame, hanswer⟩ := h.answer base (hcalls call List.mem_cons_self)
      obtain ⟨hrest, htwins⟩ := ih hanswer fun call hc => hcalls call (List.mem_cons_of_mem _ hc)
      simp only [run_cons]
      exact ⟨.cons hsame hrest, htwins⟩

theorem initial (p : NamingPolicy) (k k' : CacheKind) :
    Twins p (Service.initial p k) (Service.initial p k') := by
  have hempty : ∀ k, (Cluster.fresh p).Reflects (.ofKind k) := by
    intro k q known hl
    cases k <;> cases hl
  have htidy := Cluster.tidy_fresh p
  exact ⟨rfl, rfl, ⟨htidy, hempty k⟩, ⟨htidy, hempty k'⟩, rfl⟩

end Twins

/-- From a fresh cluster, calls that keep cached schemas in step are answered alike with and without a cache,
and leave clusters that hold the same. -/
theorem cache_transparent (p : NamingPolicy) (base : String) {calls : List ServiceCall}
    (hcalls : ∀ call ∈ calls, call.Tame p) :
    List.Forall₂ ServiceAnswer.Same ((inMemory p base).run calls (initial p .unbounded)).1
        ((inMemory p base).run calls (initial p .nop)).1 ∧
      ((inMemory p base).run calls (initial p .unbounded)).2.remote.data =
        ((inMemory p base).run calls (initial p .nop)).2.remote.data := by
  obtain ⟨hsame, htwins⟩ := (Twins.initial p .unbounded .nop).run base hcalls
  exact ⟨hsame, htwins.data⟩

/-- Creating `orders` with the field `total`, reading its schema, replacing it, and reading it again. -/
def ordersRevised : List ServiceCall :=
  [.ensure ⟨"orders", none, 1, 1, none, some (.ofFields "id" [.typed "total" .double])⟩,
    .getSchema "orders", .updateSchema "orders" Cluster.baseSchema false, .getSchema "orders"]

theorem tame_ordersRevised : ∀ call ∈ ordersRevised, call.Tame ⟨"DEFAULT"⟩ := by
  have hplain := NamingPolicy.isPlain_orders
  have htotal : (Schema.ofFields "id" [.typed "total" .double]).Legible :=
    .ofTyped (by decide) (by decide) rfl "id"
  intro call hcall
  simp only [ordersRevised, List.mem_cons, List.not_mem_nil, or_false] at hcall
  rcases hcall with rfl | rfl | rfl | rfl
  · rintro desired hdesired
    cases hdesired
    exact ⟨hplain, htotal, rfl⟩
  · exact hplain
  · exact ⟨hplain, Schema.legible_baseSchema, rfl, fun _ => ⟨by decide, by decide⟩⟩
  · exact hplain

/-- What these calls give with a cache of some kind. -/
def ordersRun (k : CacheKind) : List ServiceAnswer × ServiceState Cluster Unit :=
  (inMemory ⟨"DEFAULT"⟩ Cluster.baseConfigSet).run ordersRevised (initial ⟨"DEFAULT"⟩ k)

/-- The answers are alike although the cluster is asked more often without a cache. -/
theorem cache_transparent_orders :
    (∀ call ∈ ordersRevised, call.Tame ⟨"DEFAULT"⟩) ∧
      (ordersRun .unbounded).2.remote.calls < (ordersRun .nop).2.remote.calls ∧
      List.Forall₂ ServiceAnswer.Same (ordersRun .unbounded).1 (ordersRun .nop).1 ∧
      (ordersRun .unbounded).2.remote.data = (ordersRun .nop).2.remote.data := by
  refine ⟨tame_ordersRevised, by decide +kernel, ?_⟩
  exact cache_transparent ⟨"DEFAULT"⟩ Cluster.baseConfigSet tame_ordersRevised

end Service

end TableIndex
