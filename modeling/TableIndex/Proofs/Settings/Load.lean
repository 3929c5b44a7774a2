import TableIndex.Proofs.Map.Sorted
import TableIndex.Proofs.Settings.Variable
import TableIndex.Settings.Load

/-!
# Settings that the environment gives

A variable takes its setting from whatever came before it, and leaves all others as they were. A setting that is a text
takes the value of its variable as it stands, unless it is a literal.
-/

namespace TableIndex

namespace Settings

variable {d d' : Dict} {k : String} {v : Value}

/-! ## Merging -/

namespace Value

/-- What a value makes of what is there already. -/
def onto (a : Option Value) (v : Value) : Value :=
  match a with
  | some a => merge a v
  | none => v

theorem mergeMembers_cons (d : Dict) (k : String) (v : Value) (ms : List (String × Value)) :
    mergeMembers d ((k, v) :: ms) = mergeMembers (d.insert k (onto (d.get? k) v)) ms := by
  rw [mergeMembers]
  rfl

theorem get?_mergeMembers {ms : List (String × Value)} (h : (ms.map Prod.fst).Nodup) (d : Dict) (k : String) :
    (mergeMembers d ms).get? k = match (ms.find? (·.1 == k)).map Prod.snd with
      | some v => some (onto (d.get? k) v)
      | none => d.get? k := by
  induction ms generalizing d with
  | nil =>
      rw [mergeMembers]
      rfl
  | cons e ms ih =>
      obtain ⟨k', v⟩ := e
      rw [List.map_cons, List.nodup_cons] at h
      rw [mergeMembers_cons, ih h.2, SortedMap.get?_insert, List.find?_cons]
      by_cases hk : k' = k
      · subst hk
        have hno : ms.find? (·.1 == k') = none := by
          refine List.find?_eq_none.mpr fun e he hk => h.1 ?_
          exact List.mem_map.mpr ⟨e, he, beq_iff_eq.mp hk⟩
        simp [hno]
      · rw [if_neg hk, beq_false_of_ne hk]

/-- A setting that is a text sees no difference between a value and what it makes of another one. -/
theorem optionalText_onto (a : Option Value) (v : Value) :
    Decoder.optionalText (onto a v) = Decoder.optionalText v := by
  cases a with
  | none => rfl
  | some a =>
      cases v with
      | dict ms =>
          rw [onto, merge]
          rfl
      | _ => rfl

end Value

/-! ## Variables -/

theorem get?_withVariables (d : Dict) (environment : List (String × String)) (k : String) :
    (d.withVariables environment).get? k = match (Variable.settings environment).get? k with
      | some v => some (Value.onto (d.get? k) v)
      | none => d.get? k :=
  Value.get?_mergeMembers (SortedMap.keys_nodup _) d k

namespace Variable

variable {before after es : List (String × String)} {name text : String}

theorem apply_of_keys_nil (h : keys name = []) (d : Dict) : apply d (name, text) = d := by
  -- `rw [apply]` would compute with the prefix of all names
  delta apply
  rw [h]

theorem apply_of_keys {ks : List String} (h : keys name = k :: ks) (d : Dict) :
    apply d (name, text) = d.insert k (Value.onto (d.get? k) ((value text).nest ks)) := by
  delta apply
  rw [h]
  exact Value.mergeMembers_cons d k _ []

/-- What a variable makes of a setting depends on this setting only. -/
theorem get?_apply_congr (h : d.get? k = d'.get? k) (e : String × String) :
    (apply d e).get? k = (apply d' e).get? k := by
  obtain ⟨name, text⟩ := e
  cases hkeys : keys name with
  | nil => rw [apply_of_keys_nil hkeys, apply_of_keys_nil hkeys, h]
  | cons k' ks =>
      rw [apply_of_keys hkeys, apply_of_keys hkeys, SortedMap.get?_insert, SortedMap.get?_insert]
      by_cases hk : k' = k
      · rw [if_pos hk, if_pos hk, hk, h]
      · rw [if_neg hk, if_neg hk, h]

theorem get?_foldl_apply_congr (h : d.get? k = d'.get? k) (es : List (String × String)) :
    (es.foldl apply d).get? k = (es.foldl apply d').get? k := by
  induction es generalizing d d' with
  | nil => exact h
  | cons e es ih =>
      rw [List.foldl_cons, List.foldl_cons]
      exact ih (get?_apply_congr h e)

theorem get?_apply_of_ne {e : String × String} (h : (keys e.1).head? ≠ some k) (d : Dict) :
    (apply d e).get? k = d.get? k := by
  obtain ⟨name, text⟩ := e
  cases hkeys : keys name with
  | nil => rw [apply_of_keys_nil hkeys]
  | cons k' ks =>
      rw [hkeys, List.head?_cons] at h
      rw [apply_of_keys hkeys, SortedMap.get?_insert_of_ne fun hk => h (congrArg some hk)]

theorem get?_foldl_apply_of_ne (h : ∀ e ∈ es, (keys e.1).head? ≠ some k) (d : Dict) :
    (es.foldl apply d).get? k = d.get? k := by
  induction es generalizing d with
  | nil => rfl
  | cons e es ih =>
      obtain ⟨he, hes⟩ := List.forall_mem_cons.mp h
      rw [List.foldl_cons, ih hes, get?_apply_of_ne he]

/-- One more variable changes no setting but its own. -/
theorem get?_settings_of_ne (h : (keys name).head? ≠ some k) (before after : List (String × String)) (text : String) :
    (settings (before ++ (name, text) :: after)).get? k = (settings (before ++ after)).get? k := by
  rw [settings, settings, List.foldl_append, List.foldl_append, List.foldl_cons]
  exact get?_foldl_apply_congr (get?_apply_of_ne (e := (name, text)) h _) after

/-- The last variable of a setting has the last word. -/
theorem get?_settings_last (hname : keys name = [k]) (hafter : ∀ e ∈ after, (keys e.1).head? ≠ some k) :
    (settings (before ++ (name, text) :: after)).get? k =
      some (Value.onto ((settings before).get? k) (value text)) := by
  rw [settings, List.foldl_append, List.foldl_cons, get?_foldl_apply_of_ne hafter, apply_of_keys hname,
    SortedMap.get?_insert_self]
  rfl

end Variable

/-- The second settings are the first ones but for what is under a key. -/
def DiffersAt (key : String) (d d' : Dict) : Prop := ∀ k, k ≠ key → d'.get? k = d.get? k

theorem DiffersAt.setting? {key : String} {α : Type} (h : DiffersAt key d d') (hk : k ≠ key) (decode : Decoder α) :
    d'.setting? k decode = d.setting? k decode := by
  rw [Dict.setting?, Dict.setting?, h k hk]

section OneMore

variable {after : List (String × String)} {name : String}

theorem differsAt_withVariables (hname : Variable.keys name = [k]) (d : Dict) (before after : List (String × String))
    (text : String) :
    DiffersAt k (d.withVariables (before ++ after)) (d.withVariables (before ++ (name, text) :: after)) := by
  intro k' hk
  have hne : (Variable.keys name).head? ≠ some k' := by
    rw [hname]
    exact fun hkey => hk (Option.some.inj hkey).symm
  rw [get?_withVariables, get?_withVariables, Variable.get?_settings_of_ne hne]

/-- A setting that is a text is what the last variable for it says. -/
theorem exists_of_last_variable (hname : Variable.keys name = [k]) (before : List (String × String))
    (hafter : ∀ e ∈ after, (Variable.keys e.1).head? ≠ some k) (d : Dict) (text : String) :
    ∃ v, (d.withVariables (before ++ (name, text) :: after)).get? k = some v ∧
      Decoder.optionalText v = Decoder.optionalText (Variable.value text) := by
  refine ⟨Value.onto (d.get? k) (Value.onto ((Variable.settings before).get? k) (Variable.value text)), ?_, ?_⟩
  · rw [get?_withVariables, Variable.get?_settings_last hname hafter]
  · rw [Value.optionalText_onto, Value.optionalText_onto]

end OneMore

/-! ## Text settings -/

/-- The configuration that settings make: whatever is given has its kind, and the address is given. -/
structure Makes (d : Dict) (c : Config) : Prop where
  authToken : ∃ a, d.setting? "auth_token" .optionalText = .ok a ∧ c.authToken = a.getD none
  configSet : ∃ a, d.setting? "config_set" .text = .ok a ∧ c.configSet = a.getD "_default"
  replicas : ∃ a, d.setting? "replicas" (.natBelow 0x100000000) = .ok a ∧ c.replicas = a.getD 1
  requestTimeoutMs : ∃ a, d.setting? "request_timeout_ms" (.natBelow 0x10000000000000000) = .ok a ∧
    c.requestTimeoutMs = a.getD 30000
  schemaCache : ∃ a, d.setting? "schema_cache" .cacheKind = .ok a ∧ c.schemaCache = a.getD .unbounded
  shards : ∃ a, d.setting? "shards" (.natBelow 0x100000000) = .ok a ∧ c.shards = a.getD 1
  solrServerUrl : d.setting? "solr_server_url" .text = .ok (some c.solrServerUrl)
  tenantDomain : ∃ a, d.setting? "tenant_domain" .optionalText = .ok a ∧ c.tenantDomain = a.getD none

theorem exists_of_bind_ok {α β : Type} {x : Except ExtractError α} {f : α → Except ExtractError β} {b : β}
    (h : (x >>= f) = .ok b) : ∃ a, x = .ok a ∧ f a = .ok b := by
  cases x with
  | ok a => exact ⟨a, rfl, h⟩
  | error e => cases h

theorem toConfig_eq_ok {c : Config} (h : d.toConfig = .ok c) : Makes d c := by
  rw [Dict.toConfig] at h
  obtain ⟨token, htoken, h⟩ := exists_of_bind_ok h
  obtain ⟨set, hset, h⟩ := exists_of_bind_ok h
  obtain ⟨replicas, hreplicas, h⟩ := exists_of_bind_ok h
  obtain ⟨timeout, htimeout, h⟩ := exists_of_bind_ok h
  obtain ⟨cache, hcache, h⟩ := exists_of_bind_ok h
  obtain ⟨shards, hshards, h⟩ := exists_of_bind_ok h
  obtain ⟨url, hurl, h⟩ := exists_of_bind_ok h
  obtain ⟨tenant, htenant, h⟩ := exists_of_bind_ok h
  cases url with
  | none => cases h
  | some url =>
      cases h
      exact ⟨⟨token, htoken, rfl⟩, ⟨set, hset, rfl⟩, ⟨replicas, hreplicas, rfl⟩, ⟨timeout, htimeout, rfl⟩,
        ⟨cache, hcache, rfl⟩, ⟨shards, hshards, rfl⟩, hurl, ⟨tenant, htenant, rfl⟩⟩

theorem toConfig_of_makes {c : Config} (h : Makes d c) : d.toConfig = .ok c := by
  obtain ⟨⟨token, htoken, htoken'⟩, ⟨set, hset, hset'⟩, ⟨replicas, hreplicas, hreplicas'⟩,
    ⟨timeout, htimeout, htimeout'⟩, ⟨cache, hcache, hcache'⟩, ⟨shards, hshards, hshards'⟩, hurl,
    ⟨tenant, htenant, htenant'⟩⟩ := h
  rw [Dict.toConfig, htoken, hset, hreplicas, htimeout, hcache, hshards, hurl, htenant]
  cases c
  simp only at htoken' hset' hreplicas' htimeout' hcache' hshards' htenant'
  subst htoken' hset' hreplicas' htimeout' hcache' hshards' htenant'
  rfl

/-- The settings that are a text, if they are given. -/
inductive TextSetting where
  | authToken
  | tenantDomain
deriving DecidableEq, Repr

namespace TextSetting

/-- The key of the setting. -/
def key : TextSetting → String
  | authToken => "auth_token"
  | tenantDomain => "tenant_domain"

/-- The name of the variable. -/
def variableName : TextSetting → String
  | authToken => "RECORDINDEX_AUTH_TOKEN"
  | tenantDomain => "RECORDINDEX_TENANT_DOMAIN"

/-- The configuration with another text in the setting. -/
def put (c : Config) (text : String) : TextSetting → Config
  | authToken => { c with authToken := some text }
  | tenantDomain => { c with tenantDomain := some text }

variable {s : TextSetting} {c : Config}

theorem keys_variableName (s : TextSetting) : Variable.keys s.variableName = [s.key] := by
  cases s <;> decide +kernel

theorem flaw?_put (s : TextSetting) (c : Config) (text : String) : (s.put c text).flaw? = c.flaw? := by
  cases s <;> rfl

theorem put_injective {t t' : String} (h : s.put c t = s.put c t') : t = t' := by
  cases s with
  | authToken => exact Option.some.inj (congrArg Config.authToken h)
  | tenantDomain => exact Option.some.inj (congrArg Config.tenantDomain h)

end TextSetting

theorem setting?_of_ok {α : Type} {decode : Decoder α} {a : α} (h : d.get? k = some v) (hv : decode v = .ok a) :
    d.setting? k decode = .ok (some a) := by
  simp only [Dict.setting?, h, hv]

theorem setting?_of_error {α : Type} {decode : Decoder α} {e : ExtractError} (h : d.get? k = some v)
    (hv : decode v = .error e) : d.setting? k decode = .error { e with path := k :: e.path } := by
  simp only [Dict.setting?, h, hv]

section Replaced

variable {s : TextSetting} {c : Config}

/-- Another text in a setting makes a configuration that has this text, and differs in nothing else. -/
theorem Makes.put {t : String} (h : Makes d c) (hd : DiffersAt s.key d d')
    (ht : d'.setting? s.key .optionalText = .ok (some (some t))) : Makes d' (s.put c t) := by
  cases s with
  | authToken =>
      refine ⟨⟨_, ht, rfl⟩, ?_, ?_, ?_, ?_, ?_, ?_, ?_⟩
      · exact hd.setting? (k := "config_set") (by decide) _ ▸ h.configSet
      · exact hd.setting? (k := "replicas") (by decide) _ ▸ h.replicas
      · exact hd.setting? (k := "request_timeout_ms") (by decide) _ ▸ h.requestTimeoutMs
      · exact hd.setting? (k := "schema_cache") (by decide) _ ▸ h.schemaCache
      · exact hd.setting? (k := "shards") (by decide) _ ▸ h.shards
      · exact (hd.setting? (k := "solr_server_url") (by decide) _).trans h.solrServerUrl
      · exact hd.setting? (k := "tenant_domain") (by decide) _ ▸ h.tenantDomain
  | tenantDomain =>
      refine ⟨?_, ?_, ?_, ?_, ?_, ?_, ?_, ⟨_, ht, rfl⟩⟩
      · exact hd.setting? (k := "auth_token") (by decide) _ ▸ h.authToken
      · exact hd.setting? (k := "config_set") (by decide) _ ▸ h.configSet
      · exact hd.setting? (k := "replicas") (by decide) _ ▸ h.replicas
      · exact hd.setting? (k := "request_timeout_ms") (by decide) _ ▸ h.requestTimeoutMs
      · exact hd.setting? (k := "schema_cache") (by decide) _ ▸ h.schemaCache
      · exact hd.setting? (k := "shards") (by decide) _ ▸ h.shards
      · exact (hd.setting? (k := "solr_server_url") (by decide) _).trans h.solrServerUrl

/-- A setting that cannot be decoded is what is reported. -/
theorem toConfig_eq_error {e : ExtractError} (h : Makes d c) (hd : DiffersAt s.key d d')
    (he : d'.setting? s.key .optionalText = .error e) : d'.toConfig = .error e := by
  obtain ⟨⟨token, htoken, -⟩, ⟨set, hset, -⟩, ⟨replicas, hreplicas, -⟩, ⟨timeout, htimeout, -⟩, ⟨cache, hcache, -⟩,
    ⟨shards, hshards, -⟩, hurl, -⟩ := h
  cases s with
  | authToken =>
      rw [Dict.toConfig, show d'.setting? "auth_token" _ = _ from he]
      rfl
  | tenantDomain =>
      rw [Dict.toConfig, hd.setting? (k := "auth_token") (by decide), htoken,
        hd.setting? (k := "config_set") (by decide), hset, hd.setting? (k := "replicas") (by decide), hreplicas,
        hd.setting? (k := "request_timeout_ms") (by decide), htimeout,
        hd.setting? (k := "schema_cache") (by decide), hcache, hd.setting? (k := "shards") (by decide), hshards,
        hd.setting? (k := "solr_server_url") (by decide), hurl, show d'.setting? "tenant_domain" _ = _ from he]
      rfl

end Replaced

end Settings

/-! ## Loading -/

namespace Config

open Settings

variable {find : String → Found} {environment before after : List (String × String)} {path text : String} {c : Config}
  {d : Dict} {s : TextSetting} {v : Value}

theorem loadFrom_of_settings (hfind : find path ≠ .nothing) (hd : settingsOf? (find path) = some d) :
    loadFrom find environment path = match (d.withVariables environment).toConfig with
      | .error e => .error (.extract e)
      | .ok c =>
        match c.flaw? with
        | some flaw => .error (.invalid flaw)
        | none => .ok c := by
  rw [loadFrom, if_neg hfind, settings, hd]
  rfl

theorem loadFrom_eq_ok (h : loadFrom find environment path = .ok c) : find path ≠ .nothing ∧
    ∃ d, settingsOf? (find path) = some d ∧ (d.withVariables environment).toConfig = .ok c ∧ c.flaw? = none := by
  have hfind : find path ≠ .nothing := by
    intro hfind
    rw [loadFrom, if_pos hfind] at h
    cases h
  cases hd : settingsOf? (find path) with
  | none =>
      rw [loadFrom, if_neg hfind, settings, hd] at h
      cases h
  | some d =>
      rw [loadFrom_of_settings hfind hd] at h
      split at h
      · cases h
      · next c' hc =>
          split at h
          · cases h
          · next hflaw =>
              cases h
              exact ⟨hfind, d, rfl, hc, hflaw⟩

/-- What becomes of a configuration when a text setting has a value: a text is taken, and so is a character as the
text of it alone. -/
def taking (s : TextSetting) (c : Config) : Value → Except ConfigError Config
  | .text t => .ok (s.put c t)
  | .char ch => .ok (s.put c (String.ofList [ch]))
  | _ => .error (.extract ⟨.invalidType, [s.key]⟩)

/-- What is loaded with one more variable, for a text setting that no later variable is for, too. -/
theorem loadFrom_with_variable (hload : loadFrom find (before ++ after) path = .ok c)
    (hafter : ∀ e ∈ after, (Variable.keys e.1).head? ≠ some s.key) (text : String) :
    loadFrom find (before ++ (s.variableName, text) :: after) path = taking s c (Variable.value text) := by
  obtain ⟨hfind, d, hd, hc, hflaw⟩ := loadFrom_eq_ok hload
  have hmakes := toConfig_eq_ok hc
  have hdiffers := differsAt_withVariables s.keys_variableName d before after text
  obtain ⟨v, hlast, hdecode⟩ := exists_of_last_variable s.keys_variableName before hafter d text
  have htext {t : String} (ht : Decoder.optionalText v = .ok (some t)) :
      loadFrom find (before ++ (s.variableName, text) :: after) path = .ok (s.put c t) := by
    rw [loadFrom_of_settings hfind hd, toConfig_of_makes (hmakes.put hdiffers (setting?_of_ok hlast ht))]
    simp only [s.flaw?_put, hflaw]
  have hrefused (he : Decoder.optionalText v = .error ⟨.invalidType, []⟩) :
      loadFrom find (before ++ (s.variableName, text) :: after) path = .error (.extract ⟨.invalidType, [s.key]⟩) := by
    rw [loadFrom_of_settings hfind hd, toConfig_eq_error hmakes hdiffers (setting?_of_error hlast he)]
  cases hv : Variable.value text with
  | null => exact absurd hv (Variable.value_ne_null text)
  | text t => exact htext (hdecode.trans (by rw [hv]; rfl))
  | char ch => exact htext (hdecode.trans (by rw [hv]; rfl))
  | _ => exact hrefused (hdecode.trans (by rw [hv]; rfl))

/-- What is taken for a literal is not the literal as it stands. -/
theorem taking_ne_of_literal (hv : Variable.Literal text.toList v) : taking s c v ≠ .ok (s.put c text) := by
  intro htaking
  cases v with
  | text t =>
      obtain rfl := TextSetting.put_injective (Except.ok.inj htaking)
      exact hv.ne_text (by rw [String.ofList_toList])
  | char ch =>
      obtain rfl := TextSetting.put_injective (Except.ok.inj htaking)
      exact hv.ne_char String.toList_ofList
  | _ => cases htaking

/-- The variable of a text setting is taken as it stands unless it is a literal. A literal is taken for what it is: the
text in quotes without them, and anything else that is no text is refused. -/
theorem loadFrom_with_text (hload : loadFrom find (before ++ after) path = .ok c)
    (hafter : ∀ e ∈ after, (Variable.keys e.1).head? ≠ some s.key) (htext : Text.trim text = text) :
    (loadFrom find (before ++ (s.variableName, text) :: after) path = .ok (s.put c text) ↔
        ¬∃ v, Variable.Literal text.toList v) ∧
      ∀ v, Variable.Literal text.toList v →
        loadFrom find (before ++ (s.variableName, text) :: after) path = taking s c v := by
  have hliteral : ∀ v, Variable.Literal text.toList v →
      loadFrom find (before ++ (s.variableName, text) :: after) path = taking s c v := by
    intro v hv
    rw [loadFrom_with_variable hload hafter, Variable.value_of_literal htext hv]
  refine ⟨⟨?_, fun hno => ?_⟩, hliteral⟩
  · rintro hok ⟨v, hv⟩
    exact taking_ne_of_literal hv ((hliteral v hv).symm.trans hok)
  · rw [loadFrom_with_variable hload hafter, Variable.value_of_not_literal htext hno]
    rfl

theorem eq_ok_of_toOption {ε α : Type} {x : Except ε α} {a : α} (h : x.toOption = some a) : x = .ok a := by
  cases x with
  | ok b => exact congrArg Except.ok (Option.some.inj h)
  | error e => cases h

theorem loadFrom_with_text_secret :
    let find : String → Found := fun _ => .file "solr_server_url: h"
    loadFrom find [("RECORDINDEX_SHARDS", "3"), ("RECORDINDEX_AUTH_TOKEN", "s3cret")] "f" =
        .ok { solrServerUrl := "h", shards := 3, authToken := some "s3cret" } ∧
      loadFrom find [("RECORDINDEX_SHARDS", "3"), ("RECORDINDEX_AUTH_TOKEN", "0.5")] "f" =
        .error (.extract ⟨.invalidType, ["auth_token"]⟩) := by
  intro find
  have hload : loadFrom find ([("RECORDINDEX_SHARDS", "3")] ++ []) "f" = .ok { solrServerUrl := "h", shards := 3 } :=
    eq_ok_of_toOption (by decide +kernel)
  have hafter : ∀ e ∈ ([] : List (String × String)), (Variable.keys e.1).head? ≠ some TextSetting.authToken.key :=
    List.forall_mem_nil _
  refine ⟨(loadFrom_with_text hload hafter (by decide +kernel)).1.mpr ?_,
    (loadFrom_with_text hload hafter (by decide +kernel)).2 .fraction (.fraction (by decide +kernel))⟩
  rintro ⟨v, hv⟩
  have hvalue := Variable.value_of_literal (by decide +kernel) hv
  exact hv.ne_text (hvalue.symm.trans rfl)

/-- A number is refused as a token, although it is a text like any other. -/
theorem loadFrom_not_verbatim :
    let find : String → Found := fun _ => .file "solr_server_url: h"
    (loadFrom find [] "f").toOption = some { solrServerUrl := "h" } ∧
      (loadFrom find [("RECORDINDEX_AUTH_TOKEN", "12345")] "f").toOption = none ∧
      (loadFrom find [("RECORDINDEX_TENANT_DOMAIN", "'a'")] "f").toOption =
        some { solrServerUrl := "h", tenantDomain := some "a" } :=
  ⟨by decide +kernel, by decide +kernel, by decide +kernel⟩

end Config

end TableIndex
