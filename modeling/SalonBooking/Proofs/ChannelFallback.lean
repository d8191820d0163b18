import SalonBooking.Proofs.ChannelSettings
import SalonBooking.Proofs.Requests

/-!
Which channel settings are in force. The tenant's document names the mode, `tenant`,
`store` or `practitioner`, and any other entry counts as `tenant`. The settings come from
the practitioner's document when the mode is `practitioner` and that document gives some
setting a truthy value; else from the store's when the mode is not `tenant` and the
store's document gives one; else from the tenant's. Each of the four settings is then the
first value that is not null among the documents from that level down to the tenant's,
the most specific first: a value that is given but empty, such as an empty text, is taken
and hides the levels below it.

Documents that are objects, or that are not truthy, can be read; for all of them the
resolution succeeds and is described by `FallsBack`.
-/

namespace SalonBooking

namespace Line

/-- Whether a document gives some channel setting a truthy value. -/
def GivesSetting (c : Json) : Prop := ∃ key ∈ settingNames, (c.fieldD key).truthy = true

instance : DecidablePred GivesSetting := fun c =>
  inferInstanceAs (Decidable (∃ key ∈ settingNames, (c.fieldD key).truthy = true))

/-- The first value of setting `key` that is not null among `levels`, the most specific
first; null when there is none. -/
def firstNonNull (levels : List Json) (key : String) : Json :=
  ((levels.map (·.fieldD key)).find? (fun v => !v.isNull)).getD .null

/-- The four settings, each the first value not null among `levels`. -/
def settingsOf (levels : List Json) : Json :=
  .obj (settingNames.map fun key => (key, firstNonNull levels key))

/-- The document of a store or practitioner, null when none is given. -/
def docOf (x : Option (Uuid × Json)) : Json := (x.map (·.2)).getD .null

/-- The documents settings taken from `source` are merged from, the most specific first. -/
def levelsFrom (source : Source) (tenantConfig : Json) (store practitioner : Option (Uuid × Json)) :
    List Json :=
  match source with
  | .practitioner => [docOf practitioner, docOf store, tenantConfig]
  | .store => [docOf store, tenantConfig]
  | .tenant => [tenantConfig]

/-- The mode a tenant's document names: the mode whose name its `mode` entry is, and
`tenant` when the entry is no mode's name. -/
def Names (tenantConfig : Json) (mode : Mode) : Prop :=
  (∀ m : Mode, tenantConfig.fieldD "mode" = .str m.name → mode = m) ∧
    ((∀ m : Mode, tenantConfig.fieldD "mode" ≠ .str m.name) → mode = .tenant)

/-- What the settings resolved for the tenant's document `tenantConfig`, a store and a
practitioner are. -/
structure FallsBack (tenantConfig : Json) (store practitioner : Option (Uuid × Json))
    (r : Resolved) : Prop where
  mode : Names tenantConfig r.mode
  fromPractitioner : r.source = .practitioner ↔
    r.mode = .practitioner ∧ ∃ p ∈ practitioner, GivesSetting p.2
  fromStore : r.source = .store ↔
    r.source ≠ .practitioner ∧ r.mode ≠ .tenant ∧ ∃ s ∈ store, GivesSetting s.2
  config : r.config = settingsOf (levelsFrom r.source tenantConfig store practitioner)
  storeId : r.store = if r.source = .tenant then none else store.map (·.1)
  practitionerId : r.practitioner = if r.source = .practitioner then practitioner.map (·.1) else none

/-! ## Reading the documents -/

theorem fieldD_of_truthy_eq_false {c : Json} (h : c.truthy = false) (key : String) :
    c.fieldD key = .null := by
  cases c <;> simp_all [Json.truthy, Json.fieldD, Json.field?]

theorem get_eq_fieldD {c : Json} (h : Readable c) (key : String) : get c key = .ok (c.fieldD key) := by
  rcases h with ⟨fs, rfl⟩ | hfalse
  · rfl
  · cases c <;> simp_all [get, Json.fieldD, Json.field?]

theorem fieldD_orEmpty (c : Json) (key : String) : (orEmpty c).fieldD key = c.fieldD key := by
  unfold orEmpty
  split
  · rfl
  · next h =>
    have hnull : c.fieldD key = .null := fieldD_of_truthy_eq_false (by simpa using h) key
    rw [hnull]
    rfl

theorem givesSetting_orEmpty (c : Json) : GivesSetting (orEmpty c) ↔ GivesSetting c := by
  simp only [GivesSetting, fieldD_orEmpty]

/-- The fold of `hasSettings` over some settings, from what was found so far. -/
theorem hasSettings_fold {c : Json} (h : Readable c) (keys : List String) (found : Bool) :
    keys.foldlM (fun found key =>
      if found then .ok true else do return (← get c key).truthy) found =
      .ok (found || keys.any fun key => (c.fieldD key).truthy) := by
  induction keys generalizing found with
  | nil =>
    rw [List.any_nil, Bool.or_false]
    rfl
  | cons key keys ih =>
    cases found with
    | true =>
      rw [List.foldlM_cons, if_pos rfl]
      exact ih true
    | false =>
      rw [List.foldlM_cons, if_neg Bool.false_ne_true, get_eq_fieldD h]
      exact ih _

theorem hasSettings_eq {c : Json} (h : Readable c) : hasSettings c = .ok (decide (GivesSetting c)) := by
  unfold hasSettings
  split
  · next hfalse =>
    simp only [Bool.not_eq_true'] at hfalse
    simp [GivesSetting, fieldD_of_truthy_eq_false hfalse, Json.truthy]
  · rw [hasSettings_fold h]
    simp only [List.any_eq, GivesSetting, Bool.false_or]
    exact congrArg Except.ok (decide_eq_decide.mpr Iff.rfl)

theorem firstNonNull_cons (c : Json) (cs : List Json) (key : String) :
    firstNonNull (c :: cs) key =
      if (c.fieldD key).isNull then firstNonNull cs key else c.fieldD key := by
  unfold firstNonNull
  cases h : (c.fieldD key).isNull <;> simp [h]

/-- The fold of `firstGiven`, from the value chosen so far. -/
theorem firstGiven_fold {configs : List Json} (h : ∀ c ∈ configs, Readable c) (key : String)
    (chosen : Json) :
    configs.foldlM (fun chosen c => if !chosen.isNull || !c.truthy then .ok chosen else get c key)
      chosen = .ok (if chosen.isNull then firstNonNull configs key else chosen) := by
  induction configs generalizing chosen with
  | nil => cases chosen <;> rfl
  | cons c cs ih =>
    have hcs : ∀ c ∈ cs, Readable c := fun c' hc' => h c' (List.mem_cons_of_mem c hc')
    rw [List.foldlM_cons]
    by_cases hnull : chosen.isNull = true
    · rw [if_pos hnull, firstNonNull_cons]
      by_cases hc : c.truthy = true
      · -- the first document read gives the value, unless it is null
        rw [if_neg (by simp [hc, hnull]), get_eq_fieldD (h c List.mem_cons_self)]
        exact ih hcs _
      · -- a document that is not truthy gives no setting
        rw [if_pos (by simp [hc]), fieldD_of_truthy_eq_false (by simpa using hc)]
        exact (ih hcs chosen).trans (by rw [if_pos hnull]; rfl)
    · rw [if_pos (by simp [hnull]), if_neg hnull]
      exact (ih hcs chosen).trans (by rw [if_neg hnull])

theorem merge_eq {configs : List Json} (h : ∀ c ∈ configs, Readable c) :
    merge configs = .ok (settingsOf configs) := by
  have hfirst : ∀ key, firstGiven configs key = .ok (firstNonNull configs key) := fun key => by
    rw [firstGiven, firstGiven_fold h key .null]
    rfl
  simp only [merge, settingNames, List.mapM_cons, List.mapM_nil, hfirst]
  rfl

/-- Documents that give every setting alike give the same settings. -/
theorem settingsOf_congr (l l' : List Json) (h : ∀ key, l.map (·.fieldD key) = l'.map (·.fieldD key)) :
    settingsOf l = settingsOf l' := by
  simp only [settingsOf, firstNonNull, h]

theorem modeOf_names {c : Json} (h : Readable c) : ∃ mode, modeOf c = .ok mode ∧ Names c mode := by
  unfold modeOf
  dsimp only
  split
  · rw [get_eq_fieldD h]
    refine ⟨_, rfl, fun m hm => ?_, fun hnone => ?_⟩
    · rw [hm]
      cases m <;> rfl
    · -- an entry naming no mode falls to the last case
      split
      · next heq => exact absurd heq (hnone .store)
      · next heq => exact absurd heq (hnone .practitioner)
      · rfl
  · -- a document that is not truthy has no entry
    next hfalse =>
    have hnull : c.fieldD "mode" = .null := fieldD_of_truthy_eq_false (by simpa using hfalse) _
    refine ⟨.tenant, rfl, fun m hm => ?_, fun _ => rfl⟩
    rw [hnull] at hm
    cases hm

/-! ## The three outcomes -/

section Outcomes

variable {tenantConfig : Json} {store practitioner : Option (Uuid × Json)} {mode : Mode}

/-- Settings taken from the practitioner's document. -/
theorem fallsBack_practitioner (hnames : Names tenantConfig mode) (hmode : mode = .practitioner)
    {p : Uuid} {pc : Json} (hp : practitioner = some (p, pc)) (hgives : GivesSetting pc) :
    FallsBack tenantConfig store practitioner
      ⟨mode, .practitioner, settingsOf (levelsFrom .practitioner tenantConfig store practitioner),
        store.map (·.1), some p⟩ := by
  subst hp
  exact ⟨hnames, iff_of_true rfl ⟨hmode, (p, pc), rfl, hgives⟩, iff_of_false (by simp) (by simp),
    rfl, by simp, by simp⟩

/-- Settings taken from the store's document. -/
theorem fallsBack_store (hnames : Names tenantConfig mode) (hmode : mode ≠ .tenant)
    (hnoP : ¬ (mode = .practitioner ∧ ∃ p ∈ practitioner, GivesSetting p.2))
    {s : Uuid} {sc : Json} (hs : store = some (s, sc)) (hgives : GivesSetting sc) :
    FallsBack tenantConfig store practitioner
      ⟨mode, .store, settingsOf (levelsFrom .store tenantConfig store practitioner), some s, none⟩ := by
  subst hs
  exact ⟨hnames, iff_of_false (by simp) hnoP,
    iff_of_true rfl ⟨by simp, hmode, (s, sc), rfl, hgives⟩, rfl, by simp, by simp⟩

/-- Settings taken from the tenant's document alone. -/
theorem fallsBack_tenant (hnames : Names tenantConfig mode)
    (hnoP : ¬ (mode = .practitioner ∧ ∃ p ∈ practitioner, GivesSetting p.2))
    (hnoS : ¬ (mode ≠ .tenant ∧ ∃ s ∈ store, GivesSetting s.2)) :
    FallsBack tenantConfig store practitioner
      ⟨mode, .tenant, settingsOf [tenantConfig], none, none⟩ :=
  ⟨hnames, iff_of_false (by simp) hnoP, iff_of_false (by simp) fun h => hnoS h.2, rfl,
    by simp, by simp⟩

end Outcomes

/-! ## Resolving -/

/-- The level of a store or practitioner, given with its document: taken, with its
settings merged from `configs`, when that document gives a setting. -/
theorem level_eq {c : Json} {configs : List Json} (hc : Readable c) (h : ∀ c ∈ configs, Readable c)
    (k : Json → Resolved) :
    (do if ← hasSettings c then pure (some (k (← merge configs))) else pure none) =
      (Except.ok (if GivesSetting c then some (k (settingsOf configs)) else none) :
        Except Fault (Option Resolved)) := by
  rw [hasSettings_eq hc, merge_eq h]
  by_cases hg : GivesSetting c <;> simp [hg] <;> rfl

/-- Channel settings fall back from the practitioner to the store to the tenant. For a
tenant's document and a store's and a practitioner's, each an object or not truthy (null
among them), resolving succeeds as `FallsBack` says: the mode is the one the tenant's
document names; the practitioner's level is taken when the mode is `practitioner` and its
document gives a setting, else the store's when the mode is not `tenant` and its document
gives one, else the tenant's; each setting is the first value not null from that level
down; and the store and practitioner ids are those of the levels used. -/
theorem resolve_fallsBack (tenantConfig : Json) (store practitioner : Option (Uuid × Json))
    (ht : Readable tenantConfig) (hs : ∀ s ∈ store, Readable s.2)
    (hp : ∀ p ∈ practitioner, Readable p.2) :
    ∃ r, resolve tenantConfig store practitioner = .ok r ∧
      FallsBack tenantConfig store practitioner r := by
  obtain ⟨mode, hmode, hnames⟩ := modeOf_names ht
  unfold resolve
  rw [hmode, Api.ok_bind]
  extract_lets tenantC storeC fromPractitioner fromStore fallback
  -- the documents as resolving reads them give the same settings as the levels
  have htC : Readable tenantC ∧ ∀ key, tenantC.fieldD key = tenantConfig.fieldD key :=
    ⟨orEmpty_readable ht, fieldD_orEmpty tenantConfig⟩
  have hsC : Readable storeC ∧ ∀ key, storeC.fieldD key = (docOf store).fieldD key := by
    dsimp only [storeC]
    rcases hst : store with _ | ⟨s, c⟩
    · exact ⟨.inl ⟨_, rfl⟩, fun key => rfl⟩
    · exact ⟨orEmpty_readable (hs _ hst), fieldD_orEmpty c⟩
  have hfallback : fallback = .ok ⟨mode, .tenant, settingsOf [tenantConfig], none, none⟩ := by
    dsimp only [fallback]
    rw [merge_eq (by simpa using htC.1), settingsOf_congr _ [tenantConfig] (by simp [htC.2])]
    rfl
  -- each of the store and the practitioner is taken exactly when its document gives a setting
  have hstore : ∀ s sc, store = some (s, sc) → GivesSetting sc → fromStore =
      .ok (some ⟨mode, .store, settingsOf (levelsFrom .store tenantConfig store practitioner),
        some s, none⟩) := by
    rintro s sc rfl hg
    have hsc : Readable (orEmpty sc) := orEmpty_readable (hs _ rfl)
    dsimp only [fromStore, storeC]
    rw [level_eq hsc (by simp [hsc, htC.1]), if_pos ((givesSetting_orEmpty sc).mpr hg),
      settingsOf_congr _ [sc, tenantConfig] (by simp [fieldD_orEmpty, htC.2])]
    rfl
  have hstoreNone : (¬ ∃ s ∈ store, GivesSetting s.2) → fromStore = .ok none := by
    intro hno
    dsimp only [fromStore, storeC]
    rcases hst : store with _ | ⟨s, sc⟩
    · rfl
    · have hsc : Readable (orEmpty sc) := orEmpty_readable (hs _ hst)
      dsimp only
      rw [level_eq hsc (by simp [hsc, htC.1]), if_neg]
      exact fun hg => hno ⟨(s, sc), hst, (givesSetting_orEmpty sc).mp hg⟩
  have hpract : ∀ p pc, practitioner = some (p, pc) → GivesSetting pc → fromPractitioner =
      .ok (some ⟨mode, .practitioner,
        settingsOf (levelsFrom .practitioner tenantConfig store practitioner),
        store.map (·.1), some p⟩) := by
    rintro p pc rfl hg
    have hpc : Readable pc := hp _ rfl
    dsimp only [fromPractitioner]
    rw [level_eq hpc (by simp [hpc, hsC.1, htC.1]), if_pos hg,
      settingsOf_congr _ [pc, docOf store, tenantConfig] (by simp [hsC.2, htC.2])]
    rfl
  have hpractNone : (¬ ∃ p ∈ practitioner, GivesSetting p.2) → fromPractitioner = .ok none := by
    intro hno
    dsimp only [fromPractitioner]
    rcases hpt : practitioner with _ | ⟨p, pc⟩
    · rfl
    · dsimp only
      rw [level_eq (hp _ hpt) (by simp [hp _ hpt, hsC.1, htC.1]), if_neg]
      exact fun hg => hno ⟨(p, pc), hpt, hg⟩
  -- the practitioner first, then the store, then the tenant
  by_cases hP : mode = .practitioner ∧ ∃ p ∈ practitioner, GivesSetting p.2
  · obtain ⟨rfl, ⟨p, pc⟩, hmem, hg⟩ := hP
    refine ⟨_, ?_, fallsBack_practitioner hnames rfl hmem hg⟩
    rw [hpract p pc hmem hg]
    rfl
  by_cases hS : mode ≠ .tenant ∧ ∃ s ∈ store, GivesSetting s.2
  · obtain ⟨hm, ⟨s, sc⟩, hmem, hg⟩ := hS
    refine ⟨_, ?_, fallsBack_store hnames hm hP hmem hg⟩
    cases mode with
    | tenant => exact absurd rfl hm
    | store =>
      rw [hstore s sc hmem hg]
      rfl
    | practitioner =>
      rw [hpractNone (fun h => hP ⟨rfl, h⟩), hstore s sc hmem hg]
      rfl
  · refine ⟨_, ?_, fallsBack_tenant hnames hP hS⟩
    cases mode with
    | tenant => exact hfallback
    | store =>
      rw [hstoreNone (fun h => hS ⟨by simp, h⟩)]
      exact hfallback
    | practitioner =>
      rw [hpractNone (fun h => hP ⟨rfl, h⟩), hstoreNone (fun h => hS ⟨by simp, h⟩)]
      exact hfallback

/-! ## An empty setting at the store -/

private def hidingTenantDoc : Json := .obj [("mode", .str "store"), ("channel_id", .str "tenant-channel")]
private def hidingStoreDoc : Json := .obj [("liff_id", .str "store-liff"), ("channel_id", .str "")]

/-- In store mode, a store whose document gives a channel id and an empty channel id is the
source, and the empty channel id is taken over the tenant's. -/
theorem empty_store_setting_hides_tenant :
    Readable hidingTenantDoc ∧ Readable hidingStoreDoc ∧
      ∃ r, resolve hidingTenantDoc (some (⟨1⟩, hidingStoreDoc)) none = .ok r ∧
        FallsBack hidingTenantDoc (some (⟨1⟩, hidingStoreDoc)) none r ∧
        r.source = .store ∧ r.config.fieldD "channel_id" = .str "" := by
  have ht : Readable hidingTenantDoc := .inl ⟨_, rfl⟩
  have hs : Readable hidingStoreDoc := .inl ⟨_, rfl⟩
  obtain ⟨r, hr, hfalls⟩ := resolve_fallsBack hidingTenantDoc (some (⟨1⟩, hidingStoreDoc)) none ht
    (fun s hmem => by cases hmem; exact hs) (fun p hmem => by cases hmem)
  have hmode : r.mode = .store := hfalls.mode.1 .store rfl
  have hnotP : r.source ≠ .practitioner := fun h => by
    have := (hfalls.fromPractitioner.mp h).1
    rw [hmode] at this
    cases this
  have hsource : r.source = .store :=
    hfalls.fromStore.mpr ⟨hnotP, by rw [hmode]; decide, ⟨_, rfl, by decide⟩⟩
  refine ⟨ht, hs, r, hr, hfalls, hsource, ?_⟩
  rw [hfalls.config, hsource]
  rfl

end Line

end SalonBooking
