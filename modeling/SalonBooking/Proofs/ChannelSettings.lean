import SalonBooking.Proofs.Idempotency
import SalonBooking.Proofs.Pages

/-!
Reading channel settings. A configuration document can be read for a setting when it is
an object, or when it is not truthy and so counts as empty; a truthy document of any
other kind cannot. Resolving the settings in force reads the tenant's, the store's and
the practitioner's documents: it succeeds when each of them can be read, and whenever it
fails, it fails reading a document that is not an object.
-/

namespace SalonBooking

namespace Line

/-- A configuration document every setting can be read from: an object, or a document
that is not truthy. -/
def Readable (c : Json) : Prop := (∃ fs, c = .obj fs) ∨ c.truthy = false

/-- The fault of reading a setting from a document that is not an object. -/
def NotAnObject (e : Fault) : Prop := ∃ kind, e = .notAnObject kind

section Steps

variable {α β ε : Type}

theorem bind_ok {x : Except ε α} {f : α → Except ε β} {a : α} (hx : x = .ok a)
    (hf : ∃ b, f a = .ok b) : ∃ b, (x >>= f) = .ok b := by
  rw [hx]
  exact hf

/-- A fold whose every step succeeds succeeds. -/
theorem foldlM_ok {f : β → α → Except ε β} :
    ∀ {l : List α}, (∀ b, ∀ a ∈ l, ∃ b', f b a = .ok b') → ∀ init, ∃ b, l.foldlM f init = .ok b
  | [], _, init => ⟨init, rfl⟩
  | a :: l, hf, init => by
    obtain ⟨b, hb⟩ := hf init a List.mem_cons_self
    obtain ⟨b', hb'⟩ := foldlM_ok (fun b a' ha' => hf b a' (List.mem_cons_of_mem a ha')) b
    exact ⟨b', by rw [List.foldlM_cons, hb]; exact hb'⟩

/-- A fold fails only as one of its steps does. -/
theorem fails_foldlM {f : β → α → Except ε β} {P : ε → Prop} (hf : ∀ b a, Fails (f b a) P) :
    ∀ (l : List α) init, Fails (l.foldlM f init) P
  | [], _ => fails_ok _
  | a :: l, init => by
    rw [List.foldlM_cons]
    exact (hf init a).bind fun b _ => fails_foldlM hf l b

/-- A map fails only as one of its steps does. -/
theorem fails_mapM {f : α → Except ε β} {P : ε → Prop} (hf : ∀ a, Fails (f a) P) :
    ∀ l : List α, Fails (l.mapM f) P
  | [] => fails_ok _
  | a :: l => by
    rw [List.mapM_cons]
    exact (hf a).bind fun b _ => (fails_mapM hf l).bind fun bs _ => fails_ok _

end Steps

theorem get_ok {c : Json} (h : Readable c) (key : String) : ∃ v, get c key = .ok v := by
  rcases h with ⟨fs, rfl⟩ | hfalse
  · exact ⟨_, rfl⟩
  · cases c <;> simp_all [get]

theorem fails_get (c : Json) (key : String) : Fails (get c key) NotAnObject := by
  unfold get
  split
  · exact fails_ok _
  · split
    · exact fails_error ⟨_, rfl⟩
    · exact fails_ok _

theorem hasSettings_ok {c : Json} (h : Readable c) : ∃ found, hasSettings c = .ok found := by
  unfold hasSettings
  split
  · exact ⟨_, rfl⟩
  · refine foldlM_ok (fun found key _ => ?_) false
    split
    · exact ⟨_, rfl⟩
    · obtain ⟨v, hv⟩ := get_ok h key
      exact ⟨v.truthy, by simp [hv]⟩

theorem fails_hasSettings (c : Json) : Fails (hasSettings c) NotAnObject := by
  unfold hasSettings
  split
  · exact fails_ok _
  · refine fails_foldlM (fun found key => ?_) _ false
    split
    · exact fails_ok _
    · exact (fails_get c key).bind fun _ _ => fails_ok _

theorem firstGiven_ok {configs : List Json} (h : ∀ c ∈ configs, Readable c) (key : String) :
    ∃ v, firstGiven configs key = .ok v :=
  foldlM_ok (fun chosen c hc => by
    split
    · exact ⟨_, rfl⟩
    · exact get_ok (h c hc) key) _

theorem fails_firstGiven (configs : List Json) (key : String) :
    Fails (firstGiven configs key) NotAnObject :=
  fails_foldlM (fun chosen c => by
    split
    · exact fails_ok _
    · exact fails_get c key) configs _

theorem merge_ok {configs : List Json} (h : ∀ c ∈ configs, Readable c) :
    ∃ v, merge configs = .ok v := by
  obtain ⟨values, hvalues, -⟩ := @Reservations.mapM_of_ok String Json (firstGiven configs)
    (fun _ _ => True) settingNames fun key _ => (firstGiven_ok h key).imp fun _ hv => ⟨hv, trivial⟩
  exact ⟨_, by simp [merge, hvalues]; rfl⟩

theorem fails_merge (configs : List Json) : Fails (merge configs) NotAnObject :=
  (fails_mapM (fails_firstGiven configs) settingNames).bind fun _ _ => fails_ok _

theorem modeOf_ok {c : Json} (h : Readable c) : ∃ mode, modeOf c = .ok mode := by
  unfold modeOf
  dsimp only
  split
  · obtain ⟨m, hm⟩ := get_ok h "mode"
    exact ⟨_, by rw [hm]; rfl⟩
  · exact ⟨_, rfl⟩

theorem fails_modeOf (c : Json) : Fails (modeOf c) NotAnObject := by
  unfold modeOf
  dsimp only
  split
  · exact (fails_get c "mode").bind fun _ _ => fails_ok _
  · exact fails_ok _

theorem orEmpty_readable {c : Json} (h : Readable c) : Readable (orEmpty c) := by
  unfold orEmpty
  split
  · exact h
  · exact .inl ⟨_, rfl⟩

/-! A level's settings are in force when its document has any: they are then merged
from that level down to the tenant. -/

theorem level_ok {c : Json} {configs : List Json} (hc : Readable c)
    (h : ∀ c ∈ configs, Readable c) (k : Json → Resolved) :
    ∃ o, (do if ← hasSettings c then pure (some (k (← merge configs))) else pure none) =
      Except.ok o := by
  obtain ⟨found, hfound⟩ := hasSettings_ok hc
  obtain ⟨v, hv⟩ := merge_ok h
  rw [hfound, hv]
  cases found <;> exact ⟨_, rfl⟩

theorem fails_level {c : Json} {configs : List Json} (k : Json → Resolved) :
    Fails (do if ← hasSettings c then pure (some (k (← merge configs))) else pure none)
      NotAnObject :=
  (fails_hasSettings c).bind fun found _ => by
    split
    · exact (fails_merge configs).bind fun _ _ => fails_ok _
    · exact fails_ok _

/-- Settings resolve whenever the tenant's document, and the store's and the
practitioner's when given, can be read. -/
theorem resolve_ok {tenantConfig : Json} {store practitioner : Option (Uuid × Json)}
    (ht : Readable tenantConfig) (hs : ∀ s ∈ store, Readable s.2)
    (hp : ∀ p ∈ practitioner, Readable p.2) :
    ∃ r, resolve tenantConfig store practitioner = .ok r := by
  obtain ⟨mode, hmode⟩ := modeOf_ok ht
  unfold resolve
  refine bind_ok hmode ?_
  extract_lets tenantC storeC fromPractitioner fromStore fallback
  have htC : Readable tenantC := orEmpty_readable ht
  have hsC : Readable storeC := by
    dsimp only [storeC]
    split
    · exact orEmpty_readable (hs _ rfl)
    · exact .inl ⟨_, rfl⟩
  have hfallback : ∃ r, fallback = .ok r := by
    obtain ⟨v, hv⟩ := @merge_ok [tenantC] (by simpa using htC)
    exact ⟨_, by simp only [fallback, hv]; rfl⟩
  have hstore : ∃ o, fromStore = .ok o := by
    dsimp only [fromStore]
    split
    · exact level_ok hsC (by simp [hsC, htC]) _
    · exact ⟨_, rfl⟩
  have hpract : ∃ o, fromPractitioner = .ok o := by
    dsimp only [fromPractitioner]
    split
    · exact level_ok (hp _ rfl) (by simp [hp _ rfl, hsC, htC]) _
    · exact ⟨_, rfl⟩
  obtain ⟨op, hop⟩ := hpract
  obtain ⟨os, hos⟩ := hstore
  obtain ⟨r, hr⟩ := hfallback
  -- each mode tries its levels in turn, the most specific first
  split
  · rw [hop, hos, hr]
    cases op <;> cases os <;> exact ⟨_, rfl⟩
  · rw [hos, hr]
    cases os <;> exact ⟨_, rfl⟩
  · exact ⟨r, hr⟩

/-- Resolving settings fails only reading a document that is not an object. -/
theorem fails_resolve (tenantConfig : Json) (store practitioner : Option (Uuid × Json)) :
    Fails (resolve tenantConfig store practitioner) NotAnObject := by
  unfold resolve
  refine (fails_modeOf tenantConfig).bind fun mode _ => ?_
  extract_lets tenantC storeC fromPractitioner fromStore fallback
  have hfallback : Fails fallback NotAnObject := (fails_merge _).bind fun _ _ => fails_ok _
  have hstore : Fails fromStore NotAnObject := by
    dsimp only [fromStore]
    split
    · exact fails_level _
    · exact fails_ok _
  have hpract : Fails fromPractitioner NotAnObject := by
    dsimp only [fromPractitioner]
    split
    · exact fails_level _
    · exact fails_ok _
  split
  · refine hpract.bind fun o _ => ?_
    split
    · exact fails_ok _
    · refine hstore.bind fun o _ => ?_
      split
      · exact fails_ok _
      · exact hfallback
  · refine hstore.bind fun o _ => ?_
    split
    · exact fails_ok _
    · exact hfallback
  · exact hfallback

end Line

end SalonBooking
