import Mathlib.Data.List.Nodup
import SalonBooking.Proofs.LinkScopes
import SalonBooking.Proofs.Invariants
import SalonBooking.Proofs.ChannelSettings

/-!
Resolving a booking-link token. A presented token is stripped of white space; it leads
somewhere when the stripped text is a run of token characters held by a stored link
that is active and has not expired at the instant of the check, whose tenant is open for
booking, whose practitioner is the tenant's and active, and whose store, if it names
one, is the tenant's and open (`Leads`). Tokens are unique among the stored links, so
that link is the one the lookup finds.

Such a token resolves to the link's tenant, slug, store and practitioner with the
channel settings in force, and the only row written is the link's time of last use.
Every other token is refused in the same words and changes no row. The channel settings
are read from the tenant's, store's and practitioner's documents: a token that leads
somewhere resolves when each of them can be read, and a resolution that is not refused as
not found fails only reading a document that is not an object.
-/

namespace SalonBooking

open SalonBooking.Calendar Op Database

namespace Database

/-- Reading the clock leaves the stores as they were. -/
theorem store?_clock (db : Database) (clock : Clock) (tenant id : Uuid) :
    ({ db with clock := clock }).store? tenant id = db.store? tenant id := rfl

end Database

namespace Link

/-- A stripped text does not end in white space. -/
theorem strip_getLast?_isSpace (s : String) {c : Char}
    (h : (strip s).toList.getLast? = some c) : isSpace c = false := by
  have hhead := List.head?_dropWhile_not isSpace (s.toList.dropWhile isSpace).reverse
  rw [strip, String.toList_ofList, List.getLast?_reverse] at h
  rw [h] at hhead
  exact hhead

/-- A stripped text keeps no line end, so it has the form of a token exactly when it is a
run of 16 to 128 token characters. -/
theorem wellFormed_strip (s : String) :
    wellFormed (strip s) = isTokenBody (strip s).toList := by
  have hend : (strip s).toList.getLast? ≠ some '\n' := fun h =>
    absurd (strip_getLast?_isSpace s h) (by decide)
  simp [wellFormed, hend]

/-- The channel settings in force for tenant `t`, practitioner `p` and store `store`. -/
def settings (t : Tenant) (p : Practitioner) (store : Option Store) :
    Except Fault Line.Resolved :=
  Line.resolve t.lineConfig (store.map fun s => (s.id, s.lineConfig)) (some (p.id, p.lineConfig))

/-- The settings at a link resolve when the tenant's, the store's and the practitioner's
documents can be read. -/
theorem settings_ok {t : Tenant} {p : Practitioner} {store : Option Store}
    (ht : Line.Readable t.lineConfig) (hp : Line.Readable p.lineConfig)
    (hs : ∀ s ∈ store, Line.Readable s.lineConfig) : ∃ line, settings t p store = .ok line :=
  Line.resolve_ok ht (by simpa using hs) (by simpa using hp)

theorem fails_settings (t : Tenant) (p : Practitioner) (store : Option Store) :
    Fails (settings t p store) Line.NotAnObject :=
  Line.fails_resolve _ _ _

/-- A token stripped to `token` leads, at the instant `now`, to the link `l` of tenant `t`,
practitioner `p` and store `store`: `token` is a run of token characters held by `l`, a
stored link that is active and has not expired; `t` is the link's tenant, open for
booking; `p` is the tenant's active practitioner the link names; and `store` is the
tenant's open store the link names, if it names one. -/
structure Leads (db : Database) (token : String) (now : DateTime) (l : BookingLink)
    (t : Tenant) (p : Practitioner) (store : Option Store) : Prop where
  wellFormed : isTokenBody token.toList = true
  stored : l ∈ db.links
  token_eq : l.token = token
  active : l.status = "active"
  unexpired : ∀ e, l.expiresAt = some e → now < e
  tenant : db.tenant? l.tenant = some t
  bookable : t.status = some "active" ∨ t.status = some "trial"
  practitioner : db.practitioner? t.id l.practitioner = some p
  practitionerActive : p.isActive = true
  storeIds : store.map (·.id) = l.store
  storeOpen : ∀ s ∈ store, db.store? t.id s.id = some s ∧ s.status = some "active"

section Leads

variable {db : Database} {token : String} {now : DateTime} {l l' : BookingLink}
  {t t' : Tenant} {p p' : Practitioner} {store store' : Option Store}

/-- With tokens unique among the stored links, the lookup of a token that leads somewhere
finds the link it leads to. -/
theorem Leads.found (htokens : (db.links.map (·.token)).Nodup)
    (h : Leads db token now l t p store) :
    db.links.find? (fun l => l.token == token && l.isActive && l.expiresAt.all (now < ·)) =
      some l := by
  have hsat : (l.token == token && l.isActive && l.expiresAt.all (now < ·)) = true := by
    cases he : l.expiresAt <;> simp [BookingLink.isActive, h.token_eq, h.active, he, h.unexpired]
  cases hfind : db.links.find? (fun l => l.token == token && l.isActive && l.expiresAt.all (now < ·)) with
  | none => exact absurd hsat (by simpa using List.find?_eq_none.mp hfind l h.stored)
  | some x =>
    have hx := List.find?_some hfind
    simp only [Bool.and_eq_true, beq_iff_eq] at hx
    exact congrArg some (List.inj_on_of_nodup_map htokens (List.mem_of_find?_eq_some hfind)
      h.stored (hx.1.1.trans h.token_eq.symm))

/-- A tenant is open for booking when its status is one of the bookable ones. -/
theorem bookable_iff {status : Option String} :
    status.any bookableStatuses.contains = true ↔
      status = some "active" ∨ status = some "trial" := by
  cases status <;> simp [bookableStatuses]

/-- A token leads where the lookup and the checks of a resolution, all passed, say. -/
theorem Leads.of_found (htoken : isTokenBody token.toList = true)
    (hl : db.links.find? (fun l => l.token == token && l.isActive && l.expiresAt.all (now < ·)) =
      some l)
    (ht : db.tenant? l.tenant = some t) (hbookable : t.status.any bookableStatuses.contains = true)
    (hp : db.practitioner? t.id l.practitioner = some p) (hworking : p.isActive = true)
    (hids : store.map (·.id) = l.store)
    (hopen : ∀ s ∈ store, db.store? t.id s.id = some s ∧ s.status = some "active") :
    Leads db token now l t p store := by
  have hfound := List.find?_some hl
  simp only [Bool.and_eq_true, beq_iff_eq] at hfound
  exact ⟨htoken, List.mem_of_find?_eq_some hl, hfound.1.1,
    by simpa [BookingLink.isActive] using hfound.1.2, fun e he => by simpa [he] using hfound.2,
    ht, bookable_iff.mp hbookable, hp, hworking, hids, hopen⟩

/-- A token leads to one link, tenant, practitioner and store at most. -/
theorem Leads.unique (htokens : (db.links.map (·.token)).Nodup)
    (h : Leads db token now l t p store) (h' : Leads db token now l' t' p' store') :
    l' = l ∧ t' = t ∧ p' = p ∧ store' = store := by
  obtain rfl : l = l' := Option.some.inj ((h.found htokens).symm.trans (h'.found htokens))
  obtain rfl : t = t' := Option.some.inj (h.tenant.symm.trans h'.tenant)
  obtain rfl : p = p' := Option.some.inj (h.practitioner.symm.trans h'.practitioner)
  refine ⟨rfl, rfl, rfl, ?_⟩
  -- the store is the one the link names, found in the tenant's stores
  cases store with
  | none => simpa using h'.storeIds.trans h.storeIds.symm
  | some s =>
    cases store' with
    | none =>
      have hnone : l.store = none := h'.storeIds.symm
      have hsome : l.store = some s.id := h.storeIds.symm
      rw [hnone] at hsome
      cases hsome
    | some s' =>
      have hid : s'.id = s.id := Option.some.inj (h'.storeIds.trans h.storeIds.symm)
      have hs := (h.storeOpen s rfl).1
      have hs' := (h'.storeOpen s' rfl).1
      rw [hid, hs] at hs'
      exact congrArg some (Option.some.inj hs').symm

end Leads

section Resolution

-- A presented token is read only through its stripped form: unfolding `strip` would run
-- the resolution on the symbolic token, through the whole text encoding.
attribute [local irreducible] strip

/-- How a resolution that fails may end: a token that leads nowhere is refused as
unusable, and one that leads somewhere fails only with the fault of its channel
settings. -/
def Refused (db : Database) (token : String) (now : DateTime) (e : Fault) : Prop :=
  (∀ l t p store, ¬ Leads db token now l t p store) ∧ e = unusable ∨
    ∃ l t p store, Leads db token now l t p store ∧ settings t p store = .error e

/-- Resolving a token that leads somewhere answers the link, its tenant, store and
practitioner and the channel settings in force, having read the clock once; otherwise it
fails as `Refused` says. No row changes. -/
theorem resolution_wp_leads {db : Database} {now : DateTime} (presented : String)
    (htokens : (db.links.map (·.token)).Nodup)
    (hnow : db.clock.base.shift ((db.clock.reads + 1 : Nat) : Int) = .ok now) :
    wp (resolution presented)
      (fun found db' => db' = { db with clock := { db.clock with reads := db.clock.reads + 1 } } ∧
        ∃ t p store line, Leads db (strip presented) now found.1 t p store ∧
          settings t p store = .ok line ∧
          found.2 = ⟨t.id, t.slug, found.1.store, p.id, line.mode, line.source⟩)
      (fun e db' => SameRows db db' ∧ Refused db (strip presented) now e) db := by
  have refuse : (∀ l t p store, ¬ Leads db (strip presented) now l t p store) →
      Refused db (strip presented) now unusable := fun h => .inl ⟨h, rfl⟩
  simp only [resolution, wp_bind, wp_ite, wp_throw]
  split
  · -- a stripped text that is not a token leads nowhere
    next hbad =>
    refine ⟨SameRows.refl db, refuse fun l t p store h => ?_⟩
    rw [wellFormed_strip, h.wellFormed] at hbad
    exact absurd hbad (by decide)
  rename_i hbad
  have htoken : isTokenBody (strip presented).toList = true := by
    rw [← wellFormed_strip]
    simpa using hbad
  rw [Database.wp_now, hnow]
  simp only [wp_bind, wp_get]
  have hclock := sameRows_clock db { db.clock with reads := db.clock.reads + 1 }
  -- each check that fails rules out every link, tenant, practitioner and store the token
  -- could lead to: with tokens unique, they are the ones found so far
  split
  rotate_left
  · next hnot =>
    rw [wp_throw]
    exact ⟨hclock, refuse fun _ _ _ _ h => hnot _ (h.found htokens)⟩
  rename_i l hl
  have hsole : ∀ {l' t' p' store'}, Leads db (strip presented) now l' t' p' store' → l' = l :=
    fun h => Option.some.inj ((h.found htokens).symm.trans hl)
  split
  rotate_left
  · next hnot =>
    rw [wp_throw]
    exact ⟨hclock, refuse fun _ _ _ _ h => by obtain rfl := hsole h; exact hnot _ h.tenant⟩
  rename_i t ht
  have hsoleT : ∀ {l' t' p' store'}, Leads db (strip presented) now l' t' p' store' →
      l' = l ∧ t' = t := fun h => by
    obtain rfl := hsole h
    exact ⟨rfl, Option.some.inj (h.tenant.symm.trans ht)⟩
  simp only [wp_bind, wp_ite, wp_throw]
  split
  · next hclosed =>
    refine ⟨hclock, refuse fun _ _ _ _ h => ?_⟩
    obtain ⟨rfl, rfl⟩ := hsoleT h
    simp [bookable_iff.mpr h.bookable] at hclosed
  rename_i hbookable
  split
  rotate_left
  · next hnot =>
    rw [wp_throw]
    exact ⟨hclock, refuse fun _ _ _ _ h => by
      obtain ⟨rfl, rfl⟩ := hsoleT h
      exact hnot _ h.practitioner⟩
  rename_i p hp
  have hsoleP : ∀ {l' t' p' store'}, Leads db (strip presented) now l' t' p' store' →
      l' = l ∧ t' = t ∧ p' = p := fun h => by
    obtain ⟨rfl, rfl⟩ := hsoleT h
    exact ⟨rfl, rfl, Option.some.inj (h.practitioner.symm.trans hp)⟩
  simp only [wp_bind, wp_ite, wp_throw]
  split
  · next hidle =>
    refine ⟨hclock, refuse fun _ _ _ _ h => ?_⟩
    obtain ⟨rfl, rfl, rfl⟩ := hsoleP h
    simp [h.practitionerActive] at hidle
  rename_i hworking
  have hleads : ∀ store, store.map (·.id) = l.store →
      (∀ s ∈ store, db.store? t.id s.id = some s ∧ s.status = some "active") →
      Leads db (strip presented) now l t p store :=
    fun store => Leads.of_found htoken hl ht (by simpa using hbookable) hp (by simpa using hworking)
  split
  · next sid hsid =>
    -- any store the token leads to is the tenant's store the link names, and open
    have hstoreOf : ∀ {l' t' p' store'}, Leads db (strip presented) now l' t' p' store' →
        ∃ s', db.store? t.id sid = some s' ∧ s'.status = some "active" := by
      intro l' t' p' store' h
      obtain ⟨rfl, rfl, rfl⟩ := hsoleP h
      cases store' with
      | none => exact absurd (h.storeIds.trans hsid) (by simp)
      | some s' =>
        have hid : s'.id = sid := Option.some.inj (h.storeIds.trans hsid)
        exact ⟨s', hid ▸ (h.storeOpen s' rfl).1, (h.storeOpen s' rfl).2⟩
    split
    rotate_left
    · next hnot =>
      simp only [wp_bind, wp_throw]
      refine ⟨hclock, refuse fun _ _ _ _ h => ?_⟩
      obtain ⟨s', hs', -⟩ := hstoreOf h
      simp only [Database.store?_clock] at hnot
      rw [hnot] at hs'
      cases hs'
    rename_i s hs
    simp only [Database.store?_clock] at hs
    have hsid' : s.id = sid := by
      have := List.find?_some hs
      simp only [Bool.and_eq_true, beq_iff_eq] at this
      exact this.2
    split
    · next hopen =>
      have h := hleads (some s) (by rw [hsid, ← hsid']; rfl) fun s' hs' => by
        cases hs'
        exact ⟨hsid' ▸ hs, by simpa [Store.isOpen] using hopen⟩
      simp only [wp_bind, wp_pure, wp_lift]
      split
      · next line hline => exact ⟨trivial, t, p, some s, line, h, hline, by rw [h.storeIds]⟩
      · next e hline => exact ⟨hclock, .inr ⟨l, t, p, some s, h, hline⟩⟩
    · next hshut =>
      simp only [wp_bind, wp_throw]
      refine ⟨hclock, refuse fun _ _ _ _ h => ?_⟩
      obtain ⟨s', hs', hactive⟩ := hstoreOf h
      rw [hs', Option.some.injEq] at hs
      subst hs
      simp [Store.isOpen, hactive] at hshut
  · next hnone =>
    have h := hleads none hnone.symm fun _ hs => by cases hs
    simp only [wp_bind, wp_pure, wp_lift]
    split
    · next line hline => exact ⟨trivial, t, p, none, line, h, hline, by rw [h.storeIds]⟩
    · next e hline => exact ⟨hclock, .inr ⟨l, t, p, none, h, hline⟩⟩

/-- Resolving a token that leads somewhere, with settings that can be read, answers the
link's tenant, slug, store and practitioner with the settings' mode and source, and
writes only the link's time of last use, a second reading of the clock; otherwise it
fails as `Refused` says and changes no row. -/
theorem resolve_wp_leads {db : Database} {now used : DateTime} (presented : String)
    (htokens : (db.links.map (·.token)).Nodup)
    (hnow : db.clock.base.shift ((db.clock.reads + 1 : Nat) : Int) = .ok now)
    (hused : db.clock.base.shift ((db.clock.reads + 2 : Nat) : Int) = .ok used) :
    wp (resolve presented)
      (fun r db' => ∃ l t p store line, Leads db (strip presented) now l t p store ∧
        settings t p store = .ok line ∧ r = ⟨t.id, t.slug, l.store, p.id, line.mode, line.source⟩ ∧
        db' = ({ db with clock := { db.clock with reads := db.clock.reads + 2 } }).putLink
          { l with lastUsedAt := some used })
      (fun e db' => SameRows db db' ∧ Refused db (strip presented) now e) db := by
  simp only [resolve, wp_bind]
  refine wp_mono (resolution_wp_leads presented htokens hnow) ?_ fun _ _ h => h
  rintro ⟨l, found⟩ db₁ ⟨rfl, t, p, store, line, h, hline, hfound⟩
  -- the second reading of the clock stamps the link
  have hused' : db.clock.base.shift ((db.clock.reads + 1 + 1 : Nat) : Int) = .ok used := hused
  simp only [wp_bind, Database.wp_now, hused', wp_modify, wp_pure]
  exact ⟨l, t, p, store, line, h, hline, hfound, rfl⟩

section Leading

variable {db : Database} {now used : DateTime} {presented : String} {l : BookingLink}
  {t : Tenant} {p : Practitioner} {store : Option Store}

/-- A run that resolves a token leading to `l` answers with the settings at `l`. -/
theorem settings_of_run_ok {r : Resolution} {db' : Database}
    (htokens : (db.links.map (·.token)).Nodup)
    (hnow : db.clock.base.shift ((db.clock.reads + 1 : Nat) : Int) = .ok now)
    (hused : db.clock.base.shift ((db.clock.reads + 2 : Nat) : Int) = .ok used)
    (h : Leads db (strip presented) now l t p store) (hrun : (resolve presented).run db = .ok r db') :
    ∃ line, settings t p store = .ok line ∧ r = ⟨t.id, t.slug, l.store, p.id, line.mode, line.source⟩ ∧
      db' = ({ db with clock := { db.clock with reads := db.clock.reads + 2 } }).putLink
        { l with lastUsedAt := some used } := by
  have hw := resolve_wp_leads presented htokens hnow hused
  rw [wp_of_run_ok hrun] at hw
  obtain ⟨l', t', p', store', line, h', hline, hr, hdb⟩ := hw
  obtain ⟨rfl, rfl, rfl, rfl⟩ := h.unique htokens h'
  exact ⟨line, hline, hr, hdb⟩

/-- A run that fails on a token leading to `l` fails in the settings at `l`, and changes no
row. -/
theorem settings_of_run_error {e : Fault} {db' : Database}
    (htokens : (db.links.map (·.token)).Nodup)
    (hnow : db.clock.base.shift ((db.clock.reads + 1 : Nat) : Int) = .ok now)
    (hused : db.clock.base.shift ((db.clock.reads + 2 : Nat) : Int) = .ok used)
    (h : Leads db (strip presented) now l t p store)
    (hrun : (resolve presented).run db = .error e db') :
    SameRows db db' ∧ settings t p store = .error e := by
  have hw := resolve_wp_leads presented htokens hnow hused
  rw [wp_of_run_error hrun] at hw
  rcases hw.2 with ⟨hno, -⟩ | ⟨l', t', p', store', h', hline⟩
  · exact absurd h (hno l t p store)
  · obtain ⟨rfl, rfl, rfl, rfl⟩ := h.unique htokens h'
    exact ⟨hw.1, hline⟩

end Leading

/-- How resolving a presented token ends, at a database whose clock reads `now` at the
check and `used` after it. -/
structure ResolveOutcome (db : Database) (presented : String) (now used : DateTime) : Prop where
  /-- A token that leads somewhere, with settings that can be read, resolves to the link's
  tenant, slug, store and practitioner and the settings' mode and source; the only row
  written is the link's time of last use. -/
  resolves : ∀ l t p store line, Leads db (strip presented) now l t p store →
    settings t p store = .ok line →
    (resolve presented).run db = .ok ⟨t.id, t.slug, l.store, p.id, line.mode, line.source⟩
      (({ db with clock := { db.clock with reads := db.clock.reads + 2 } }).putLink
        { l with lastUsedAt := some used })
  /-- A token that leads somewhere, with settings that cannot be read, fails with their
  fault and changes no row. -/
  unreadable : ∀ l t p store e, Leads db (strip presented) now l t p store →
    settings t p store = .error e →
    ∃ db', (resolve presented).run db = .error e db' ∧ SameRows db db'
  /-- Every other token is refused as not found, in the same words, and changes no row. -/
  refused : (∀ l t p store, ¬ Leads db (strip presented) now l t p store) →
    ∃ db', (resolve presented).run db = .error unusable db' ∧ SameRows db db' ∧
      unusable.message = "Booking link not found"

/-- With tokens unique among the stored links, a presented token resolves exactly when it
leads somewhere and the channel settings there can be read; the answer and the one row
written are as `ResolveOutcome` says, and every other token is refused alike. -/
theorem resolve_outcome {db : Database} {now used : DateTime} (presented : String)
    (htokens : (db.links.map (·.token)).Nodup)
    (hnow : db.clock.base.shift ((db.clock.reads + 1 : Nat) : Int) = .ok now)
    (hused : db.clock.base.shift ((db.clock.reads + 2 : Nat) : Int) = .ok used) :
    ResolveOutcome db presented now used := by
  have hw := resolve_wp_leads presented htokens hnow hused
  -- a run for a token that leads somewhere ends as the settings at its link do; the
  -- other ending of each case contradicts them
  refine ⟨fun l t p store line h hline => ?_, fun l t p store e h hline => ?_, fun hnone => ?_⟩
  · cases hrun : (resolve presented).run db with
    | ok r db' =>
      obtain ⟨line', hline', rfl, rfl⟩ := settings_of_run_ok htokens hnow hused h hrun
      rw [hline, Except.ok.injEq] at hline'
      rw [hline']
    | error e db' =>
      have hfail := (settings_of_run_error htokens hnow hused h hrun).2
      rw [hline] at hfail
      cases hfail
  · cases hrun : (resolve presented).run db with
    | ok r db' =>
      obtain ⟨line', hline', -⟩ := settings_of_run_ok htokens hnow hused h hrun
      rw [hline] at hline'
      cases hline'
    | error e' db' =>
      obtain ⟨hsame, hline'⟩ := settings_of_run_error htokens hnow hused h hrun
      rw [hline, Except.error.injEq] at hline'
      exact ⟨db', by rw [hline'], hsame⟩
  · cases hrun : (resolve presented).run db with
    | ok r db' =>
      rw [wp_of_run_ok hrun] at hw
      obtain ⟨l', t', p', store', line', h', -⟩ := hw
      exact absurd h' (hnone l' t' p' store')
    | error e db' =>
      rw [wp_of_run_error hrun] at hw
      rcases hw.2 with ⟨-, rfl⟩ | ⟨l', t', p', store', h', -⟩
      · exact ⟨db', rfl, hw.1, rfl⟩
      · exact absurd h' (hnone l' t' p' store')

/-- Resolving a token fails only refusing it as not found, or reading a settings document
that is not an object. -/
theorem resolve_fault {db db' : Database} {now used : DateTime} {e : Fault} (presented : String)
    (htokens : (db.links.map (·.token)).Nodup)
    (hnow : db.clock.base.shift ((db.clock.reads + 1 : Nat) : Int) = .ok now)
    (hused : db.clock.base.shift ((db.clock.reads + 2 : Nat) : Int) = .ok used)
    (hrun : (resolve presented).run db = .error e db') :
    e = unusable ∨ Line.NotAnObject e := by
  have hw := resolve_wp_leads presented htokens hnow hused
  rw [wp_of_run_error hrun] at hw
  rcases hw.2 with ⟨-, rfl⟩ | ⟨l, t, p, store, -, hline⟩
  · exact .inl rfl
  · exact .inr (fails_settings t p store e hline)

/-- A token that leads to a link whose tenant's, store's and practitioner's documents can
be read resolves. -/
theorem resolves_of_readable {db : Database} {now used : DateTime} {presented : String}
    {l : BookingLink} {t : Tenant} {p : Practitioner} {store : Option Store}
    (htokens : (db.links.map (·.token)).Nodup)
    (hnow : db.clock.base.shift ((db.clock.reads + 1 : Nat) : Int) = .ok now)
    (hused : db.clock.base.shift ((db.clock.reads + 2 : Nat) : Int) = .ok used)
    (h : Leads db (strip presented) now l t p store) (ht : Line.Readable t.lineConfig)
    (hp : Line.Readable p.lineConfig) (hs : ∀ s ∈ store, Line.Readable s.lineConfig) :
    ∃ r db', (resolve presented).run db = .ok r db' := by
  obtain ⟨line, hline⟩ := settings_ok ht hp hs
  cases hrun : (resolve presented).run db with
  | ok r db' => exact ⟨r, db', rfl⟩
  | error e db' =>
    have hfail := (settings_of_run_error htokens hnow hused h hrun).2
    rw [hline] at hfail
    cases hfail

end Resolution

/-! ## A tenant whose settings document is a list -/

/-- One tenant open for booking, with the settings document `config`; its active
practitioner; and an active link of theirs that never expires, at a quarter to two. -/
private def tokenDay : Date := ⟨epochDayNumber + 20813, by decide, by decide⟩
private def tokenText : String := "abcdefghijklmnopqrstuvwxyz012345"
private def tokenTenant (config : Json) : Tenant := ⟨⟨1⟩, "Salon", "test-salon", some "active", config⟩
private def tokenPractitioner : Practitioner := ⟨⟨2⟩, ⟨1⟩, "Aki", true, none, .arr [], .null⟩
private def tokenRow : BookingLink :=
  ⟨⟨3⟩, ⟨1⟩, none, ⟨2⟩, tokenText, "active", "admin", ⟨tokenDay, ⟨49500000000, by decide⟩⟩, none, none⟩
private def tokenTable (config : Json) : Database :=
  { tenants := [tokenTenant config], practitioners := [tokenPractitioner], links := [tokenRow],
    clock := ⟨⟨tokenDay, ⟨49500000000, by decide⟩⟩, 0⟩ }

/-- With an empty settings document, the link resolves as `ResolveOutcome` says. -/
theorem object_settings_link_outcome :
    ((tokenTable (.obj [])).links.map (·.token)).Nodup ∧
      (tokenTable (.obj [])).clock.base.shift (((tokenTable (.obj [])).clock.reads + 1 : Nat) : Int) =
        .ok ⟨tokenDay, ⟨49500000001, by decide⟩⟩ ∧
      (tokenTable (.obj [])).clock.base.shift (((tokenTable (.obj [])).clock.reads + 2 : Nat) : Int) =
        .ok ⟨tokenDay, ⟨49500000002, by decide⟩⟩ ∧
      ResolveOutcome (tokenTable (.obj [])) tokenText ⟨tokenDay, ⟨49500000001, by decide⟩⟩
        ⟨tokenDay, ⟨49500000002, by decide⟩⟩ :=
  ⟨by decide, rfl, rfl, resolve_outcome tokenText (by decide) rfl rfl⟩

/-- A token that leads somewhere, for a tenant whose settings document is a list, is not
resolved: reading the settings fails. -/
theorem listed_settings_fail_link_resolution :
    Leads (tokenTable (.arr [.int 1])) (strip tokenText) ⟨tokenDay, ⟨49500000001, by decide⟩⟩
        tokenRow (tokenTenant (.arr [.int 1])) tokenPractitioner none ∧
      ∃ db', (resolve tokenText).run (tokenTable (.arr [.int 1])) =
        .error (.notAnObject "list") db' :=
  ⟨⟨by decide, List.mem_singleton_self _, by decide, rfl, fun _ he => (by cases he), rfl, .inl rfl,
    rfl, rfl, rfl, fun _ hs => (by cases hs)⟩, _, rfl⟩

end Link

end SalonBooking
