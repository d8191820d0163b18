import Mathlib.Data.List.Forall2
import SalonBooking.Proofs.Rescheduling

/-!
Copies of the chosen menus and options. A selection names menus and options by id, in
an order and with repeats; it is resolved against the tenant's catalog, where a menu or
an option can be chosen when it is the tenant's and active, or inactive ones are
allowed. A missing id, another tenant's and an inactive one are refused alike.

Resolution reads the catalog and changes nothing. It fails at the first menu id that
cannot be chosen, or, when every menu can, at the first such option id; otherwise it
copies one line per id asked for, in order and with its repeats, the menus numbered by
position, so the totals are sums over the ids asked for.
-/

namespace SalonBooking

open SalonBooking.Calendar Op Database Booking

namespace Database

/-- The tenant's menu `id`, if a booking may choose it: it is active, or inactive menus
are allowed. -/
def choosableMenu? (db : Database) (tenant : Uuid) (includeInactive : Bool) (id : Uuid) :
    Option Menu :=
  (db.menu? tenant id).filter fun m => m.isActive || includeInactive

/-- The tenant's option `id`, if a booking may choose it. -/
def choosableOption? (db : Database) (tenant : Uuid) (includeInactive : Bool) (id : Uuid) :
    Option MenuOption :=
  (db.option? tenant id).filter fun o => o.isActive || includeInactive

end Database

namespace Op

variable {β γ : Type}

/-- A run of lookups that each answer their row or fail without touching the database:
with every row found it answers them in order, and otherwise it fails at the first
element whose row is missing. -/
theorem wp_mapM_lookups {f : β → Op γ} (look : β → Option γ) (miss : β → Fault)
    {db : Database}
    (hf : ∀ b, wp (f b) (fun c db' => look b = some c ∧ db' = db)
      (fun e db' => look b = none ∧ e = miss b ∧ db' = db) db) (l : List β) :
    wp (l.mapM f) (fun cs db' => List.Forall₂ (fun b c => look b = some c) l cs ∧ db' = db)
      (fun e db' => ∃ b, l.find? (fun b => (look b).isNone) = some b ∧ e = miss b ∧ db' = db)
      db := by
  induction l with
  | nil => exact ⟨.nil, rfl⟩
  | cons b l ih =>
    rw [List.mapM_cons, wp_bind]
    refine wp_mono (hf b) (fun c db' ⟨hc, hdb⟩ => ?_) fun e db' ⟨hnone, he, hdb⟩ =>
      ⟨b, by simp [hnone], he, hdb⟩
    subst hdb
    rw [wp_bind]
    exact wp_mono ih (fun cs db' ⟨hcs, hdb⟩ => ⟨.cons hc hcs, hdb⟩)
      fun e db' ⟨b', hb', he, hdb⟩ => ⟨b', by simp [hc, hb'], he, hdb⟩

end Op

/-- Rows copied one for one from looked-up rows carry the looked-up rows' amounts. -/
theorem map_eq_filterMap_of_forall₂ {α β γ δ : Type} {look : α → Option β} {g : γ → δ}
    {h : β → δ} {l : List α} {cs : List γ}
    (hl : List.Forall₂ (fun a c => ∃ b, look a = some b ∧ g c = h b) l cs) :
    cs.map g = (l.filterMap look).map h := by
  induction hl with
  | nil => rfl
  | cons hac _ ih =>
    obtain ⟨b, hb, hcb⟩ := hac
    simp [hb, hcb, ih]

/-- Every element related to some copy has its row, so none is missing. -/
theorem find?_isNone_eq_none_of_forall₂ {α β γ : Type} {look : α → Option β}
    {R : α → γ → Prop} (hR : ∀ a c, R a c → (look a).isSome) {l : List α} {cs : List γ}
    (hl : List.Forall₂ R l cs) : l.find? (fun a => (look a).isNone) = none := by
  induction hl with
  | nil => rfl
  | @cons a c _ _ hac _ ih =>
    have hnone : (look a).isNone = false := by
      simpa [Option.isSome_iff_ne_none, Option.isNone_iff_eq_none] using hR _ _ hac
    rw [List.find?_cons_of_neg (by simp [hnone]), ih]

namespace Booking

/-- `line` copies the tenant's menu `id`, which a booking may choose. -/
def CopiesMenu (db : Database) (tenant : Uuid) (includeInactive : Bool) (id : Uuid)
    (line : MenuLine) : Prop :=
  ∃ m, db.choosableMenu? tenant includeInactive id = some m ∧ line.menu = id ∧
    line.name = m.name ∧ line.price = m.price ∧ line.duration = m.duration

/-- `line` copies the tenant's option `id`, which a booking may choose; a missing
duration is read as zero. -/
def CopiesOption (db : Database) (tenant : Uuid) (includeInactive : Bool) (id : Uuid)
    (line : OptionLine) : Prop :=
  ∃ o, db.choosableOption? tenant includeInactive id = some o ∧ line.option = id ∧
    line.name = o.name ∧ line.price = o.price ∧ line.duration = o.duration.getD 0

/-- What a resolved selection `s` holds: one copy per menu id asked for, in order and with
repeats, numbered by position with the first as the main one; one copy per option id
likewise; and the totals summed over the ids asked for. -/
structure Snapshot (db : Database) (tenant : Uuid) (includeInactive : Bool)
    (menus options : List Uuid) (s : Selection) : Prop where
  menuCopies : List.Forall₂ (CopiesMenu db tenant includeInactive) menus s.menus
  numbered : Numbered s.menus
  optionCopies : List.Forall₂ (CopiesOption db tenant includeInactive) options s.options
  subtotal : s.subtotal =
    sumAmounts ((menus.filterMap (db.choosableMenu? tenant includeInactive)).map (·.price))
  optionTotal : s.optionTotal =
    sumAmounts ((options.filterMap (db.choosableOption? tenant includeInactive)).map (·.price))
  duration : s.duration =
    sumAmounts ((menus.filterMap (db.choosableMenu? tenant includeInactive)).map (·.duration)) +
      sumAmounts ((options.filterMap (db.choosableOption? tenant includeInactive)).map
        fun o => o.duration.getD 0)

section Copies

variable {db : Database} {tenant : Uuid} {includeInactive : Bool}

/-- Menus that each have a copy can all be chosen. -/
theorem find?_menu_eq_none_of_copies {menus : List Uuid} {ms : List MenuLine}
    (h : List.Forall₂ (CopiesMenu db tenant includeInactive) menus ms) :
    menus.find? (fun id => (db.choosableMenu? tenant includeInactive id).isNone) = none :=
  find?_isNone_eq_none_of_forall₂ (fun _ _ ⟨m, hm, _⟩ => by simp [hm]) h

/-- Options that each have a copy can all be chosen. -/
theorem find?_option_eq_none_of_copies {options : List Uuid} {os : List OptionLine}
    (h : List.Forall₂ (CopiesOption db tenant includeInactive) options os) :
    options.find? (fun id => (db.choosableOption? tenant includeInactive id).isNone) = none :=
  find?_isNone_eq_none_of_forall₂ (fun _ _ ⟨o, ho, _⟩ => by simp [ho]) h

end Copies

/-- The chosen menus are copied in order, or the first that cannot be chosen is refused;
the catalog is left as it was. -/
theorem wp_menuLines (db : Database) (ctx : Context) (ids : List Uuid)
    (includeInactive : Bool) :
    wp (menuLines ctx ids includeInactive)
      (fun ms db' => db' = db ∧ List.Forall₂ (CopiesMenu db ctx.tenant includeInactive) ids ms ∧
        Numbered ms)
      (fun e db' => db' = db ∧
        ∃ id, ids.find? (fun id => (db.choosableMenu? ctx.tenant includeInactive id).isNone) =
          some id ∧ e = .refused (.notFound .menu (some id))) db := by
  let look : Uuid × Nat → Option MenuLine := fun p =>
    (db.choosableMenu? ctx.tenant includeInactive p.1).map
      fun m => ⟨m.id, m.name, m.price, m.duration, p.2, p.2 == 0⟩
  have hlook : wp (menuLines ctx ids includeInactive)
      (fun ms db' => List.Forall₂ (fun p c => look p = some c) ids.zipIdx ms ∧ db' = db)
      (fun e db' => ∃ p, ids.zipIdx.find? (fun p => (look p).isNone) = some p ∧
        e = .refused (.notFound .menu (some p.1)) ∧ db' = db) db := by
    simp only [menuLines, wp_bind, wp_get]
    refine wp_mapM_lookups look (fun p => .refused (.notFound .menu (some p.1))) (fun ⟨id, i⟩ => ?_) _
    simp only [look, choosableMenu?]
    cases hm : db.menu? ctx.tenant id with
    | none => simp
    | some m => cases hact : m.isActive || includeInactive <;> simp [Option.filter, hact]
  refine wp_mono (wp_and hlook (returns_menuLines_numbered ctx ids includeInactive db))
    (fun ms db' ⟨⟨hms, hdb⟩, _, hnum⟩ => ⟨hdb, ?_, hnum⟩) fun e db' ⟨⟨p, hp, he, hdb⟩, _⟩ => ⟨hdb, p.1, ?_, he⟩
  · -- the lines are read back against the ids, the first components of the numbered ids
    have hcopies : List.Forall₂ (CopiesMenu db ctx.tenant includeInactive)
        (ids.zipIdx.map Prod.fst) ms := List.forall₂_map_left_iff.mpr (hms.imp fun p c hpc => by
      obtain ⟨m, hm, rfl⟩ := Option.map_eq_some_iff.mp hpc
      exact ⟨m, hm, (find?_id (Option.filter_eq_some_iff.mp hm).1 : m.id = p.1), rfl, rfl, rfl⟩)
    rwa [List.zipIdx_map_fst] at hcopies
  · simp only [look, Option.isNone_map] at hp
    rw [← List.zipIdx_map_fst 0 ids, List.find?_map, Function.comp_def]
    simp [hp]

/-- The chosen options are copied in order, or the first that cannot be chosen is
refused; the catalog is left as it was. -/
theorem wp_optionLines (db : Database) (ctx : Context) (ids : List Uuid)
    (includeInactive : Bool) :
    wp (optionLines ctx ids includeInactive)
      (fun os db' => db' = db ∧ List.Forall₂ (CopiesOption db ctx.tenant includeInactive) ids os)
      (fun e db' => db' = db ∧
        ∃ id, ids.find? (fun id => (db.choosableOption? ctx.tenant includeInactive id).isNone) =
          some id ∧ e = .refused (.notFound .menuOption (some id))) db := by
  let look : Uuid → Option OptionLine := fun id =>
    (db.choosableOption? ctx.tenant includeInactive id).map
      fun o => ⟨o.id, o.name, o.price, o.duration.getD 0⟩
  have hlook : wp (optionLines ctx ids includeInactive)
      (fun os db' => List.Forall₂ (fun id c => look id = some c) ids os ∧ db' = db)
      (fun e db' => ∃ id, ids.find? (fun id => (look id).isNone) = some id ∧
        e = .refused (.notFound .menuOption (some id)) ∧ db' = db) db := by
    simp only [optionLines, wp_bind, wp_get]
    refine wp_mapM_lookups look (fun id => .refused (.notFound .menuOption (some id))) (fun id => ?_) _
    simp only [look, choosableOption?]
    cases ho : db.option? ctx.tenant id with
    | none => simp
    | some o => cases hact : o.isActive || includeInactive <;> simp [Option.filter, hact]
  refine wp_mono hlook (fun os db' ⟨hos, hdb⟩ => ⟨hdb, hos.imp fun id c hc => ?_⟩)
    fun e db' ⟨id, hid, he, hdb⟩ => ⟨hdb, id, by simpa [look, Option.isNone_map] using hid, he⟩
  obtain ⟨o, ho, rfl⟩ := Option.map_eq_some_iff.mp hc
  exact ⟨o, ho, (find?_id (Option.filter_eq_some_iff.mp ho).1 : o.id = id), rfl, rfl, rfl⟩

/-- A resolution copies the chosen menus and options, or refuses the first menu that
cannot be chosen, or, every menu being choosable, the first such option; either way the
catalog is left as it was. -/
theorem wp_resolveSelection (db : Database) (ctx : Context) (menus options : List Uuid)
    (includeInactive : Bool) :
    wp (resolveSelection ctx menus options includeInactive)
      (fun s db' => db' = db ∧ Snapshot db ctx.tenant includeInactive menus options s)
      (fun e db' => db' = db ∧
        ((∃ id, menus.find? (fun id => (db.choosableMenu? ctx.tenant includeInactive id).isNone) =
            some id ∧ e = .refused (.notFound .menu (some id))) ∨
          (menus.find? (fun id => (db.choosableMenu? ctx.tenant includeInactive id).isNone) = none ∧
            ∃ id, options.find?
              (fun id => (db.choosableOption? ctx.tenant includeInactive id).isNone) = some id ∧
              e = .refused (.notFound .menuOption (some id))))) db := by
  unfold resolveSelection
  rw [wp_bind]
  refine wp_mono (wp_menuLines db ctx menus includeInactive) (fun ms db₁ ⟨hdb₁, hms, hnum⟩ => ?_)
    fun e db' ⟨hdb, hfirst⟩ => ⟨hdb, .inl hfirst⟩
  subst db₁
  rw [wp_bind]
  refine wp_mono (wp_optionLines db ctx options includeInactive)
    (fun os db' ⟨hdb, hos⟩ => ⟨hdb, ?_⟩) fun e db' ⟨hdb, hfirst⟩ =>
      ⟨hdb, .inr ⟨find?_menu_eq_none_of_copies hms, hfirst⟩⟩
  -- each total is read off the copies, one line per id asked for
  let chosenMenus := menus.filterMap (db.choosableMenu? ctx.tenant includeInactive)
  let chosenOptions := options.filterMap (db.choosableOption? ctx.tenant includeInactive)
  have hmenuPrices : ms.map (·.price) = chosenMenus.map (·.price) :=
    map_eq_filterMap_of_forall₂ (hms.imp fun _ _ ⟨m, hm, _, _, hp, _⟩ => ⟨m, hm, hp⟩)
  have hmenuDurations : ms.map (·.duration) = chosenMenus.map (·.duration) :=
    map_eq_filterMap_of_forall₂ (hms.imp fun _ _ ⟨m, hm, _, _, _, hd⟩ => ⟨m, hm, hd⟩)
  have hoptionPrices : os.map (·.price) = chosenOptions.map (·.price) :=
    map_eq_filterMap_of_forall₂ (hos.imp fun _ _ ⟨o, ho, _, _, hp, _⟩ => ⟨o, ho, hp⟩)
  have hoptionDurations : os.map (·.duration) = chosenOptions.map fun o => o.duration.getD 0 :=
    map_eq_filterMap_of_forall₂ (hos.imp fun _ _ ⟨o, ho, _, _, _, hd⟩ => ⟨o, ho, hd⟩)
  exact ⟨hms, hnum, hos, congrArg sumAmounts hmenuPrices, congrArg sumAmounts hoptionPrices,
    by rw [Selection.duration, hmenuDurations, hoptionDurations]⟩

/-- How a resolution of the menus and options asked for ends. -/
structure SelectionOutcome (db : Database) (ctx : Context) (menus options : List Uuid)
    (includeInactive : Bool) : Prop where
  /-- With every menu and option choosable, the copies are made and nothing changes. -/
  chosen : (∀ id ∈ menus, (db.choosableMenu? ctx.tenant includeInactive id).isSome) →
    (∀ id ∈ options, (db.choosableOption? ctx.tenant includeInactive id).isSome) →
    ∃ s, (resolveSelection ctx menus options includeInactive).run db = .ok s db ∧
      Snapshot db ctx.tenant includeInactive menus options s
  /-- The first menu that cannot be chosen is refused. -/
  menuRefused : ∀ id,
    menus.find? (fun id => (db.choosableMenu? ctx.tenant includeInactive id).isNone) = some id →
    (resolveSelection ctx menus options includeInactive).run db =
      .error (.refused (.notFound .menu (some id))) db
  /-- With every menu choosable, the first option that cannot be chosen is refused. -/
  optionRefused : (∀ id ∈ menus, (db.choosableMenu? ctx.tenant includeInactive id).isSome) →
    ∀ id, options.find?
      (fun id => (db.choosableOption? ctx.tenant includeInactive id).isNone) = some id →
    (resolveSelection ctx menus options includeInactive).run db =
      .error (.refused (.notFound .menuOption (some id))) db

/-- Ids that can all be chosen have no first one that cannot. -/
theorem find?_isNone_eq_none_of_isSome {α β : Type} {look : α → Option β} {l : List α}
    (h : ∀ a ∈ l, (look a).isSome) : l.find? (fun a => (look a).isNone) = none :=
  List.find?_eq_none.mpr fun a ha => by
    simpa [Option.isSome_iff_ne_none, Option.isNone_iff_eq_none] using h a ha

/-- A resolution of menus and options succeeds exactly when every id asked for can be
chosen, and then copies them; otherwise it refuses the first menu that cannot be chosen,
or, every menu being choosable, the first such option. The database is never changed. -/
theorem resolveSelection_outcome (db : Database) (ctx : Context) (menus options : List Uuid)
    (includeInactive : Bool) : SelectionOutcome db ctx menus options includeInactive := by
  have hw := wp_resolveSelection db ctx menus options includeInactive
  -- each case reads the run's one way of ending off the specification of both
  refine ⟨fun hmenus hoptions => ?_, fun id hid => ?_, fun hmenus id hid => ?_⟩
  · have hM := find?_isNone_eq_none_of_isSome hmenus
    have hO := find?_isNone_eq_none_of_isSome hoptions
    cases hrun : (resolveSelection ctx menus options includeInactive).run db with
    | ok s db' =>
      rw [wp_of_run_ok hrun] at hw
      obtain ⟨rfl, hs⟩ := hw
      exact ⟨s, rfl, hs⟩
    | error e db' =>
      rw [wp_of_run_error hrun] at hw
      rcases hw.2 with ⟨id, hid, -⟩ | ⟨-, id, hid, -⟩
      · rw [hM] at hid
        cases hid
      · rw [hO] at hid
        cases hid
  · -- a run that succeeds copies every menu, so none is the first refused
    refine run_eq_error (wp_mono hw (fun s db' h => ?_) fun e db' h => ?_)
    · rw [find?_menu_eq_none_of_copies h.2.menuCopies] at hid
      cases hid
    · obtain ⟨rfl, ⟨id', hid', rfl⟩ | ⟨hnone, -⟩⟩ := h
      · rw [hid] at hid'
        cases hid'
        exact ⟨rfl, rfl⟩
      · rw [hnone] at hid
        cases hid
  · have hM := find?_isNone_eq_none_of_isSome hmenus
    refine run_eq_error (wp_mono hw (fun s db' h => ?_) fun e db' h => ?_)
    · rw [find?_option_eq_none_of_copies h.2.optionCopies] at hid
      cases hid
    · obtain ⟨rfl, ⟨id', hid', -⟩ | ⟨-, id', hid', rfl⟩⟩ := h
      · rw [hM] at hid'
        cases hid'
      · rw [hid] at hid'
        cases hid'
        exact ⟨rfl, rfl⟩

/-- A menu asked for twice is copied twice, the first copy the main one. -/
example :
    (resolveSelection ⟨⟨1⟩, none⟩ [⟨5⟩, ⟨5⟩] [] false).run
        { menus := [⟨⟨5⟩, ⟨1⟩, "Cut", none, 4000, 60, true, none⟩],
          clock := ⟨⟨⟨epochDayNumber + 20812, by decide, by decide⟩, ⟨45900000000, by decide⟩⟩, 0⟩ } =
      .ok ⟨[⟨⟨5⟩, "Cut", 4000, 60, 0, true⟩, ⟨⟨5⟩, "Cut", 4000, 60, 1, false⟩], []⟩
        { menus := [⟨⟨5⟩, ⟨1⟩, "Cut", none, 4000, 60, true, none⟩],
          clock := ⟨⟨⟨epochDayNumber + 20812, by decide, by decide⟩, ⟨45900000000, by decide⟩⟩, 0⟩ } :=
  rfl

end Booking

end SalonBooking
