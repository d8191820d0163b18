import SalonBooking.Proofs.YearlyRules
import SalonBooking.Proofs.Instants

/-!
The order of wall-clock readings. A zone is regular when its first standard type has the
offset of type 0, its listed changes come in order on both clocks, and its rule either keeps
the offset of the last listed change or goes on from it with yearly changes that come after
it. The conversions of a regular zone then follow one list of changes through the calendar:
the listed changes and the rule's changes of the years from some year to 9999. That list
is spaced, and so converting the wall clock to UTC is strictly increasing over the readings
that convert back to themselves.
-/

namespace SalonBooking.Zone

open SalonBooking.Calendar Changes

namespace ZoneData

/-- Listed places with the offsets of their types. -/
def offsets (z : ZoneData) (places : List (Int × Nat)) : List (Int × Int) :=
  places.map fun x => (x.1, (z.typeAt x.2).offset)

variable {z : ZoneData} {b t : Int} {places : List (Int × Nat)} {R : List (Int × Int)}

theorem lastAtOrBefore_offset (z : ZoneData) (t : Int) (i : Nat) (rest : List (Int × Nat)) :
    (z.typeAt (lastAtOrBefore t i rest)).offset = offsetAt (z.typeAt i).offset (z.offsets rest) t := by
  induction rest generalizing i with
  | nil => rfl
  | cons x rest ih =>
    obtain ⟨s, j⟩ := x
    simp only [lastAtOrBefore, offsets, List.map_cons, offsetAt]
    split
    · exact ih j
    · rfl

theorem offsets_wallChanges (z : ZoneData) (b : Int) (ts : List (Int × Nat)) :
    z.offsets (z.wallChanges b ts) = wallPlaces b (z.offsets ts) := by
  induction ts generalizing b with
  | nil => rfl
  | cons x ts ih =>
    obtain ⟨c, i⟩ := x
    simp only [wallChanges, offsets, List.map_cons, wallPlaces] at ih ⊢
    rw [ih]

/-- The type among listed places has the offset that the places, followed by changes all
after the last of them, set; after the last place the rule decides. -/
theorem typeAmong_offset {last : Int × Nat} (hlast : places.getLast? = some last)
    (hb : z.typeBefore.offset = b) (hle : ∀ x ∈ places, x.1 ≤ last.1) (hR : ∀ x ∈ R, last.1 < x.1)
    {byRule : Unit → LocalType}
    (hrule : last.1 < t → (byRule ()).offset = offsetAt (lastOffset b (z.offsets places)) R t) :
    (z.typeAmong places t byRule).offset = offsetAt b (z.offsets places ++ R) t := by
  cases places with
  | nil => cases hlast
  | cons p rest =>
    obtain ⟨first, i⟩ := p
    dsimp only [typeAmong]
    by_cases hfirst : t < first
    · rw [if_pos hfirst, hb]
      exact (offsetAt_cons_of_lt hfirst).symm
    rw [if_neg hfirst, hlast]
    dsimp only
    by_cases hafter : t > last.1
    · -- every listed place came before
      rw [if_pos hafter, hrule hafter, offsetAt_append_of_le]
      intro x hx
      simp only [offsets, List.mem_map] at hx
      obtain ⟨y, hy, rfl⟩ := hx
      have := hle y hy
      dsimp only
      omega
    · -- every later change comes after
      rw [if_neg hafter, offsetAt_append_of_lt fun x hx => by have := hR x hx; omega]
      simp only [offsets, List.map_cons, offsetAt, if_pos (show first ≤ t by omega)]
      exact lastAtOrBefore_offset z t i rest

theorem lastOffset_offsets {l : List (Int × Nat)} {x : Int × Nat} (h : l.getLast? = some x) :
    lastOffset b (z.offsets l) = (z.typeAt x.2).offset := by
  induction l generalizing b with
  | nil => cases h
  | cons a l ih =>
    cases l with
    | nil =>
      obtain rfl := Option.some.inj (List.getLast?_singleton.symm.trans h)
      rfl
    | cons a' l =>
      rw [List.getLast?_cons_cons] at h
      rw [show z.offsets (a :: a' :: l) = (a.1, (z.typeAt a.2).offset) :: z.offsets (a' :: l) from rfl,
        lastOffset]
      exact ih h

/-- The offsets of a zone through the calendar, from offset `b`: the changes `cs` give the
zone's offset at every second of the years 1 to 9999 on both clocks, and no change comes
sooner after a change forward than the time it skips. -/
structure Follows (z : ZoneData) (b : Int) (cs : List (Int × Int)) : Prop where
  utc : ∀ y t, 1 ≤ y → y ≤ 9999 → yearStart y ≤ t → t < yearStart (y + 1) →
    (z.typeAtUtc t y).offset = offsetAt b cs t
  wall : ∀ y t, 1 ≤ y → y ≤ 9999 → yearStart y ≤ t → t < yearStart (y + 1) →
    (z.typeAtWall t y).offset = offsetAt b (wallPlaces b cs) t
  spacing : spaced b cs = true

end ZoneData

namespace Rule

variable {r : Rule} {σ st t : Int} {y₀ first y : Nat}

/-- Changes from year `first` on come after `last` when those of year `first` do and `last`
is before the year after. -/
theorem changesFrom_after (hin : r.Inside σ) (hfirst : 1 ≤ first) {last : Int}
    (hyear : ∀ x ∈ r.yearChanges σ first, last < x.1) (hnext : last < yearStart (first + 1)) {n : Nat} :
    ∀ x ∈ r.changesFrom σ first n, last < x.1 := by
  intro x hx
  cases n with
  | zero => cases hx
  | succ n =>
    rw [changesFrom, List.mem_append] at hx
    rcases hx with hx | hx
    · exact hyear x hx
    · have := (mem_changesFrom hin (by omega) hx).1
      omega

/-- After a last listed change at `last`, the rule's changes of a year are those of the run
from year `first` on: the years between had all their changes at or before `last`. -/
theorem offsetAt_after (hY : r.Yearly st) (hin : r.Inside σ) {last : Int} (hy₀ : 1 ≤ y₀)
    (hy₀f : y₀ ≤ first) (hfirst : first ≤ 9999) (hstart : yearStart y₀ ≤ last)
    (hgap : ∀ y, y₀ ≤ y → y < first → ∀ x ∈ r.yearChanges σ y, x.1 ≤ last)
    (hlt : last < t) (hy : 1 ≤ y) (hy9 : y ≤ 9999) (ht₁ : yearStart y ≤ t) (ht₂ : t < yearStart (y + 1)) :
    offsetAt st (r.yearChanges σ y) t = offsetAt st (r.changesFrom σ first (10000 - first)) t := by
  by_cases hfy : first ≤ y
  · exact (offsetAt_changesFrom hin hY.start (by omega) hfy (by omega) ht₁ ht₂).symm
  · -- a year between: its changes all came before, and the run's all come after
    have hy₀y : y₀ ≤ y := by
      refine Nat.le_of_not_lt fun hlt' => ?_
      have := yearStart_mono (by omega : 1 ≤ y + 1) (show y + 1 ≤ y₀ by omega)
      omega
    have hlast := r.lastOffset_yearChanges σ y
    rw [hY.start y hy] at hlast
    rw [offsetAt_of_le fun x hx => by have := hgap y hy₀y (by omega) x hx; omega, hlast]
    refine (offsetAt_of_lt fun x hx => ?_).symm
    have := (mem_changesFrom hin (by omega) hx).1
    have := yearStart_mono (by omega : 1 ≤ y + 1) (show y + 1 ≤ first by omega)
    omega

end Rule

/-- The year of the date that second `t` falls on. -/
def yearOfSecond (t : Int) : Nat := (Date.civil (t / 86400 + epochDayNumber).toNat).1

/-- The first year whose changes all come after second `last`, of the two years after `y₀`. -/
def Rule.firstYearAfter (r : Rule) (last : Int) (y₀ : Nat) : Nat :=
  if (r.yearChanges 0 (y₀ + 1)).all (last < ·.1) then y₀ + 1 else y₀ + 2

namespace ZoneData

/-- A zone whose conversions follow its changes: its first standard type has the offset of
type 0, its listed changes come in order on both clocks, and its rule either keeps the
offset of the last listed change, or starts each year at that offset with changes that come
after the last listed change from some year on and at or before it in the years between. -/
def regular (z : ZoneData) : Bool :=
  let b := (z.typeAt 0).offset
  let L := z.offsets z.transitions
  z.typeBefore.offset == b &&
  match z.transitions.getLast?, z.wallBoundaries.getLast? with
  | none, _ => z.rule.steadyOffset? == some b
  | some (tn, i), some (bn, _) =>
    z.transitions.all (·.1 ≤ tn) && z.wallBoundaries.all (·.1 ≤ bn) &&
    match z.rule.steadyOffset?, z.rule.yearlyStart? with
    | some v, _ => (z.typeAt i).offset == v && spaced b L
    | none, some st =>
      let y₀ := yearOfSecond tn - 1
      let first := z.rule.firstYearAfter tn y₀
      (z.typeAt i).offset == st && decide (1 ≤ y₀) && decide (y₀ ≤ first) && decide (first ≤ 9999) &&
        decide (yearStart y₀ ≤ tn) && decide (yearStart y₀ ≤ bn) &&
        decide (tn < yearStart (first + 1)) && decide (bn < yearStart (first + 1)) &&
        (z.rule.yearChanges 0 first).all (tn < ·.1) &&
        (z.rule.yearChanges z.rule.high first).all (bn < ·.1) &&
        (List.range' y₀ (first - y₀)).all (fun y => (z.rule.yearChanges 0 y).all (·.1 ≤ tn) &&
          (z.rule.yearChanges z.rule.high y).all (·.1 ≤ bn)) &&
        spaced b (L ++ (z.rule.yearChanges 0 first).take 1)
    | none, none => false
  | _, _ => false

/-- The changes a rule adds after the listed ones: for a rule that does not keep one offset,
those of every year from the first whose changes all come after the last listed change, up
to 9999. -/
def ruleChanges (z : ZoneData) : List (Int × Int) :=
  match z.transitions.getLast?, z.rule.steadyOffset? with
  | some (tn, _), none =>
    let first := z.rule.firstYearAfter tn (yearOfSecond tn - 1)
    z.rule.changesFrom 0 first (10000 - first)
  | _, _ => []

/-- The changes of a zone: the listed ones, then the rule's. -/
def changes (z : ZoneData) : List (Int × Int) := z.offsets z.transitions ++ z.ruleChanges

variable {z : ZoneData}

/-- A zone without listed changes follows a rule that keeps the offset of type 0. -/
theorem follows_of_unlisted (hnil : z.transitions = []) (hv : z.rule.Steady (z.typeAt 0).offset) :
    z.Follows (z.typeAt 0).offset [] := by
  have hwall : z.wallBoundaries = [] := by simp [wallBoundaries, hnil, wallChanges]
  refine ⟨fun y t hy _ ht₁ ht₂ => ?_, fun y t hy _ ht₁ ht₂ => ?_, rfl⟩
  · simp only [typeAtUtc, hnil, typeAmong]
    exact hv.utc y t hy ht₁ ht₂
  · simp only [typeAtWall, hwall, typeAmong]
    exact hv.wall y t hy ht₁ ht₂

/-- A zone whose listed changes come in order on both clocks follows them continued by
`R`, when `R` comes after the last listed change on both clocks, the rule agrees with the
continued changes after the last listed change, and the whole is spaced. -/
theorem follows_of_listed {tn bn : Int} {i i' : Nat} {R : List (Int × Int)}
    (hb : z.typeBefore.offset = (z.typeAt 0).offset)
    (hlast : z.transitions.getLast? = some (tn, i)) (hwlast : z.wallBoundaries.getLast? = some (bn, i'))
    (hle : ∀ x ∈ z.transitions, x.1 ≤ tn) (hwle : ∀ x ∈ z.wallBoundaries, x.1 ≤ bn)
    (hR : ∀ x ∈ R, tn < x.1) (hRw : ∀ x ∈ wallPlaces (z.typeAt i).offset R, bn < x.1)
    (hU : ∀ y t, 1 ≤ y → y ≤ 9999 → yearStart y ≤ t → t < yearStart (y + 1) → tn < t →
      (z.rule.atUtc t y).offset = offsetAt (z.typeAt i).offset R t)
    (hW : ∀ y t, 1 ≤ y → y ≤ 9999 → yearStart y ≤ t → t < yearStart (y + 1) → bn < t →
      (z.rule.atLocal t y).offset = offsetAt (z.typeAt i).offset (wallPlaces (z.typeAt i).offset R) t)
    (hS : spaced (z.typeAt 0).offset (z.offsets z.transitions ++ R) = true) :
    z.Follows (z.typeAt 0).offset (z.offsets z.transitions ++ R) := by
  have hoff : lastOffset (z.typeAt 0).offset (z.offsets z.transitions) = (z.typeAt i).offset :=
    lastOffset_offsets hlast
  have hwall : z.offsets z.wallBoundaries =
      wallPlaces (z.typeAt 0).offset (z.offsets z.transitions) := offsets_wallChanges _ _ _
  refine ⟨fun y t hy hy9 ht₁ ht₂ => ?_, fun y t hy hy9 ht₁ ht₂ => ?_, hS⟩
  · refine typeAmong_offset hlast hb hle hR fun hlt => ?_
    rw [hoff]
    exact hU y t hy hy9 ht₁ ht₂ hlt
  · rw [wallPlaces_append, ← hwall, hoff]
    refine typeAmong_offset hwlast hb hwle hRw fun hlt => ?_
    rw [hwall, lastOffset_wallPlaces, hoff]
    exact hW y t hy hy9 ht₁ ht₂ hlt

/-- A regular zone's conversions follow its changes from the offset of type 0. -/
theorem follows_changes (h : z.regular = true) : z.Follows (z.typeAt 0).offset z.changes := by
  unfold regular at h
  simp only [Bool.and_eq_true, beq_iff_eq] at h
  obtain ⟨hb, h⟩ := h
  split at h
  · next hnil =>
    -- no listed change: the rule keeps the offset of type 0
    have hnil' := List.getLast?_eq_none_iff.mp hnil
    have hc : z.changes = [] := by simp [changes, ruleChanges, hnil', offsets]
    rw [hc]
    exact follows_of_unlisted hnil' (Rule.steady_of_steadyOffset? (by simpa using h))
  · next tn i bn i' hlast hwlast =>
    simp only [Bool.and_eq_true, List.all_eq_true, decide_eq_true_eq] at h
    obtain ⟨⟨hle, hwle⟩, h⟩ := h
    split at h
    · next v _ hv =>
      -- the rule keeps the offset of the last listed change
      simp only [Bool.and_eq_true, beq_iff_eq] at h
      obtain ⟨hvi, hS⟩ := h
      have hsteady := Rule.steady_of_steadyOffset? hv
      have hc : z.changes = z.offsets z.transitions ++ [] := by
        simp only [changes, ruleChanges, hlast, hv]
      rw [hc]
      refine follows_of_listed hb hlast hwlast hle hwle
        (by simp) (by simp [wallPlaces]) ?_ ?_ (by simpa using hS)
      · intro y t hy _ ht₁ ht₂ _
        rw [hsteady.utc y t hy ht₁ ht₂, hvi]
        rfl
      · intro y t hy _ ht₁ ht₂ _
        rw [hsteady.wall y t hy ht₁ ht₂, hvi]
        rfl
    · next st hsteady hst =>
      -- the rule changes every year from `first` on
      have hY := Rule.yearly_of_yearlyStart? hst
      have hc : z.changes = z.offsets z.transitions ++ z.rule.changesFrom 0
          (z.rule.firstYearAfter tn (yearOfSecond tn - 1))
          (10000 - z.rule.firstYearAfter tn (yearOfSecond tn - 1)) := by
        simp only [changes, ruleChanges, hlast, hsteady]
      rw [hc]
      generalize yearOfSecond tn - 1 = y₀ at h ⊢
      generalize z.rule.firstYearAfter tn (y₀) = first at h ⊢
      simp only [Bool.and_eq_true, beq_iff_eq, decide_eq_true_eq, List.all_eq_true,
        List.mem_range'_1] at h
      obtain ⟨⟨⟨⟨⟨⟨⟨⟨⟨⟨⟨hsti, hy₀⟩, hy₀f⟩, hf9⟩, hs₀⟩, hw₀⟩, hs₁⟩, hw₁⟩, hyc⟩, hwc⟩, hgap⟩, hS⟩ := h
      -- a rule with yearly changes is seasonal
      obtain ⟨std, dst, sb, eb, hr⟩ : ∃ std dst sb eb, z.rule = .seasonal std dst sb eb := by
        cases hr : z.rule with
        | fixed std => rw [hr] at hsteady; cases hsteady
        | seasonal std dst sb eb => exact ⟨std, dst, sb, eb, rfl⟩
      have hwallR : wallPlaces st (z.rule.changesFrom 0 first (10000 - first)) =
          z.rule.changesFrom z.rule.high first (10000 - first) :=
        Rule.wallPlaces_changesFrom hY.start (by omega)
      refine follows_of_listed hb hlast hwlast hle hwle ?_ ?_ ?_ ?_ ?_
      · exact Rule.changesFrom_after hY.utc (by omega) hyc hs₁
      · rw [hsti, hwallR]
        exact Rule.changesFrom_after hY.wall (by omega) hwc hw₁
      · intro y t hy hy9 ht₁ ht₂ hlt
        rw [Rule.atUtc_offset, hY.start y hy, hsti]
        exact Rule.offsetAt_after hY hY.utc hy₀ hy₀f hf9 hs₀
          (fun y' h₁ h₂ x hx => (hgap y' ⟨h₁, by omega⟩).1 x hx) hlt hy hy9 ht₁ ht₂
      · intro y t hy hy9 ht₁ ht₂ hlt
        rw [Rule.atLocal_offset, hY.start y hy, hsti, hwallR]
        exact Rule.offsetAt_after hY hY.wall hy₀ hy₀f hf9 hw₀
          (fun y' h₁ h₂ x hx => (hgap y' ⟨h₁, by omega⟩).2 x hx) hlt hy hy9 ht₁ ht₂
      · -- the listed changes with the rule's first, then the rule's own spacing
        rw [spaced_append, Bool.and_eq_true, lastOffset_offsets hlast, hsti]
        refine ⟨?_, hY.spaced_changesFrom (by omega)⟩
        rw [show 10000 - first = (10000 - first - 1) + 1 by omega, Rule.changesFrom, hr,
          List.take_append_of_le_length (by rw [Rule.length_yearChanges_seasonal]; omega)]
        rw [hr] at hS
        exact hS
    · cases h
  · cases h

/-- A date-time's whole seconds, times a million, come at most a second before its count. -/
theorem epochSeconds_spec (x : DateTime) :
    x.epochSeconds * 1000000 ≤ x.toMicros ∧ x.toMicros < x.epochSeconds * 1000000 + 1000000 := by
  simp only [DateTime.epochSeconds, microsPerSecond]
  omega

namespace Follows

variable {b : Int} {cs : List (Int × Int)}

/-- A reading that converts to an instant which converts back to it is accepted at its
second, and its instant is the reading less the offset taken for that second. -/
theorem accepted (hz : z.Follows b cs) {w u : DateTime} (h : z.toUtc w = .ok u)
    (h' : z.ofUtc u = .ok w) :
    Accepted b cs w.epochSeconds ∧
      u.toMicros = w.toMicros - offsetAt b (wallPlaces b cs) w.epochSeconds * 1000000 := by
  have hw := epochSeconds_mem_year w
  have hu := epochSeconds_mem_year u
  have hq := hz.wall w.year w.epochSeconds w.date.year_mem.1 w.date.year_mem.2 hw.1 hw.2
  have hq' := hz.utc u.year u.epochSeconds u.date.year_mem.1 u.date.year_mem.2 hu.1 hu.2
  unfold toUtc at h
  unfold ofUtc at h'
  rw [DateTime.shift_eq_ok_iff, hq] at h
  rw [DateTime.shift_eq_ok_iff, hq'] at h'
  simp only [microsPerSecond] at h h'
  have hsw := epochSeconds_spec w
  have hsu := epochSeconds_spec u
  -- the instant's second is the reading's second less the offset
  have hsec : u.epochSeconds = readBack b cs w.epochSeconds := by
    unfold readBack
    omega
  refine ⟨?_, by omega⟩
  unfold Accepted
  rw [← hsec]
  omega

/-- Converting the wall clock is strictly increasing over the readings that convert back
to themselves. -/
theorem toUtc_lt (hz : z.Follows b cs) {w₁ w₂ u₁ u₂ : DateTime} (hw : w₁ < w₂)
    (h₁ : z.toUtc w₁ = .ok u₁) (h₁' : z.ofUtc u₁ = .ok w₁)
    (h₂ : z.toUtc w₂ = .ok u₂) (h₂' : z.ofUtc u₂ = .ok w₂) : u₁ < u₂ := by
  obtain ⟨ha₁, hu₁⟩ := hz.accepted h₁ h₁'
  obtain ⟨ha₂, hu₂⟩ := hz.accepted h₂ h₂'
  show u₁.toMicros < u₂.toMicros
  change w₁.toMicros < w₂.toMicros at hw
  have hs₁ := epochSeconds_spec w₁
  have hs₂ := epochSeconds_spec w₂
  rcases Int.lt_or_eq_of_le (show w₁.epochSeconds ≤ w₂.epochSeconds by omega) with hlt | heq
  · -- readings of different seconds read back to increasing seconds
    have hback := readBack_lt hz.spacing hlt ha₁ ha₂
    unfold readBack at hback
    omega
  · -- readings of one second share its offset
    rw [hu₁, hu₂, heq]
    omega

end Follows

end ZoneData

end SalonBooking.Zone
