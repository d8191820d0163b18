import SalonBooking.Zone.Convert

/-!
Offsets that change at listed instants. A list of changes, each a UTC second and the
offset in force from it on, together with the offset in force before the first, gives
the offset at every UTC second. Placing each change at its UTC second plus the larger of
the offsets around it gives the offset taken for every wall-clock second: of two
readings of one wall-clock time the first is taken, and a skipped time keeps the offset
before the change.

A wall-clock second reads back to a UTC second through the offset taken for it, and is
accepted when the offset in force there is that offset. When no change comes sooner
after a change forward than the wall-clock time that change skips, reading back is
strictly increasing over the accepted seconds. When the changes come in order, and so do
the wall-clock seconds from which their offsets are read, every wall-clock second that some
UTC second reads is accepted, and reads back to the earliest such UTC second.
-/

namespace SalonBooking.Zone

namespace Changes

/-- The offset in force at second `t`: that of the last change at or before `t`, or `b`
before the first. -/
def offsetAt (b : Int) : List (Int × Int) → Int → Int
  | [], _ => b
  | (c, p) :: cs, t => if c ≤ t then offsetAt p cs t else b

/-- The offset in force after every change. -/
def lastOffset (b : Int) : List (Int × Int) → Int
  | [] => b
  | (_, p) :: cs => lastOffset p cs

/-- The wall-clock places of the changes: each change's UTC second plus the larger of the
offsets before and after it. -/
def wallPlaces (b : Int) : List (Int × Int) → List (Int × Int)
  | [] => []
  | (c, p) :: cs => (c + max b p, p) :: wallPlaces p cs

/-- No change comes sooner after a change forward than the wall-clock time it skips. -/
def spaced : Int → List (Int × Int) → Bool
  | _, [] => true
  | _, [_] => true
  | b, (c, p) :: (c', p') :: cs => decide (c + (p - b) ≤ c') && spaced p ((c', p') :: cs)

/-- The UTC second that wall-clock second `w` reads back to. -/
def readBack (b : Int) (cs : List (Int × Int)) (w : Int) : Int :=
  w - offsetAt b (wallPlaces b cs) w

/-- Wall-clock second `w` is accepted when the offset in force at the second it reads
back to is the offset taken for it. -/
def Accepted (b : Int) (cs : List (Int × Int)) (w : Int) : Prop :=
  offsetAt b cs (readBack b cs w) = offsetAt b (wallPlaces b cs) w

variable {b c p t w : Int} {cs ds : List (Int × Int)}

theorem offsetAt_cons_of_le (h : c ≤ t) : offsetAt b ((c, p) :: cs) t = offsetAt p cs t := by
  rw [offsetAt, if_pos h]

theorem offsetAt_cons_of_lt (h : t < c) : offsetAt b ((c, p) :: cs) t = b := by
  rw [offsetAt, if_neg (by omega)]

/-- Before every change the offset is the one before them. -/
theorem offsetAt_of_lt (h : ∀ x ∈ cs, t < x.1) : offsetAt b cs t = b := by
  cases cs with
  | nil => rfl
  | cons x cs => exact offsetAt_cons_of_lt (h x List.mem_cons_self)

/-- After every change the offset is the last one. -/
theorem offsetAt_of_le (h : ∀ x ∈ cs, x.1 ≤ t) : offsetAt b cs t = lastOffset b cs := by
  induction cs generalizing b with
  | nil => rfl
  | cons x cs ih =>
    rw [offsetAt, if_pos (h x List.mem_cons_self), ih fun y hy => h y (List.mem_cons_of_mem x hy)]
    rfl

/-- Changes that all come later do not count. -/
theorem offsetAt_append_of_lt (h : ∀ x ∈ ds, t < x.1) :
    offsetAt b (cs ++ ds) t = offsetAt b cs t := by
  induction cs generalizing b with
  | nil => exact offsetAt_of_lt h
  | cons x cs ih =>
    simp only [List.cons_append, offsetAt]
    split
    · exact ih
    · rfl

/-- Changes that all came before count only through the offset they leave. -/
theorem offsetAt_append_of_le (h : ∀ x ∈ cs, x.1 ≤ t) :
    offsetAt b (cs ++ ds) t = offsetAt (lastOffset b cs) ds t := by
  induction cs generalizing b with
  | nil => rfl
  | cons x cs ih =>
    rw [List.cons_append, offsetAt, if_pos (h x List.mem_cons_self),
      ih fun y hy => h y (List.mem_cons_of_mem x hy)]
    rfl

theorem wallPlaces_append : wallPlaces b (cs ++ ds) = wallPlaces b cs ++ wallPlaces (lastOffset b cs) ds := by
  induction cs generalizing b with
  | nil => rfl
  | cons x cs ih =>
    obtain ⟨c, p⟩ := x
    simp only [List.cons_append, wallPlaces, ih]
    rfl

theorem lastOffset_wallPlaces : lastOffset b (wallPlaces b cs) = lastOffset b cs := by
  induction cs generalizing b with
  | nil => rfl
  | cons x cs ih => exact ih

theorem spaced_take_one : spaced b (cs.take 1) = true := by
  cases cs <;> rfl

/-- The spacing of a joined list: that of the first list with the first change of the
second, and that of the second. -/
theorem spaced_append :
    spaced b (cs ++ ds) = (spaced b (cs ++ ds.take 1) && spaced (lastOffset b cs) ds) := by
  induction cs generalizing b with
  | nil => simp only [List.nil_append, spaced_take_one, Bool.true_and, lastOffset]
  | cons x cs ih =>
    obtain ⟨c, p⟩ := x
    cases cs with
    | nil =>
      cases ds with
      | nil => rfl
      | cons y ds =>
        obtain ⟨c', p'⟩ := y
        simp only [List.cons_append, List.nil_append, List.take_succ_cons, List.take_zero, spaced,
          Bool.and_true, lastOffset]
    | cons y cs =>
      obtain ⟨c', p'⟩ := y
      simp only [List.cons_append, spaced, lastOffset]
      rw [← List.cons_append, ih, ← List.cons_append, Bool.and_assoc]
      rfl

theorem spaced_of_append (h : spaced b (cs ++ ds) = true) : spaced b cs = true := by
  induction cs generalizing b with
  | nil => rfl
  | cons x cs ih =>
    obtain ⟨c, p⟩ := x
    cases cs with
    | nil => rfl
    | cons y cs =>
      obtain ⟨c', p'⟩ := y
      simp only [List.cons_append, spaced, Bool.and_eq_true] at h ⊢
      exact ⟨h.1, ih h.2⟩

theorem spaced_tail (h : spaced b ((c, p) :: cs) = true) : spaced p cs = true := by
  cases cs with
  | nil => rfl
  | cons y cs =>
    simp only [spaced, Bool.and_eq_true] at h
    exact h.2

/-- Right after a change forward, for as long as the wall-clock time it skips, the
offset is the one it sets. -/
theorem offsetAt_of_spaced (h : spaced b ((c, p) :: cs) = true) (hu : t < c + (p - b)) :
    offsetAt p cs t = p := by
  cases cs with
  | nil => rfl
  | cons y cs =>
    obtain ⟨c', p'⟩ := y
    simp only [spaced, Bool.and_eq_true, decide_eq_true_eq] at h
    exact offsetAt_cons_of_lt (by omega)

theorem readBack_cons_of_le (h : c + max b p ≤ w) : readBack b ((c, p) :: cs) w = readBack p cs w := by
  simp only [readBack, wallPlaces]
  rw [offsetAt_cons_of_le h]

theorem readBack_cons_of_lt (h : w < c + max b p) : readBack b ((c, p) :: cs) w = w - b := by
  simp only [readBack, wallPlaces]
  rw [offsetAt_cons_of_lt h]

/-- An accepted second at or after the wall-clock place of the first change reads back
to a second at or after the change, and is accepted by the later changes. -/
theorem Accepted.tail (h : Accepted b ((c, p) :: cs) w) (hw : c + max b p ≤ w) :
    c ≤ readBack p cs w ∧ Accepted p cs w := by
  unfold Accepted at h
  rw [readBack_cons_of_le hw] at h
  simp only [wallPlaces] at h
  rw [offsetAt_cons_of_le hw] at h
  -- reading back before the change would take the offset before it, and land after it
  have hc : c ≤ readBack p cs w := by
    refine Int.not_lt.mp fun hlt => ?_
    rw [offsetAt_cons_of_lt hlt] at h
    unfold readBack at hlt
    omega
  refine ⟨hc, ?_⟩
  unfold Accepted
  rwa [offsetAt_cons_of_le hc] at h

/-- Reading back is strictly increasing over the accepted seconds of a spaced list. -/
theorem readBack_lt (hs : spaced b cs = true) (hw : w₁ < w₂) (h₁ : Accepted b cs w₁)
    (h₂ : Accepted b cs w₂) : readBack b cs w₁ < readBack b cs w₂ := by
  induction cs generalizing b with
  | nil =>
    simp only [readBack, wallPlaces, offsetAt]
    omega
  | cons x cs ih =>
    obtain ⟨c, p⟩ := x
    by_cases hw₁ : c + max b p ≤ w₁
    · -- both seconds are placed after the first change
      rw [readBack_cons_of_le hw₁, readBack_cons_of_le (by omega)]
      exact ih (spaced_tail hs) (h₁.tail hw₁).2 (h₂.tail (by omega)).2
    by_cases hw₂ : c + max b p ≤ w₂
    · -- the first reads back before the change, the second at or after it
      have hc := (h₂.tail hw₂).1
      rw [readBack_cons_of_lt (by omega), readBack_cons_of_le hw₂]
      refine Int.not_le.mp fun hge => ?_
      -- the first would then read back into the change's skipped time, where the offset
      -- is the new one
      have hu : c ≤ w₁ - b := by omega
      have hp : w₁ - b < c + (p - b) := by omega
      have hwall : offsetAt b (wallPlaces b ((c, p) :: cs)) w₁ = b := offsetAt_cons_of_lt (by omega)
      unfold Accepted at h₁
      rw [readBack_cons_of_lt (by omega), hwall, offsetAt_cons_of_le hu,
        offsetAt_of_spaced hs hp] at h₁
      omega
    · -- both seconds are placed before the first change
      rw [readBack_cons_of_lt (by omega), readBack_cons_of_lt (by omega)]
      omega

/-- The changes come in time order, and so do the wall-clock seconds at which the offsets
they set start to be read. -/
def ascending : List (Int × Int) → Bool
  | [] => true
  | [_] => true
  | (c, p) :: (c', p') :: cs => decide (c ≤ c') && decide (c + p ≤ c' + p') && ascending ((c', p') :: cs)

theorem ascending_take_one : ascending (cs.take 1) = true := by
  cases cs <;> rfl

theorem ascending_tail (h : ascending ((c, p) :: cs) = true) : ascending cs = true := by
  cases cs with
  | nil => rfl
  | cons y cs =>
    simp only [ascending, Bool.and_eq_true] at h
    exact h.2

/-- Whether a joined list ascends: the first list with the first change of the second, and
the second. -/
theorem ascending_append : ascending (cs ++ ds) = (ascending (cs ++ ds.take 1) && ascending ds) := by
  induction cs with
  | nil => simp only [List.nil_append, ascending_take_one, Bool.true_and]
  | cons x cs ih =>
    cases cs with
    | nil =>
      cases ds with
      | nil => rfl
      | cons y ds =>
        simp only [List.cons_append, List.nil_append, List.take_succ_cons, List.take_zero, ascending,
          Bool.and_true]
    | cons y cs =>
      obtain ⟨c, p⟩ := x
      obtain ⟨c', p'⟩ := y
      simp only [List.cons_append, ascending] at ih ⊢
      rw [ih]
      simp only [Bool.and_assoc]

theorem ascending_of_append (h : ascending (cs ++ ds) = true) : ascending cs = true := by
  induction cs with
  | nil => rfl
  | cons x cs ih =>
    cases cs with
    | nil => rfl
    | cons y cs =>
      simp only [List.cons_append, ascending, Bool.and_eq_true] at h ⊢
      exact ⟨h.1, ih h.2⟩

/-- The changes after the first of an ascending list come no earlier than it. -/
theorem le_of_mem_ascending (h : ascending ((c, p) :: cs) = true) : ∀ x ∈ cs, c ≤ x.1 := by
  induction cs generalizing c p with
  | nil => simp
  | cons y cs ih =>
    obtain ⟨c', p'⟩ := y
    simp only [ascending, Bool.and_eq_true, decide_eq_true_eq] at h
    intro x hx
    rcases List.mem_cons.mp hx with rfl | hx
    · exact h.1.1
    · have := ih h.2 x hx
      omega

/-- The changes of an ascending list come no later than its last. -/
theorem le_getLast_of_ascending {x l : Int × Int} (h : ascending cs = true) (hx : x ∈ cs)
    (hl : cs.getLast? = some l) : x.1 ≤ l.1 := by
  induction cs with
  | nil => cases hx
  | cons y cs ih =>
    cases cs with
    | nil =>
      obtain rfl := List.mem_singleton.mp hx
      obtain rfl := Option.some.inj (List.getLast?_singleton.symm.trans hl)
      exact Int.le_refl _
    | cons y' cs =>
      rw [List.getLast?_cons_cons] at hl
      have hy : y.1 ≤ l.1 := le_of_mem_ascending h l (List.mem_of_getLast? hl)
      rcases List.mem_cons.mp hx with rfl | hx
      · exact hy
      · exact ih (ascending_tail h) hx hl

/-- From the first change of an ascending list on, every second reads at or after the
wall-clock second from which that change's offset is read. -/
theorem start_le_reading (h : ascending ((c, p) :: cs) = true) (ht : c ≤ t) :
    c + p ≤ t + offsetAt p cs t := by
  induction cs generalizing c p with
  | nil =>
    simp only [offsetAt]
    omega
  | cons y cs ih =>
    obtain ⟨c', p'⟩ := y
    simp only [ascending, Bool.and_eq_true, decide_eq_true_eq] at h
    by_cases ht' : c' ≤ t
    · rw [offsetAt_cons_of_le ht']
      have := ih h.2 ht'
      omega
    · rw [offsetAt_cons_of_lt (by omega)]
      omega

/-- In an ascending list, a wall-clock second that some UTC second reads is accepted, and
it reads back to the earliest UTC second that reads it. -/
theorem readBack_least {u : Int} (h : ascending cs = true) (hu : u + offsetAt b cs u = w) :
    Accepted b cs w ∧ readBack b cs w ≤ u := by
  induction cs generalizing b with
  | nil =>
    simp only [offsetAt] at hu
    refine ⟨rfl, ?_⟩
    simp only [readBack, wallPlaces, offsetAt]
    omega
  | cons x cs ih =>
    obtain ⟨c, p⟩ := x
    by_cases hc : c ≤ u
    · rw [offsetAt_cons_of_le hc] at hu
      have hstart : c + p ≤ w := hu ▸ start_le_reading h hc
      by_cases hw : c + max b p ≤ w
      · -- placed after the first change: the later changes decide, and the second it reads
        -- back to comes at or after the change
        obtain ⟨hacc, hle⟩ := ih (ascending_tail h) hu
        have hback : c ≤ readBack p cs w := by
          refine Int.not_lt.mp fun hlt => ?_
          have hp : offsetAt p cs (readBack p cs w) = p :=
            offsetAt_of_lt fun x hx => by have := le_of_mem_ascending h x hx; omega
          have hg : offsetAt p (wallPlaces p cs) w = p := hacc.symm.trans hp
          unfold readBack at hlt
          rw [hg] at hlt
          omega
        refine ⟨?_, by rw [readBack_cons_of_le hw]; exact hle⟩
        unfold Accepted
        rw [readBack_cons_of_le hw, offsetAt_cons_of_le hback]
        simp only [wallPlaces]
        rw [offsetAt_cons_of_le hw]
        exact hacc
      · -- placed before it: the reading lies in the time that a change back repeats, and the
        -- first of its seconds comes before the change
        have hb : w < c + b := by omega
        refine ⟨?_, ?_⟩
        · unfold Accepted
          rw [readBack_cons_of_lt (by omega), offsetAt_cons_of_lt (by omega)]
          simp only [wallPlaces]
          rw [offsetAt_cons_of_lt (by omega)]
        · rw [readBack_cons_of_lt (by omega)]
          omega
    · -- the second comes before the first change, where the offset is the one before it
      rw [offsetAt_cons_of_lt (by omega)] at hu
      have hw : w < c + max b p := by omega
      refine ⟨?_, ?_⟩
      · unfold Accepted
        rw [readBack_cons_of_lt hw, offsetAt_cons_of_lt (by omega)]
        simp only [wallPlaces]
        rw [offsetAt_cons_of_lt hw]
      · rw [readBack_cons_of_lt hw]
        omega

end Changes

end SalonBooking.Zone
