import Mathlib.Data.List.Nodup
import SalonBooking.KeyedLock

/-!
Locks by key keep their tasks apart. From the table without locks, every run of steps keeps
`Table.Inv`: the keys with a lock are the keys with a count of users, a key's count is the
number of its tasks between entering and exiting, every such task took the lock its key has
now, a lock is held exactly while a task is inside with it, and no two tasks are inside with
one lock. Hence no two tasks are ever inside for one key, and once no task is between
entering and exiting, no key keeps a lock or a count (`Table.Apart`).
-/

namespace SalonBooking.KeyedLock

namespace Table

variable {κ : Type}

/-! ## Finding and moving tasks -/

section Tasks

variable {l : List (Nat × Holder κ)} {t : Nat} {h : Holder κ}

theorem mem_of_lookup (hl : l.lookup t = some h) : (t, h) ∈ l := by
  induction l with
  | nil => cases hl
  | cons p l ih =>
    obtain ⟨u, v⟩ := p
    rw [List.lookup_cons] at hl
    cases hb : t == u
    · simp only [hb] at hl
      exact List.mem_cons_of_mem _ (ih hl)
    · simp only [hb, Option.some.injEq] at hl
      rw [beq_iff_eq.mp hb, hl]
      exact List.mem_cons_self

theorem not_mem_of_lookup (hl : l.lookup t = none) : t ∉ l.map (·.1) := by
  induction l with
  | nil => simp
  | cons p l ih =>
    obtain ⟨u, v⟩ := p
    rw [List.lookup_cons] at hl
    cases hb : t == u
    · simp only [hb] at hl
      simp only [List.map_cons, List.mem_cons, not_or]
      exact ⟨fun htu => by simp [htu] at hb, ih hl⟩
    · simp only [hb] at hl
      cases hl

theorem lookup_of_mem (hnodup : (l.map (·.1)).Nodup) (hmem : (t, h) ∈ l) : l.lookup t = some h := by
  induction l with
  | nil => cases hmem
  | cons p l ih =>
    obtain ⟨u, v⟩ := p
    rw [List.map_cons, List.nodup_cons] at hnodup
    rw [List.lookup_cons]
    rcases List.mem_cons.mp hmem with heq | hmem
    · cases heq
      simp
    · -- the number is taken once, by a task further on
      have htu : t ≠ u := fun htu => hnodup.1 (htu ▸ List.mem_map.mpr ⟨(t, h), hmem, rfl⟩)
      simp only [beq_false_of_ne htu]
      exact ih hnodup.2 hmem

/-- With numbers taken once, the task numbered `t` is the only one the number picks out. -/
theorem filter_number (hnodup : (l.map (·.1)).Nodup) (hmem : (t, h) ∈ l) :
    l.filter (fun p => !(p.1 != t)) = [(t, h)] := by
  induction l with
  | nil => cases hmem
  | cons p l ih =>
    obtain ⟨u, v⟩ := p
    rw [List.map_cons, List.nodup_cons] at hnodup
    have hrest : ∀ p ∈ l, p.1 ≠ u := fun p hp hpu => hnodup.1 (List.mem_map.mpr ⟨p, hp, hpu⟩)
    rcases List.mem_cons.mp hmem with heq | hmem
    · cases heq
      rw [List.filter_cons_of_pos (by simp), List.filter_eq_nil_iff.mpr fun p hp => by
        simpa using hrest p hp]
    · have htu : u ≠ t := fun hut => hrest (t, h) hmem hut.symm
      rw [List.filter_cons_of_neg (by simpa using htu)]
      exact ih hnodup.2 hmem

end Tasks

section Moves

variable {t : Nat}

theorem moveTo_map_fst (s : Table κ) (t : Nat) (g : Stage) :
    (s.moveTo t g).map (·.1) = s.tasks.map (·.1) := by
  simp only [moveTo, List.map_map]
  congr 1
  funext p
  simp only [Function.comp_apply]
  split <;> rfl

/-- A moved task keeps its number, key and lock; only the task moved changes stage. -/
theorem mem_moveTo {s : Table κ} {g : Stage} {u : Nat} {h' : Holder κ}
    (hmem : (u, h') ∈ s.moveTo t g) :
    ∃ h, (u, h) ∈ s.tasks ∧ h'.key = h.key ∧ h'.lock = h.lock ∧
      h'.stage = if u = t then g else h.stage := by
  obtain ⟨⟨u₀, h₀⟩, hmem₀, heq⟩ := List.mem_map.mp hmem
  dsimp only at heq
  split at heq
  · next hu =>
    cases heq
    exact ⟨h₀, hmem₀, rfl, rfl, by simp [hu]⟩
  · next hu =>
    cases heq
    exact ⟨h', hmem₀, rfl, rfl, by simp [hu]⟩

theorem mem_moveTo_of_mem {s : Table κ} (t : Nat) (g : Stage) {u : Nat} {h : Holder κ}
    (hmem : (u, h) ∈ s.tasks) :
    ∃ h', (u, h') ∈ s.moveTo t g ∧ h'.key = h.key ∧ h'.lock = h.lock ∧
      h'.stage = if u = t then g else h.stage := by
  by_cases hu : u = t
  · refine ⟨{ h with stage := g }, List.mem_map.mpr ⟨(u, h), hmem, ?_⟩, rfl, rfl, by simp [hu]⟩
    simp [hu]
  · exact ⟨h, List.mem_map.mpr ⟨(u, h), hmem, by simp [hu]⟩, rfl, rfl, by simp [hu]⟩

/-- A task inside after a move to a stage other than inside was inside before, and is not
the task moved. -/
theorem inside_of_moveTo {s : Table κ} {g : Stage} (hg : g ≠ .inside) {u : Nat} {h' : Holder κ}
    (hmem : (u, h') ∈ s.moveTo t g) (hin : h'.stage = .inside) :
    u ≠ t ∧ ∃ h, (u, h) ∈ s.tasks ∧ h.lock = h'.lock ∧ h.stage = .inside := by
  obtain ⟨h, hmem₀, -, hlock, hstage⟩ := mem_moveTo hmem
  by_cases hu : u = t
  · rw [if_pos hu] at hstage
    exact absurd (hstage.symm.trans hin) hg
  · rw [if_neg hu] at hstage
    exact ⟨hu, h, hmem₀, hlock.symm, hstage.symm.trans hin⟩

/-- A task inside other than the one moved stays inside. -/
theorem inside_moveTo_of_ne {s : Table κ} (g : Stage) {u : Nat} {h : Holder κ} (hu : u ≠ t)
    (hmem : (u, h) ∈ s.tasks) (hin : h.stage = .inside) :
    ∃ h', (u, h') ∈ s.moveTo t g ∧ h'.lock = h.lock ∧ h'.stage = .inside := by
  obtain ⟨h', hmem', -, hlock, hstage⟩ := mem_moveTo_of_mem t g hmem
  exact ⟨h', hmem', hlock, by rw [hstage, if_neg hu, hin]⟩

end Moves

variable [DecidableEq κ]

theorem usersOf_length (s : Table κ) (k : κ) :
    (s.usersOf k).length = s.tasks.countP fun p => p.2.key = k := by
  simp [usersOf, List.countP_eq_length_filter]

/-! ## The invariant -/

/-- What every run from the empty table keeps. -/
structure Inv (s : Table κ) : Prop where
  /-- No task number is taken twice. -/
  nodup : (s.tasks.map (·.1)).Nodup
  /-- The keys with a lock are the keys with a count. -/
  sameKeys : ∀ k, (s.locks k).isSome = (s.users k).isSome
  /-- A key's count is the number of its tasks, and a key without tasks has none. -/
  count : ∀ k, s.users k =
    if s.tasks.countP (·.2.key = k) = 0 then none else some (s.tasks.countP (·.2.key = k) : Int)
  /-- Every task took the lock its key has now. -/
  current : ∀ t h, (t, h) ∈ s.tasks → s.locks h.key = some h.lock
  /-- Every lock of a key was made already. -/
  fresh : ∀ k l, s.locks k = some l → l < s.made
  /-- A lock is held exactly while a task is inside with it. -/
  held : ∀ l, s.held l = true ↔ ∃ t h, (t, h) ∈ s.tasks ∧ h.lock = l ∧ h.stage = .inside
  /-- No two tasks are inside with one lock. -/
  exclusive : ∀ t h t' h', (t, h) ∈ s.tasks → (t', h') ∈ s.tasks → h.stage = .inside →
    h'.stage = .inside → h.lock = h'.lock → t = t'

theorem empty_inv : Inv (empty : Table κ) := by
  refine ⟨List.nodup_nil, fun _ => rfl, fun _ => rfl, fun _ _ h => ?_, fun _ _ h => ?_,
    fun _ => ?_, fun _ _ _ _ h => ?_⟩
  · cases h
  · cases h
  · simp [empty]
  · cases h

section Steps

variable {s s' : Table κ} {t : Nat} {k : κ}

/-- A key's count read off the invariant. -/
theorem Inv.users_getD (hi : Inv s) (k : κ) :
    (s.users k).getD 0 = (s.tasks.countP (·.2.key = k) : Int) := by
  rw [hi.count k]
  split
  · next hc =>
    rw [hc]
    rfl
  · rfl

/-- A task enters for key `k` with lock `lock`: the key's lock, or a new one if it has none;
one more user is counted, and nothing is held or released. -/
theorem Inv.enter_step (hi : Inv s) (hn : s.task? t = none) {lock : Nat}
    (htasks : s'.tasks = s.tasks ++ [(t, ⟨k, lock, .waiting⟩)])
    (hlocks : ∀ u, s'.locks u = if u = k then some lock else s.locks u)
    (hlock : ∀ l, s.locks k = some l → lock = l) (hmade : s.made ≤ s'.made)
    (hnew : lock < s'.made)
    (husers : ∀ u, s'.users u = if u = k then some ((s.users k).getD 0 + 1) else s.users u)
    (hheld : s'.held = s.held) : Inv s' := by
  have hfresh : t ∉ s.tasks.map (·.1) := not_mem_of_lookup hn
  -- the new task waits, so what is inside is what was inside
  have hinside : ∀ t' h', (t', h') ∈ s'.tasks → h'.stage = .inside → (t', h') ∈ s.tasks := by
    intro t' h' hmem hin
    rw [htasks, List.mem_append, List.mem_singleton] at hmem
    rcases hmem with hmem | heq
    · exact hmem
    · cases heq
      cases hin
  refine ⟨?_, fun u => ?_, fun u => ?_, fun t' h' hmem => ?_, fun u l hu => ?_, fun l => ?_,
    fun t₁ h₁ t₂ h₂ hm₁ hm₂ hin₁ hin₂ => hi.exclusive t₁ h₁ t₂ h₂ (hinside _ _ hm₁ hin₁)
      (hinside _ _ hm₂ hin₂) hin₁ hin₂⟩
  · rw [htasks, List.map_append, List.map_singleton, List.nodup_append]
    refine ⟨hi.nodup, List.nodup_singleton _, fun a ha b hb hab => hfresh ?_⟩
    rw [List.mem_singleton.mp hb] at hab
    exact (show a = t from hab) ▸ ha
  · rw [hlocks, husers]
    split
    · rfl
    · exact hi.sameKeys u
  · have hc : s'.tasks.countP (·.2.key = u) =
        s.tasks.countP (·.2.key = u) + if k = u then 1 else 0 := by
      rw [htasks, List.countP_append]
      simp [List.countP_cons]
    rw [husers, hc]
    by_cases hu : u = k
    · subst hu
      simp [hi.users_getD]
    · rw [if_neg hu, if_neg (Ne.symm hu), Nat.add_zero]
      exact hi.count u
  · rw [hlocks]
    rw [htasks, List.mem_append, List.mem_singleton] at hmem
    rcases hmem with hmem | heq
    · split
      · next hkey =>
        rw [hlock h'.lock (hkey ▸ hi.current t' h' hmem)]
      · exact hi.current t' h' hmem
    · cases heq
      simp
  · rw [hlocks] at hu
    split at hu
    · cases hu
      exact hnew
    · exact Nat.lt_of_lt_of_le (hi.fresh u l hu) hmade
  · rw [hheld, hi.held l]
    constructor
    · rintro ⟨t', h', hmem, hl, hin⟩
      exact ⟨t', h', htasks ▸ List.mem_append_left _ hmem, hl, hin⟩
    · rintro ⟨t', h', hmem, hl, hin⟩
      exact ⟨t', h', hinside t' h' hmem hin, hl, hin⟩

/-- A task's holder is the one its number finds. -/
theorem Inv.holder_eq (hi : Inv s) {h h₀ : Holder κ} (ht : s.task? t = some h)
    (hmem : (t, h₀) ∈ s.tasks) : h₀ = h :=
  Option.some.inj ((lookup_of_mem hi.nodup hmem).symm.trans ht)

/-! ### Moving a task to another stage -/

theorem countP_moveTo (s : Table κ) (t : Nat) (g : Stage) (k : κ) :
    (s.moveTo t g).countP (·.2.key = k) = s.tasks.countP (·.2.key = k) := by
  simp only [moveTo, List.countP_map]
  congr 1
  funext p
  simp only [Function.comp_apply]
  split <;> rfl

/-- A step that only moves a task keeps the invariant's bookkeeping; whether locks are held
as tasks are inside, and no two are inside with one, is the step's own part. -/
theorem Inv.move_step (hi : Inv s) (g : Stage) (htasks : s'.tasks = s.moveTo t g)
    (hlocks : s'.locks = s.locks) (husers : s'.users = s.users) (hmade : s'.made = s.made)
    (hheld : ∀ l, s'.held l = true ↔ ∃ t h, (t, h) ∈ s'.tasks ∧ h.lock = l ∧ h.stage = .inside)
    (hexclusive : ∀ t h t' h', (t, h) ∈ s'.tasks → (t', h') ∈ s'.tasks → h.stage = .inside →
      h'.stage = .inside → h.lock = h'.lock → t = t') : Inv s' := by
  refine ⟨?_, fun k => ?_, fun k => ?_, fun u h' hmem => ?_, fun k l hk => ?_, hheld, hexclusive⟩
  · rw [htasks, moveTo_map_fst]
    exact hi.nodup
  · rw [hlocks, husers]
    exact hi.sameKeys k
  · rw [husers, htasks, countP_moveTo]
    exact hi.count k
  · obtain ⟨h, hmem, hkey, hlock, -⟩ := mem_moveTo (htasks ▸ hmem)
    rw [hlocks, hkey, hlock]
    exact hi.current u h hmem
  · rw [hlocks] at hk
    rw [hmade]
    exact hi.fresh k l hk

/-- A waiting task acquires its lock when no task holds it. -/
theorem Inv.acquire (hi : Inv s) (t : Nat) : Inv (s.acquire t) := by
  unfold Table.acquire
  split
  · next h ht =>
    split
    · next hcan =>
      obtain ⟨hwaiting, hfree⟩ := hcan
      have htask : (t, h) ∈ s.tasks := mem_of_lookup ht
      -- no task was inside with the lock acquired
      have hnone : ∀ u g, (u, g) ∈ s.tasks → g.stage = .inside → g.lock ≠ h.lock :=
        fun u g hmem hin hl => by
          rw [← Bool.not_eq_true, hi.held] at hfree
          exact hfree ⟨u, g, hmem, hl, hin⟩
      refine hi.move_step .inside rfl rfl rfl rfl (fun l => ?_) ?_
      · simp only [Bool.or_eq_true, beq_iff_eq]
        constructor
        · rintro (rfl | hl)
          · obtain ⟨h', hmem', -, hlock', hstage'⟩ := mem_moveTo_of_mem t .inside htask
            exact ⟨t, h', hmem', hlock', by simpa using hstage'⟩
          · obtain ⟨u, g, hmem, hlg, hin⟩ := (hi.held l).mp hl
            have hu : u ≠ t := fun hu => hnone u g hmem hin (by
              subst hu
              rw [hi.holder_eq ht hmem])
            obtain ⟨h', hmem', hlock', hin'⟩ := inside_moveTo_of_ne .inside hu hmem hin
            exact ⟨u, h', hmem', hlock'.trans hlg, hin'⟩
        · rintro ⟨u, h', hmem', rfl, hin'⟩
          obtain ⟨g, hmem, -, hlock, hstage⟩ := mem_moveTo hmem'
          by_cases hu : u = t
          · subst hu
            exact .inl (by rw [hlock, hi.holder_eq ht hmem])
          · rw [if_neg hu] at hstage
            exact .inr ((hi.held _).mpr ⟨u, g, hmem, hlock.symm, hstage.symm.trans hin'⟩)
      · intro u₁ h₁ u₂ h₂ hm₁ hm₂ hin₁ hin₂ hl
        obtain ⟨g₁, hg₁, -, hl₁, hs₁⟩ := mem_moveTo hm₁
        obtain ⟨g₂, hg₂, -, hl₂, hs₂⟩ := mem_moveTo hm₂
        -- the task that acquired and a task inside before cannot share the lock
        by_cases hu₁ : u₁ = t <;> by_cases hu₂ : u₂ = t
        · exact hu₁.trans hu₂.symm
        · rw [if_neg hu₂] at hs₂
          subst hu₁
          refine absurd ?_ (hnone u₂ g₂ hg₂ (hs₂.symm.trans hin₂))
          rw [← hl₂, ← hl, hl₁, hi.holder_eq ht hg₁]
        · rw [if_neg hu₁] at hs₁
          subst hu₂
          refine absurd ?_ (hnone u₁ g₁ hg₁ (hs₁.symm.trans hin₁))
          rw [← hl₁, hl, hl₂, hi.holder_eq ht hg₂]
        · rw [if_neg hu₁] at hs₁
          rw [if_neg hu₂] at hs₂
          exact hi.exclusive u₁ g₁ u₂ g₂ hg₁ hg₂ (hs₁.symm.trans hin₁) (hs₂.symm.trans hin₂)
            (by rw [← hl₁, ← hl₂, hl])
    · exact hi
  · exact hi

/-- A step that moves a task to a stage other than inside, releasing what `held` says,
leaves no two tasks inside with one lock. -/
theorem Inv.exclusive_moveTo (hi : Inv s) {g : Stage} (hg : g ≠ .inside) :
    ∀ t₁ h₁ t₂ h₂, (t₁, h₁) ∈ s.moveTo t g → (t₂, h₂) ∈ s.moveTo t g → h₁.stage = .inside →
      h₂.stage = .inside → h₁.lock = h₂.lock → t₁ = t₂ := by
  intro u₁ h₁ u₂ h₂ hm₁ hm₂ hin₁ hin₂ hl
  obtain ⟨-, g₁, hg₁, hl₁, hs₁⟩ := inside_of_moveTo hg hm₁ hin₁
  obtain ⟨-, g₂, hg₂, hl₂, hs₂⟩ := inside_of_moveTo hg hm₂ hin₂
  exact hi.exclusive u₁ g₁ u₂ g₂ hg₁ hg₂ hs₁ hs₂ (by rw [hl₁, hl₂, hl])

/-- A waiting task is cancelled and leaves without the lock. -/
theorem Inv.cancel (hi : Inv s) (t : Nat) : Inv (s.cancel t) := by
  unfold Table.cancel
  split
  · next h ht =>
    split
    · next hwaiting =>
      refine hi.move_step .leaving rfl rfl rfl rfl (fun l => ?_)
        (hi.exclusive_moveTo (by decide))
      rw [hi.held l]
      constructor
      · rintro ⟨u, g, hmem, hl, hin⟩
        -- the task cancelled was waiting, so a task inside is another
        have hu : u ≠ t := fun hu => by
          subst hu
          rw [hi.holder_eq ht hmem, hwaiting] at hin
          cases hin
        obtain ⟨h', hmem', hlock', hin'⟩ := inside_moveTo_of_ne .leaving hu hmem hin
        exact ⟨u, h', hmem', hlock'.trans hl, hin'⟩
      · rintro ⟨u, h', hmem', rfl, hin'⟩
        obtain ⟨-, g, hmem, hlock, hin⟩ := inside_of_moveTo (by decide) hmem' hin'
        exact ⟨u, g, hmem, hlock, hin⟩
    · exact hi
  · exact hi

/-- A task inside releases its lock. -/
theorem Inv.release (hi : Inv s) (t : Nat) : Inv (s.release t) := by
  unfold Table.release
  split
  · next h ht =>
    split
    · next hinside =>
      have htask : (t, h) ∈ s.tasks := mem_of_lookup ht
      refine hi.move_step .leaving rfl rfl rfl rfl (fun l => ?_)
        (hi.exclusive_moveTo (by decide))
      simp only [Bool.and_eq_true, bne_iff_ne, ne_eq]
      constructor
      · rintro ⟨hne, hl⟩
        obtain ⟨u, g, hmem, hlg, hin⟩ := (hi.held l).mp hl
        -- the task releasing held the released lock, so a task inside with another is another
        have hu : u ≠ t := fun hu => by
          subst hu
          rw [hi.holder_eq ht hmem] at hlg
          exact hne hlg.symm
        obtain ⟨h', hmem', hlock', hin'⟩ := inside_moveTo_of_ne .leaving hu hmem hin
        exact ⟨u, h', hmem', hlock'.trans hlg, hin'⟩
      · rintro ⟨u, h', hmem', rfl, hin'⟩
        obtain ⟨hu, g, hmem, hlock, hin⟩ := inside_of_moveTo (by decide) hmem' hin'
        refine ⟨fun heq => hu (hi.exclusive u g t h hmem htask hin hinside (hlock.trans heq)),
          (hi.held _).mpr ⟨u, g, hmem, hlock, hin⟩⟩
    · exact hi
  · exact hi

/-- A task's exit leaves one user fewer of its key and the others' counts as they were. -/
theorem countP_exit (hi : Inv s) {h : Holder κ} (htask : (t, h) ∈ s.tasks) (k : κ) :
    (s.tasks.filter (·.1 != t)).countP (·.2.key = k) + (if h.key = k then 1 else 0) =
      s.tasks.countP (·.2.key = k) := by
  rw [List.countP_eq_countP_filter_add s.tasks _ (·.1 != t), filter_number hi.nodup htask]
  simp [List.countP_cons]

/-- Removing a leaving task keeps the invariant, when its key keeps its lock and gets its
new count of users while a task of the key is left, drops both once none is, and the other
keys keep theirs; nothing is held or made. -/
theorem Inv.exit_step (hi : Inv s) {h : Holder κ} (ht : s.task? t = some h)
    (hleaving : h.stage = .leaving) (htasks : s'.tasks = s.tasks.filter (·.1 != t))
    (hheld : s'.held = s.held) (hmade : s'.made = s.made)
    (hlocks : ∀ u, s'.locks u =
      if u = h.key ∧ s'.tasks.countP (·.2.key = h.key) = 0 then none else s.locks u)
    (husers : ∀ u, s'.users u = if u = h.key then
      (if s'.tasks.countP (·.2.key = u) = 0 then none else some (s'.tasks.countP (·.2.key = u) : Int))
      else s.users u) : Inv s' := by
  have htask : (t, h) ∈ s.tasks := mem_of_lookup ht
  have hsub : ∀ u g, (u, g) ∈ s'.tasks → (u, g) ∈ s.tasks := fun u g hm =>
    (List.mem_filter.mp (htasks ▸ hm)).1
  -- the other keys keep their tasks
  have hcount : ∀ u, u ≠ h.key →
      s'.tasks.countP (·.2.key = u) = s.tasks.countP (·.2.key = u) := fun u hu => by
    have hexit := countP_exit hi htask u
    rw [if_neg (Ne.symm hu), Nat.add_zero] at hexit
    rw [htasks, hexit]
  -- the task exiting was not inside, so the tasks inside are those inside before
  have hinside : ∀ u g, (u, g) ∈ s.tasks → g.stage = .inside → (u, g) ∈ s'.tasks :=
    fun u g hm hin => by
      rw [htasks]
      refine List.mem_filter.mpr ⟨hm, bne_iff_ne.mpr fun hu => ?_⟩
      subst hu
      rw [hi.holder_eq ht hm, hleaving] at hin
      cases hin
  refine ⟨?_, fun u => ?_, fun u => ?_, fun u g hm => ?_, fun u l hu => ?_, fun l => ?_,
    fun t₁ h₁ t₂ h₂ hm₁ hm₂ => hi.exclusive t₁ h₁ t₂ h₂ (hsub _ _ hm₁) (hsub _ _ hm₂)⟩
  · rw [htasks]
    exact hi.nodup.sublist (List.filter_sublist.map _)
  · rw [hlocks, husers]
    by_cases hu : u = h.key
    · subst hu
      have hcur := hi.current t h htask
      by_cases hc : s'.tasks.countP (·.2.key = h.key) = 0 <;> simp [hc, hcur]
    · simp [hu, hi.sameKeys u]
  · rw [husers]
    by_cases hu : u = h.key
    · rw [if_pos hu]
    · rw [if_neg hu, hcount u hu]
      exact hi.count u
  · rw [hlocks, if_neg]
    · exact hi.current u g (hsub u g hm)
    · rintro ⟨hk, hc⟩
      -- the task found has the key, so a task of the key is left
      exact absurd hc (Nat.pos_iff_ne_zero.mp (List.countP_pos_iff.mpr ⟨(u, g), hm, by simp [hk]⟩))
  · rw [hlocks] at hu
    split at hu
    · cases hu
    · rw [hmade]
      exact hi.fresh u l hu
  · rw [hheld, hi.held l]
    constructor
    · rintro ⟨u, g, hm, hl, hin⟩
      exact ⟨u, g, hinside u g hm hin, hl, hin⟩
    · rintro ⟨u, g, hm, hl, hin⟩
      exact ⟨u, g, hsub u g hm, hl, hin⟩

/-- A leaving task exits: it is counted out of its key's users, and the last user drops the
key's lock and count. -/
theorem Inv.exit (hi : Inv s) (t : Nat) : Inv (s.exit t) := by
  unfold Table.exit
  split
  · next h ht =>
    split
    · next hleaving =>
      -- the key's count before the exit is its tasks left plus the one exiting
      have hmine := countP_exit hi (mem_of_lookup ht) h.key
      rw [if_pos rfl] at hmine
      dsimp only
      rw [hi.count h.key, if_neg (by omega)]
      dsimp only
      split
      · next hlast =>
        have hgone : (s.tasks.filter (·.1 != t)).countP (·.2.key = h.key) = 0 := by omega
        refine hi.exit_step ht hleaving rfl rfl rfl (fun u => ?_) (fun u => ?_)
        · by_cases hu : u = h.key <;> simp [hu, hgone]
        · by_cases hu : u = h.key
          · subst hu
            simp [hgone]
          · simp [hu]
      · next hmore =>
        have hleft : (s.tasks.filter (·.1 != t)).countP (·.2.key = h.key) ≠ 0 := by omega
        refine hi.exit_step ht hleaving rfl rfl rfl (fun u => ?_) (fun u => ?_)
        · simp [hleft]
        · by_cases hu : u = h.key
          · subst hu
            simp only [if_pos, if_neg hleft, Option.some.injEq]
            omega
          · simp [hu]
    · exact hi
  · exact hi

/-- A task enters for a key, taking the key's lock or a new one. -/
theorem Inv.enter (hi : Inv s) (t : Nat) (k : κ) : Inv (s.enter t k) := by
  unfold Table.enter
  split
  · exact hi
  · next hn =>
    cases hl : s.locks k with
    | some l =>
      exact hi.enter_step hn rfl (fun u => by by_cases hu : u = k <;> simp [hu, hl])
        (fun _ h => Option.some.inj (hl.symm.trans h)) (Nat.le_refl _) (hi.fresh k l hl)
        (fun _ => rfl) rfl
    | none =>
      -- a key without a lock gets a new one
      exact hi.enter_step hn rfl (fun _ => rfl) (fun _ h => by rw [hl] at h; cases h)
        (Nat.le_succ _) (Nat.lt_succ_self _) (fun _ => rfl) rfl

theorem Inv.step (hi : Inv s) : ∀ e : Event κ, Inv (s.step e)
  | .enter t k => hi.enter t k
  | .acquire t => hi.acquire t
  | .cancel t => hi.cancel t
  | .release t => hi.release t
  | .exit t => hi.exit t

/-- Every run keeps the invariant. -/
theorem Inv.run (hi : Inv s) (events : List (Event κ)) : Inv (s.run events) := by
  induction events generalizing s with
  | nil => exact hi
  | cons e events ih => exact ih (hi.step e)

end Steps

/-! ## What every run keeps -/

/-- What keyed locks promise at every point of a run. -/
structure Apart (s : Table κ) : Prop where
  /-- The keys with a lock are the keys with a count of users. -/
  sameKeys : ∀ k, (s.locks k).isSome = (s.users k).isSome
  /-- A key's count is the number of its tasks between entering and exiting, and a key
  without such tasks has no count. -/
  count : ∀ k, (s.users k).getD 0 = (s.usersOf k).length ∧ ((s.users k).isSome ↔ s.usersOf k ≠ [])
  /-- Every such task's lock is the lock its key has now. -/
  current : ∀ t h, (t, h) ∈ s.tasks → s.locks h.key = some h.lock
  /-- At most one task is inside the section guarded by each key. -/
  oneInside : ∀ k, (s.insideOf k).length ≤ 1
  /-- Once no task is between entering and exiting, no key has a lock or a count. -/
  idle : s.tasks = [] → ∀ k, s.locks k = none ∧ s.users k = none

/-- A list without repeats whose members are all equal has at most one. -/
theorem length_le_one_of_eq {l : List Nat} (hnodup : l.Nodup) (heq : ∀ a ∈ l, ∀ b ∈ l, a = b) :
    l.length ≤ 1 := by
  match l, hnodup, heq with
  | [], _, _ => exact Nat.zero_le _
  | [_], _, _ => exact Nat.le_refl _
  | a :: b :: _, hnodup, heq =>
    have hab : a = b := heq a List.mem_cons_self b (List.mem_cons_of_mem _ List.mem_cons_self)
    exact absurd (hab ▸ List.mem_cons_self) (List.nodup_cons.mp hnodup).1

theorem Inv.apart {s : Table κ} (hi : Inv s) : Apart s := by
  refine ⟨hi.sameKeys, fun k => ?_, hi.current, fun k => ?_, fun hidle k => ?_⟩
  · rw [hi.users_getD, usersOf_length]
    refine ⟨rfl, ?_⟩
    rw [hi.count k, ← List.length_pos_iff, usersOf_length]
    split
    · next h0 => simp [h0]
    · next h0 =>
      simp only [Option.isSome_some, true_iff]
      omega
  · -- two tasks inside for one key hold its one lock, hence are one task
    refine length_le_one_of_eq (hi.nodup.sublist ((List.filter_sublist).map _)) ?_
    intro a ha b hb
    obtain ⟨⟨u, g⟩, hmem, rfl⟩ := List.mem_map.mp ha
    obtain ⟨⟨u', g'⟩, hmem', rfl⟩ := List.mem_map.mp hb
    simp only [List.mem_filter, decide_eq_true_eq] at hmem hmem'
    have hlock : g.lock = g'.lock := by
      have hg := hi.current u g hmem.1
      have hg' := hi.current u' g' hmem'.1
      rw [hmem.2.1] at hg
      rw [hmem'.2.1, hg] at hg'
      exact Option.some.inj hg'
    exact hi.exclusive u g u' g' hmem.1 hmem'.1 hmem.2.2 hmem'.2.2 hlock
  · have hnone : s.users k = none := by
      rw [hi.count k, hidle]
      rfl
    have hlock := hi.sameKeys k
    rw [hnone] at hlock
    exact ⟨Option.not_isSome_iff_eq_none.mp (by simpa using hlock), hnone⟩

/-- Keyed locks keep their tasks apart. Run any steps of any tasks over any keys from the
table without locks, waiters cancelled before they acquire included. Then the keys with a
lock are the keys with a count; a key's count is the number of its tasks between entering
and exiting; each such task's lock is the one its key has now, and at most one task is
inside for each key; and once no task is between entering and exiting, no key has a lock or
a count. With keys a tenant and a practitioner, or a booking-link scope, no two writers of
one key run their checks and writes at once. -/
theorem locks_keep_tasks_apart (events : List (Event κ)) : Apart (empty.run events) :=
  (empty_inv.run events).apart

end Table

end SalonBooking.KeyedLock
