import Mathlib.Data.List.Nodup
import SalonBooking.Proofs.Invariants
import SalonBooking.Console.Answer

/-!
Booking-link scopes. A scope is a tenant, a practitioner and a store, where no store is
a scope of its own. The link service's requests change the links in three ways only
(`LinkChange`): they keep them; an issue adds one new active link under a fresh id,
after revoking the active links of its scope when it reissues; a revocation or a use
puts one link back under its id and in its scope, never active unless it was.

Everything else follows from that. A reissue leaves the new link the only active one
of its scope and touches no link of another scope. A plain issue whose expiry and whose
practitioner and store pass is refused as a conflict exactly when its scope holds an
active link, expired or not. An issued token is well formed and held by no other link.
A link that is not active never becomes active again, and a scope that no request
issued into with several allowed never holds two active links.
-/

namespace SalonBooking

open SalonBooking.Calendar Op Database

/- Read symbolically, the token check of a resolution unfolds into the decoding of the
presented text; nothing here reasons about it by unfolding, so it is kept shut. -/
attribute [local irreducible] Link.wellFormed

namespace Link

/-! ## Scopes and tokens -/

/-- Whether `l` is an active link of the scope of tenant `t`, practitioner `p` and store
`s`. -/
def liveIn (t p : Uuid) (s : Option Uuid) (l : BookingLink) : Bool := l.inScope t p s && l.isActive

/-- How many active links the scope holds. -/
def activeCount (db : Database) (t p : Uuid) (s : Option Uuid) : Nat := db.links.countP (liveIn t p s)

/-- The scope a link belongs to: its tenant, practitioner and store. -/
def scopeOf (l : BookingLink) : Uuid × Uuid × Option Uuid := (l.tenant, l.practitioner, l.store)

theorem inScope_iff (l : BookingLink) (t p : Uuid) (s : Option Uuid) :
    l.inScope t p s = true ↔ scopeOf l = (t, p, s) := by
  simp [BookingLink.inScope, scopeOf, and_assoc]

theorem liveIn_eq_true {t p : Uuid} {s : Option Uuid} {l : BookingLink} :
    liveIn t p s l = true ↔ scopeOf l = (t, p, s) ∧ l.isActive = true := by
  simp [liveIn, inScope_iff]

@[simp] theorem revokeIf_id (r : BookingLink → Bool) (l : BookingLink) : (revokeIf r l).id = l.id := by
  unfold revokeIf
  split <;> rfl

@[simp] theorem revokeIf_token (r : BookingLink → Bool) (l : BookingLink) :
    (revokeIf r l).token = l.token := by
  unfold revokeIf
  split <;> rfl

/-- Revoking never makes a link active, and leaves active only what it spares. -/
theorem isActive_of_revokeIf {r : BookingLink → Bool} {l : BookingLink}
    (h : (revokeIf r l).isActive = true) : l.isActive = true ∧ r l = false := by
  unfold revokeIf at h
  split at h
  · simp [BookingLink.isActive] at h
  · next hr => exact ⟨h, by simpa using hr⟩

theorem inScope_revokeIf (r : BookingLink → Bool) (l : BookingLink) (t p : Uuid) (s : Option Uuid) :
    (revokeIf r l).inScope t p s = l.inScope t p s := by
  unfold revokeIf
  split <;> rfl

@[simp] theorem scopeOf_revokeIf (r : BookingLink → Bool) (l : BookingLink) :
    scopeOf (revokeIf r l) = scopeOf l := by
  unfold revokeIf
  split <;> rfl

/-- A reissue's revocation leaves no active link in its scope. -/
@[simp] theorem liveIn_revokeIf_self (t p : Uuid) (s : Option Uuid) (x : BookingLink) :
    liveIn t p s (revokeIf (liveIn t p s) x) = false := by
  unfold revokeIf
  split
  · simp [liveIn, BookingLink.isActive]
  · next h => simpa only [Bool.not_eq_true] using h

/-- Revoking one scope's active links leaves a link of another scope as it was. -/
theorem revokeIf_of_scope_ne {t p : Uuid} {s : Option Uuid} {x : BookingLink}
    (hne : scopeOf x ≠ (t, p, s)) : revokeIf (liveIn t p s) x = x := by
  unfold revokeIf
  rw [if_neg fun h => hne (liveIn_eq_true.mp h).1]

theorem liveIn_revokeIf_of_ne {t p t' p' : Uuid} {s s' : Option Uuid}
    (hne : (t', p', s') ≠ (t, p, s)) (x : BookingLink) :
    liveIn t' p' s' (revokeIf (liveIn t p s) x) = liveIn t' p' s' x := by
  by_cases hx : scopeOf x = (t, p, s)
  · have hout : x.inScope t' p' s' = false := by
      rw [← Bool.not_eq_true, inScope_iff]
      exact fun h => hne (h ▸ hx)
    simp [liveIn, inScope_revokeIf, hout]
  · rw [revokeIf_of_scope_ne hx]

theorem filter_revoked (t p : Uuid) (s : Option Uuid) (xs : List BookingLink) :
    (xs.map (revokeIf (liveIn t p s))).filter (liveIn t p s) = [] := by
  refine List.filter_eq_nil_iff.mpr fun x hx => ?_
  obtain ⟨y, _, rfl⟩ := List.mem_map.mp hx
  rw [liveIn_revokeIf_self]
  exact Bool.false_ne_true

theorem urlsafeDigit_isTokenChar (n : Nat) : isTokenChar (urlsafeDigit n) = true := by
  have hlow : ∀ k < 62, isTokenChar (urlsafeDigit k) = true := by decide
  by_cases h : n < 62
  · exact hlow n h
  · unfold urlsafeDigit
    rw [if_neg (by omega), if_neg (by omega), if_neg h]
    split <;> decide

/-- Every three bytes give four digits, and one or two bytes left at the end two or three. -/
theorem urlsafeDigits_length (bytes : List UInt8) :
    (urlsafeDigits bytes).length = (4 * bytes.length + 2) / 3 := by
  fun_induction urlsafeDigits bytes with
  | case1 a b c rest n ih =>
    simp only [List.length_cons, ih]
    omega
  | case2 | case3 | case4 => simp

theorem urlsafeDigits_all_isTokenChar (bytes : List UInt8) :
    (urlsafeDigits bytes).all isTokenChar = true := by
  fun_induction urlsafeDigits bytes <;> simp_all [urlsafeDigit_isTokenChar]

/-- The text of a new token's bytes is a run of 32 token characters. -/
theorem isTokenBody_urlsafeDigits {bytes : List UInt8} (h : bytes.length = tokenBytes) :
    isTokenBody (urlsafeDigits bytes) = true := by
  simp [isTokenBody, urlsafeDigits_length, h, tokenBytes, urlsafeDigits_all_isTokenChar]

theorem tokenFor_wellFormed (id : Uuid) (attempt : Nat) (src : ByteSource) :
    wellFormed (tokenFor id attempt src) = true := by
  simp [wellFormed, tokenFor, urlsafeText, String.toList_ofList,
    isTokenBody_urlsafeDigits (src.length_draw id attempt)]

/-! ## What each request does -/

section Requests

variable (ctx : Context) (practitioner : Uuid) (createdBy : String) (store : Option Uuid)
  (expiresAt : Option Stamp) (db : Database) (src : ByteSource)

/-- The token of a new link is the first candidate no stored link holds. -/
theorem uniqueToken_wp (id : Uuid) :
    wp (uniqueToken id src)
      (fun token db' => db' = db ∧ wellFormed token = true ∧ ∀ x ∈ db.links, x.token ≠ token)
      (fun e db' => db' = db ∧ e = .tokensExhausted) db := by
  simp only [uniqueToken, wp_bind, wp_get]
  split
  · next k hk =>
    refine ⟨rfl, tokenFor_wellFormed id k src, fun x hx htoken => ?_⟩
    have hfree := List.find?_some hk
    simp only [Bool.not_eq_eq_eq_not, Bool.not_true, List.any_eq_false, beq_iff_eq] at hfree
    exact hfree x hx htoken
  · exact ⟨rfl, rfl⟩

/-- A new link is active, in its scope, under the next id, with a token of its own. Adding
it fails only when the clock runs out or every candidate token is taken. -/
theorem addLink_wp :
    wp (addLink ctx practitioner createdBy store expiresAt src)
      (fun l db' => l.id.value = db.issued + 1 ∧ l.inScope ctx.tenant practitioner store = true ∧
        l.isActive = true ∧ wellFormed l.token = true ∧ (∀ x ∈ db.links, x.token ≠ l.token) ∧
        db'.links = db.links ++ [l] ∧ db'.issued = db.issued + 1)
      (fun e db' => db'.links = db.links ∧ db.issued ≤ db'.issued ∧
        (e = .tokensExhausted ∨ ∃ r, e = .range r)) db := by
  simp only [addLink, wp_bind, wp_freshId]
  rw [wp_now]
  split
  · rw [wp_bind]
    refine wp_mono (uniqueToken_wp _ _ _) ?_ fun _ _ h => ?_
    · rintro token _ ⟨rfl, hformed, hfree⟩
      rw [wp_bind, wp_modify, wp_pure]
      exact ⟨rfl, by simp [BookingLink.inScope], rfl, hformed, hfree, rfl, rfl⟩
    · rw [h.1]
      exact ⟨rfl, Nat.le_succ _, .inl h.2⟩
  · next r _ => exact ⟨rfl, Nat.le_succ _, .inr ⟨r, rfl⟩⟩

/-- What a returning issue did: it added an active link of its scope under a fresh id,
with a well-formed token no other link held, after revoking the scope's active links when
it reissued; issuing without reissue and with one link allowed, it found the scope without
an active link. -/
structure Issued (db : Database) (ctx : Context) (practitioner : Uuid) (store : Option Uuid)
    (reissue allowMultiple : Bool) (l : BookingLink) (db' : Database) : Prop where
  fresh : db.issued < l.id.value
  counted : l.id.value ≤ db'.issued
  scope : l.inScope ctx.tenant practitioner store = true
  active : l.isActive = true
  wellFormed : wellFormed l.token = true
  unique : ∀ x ∈ db.links, x.token ≠ l.token
  vacant : reissue = false → allowMultiple = false →
    ∀ x ∈ db.links, liveIn ctx.tenant practitioner store x = false
  links : db'.links = (if reissue then db.links.map (revokeIf (liveIn ctx.tenant practitioner store))
    else db.links) ++ [l]

theorem issue_wp (reissue allowMultiple : Bool) :
    wp (issue ctx practitioner createdBy store expiresAt reissue allowMultiple src)
      (fun l db' => Issued db ctx practitioner store reissue allowMultiple l db')
      (fun _ db' => db'.links = db.links ∧ db.issued ≤ db'.issued) db := by
  unfold issue
  refine (readsOnly_checkExpiry expiresAt).wp_bind (fun _ db₁ h₁ => ?_)
    fun _ _ h => ⟨h.links_eq, h.1⟩
  rw [wp_transaction]
  refine (readsOnly_issuer ctx practitioner store).wp_bind (fun _ db₂ h₂ => ?_)
    fun _ db' h => ⟨h₁.links_eq, Nat.le_trans h₁.1 h.1⟩
  have hlinks : db₂.links = db.links := h₂.links_eq.trans h₁.links_eq
  have hissued : db.issued ≤ db₂.issued := Nat.le_trans h₁.1 h₂.1
  rw [wp_bind, wp_get]
  dsimp only
  split
  · next hre =>
    rw [wp_bind, wp_modify]
    refine wp_mono (addLink_wp ctx practitioner createdBy store expiresAt _ src) ?_ ?_
    · rintro l db' ⟨hid, hscope, hactive, hformed, hfree, hlinks', hissued'⟩
      dsimp only at hid hissued' hlinks' hfree
      refine ⟨by omega, by omega, hscope, hactive, hformed, fun x hx => ?_,
        fun h => absurd hre (by simp [h]), ?_⟩
      · have := hfree (revokeIf (liveIn ctx.tenant practitioner store) x)
          (by rw [hlinks]; exact List.mem_map_of_mem hx)
        simpa using this
      · rw [hlinks', if_pos hre, hlinks]
        rfl
    · intro _ db' h
      exact ⟨h₁.links_eq, Nat.le_trans hissued h.2.1⟩
  · next hre =>
    split
    · next hlive =>
      rw [wp_bind, wp_throw]
      exact ⟨h₁.links_eq, hissued⟩
    · next hlive =>
      refine wp_mono (addLink_wp ctx practitioner createdBy store expiresAt _ src) ?_
        fun _ db' h => ⟨h₁.links_eq, Nat.le_trans hissued h.2.1⟩
      rintro l db' ⟨hid, hscope, hactive, hformed, hfree, hlinks', hissued'⟩
      refine ⟨by omega, by omega, hscope, hactive, hformed, fun x hx => ?_, fun _ hmany x hx => ?_, ?_⟩
      · exact hfree x (hlinks ▸ hx)
      · simp only [hmany, Bool.not_false, Bool.true_and, List.any_eq_true, not_exists, not_and,
          Bool.not_eq_true] at hlive
        exact hlive x (hlinks ▸ hx)
      · rw [hlinks', if_neg hre, hlinks]

/-- A revocation puts back one of the stored links, revoked. -/
theorem revoke_wp (id : Uuid) :
    wp (revoke ctx id)
      (fun l' db' => ∃ l ∈ db.links, l' = { l with status := "revoked" } ∧ db' = db.putLink l')
      (fun _ db' => db' = db) db := by
  simp only [revoke, wp_bind, wp_get]
  split
  · next l hl => exact ⟨l, List.mem_of_find?_eq_some hl, rfl, rfl⟩
  · rfl

/-- Resolving a token reads only, and the link it finds is a stored one. -/
theorem resolution_wp (presented : String) :
    wp (resolution presented) (fun found db' => found.1 ∈ db.links ∧ SameRows db db')
      (fun _ db' => SameRows db db') db := by
  simp only [resolution, wp_bind, wp_ite, wp_throw]
  split
  · exact SameRows.refl db
  rw [wp_now]
  split
  · simp only [wp_bind, wp_get]
    split
    · next l hl =>
      have hmem : l ∈ db.links := List.mem_of_find?_eq_some hl
      repeat' (first | split | simp only [wp_bind, wp_throw, wp_pure, wp_lift])
      all_goals first | exact sameRows_clock db _ | exact ⟨hmem, sameRows_clock db _⟩
    · exact sameRows_clock db _
  · exact sameRows_clock db _

/-- Resolving a token puts back the stored link it found, with the time of its use. -/
theorem resolve_wp (presented : String) :
    wp (resolve presented)
      (fun _ db' => ∃ l ∈ db.links, ∃ used,
        db'.links = (db.putLink { l with lastUsedAt := some used }).links ∧ db.issued ≤ db'.issued)
      (fun _ db' => SameRows db db') db := by
  unfold resolve
  rw [wp_bind]
  refine wp_mono (resolution_wp db presented) ?_ fun _ _ h => h
  rintro ⟨l, found⟩ db₁ ⟨hmem, h₁⟩
  simp only [wp_bind]
  rw [wp_now]
  split
  · next used _ =>
    have hput : (db₁.putLink { l with lastUsedAt := some used }).links =
        (db.putLink { l with lastUsedAt := some used }).links := by
      simp only [putLink, h₁.links_eq]
    exact ⟨l, hmem, used, hput, h₁.1⟩
  · exact h₁.trans (sameRows_clock db₁ _)

end Requests

/-! ## What an issue leaves -/

/-- What a returning reissue leaves: the new link is the only active one of its scope, every
link that was active there is revoked, and every other scope holds its links as before. -/
structure Reissued (db : Database) (t p : Uuid) (s : Option Uuid) (l : BookingLink)
    (db' : Database) : Prop where
  sole : db'.links.filter (liveIn t p s) = [l]
  revoked : ∀ x ∈ db.links, liveIn t p s x = true → { x with status := "revoked" } ∈ db'.links
  others : ∀ t' p' s', (t', p', s') ≠ (t, p, s) →
    db'.links.filter (·.inScope t' p' s') = db.links.filter (·.inScope t' p' s')

namespace Issued

variable {db db' : Database} {ctx : Context} {practitioner : Uuid} {store : Option Uuid}
  {reissue allowMultiple : Bool} {l : BookingLink}

theorem scope_eq (h : Issued db ctx practitioner store reissue allowMultiple l db') :
    scopeOf l = (ctx.tenant, practitioner, store) :=
  (inScope_iff l _ _ _).mp h.scope

theorem live (h : Issued db ctx practitioner store reissue allowMultiple l db') :
    liveIn ctx.tenant practitioner store l = true :=
  liveIn_eq_true.mpr ⟨h.scope_eq, h.active⟩

theorem reissued (h : Issued db ctx practitioner store true allowMultiple l db') :
    Reissued db ctx.tenant practitioner store l db' where
  sole := by
    rw [h.links, if_pos rfl, List.filter_append, filter_revoked,
      List.filter_cons_of_pos h.live, List.filter_nil]
    rfl
  revoked x hx hlive := by
    rw [h.links, if_pos rfl]
    refine List.mem_append_left _ (List.mem_map.mpr ⟨x, hx, ?_⟩)
    simp [revokeIf, hlive]
  others t' p' s' hne := by
    have hl : l.inScope t' p' s' = false := by
      rw [← Bool.not_eq_true, inScope_iff, h.scope_eq]
      exact fun h' => hne h'.symm
    have hkeep : ∀ x ∈ db.links.filter (·.inScope t' p' s'),
        revokeIf (liveIn ctx.tenant practitioner store) x = x := by
      intro x hx
      rw [List.mem_filter, inScope_iff] at hx
      exact revokeIf_of_scope_ne (hx.2 ▸ hne)
    have hscopes : db.links.filter ((·.inScope t' p' s') ∘ revokeIf (liveIn ctx.tenant practitioner store)) =
        db.links.filter (·.inScope t' p' s') :=
      List.filter_congr fun x _ => by simp [inScope_revokeIf]
    rw [h.links, if_pos rfl, List.filter_append, List.filter_cons_of_neg (by simp [hl]),
      List.filter_nil, List.append_nil, List.filter_map, hscopes]
    exact (List.map_congr_left hkeep).trans (List.map_id _)

/-- An issue that reissued or allowed one link leaves exactly one active link in its scope. -/
theorem activeCount_self (h : Issued db ctx practitioner store reissue allowMultiple l db')
    (hone : reissue = true ∨ allowMultiple = false) :
    activeCount db' ctx.tenant practitioner store = 1 := by
  unfold activeCount
  rw [h.links, List.countP_append, List.countP_singleton, if_pos h.live]
  cases reissue with
  | true => simp [List.countP_eq_length_filter, filter_revoked]
  | false =>
    have hvacant := h.vacant rfl (hone.resolve_left Bool.false_ne_true)
    simpa using hvacant

/-- An issue leaves the count of active links of every other scope as it was. -/
theorem activeCount_other (h : Issued db ctx practitioner store reissue allowMultiple l db')
    {t p : Uuid} {s : Option Uuid} (hne : (t, p, s) ≠ (ctx.tenant, practitioner, store)) :
    activeCount db' t p s = activeCount db t p s := by
  have hl : liveIn t p s l = false := by
    rw [← Bool.not_eq_true, liveIn_eq_true, h.scope_eq]
    exact fun h' => hne h'.1.symm
  unfold activeCount
  rw [h.links, List.countP_append, List.countP_singleton, hl]
  cases reissue <;> simp [List.countP_map, Function.comp_def, liveIn_revokeIf_of_ne hne]

end Issued

/-! ## Plain issues -/

/-- An expiry an issue accepts: none, or a wall-clock instant after the clock's next
reading. -/
def ExpiryAccepted (db : Database) : Option Stamp → Prop
  | none => True
  | some e => e.offset = none ∧
      ∃ t, db.clock.base.shift ((db.clock.reads + 1 : Nat) : Int) = .ok t ∧ t < e.wall

/-- The practitioner and store checks of an issue pass: the practitioner is an active one of
the tenant, and a named store is an open one of the tenant that the practitioner works
at. -/
def Issuable (db : Database) (ctx : Context) (practitioner : Uuid) (store : Option Uuid) : Prop :=
  ∃ p, db.practitioner? ctx.tenant practitioner = some p ∧ p.isActive = true ∧
    ∀ sid ∈ store, ∃ s, db.store? ctx.tenant sid = some s ∧ s.isOpen = true ∧
      worksAt p.storeIds sid = .ok true

section Plain

variable {ctx : Context} {practitioner : Uuid} {store : Option Uuid} {expiresAt : Option Stamp}
  {db : Database} {src : ByteSource} {ok : Unit → Database → Prop} {err : Fault → Database → Prop}

theorem checkExpiry_wp (h : ExpiryAccepted db expiresAt) (hok : ∀ db', SameRows db db' → ok () db') :
    wp (checkExpiry expiresAt) ok err db := by
  cases expiresAt with
  | none => exact hok db (SameRows.refl db)
  | some e =>
    obtain ⟨hoffset, t, ht, hlater⟩ := h
    simp only [checkExpiry, wp_bind]
    have hnot : ¬ e.wall ≤ t := Int.not_le.mpr hlater
    rw [wp_now, ht]
    simp only [hoffset, Option.isSome_none, Bool.false_eq_true, if_false, hnot, wp_pure]
    exact hok _ (sameRows_clock db _)

theorem issuer_wp {ok : Practitioner → Database → Prop} (h : Issuable db ctx practitioner store)
    (hok : ∀ p, ok p db) : wp (issuer ctx practitioner store) ok err db := by
  obtain ⟨p, hp, hactive, hstore⟩ := h
  cases store with
  | none => simp [issuer, hp, hactive, hok]
  | some sid =>
    obtain ⟨s, hs, hopen, hworks⟩ := hstore sid rfl
    simp [issuer, hp, hactive, hs, hopen, hworks, hok]

/-- A plain issue whose expiry and checks pass either adds a link to a scope that held no
active link, or fails, and fails as a conflict exactly when the scope held one. -/
theorem plain_issue_wp (createdBy : String) (hexp : ExpiryAccepted db expiresAt)
    (hiss : Issuable db ctx practitioner store) :
    wp (issue ctx practitioner createdBy store expiresAt false false src)
      (fun _ _ => ∀ x ∈ db.links, liveIn ctx.tenant practitioner store x = false)
      (fun e _ => e.kind = "ConflictError" ↔
        ∃ x ∈ db.links, liveIn ctx.tenant practitioner store x = true) db := by
  unfold issue
  rw [wp_bind]
  refine checkExpiry_wp hexp fun db₁ h₁ => ?_
  have hiss₁ : Issuable db₁ ctx practitioner store := by
    obtain ⟨-, i, c, rfl⟩ := h₁
    exact hiss
  rw [wp_transaction, wp_bind]
  refine issuer_wp hiss₁ fun _ => ?_
  rw [wp_bind, wp_get]
  dsimp only
  rw [if_neg Bool.false_ne_true, h₁.links_eq]
  split
  · next hlive =>
    rw [wp_bind, wp_throw]
    simp only [Bool.not_false, Bool.true_and] at hlive
    exact iff_of_true rfl (List.any_eq_true.mp hlive)
  · next hlive =>
    simp only [Bool.not_false, Bool.true_and, Bool.not_eq_true, List.any_eq_false] at hlive
    refine wp_mono (addLink_wp ctx practitioner createdBy store expiresAt db₁ src)
      (fun _ _ _ x hx => hlive x hx) fun e _ h => ?_
    refine iff_of_false ?_ fun ⟨x, hx, hlx⟩ => Bool.false_ne_true ((hlive x hx).symm.trans hlx)
    rcases h.2.2 with rfl | ⟨r, rfl⟩ <;> simp [Fault.kind]

/-- A plain issue whose expiry and practitioner and store checks pass is refused as a
conflict exactly when its scope holds an active link, expired or not. -/
theorem plain_issue_conflicts_iff (createdBy : String) (hexp : ExpiryAccepted db expiresAt)
    (hiss : Issuable db ctx practitioner store) :
    (∃ e db', (issue ctx practitioner createdBy store expiresAt false false src).run db =
        .error e db' ∧ e.kind = "ConflictError") ↔
      ∃ x ∈ db.links, liveIn ctx.tenant practitioner store x = true := by
  have h := wp_iff_run.mp (show wp (issue ctx practitioner createdBy store expiresAt false false src)
    _ _ db from plain_issue_wp createdBy hexp hiss)
  constructor
  · rintro ⟨e, db', hrun, hkind⟩
    exact (h.2 e db' hrun).mp hkind
  · rintro ⟨x, hx, hlx⟩
    cases hrun : (issue ctx practitioner createdBy store expiresAt false false src).run db with
    | ok l db' => exact absurd ((h.1 l db' hrun x hx).symm.trans hlx) Bool.false_ne_true
    | error e db' => exact ⟨e, db', rfl, (h.2 e db' hrun).mpr ⟨x, hx, hlx⟩⟩

end Plain

/-! ## Links put back in place -/

/-- `y` stands where `x` stood: under its id, in its scope, and active only if `x` was. -/
structure Succeeds (y x : BookingLink) : Prop where
  id : y.id = x.id
  scope : scopeOf y = scopeOf x
  active : y.isActive = true → x.isActive = true

theorem succeeds_revokeIf (r : BookingLink → Bool) (x : BookingLink) : Succeeds (revokeIf r x) x :=
  ⟨revokeIf_id r x, scopeOf_revokeIf r x, fun h => (isActive_of_revokeIf h).1⟩

theorem Succeeds.liveIn {y x : BookingLink} (h : Succeeds y x) {t p : Uuid} {s : Option Uuid}
    (hy : liveIn t p s y = true) : liveIn t p s x = true := by
  rw [liveIn_eq_true, ← h.scope] at *
  exact ⟨hy.1, h.active hy.2⟩

theorem ids_map_succeeds {f : BookingLink → BookingLink} {xs : List BookingLink}
    (hf : ∀ x ∈ xs, Succeeds (f x) x) : (xs.map f).map (·.id) = xs.map (·.id) := by
  rw [List.map_map]
  exact List.map_congr_left fun x hx => (hf x hx).id

theorem countP_map_succeeds {f : BookingLink → BookingLink} {xs : List BookingLink}
    (hf : ∀ x ∈ xs, Succeeds (f x) x) (t p : Uuid) (s : Option Uuid) :
    (xs.map f).countP (liveIn t p s) ≤ xs.countP (liveIn t p s) := by
  rw [List.countP_map]
  exact List.countP_mono_left fun x hx h => (hf x hx).liveIn h

/-- An issue leaves every stored link succeeded in its place and adds the new one after
them. -/
theorem Issued.links_succeed {db db' : Database} {ctx : Context} {practitioner : Uuid}
    {store : Option Uuid} {reissue allowMultiple : Bool} {l : BookingLink}
    (h : Issued db ctx practitioner store reissue allowMultiple l db') :
    ∃ f : BookingLink → BookingLink, (∀ x, Succeeds (f x) x) ∧ db'.links = db.links.map f ++ [l] := by
  cases reissue with
  | true => exact ⟨_, succeeds_revokeIf _, h.links⟩
  | false => exact ⟨id, fun x => ⟨rfl, rfl, fun h => h⟩, by rw [h.links, List.map_id]; rfl⟩

/-- On links with distinct ids, putting `l'` back under the id of the stored `l` leaves
every stored link succeeded in its place. -/
theorem succeeds_put {xs : List BookingLink} (hids : (xs.map (·.id)).Nodup) {l l' : BookingLink}
    (mem : l ∈ xs) (hid : l'.id = l.id) (hscope : scopeOf l' = scopeOf l)
    (hactive : l'.isActive = true → l.isActive = true) :
    ∀ x ∈ xs, Succeeds (if x.id == l'.id then l' else x) x := by
  intro x hx
  by_cases hx' : x.id = l'.id
  · have hxl : x = l := List.inj_on_of_nodup_map hids hx mem (hx'.trans hid)
    subst hxl
    rw [if_pos (beq_iff_eq.mpr hx')]
    exact ⟨hid, hscope, hactive⟩
  · rw [if_neg (by simpa using hx')]
    exact ⟨rfl, rfl, fun h => h⟩

end Link

/-! ## Runs of link requests -/

/-- A request of the link service that may write. -/
inductive LinkRequest where
  | issue (ctx : Context) (practitioner : Uuid) (createdBy : String) (store : Option Uuid)
      (expiresAt : Option Stamp) (reissue allowMultiple : Bool) (src : Link.ByteSource)
  | revoke (ctx : Context) (id : Uuid)
  | resolve (presented : String)

namespace LinkRequest

/-- The operation a request runs; its answer is dropped. -/
def run : LinkRequest → Op Unit
  | issue ctx practitioner createdBy store expiresAt reissue allowMultiple src =>
    Link.issue ctx practitioner createdBy store expiresAt reissue allowMultiple src >>=
      fun _ => pure ()
  | revoke ctx id => Link.revoke ctx id >>= fun _ => pure ()
  | resolve presented => Link.resolve presented >>= fun _ => pure ()

/-- The database a request leaves, whether it returned or failed. -/
def after (r : LinkRequest) (db : Database) : Database := leaves r.run db

/-- The database a run of requests leaves. -/
def afterAll : List LinkRequest → Database → Database
  | [], db => db
  | r :: rs, db => afterAll rs (r.after db)

/-- Whether the request issues into the scope of `t`, `p` and `s` without revoking and with
several links allowed: the one request that may give a scope a second active link. -/
def widens (t p : Uuid) (s : Option Uuid) : LinkRequest → Bool
  | issue ctx practitioner _ store _ reissue allowMultiple _ =>
    (ctx.tenant, practitioner, store) == (t, p, s) && !reissue && allowMultiple
  | _ => false

end LinkRequest

open Link

/-- What one request does to the links: it keeps them, adds the link an issue returns, or
puts one stored link back under its id, in its scope, and active only if it was. -/
inductive LinkChange (db db' : Database) : LinkRequest → Prop where
  | keep {r : LinkRequest} (links : db'.links = db.links) (issued : db.issued ≤ db'.issued) :
      LinkChange db db' r
  | add {ctx : Context} {practitioner : Uuid} {createdBy : String} {store : Option Uuid}
      {expiresAt : Option Stamp} {reissue allowMultiple : Bool} {src : ByteSource} {l : BookingLink}
      (h : Issued db ctx practitioner store reissue allowMultiple l db') :
      LinkChange db db' (.issue ctx practitioner createdBy store expiresAt reissue allowMultiple src)
  | put {r : LinkRequest} (l l' : BookingLink) (mem : l ∈ db.links) (id : l'.id = l.id)
      (scope : scopeOf l' = scopeOf l) (active : l'.isActive = true → l.isActive = true)
      (links : db'.links = (db.putLink l').links) (issued : db.issued ≤ db'.issued) :
      LinkChange db db' r

/-- Every request changes the links in one of the three ways. -/
theorem LinkRequest.change (r : LinkRequest) (db : Database) : LinkChange db (r.after db) r := by
  have h : wp r.run (fun _ db' => LinkChange db db' r) (fun _ db' => LinkChange db db' r) db := by
    cases r with
    | issue ctx practitioner createdBy store expiresAt reissue allowMultiple src =>
      rw [LinkRequest.run, wp_bind_unit]
      exact wp_mono (issue_wp ctx practitioner createdBy store expiresAt db src reissue allowMultiple)
        (fun _ _ h => .add h) fun _ _ h => .keep h.1 h.2
    | revoke ctx id =>
      rw [LinkRequest.run, wp_bind_unit]
      refine wp_mono (revoke_wp ctx db id) ?_ fun _ _ h => h ▸ .keep rfl (Nat.le_refl _)
      rintro _ _ ⟨l, hl, rfl, rfl⟩
      exact .put l { l with status := "revoked" } hl rfl rfl
        (fun h => by simp [BookingLink.isActive] at h) rfl (Nat.le_refl _)
    | resolve presented =>
      rw [LinkRequest.run, wp_bind_unit]
      refine wp_mono (resolve_wp db presented) ?_ fun _ _ h => .keep h.links_eq h.1
      rintro _ _ ⟨l, hl, used, hlinks, hissued⟩
      exact .put l { l with lastUsedAt := some used } hl rfl rfl (fun h => h) hlinks hissued
  exact leaves_of_wp h

/-- The stored links have distinct ids, all of them given out already. -/
structure LinkIds (db : Database) : Prop where
  nodup : (db.links.map (·.id)).Nodup
  given : ∀ x ∈ db.links, x.id.value ≤ db.issued

theorem LinkIds.of_empty {db : Database} (h : db.links = []) : LinkIds db :=
  ⟨by simp [h], by simp [h]⟩

/-- No stored link under id `i` is active, and `i` was given out already, so no new link
takes it. -/
def Dormant (db : Database) (i : Uuid) : Prop :=
  i.value ≤ db.issued ∧ ∀ y ∈ db.links, y.id = i → y.isActive = false

theorem LinkIds.dormant {db : Database} (h : LinkIds db) {x : BookingLink} (hx : x ∈ db.links)
    (hoff : x.isActive = false) : Dormant db x.id :=
  ⟨h.given x hx, fun _ hy hyx => List.inj_on_of_nodup_map h.nodup hy hx hyx ▸ hoff⟩

namespace LinkChange

variable {db db' : Database} {r : LinkRequest}

/-- On links with distinct ids, a request leaves every stored link succeeded in its place and
adds at most one link, under an id it gave out. -/
theorem shape (h : LinkChange db db' r) (hids : LinkIds db) :
    db.issued ≤ db'.issued ∧ ∃ f : BookingLink → BookingLink, (∀ x ∈ db.links, Succeeds (f x) x) ∧
      ∃ new : Option BookingLink, db'.links = db.links.map f ++ new.toList ∧
        ∀ y ∈ new, db.issued < y.id.value ∧ y.id.value ≤ db'.issued := by
  cases h with
  | keep links issued =>
    refine ⟨issued, id, fun x _ => ⟨rfl, rfl, fun h => h⟩, none, ?_, by simp⟩
    rw [links, List.map_id, Option.toList_none, List.append_nil]
  | add h =>
    obtain ⟨f, hf, hlinks⟩ := h.links_succeed
    exact ⟨Nat.le_of_lt (Nat.lt_of_lt_of_le h.fresh h.counted), f, fun x _ => hf x, some _, hlinks,
      by simp [h.fresh, h.counted]⟩
  | put l l' mem hid scope active links issued =>
    exact ⟨issued, _, succeeds_put hids.nodup mem hid scope active, none,
      by rw [links, Option.toList_none, List.append_nil]; rfl, by simp⟩

theorem linkIds (h : LinkChange db db' r) (hids : LinkIds db) : LinkIds db' := by
  obtain ⟨hissued, f, hf, new, hlinks, hnew⟩ := h.shape hids
  constructor
  · rw [hlinks, List.map_append, ids_map_succeeds hf, List.nodup_append]
    refine ⟨hids.nodup, by cases new <;> simp, fun a ha b hb hab => ?_⟩
    obtain ⟨y, hy, rfl⟩ := List.mem_map.mp hb
    obtain ⟨x, hx, rfl⟩ := List.mem_map.mp ha
    have := hids.given x hx
    have := (hnew y (Option.mem_toList.mp hy)).1
    rw [hab] at *
    omega
  · intro y hy
    rw [hlinks, List.mem_append] at hy
    rcases hy with hy | hy
    · obtain ⟨x, hx, rfl⟩ := List.mem_map.mp hy
      rw [(hf x hx).id]
      exact Nat.le_trans (hids.given x hx) hissued
    · exact (hnew y (Option.mem_toList.mp hy)).2

/-- A link that is not active stays so: a request never makes active a stored link under a
dormant id, and gives no new link that id. -/
theorem dormant (h : LinkChange db db' r) (hids : LinkIds db) {i : Uuid} (hi : Dormant db i) :
    Dormant db' i := by
  obtain ⟨hissued, f, hf, new, hlinks, hnew⟩ := h.shape hids
  refine ⟨Nat.le_trans hi.1 hissued, fun y hy hyi => ?_⟩
  rw [hlinks, List.mem_append] at hy
  rcases hy with hy | hy
  · obtain ⟨x, hx, rfl⟩ := List.mem_map.mp hy
    have hoff := hi.2 x hx ((hf x hx).id ▸ hyi)
    cases hy : (f x).isActive with
    | false => rfl
    | true => exact absurd ((hf x hx).active hy) (by simp [hoff])
  · have := (hnew y (Option.mem_toList.mp hy)).1
    rw [hyi] at this
    exact absurd hi.1 (Nat.not_le_of_lt this)

/-- A request that does not widen a scope leaves it with at most one active link if it had
at most one. -/
theorem activeCount_le (h : LinkChange db db' r) (hids : LinkIds db) {t p : Uuid}
    {s : Option Uuid} (hw : r.widens t p s = false) (h1 : activeCount db t p s ≤ 1) :
    activeCount db' t p s ≤ 1 := by
  cases h with
  | keep links _ => rwa [activeCount, links]
  | @add ctx practitioner _ store _ reissue allowMultiple _ l h =>
    by_cases hscope : (t, p, s) = (ctx.tenant, practitioner, store)
    · have hone : reissue = true ∨ allowMultiple = false := by
        revert hw
        cases reissue <;> cases allowMultiple <;> simp [LinkRequest.widens, hscope]
      rw [Prod.mk.injEq, Prod.mk.injEq] at hscope
      obtain ⟨rfl, rfl, rfl⟩ := hscope
      exact Nat.le_of_eq (h.activeCount_self hone)
    · rw [h.activeCount_other hscope]
      exact h1
  | put l l' mem hid scope active links _ =>
    calc activeCount db' t p s
        = (db.links.map fun x => if x.id == l'.id then l' else x).countP (liveIn t p s) := by
          rw [activeCount, links]
          rfl
      _ ≤ db.links.countP (liveIn t p s) :=
          countP_map_succeeds (succeeds_put hids.nodup mem hid scope active) t p s
      _ ≤ 1 := h1

end LinkChange

namespace LinkRequest

theorem linkIds_afterAll (rs : List LinkRequest) {db : Database} (h : LinkIds db) :
    LinkIds (afterAll rs db) := by
  induction rs generalizing db with
  | nil => exact h
  | cons r rs ih => exact ih ((r.change db).linkIds h)

/-- Over a whole run, an id whose links are all inactive keeps them so. -/
theorem dormant_afterAll (rs : List LinkRequest) {db : Database} (hids : LinkIds db) {i : Uuid}
    (h : Dormant db i) : Dormant (afterAll rs db) i := by
  induction rs generalizing db with
  | nil => exact h
  | cons r rs ih => exact ih ((r.change db).linkIds hids) ((r.change db).dormant hids h)

/-- Over a run in which no request widens a scope, the scope holds at most one active link
if it held at most one. -/
theorem activeCount_afterAll (rs : List LinkRequest) {db : Database} (hids : LinkIds db)
    {t p : Uuid} {s : Option Uuid} (h1 : activeCount db t p s ≤ 1)
    (hw : ∀ r ∈ rs, r.widens t p s = false) : activeCount (afterAll rs db) t p s ≤ 1 := by
  induction rs generalizing db with
  | nil => exact h1
  | cons r rs ih =>
    exact ih ((r.change db).linkIds hids)
      ((r.change db).activeCount_le hids (hw r List.mem_cons_self) h1)
      fun r' hr' => hw r' (List.mem_cons_of_mem r hr')

end LinkRequest

/-! ## The scope discipline -/

/-- What the link service guarantees from a state whose link ids are distinct and given
out. -/
structure LinkDiscipline (db : Database) : Prop where
  /-- A reissue leaves the new link its scope's only active one, revokes the scope's active
  links and leaves every other scope as it was. -/
  reissue : ∀ ctx practitioner createdBy store expiresAt allowMultiple src l db',
    (issue ctx practitioner createdBy store expiresAt true allowMultiple src).run db = .ok l db' →
      Reissued db ctx.tenant practitioner store l db'
  /-- A plain issue whose expiry and checks pass is refused as a conflict exactly when its
  scope holds an active link, expired or not. -/
  plain : ∀ ctx practitioner createdBy store expiresAt src, ExpiryAccepted db expiresAt →
    Issuable db ctx practitioner store →
    ((∃ e db', (issue ctx practitioner createdBy store expiresAt false false src).run db =
        .error e db' ∧ e.kind = "ConflictError") ↔
      ∃ x ∈ db.links, liveIn ctx.tenant practitioner store x = true)
  /-- An issued token is well formed and held by no stored link. -/
  tokens : ∀ ctx practitioner createdBy store expiresAt reissue allowMultiple src l db',
    (issue ctx practitioner createdBy store expiresAt reissue allowMultiple src).run db = .ok l db' →
      wellFormed l.token = true ∧ ∀ x ∈ db.links, x.token ≠ l.token
  /-- No run of requests makes a link that is not active active again. -/
  revoked : ∀ x ∈ db.links, x.isActive = false → ∀ rs : List LinkRequest,
    ∀ y ∈ (LinkRequest.afterAll rs db).links, y.id = x.id → y.isActive = false

theorem LinkIds.discipline {db : Database} (hids : LinkIds db) : LinkDiscipline db where
  reissue ctx practitioner createdBy store expiresAt allowMultiple src l db' h :=
    ((wp_iff_run.mp (issue_wp ctx practitioner createdBy store expiresAt db src true
      allowMultiple)).1 l db' h).reissued
  plain ctx practitioner createdBy _ _ _ hexp hiss := plain_issue_conflicts_iff createdBy hexp hiss
  tokens ctx practitioner createdBy store expiresAt reissue allowMultiple src l db' h := by
    have hissued := (wp_iff_run.mp (issue_wp ctx practitioner createdBy store expiresAt db src
      reissue allowMultiple)).1 l db' h
    exact ⟨hissued.wellFormed, hissued.unique⟩
  revoked x hx hoff rs := (LinkRequest.dormant_afterAll rs hids (hids.dormant hx hoff)).2

/-- From a table without links, every state a run of link requests reaches keeps the scope
discipline, and a scope that no request widened holds at most one active link. -/
theorem link_runs_keep_scopes {db : Database} (empty : db.links = []) (rs : List LinkRequest) :
    LinkDiscipline (LinkRequest.afterAll rs db) ∧
      ∀ t p s, (∀ r ∈ rs, r.widens t p s = false) →
        activeCount (LinkRequest.afterAll rs db) t p s ≤ 1 := by
  have hids := LinkIds.of_empty empty
  refine ⟨(LinkRequest.linkIds_afterAll rs hids).discipline, fun t p s hw => ?_⟩
  have h0 : activeCount db t p s = 0 := by simp [activeCount, empty]
  exact LinkRequest.activeCount_afterAll rs hids (by omega) hw

private def scopeDay : Date := ⟨epochDayNumber + 20004, by decide, by decide⟩
private def scopeNoon : TimeOfDay := ⟨43200000000, by decide⟩
private def scopeCtx : Context := ⟨⟨5⟩, none⟩
private def scopeStaff : Practitioner := ⟨⟨6⟩, ⟨5⟩, "Sato", true, none, .null, .null⟩

/-- A run that issues a link, reissues it and revokes the new one, from a table without
links. -/
private def scopeRun : List LinkRequest :=
  [.issue scopeCtx ⟨6⟩ "owner-1" none none false false mixedSource,
    .issue scopeCtx ⟨6⟩ "owner-1" none none true false mixedSource, .revoke scopeCtx ⟨2⟩]

private def scopeTable : Database :=
  { practitioners := [scopeStaff], clock := ⟨⟨scopeDay, scopeNoon⟩, 0⟩ }

theorem reissue_run_keeps_scopes :
    scopeTable.links = [] ∧
      (LinkDiscipline (LinkRequest.afterAll scopeRun scopeTable) ∧
        ∀ t p s, (∀ r ∈ scopeRun, r.widens t p s = false) →
          activeCount (LinkRequest.afterAll scopeRun scopeTable) t p s ≤ 1) :=
  ⟨rfl, link_runs_keep_scopes rfl scopeRun⟩

/-- An active link of the scope of `scopeStaff`. -/
private def scopeLink : BookingLink :=
  ⟨⟨1⟩, ⟨5⟩, none, ⟨6⟩, "abcdefghijklmnopqrstuvwxyz012345", "active", "owner-1",
    ⟨scopeDay, scopeNoon⟩, none, none⟩

private def staleTable : Database := { scopeTable with links := [scopeLink], issued := 1 }

/-- One second past midnight of the table's day, before its clock. -/
private def staleExpiry : Stamp := ⟨⟨scopeDay, ⟨1000000, by decide⟩⟩, none⟩

/-- A plain issue whose practitioner check passes, into a scope holding an active link, is
refused for an expiry already past before the scope is looked at: not as a conflict. -/
theorem stale_plain_issue_not_conflict :
    Issuable staleTable scopeCtx ⟨6⟩ none ∧
      (∃ x ∈ staleTable.links, liveIn scopeCtx.tenant ⟨6⟩ none x = true) ∧
      ¬ ∃ e db', (issue scopeCtx ⟨6⟩ "owner-1" none (some staleExpiry) false false mixedSource).run
        staleTable = .error e db' ∧ e.kind = "ConflictError" := by
  have hrun : (issue scopeCtx ⟨6⟩ "owner-1" none (some staleExpiry) false false mixedSource).run
      staleTable =
      .error (.invalid (.expiryNotInFuture staleExpiry.wall))
        { staleTable with clock := ⟨⟨scopeDay, scopeNoon⟩, 1⟩ } := rfl
  refine ⟨⟨scopeStaff, rfl, rfl, fun _ h => nomatch h⟩, ⟨scopeLink, List.mem_singleton_self _, rfl⟩, ?_⟩
  rintro ⟨e, db', h, hkind⟩
  rw [hrun] at h
  cases h
  simp [Fault.invalid, Fault.kind] at hkind

end SalonBooking
