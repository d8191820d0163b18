import Mathlib
import SalonBooking.Proofs.LinkResolution

/-!
The form of booking-link tokens. A text has the form of a token exactly when it is a token
word, 16 to 128 ASCII letters, digits, `_` and `-`, or such a word followed by one line
end, as a line-anchored pattern reads it. A new token is the URL-safe base64 text of 24
random bytes, a token word of 32 characters, whatever the bytes. A presented text is
stripped of white space before it is checked and looked up, and a stripped text never ends
in a line end: a link that can be used is reached by exactly the texts that strip to its
token.
-/

namespace SalonBooking

open SalonBooking.Calendar Op Database

namespace Link

/-- A token word: 16 to 128 characters, each an ASCII letter or digit, `_` or `-`. -/
def TokenWord (w : String) : Prop :=
  16 ≤ w.length ∧ w.length ≤ 128 ∧ ∀ c ∈ w.toList, c.isAlphanum = true ∨ c = '_' ∨ c = '-'

theorem isTokenChar_iff (c : Char) :
    isTokenChar c = true ↔ c.isAlphanum = true ∨ c = '_' ∨ c = '-' := by
  simp [isTokenChar, Char.isAlphanum, Char.isAlpha, Char.isUpper, Char.isLower, Char.isDigit,
    Char.le_def, or_assoc]

theorem isTokenBody_iff (w : String) : isTokenBody w.toList = true ↔ TokenWord w := by
  simp [isTokenBody, TokenWord, isTokenChar_iff, String.length_toList, and_assoc]

/-- The pattern's end anchor also matches before one last line end. -/
theorem wellFormed_iff (s : String) :
    wellFormed s = true ↔ ∃ w, TokenWord w ∧ (s = w ∨ s = w ++ "\n") := by
  constructor
  · intro h
    simp only [wellFormed, Bool.or_eq_true, Bool.and_eq_true, beq_iff_eq] at h
    rcases h with hbody | ⟨hlast, hbody⟩
    · exact ⟨s, (isTokenBody_iff s).mp hbody, .inl rfl⟩
    · -- the word is the text less its last character, the line end
      obtain ⟨cs, hcs⟩ := List.getLast?_eq_some_iff.mp hlast
      refine ⟨String.ofList cs, (isTokenBody_iff _).mp ?_, .inr (String.ext ?_)⟩
      · have hword : (String.ofList cs).toList = cs := String.toList_ofList
        rwa [hcs, List.dropLast_concat, ← hword] at hbody
      · rw [String.toList_append, String.toList_ofList, hcs]
        rfl
  · rintro ⟨w, hw, rfl | rfl⟩
    · simp [wellFormed, (isTokenBody_iff _).mpr hw]
    · simp [wellFormed, (isTokenBody_iff _).mpr hw]

/-- The text of `tokenBytes` bytes is a token word of 32 characters. -/
theorem urlsafeText_tokenWord {bytes : List UInt8} (h : bytes.length = tokenBytes) :
    TokenWord (urlsafeText bytes) ∧ (urlsafeText bytes).length = 32 := by
  refine ⟨(isTokenBody_iff _).mp ?_, ?_⟩
  · rw [urlsafeText, String.toList_ofList]
    exact isTokenBody_urlsafeDigits h
  · rw [urlsafeText, ← String.length_toList, String.toList_ofList, urlsafeDigits_length, h]
    rfl

/-- The token a new link gets is the text of the bytes drawn for one of its attempts. -/
theorem uniqueToken_eq {id : Uuid} {src : ByteSource} {db db' : Database} {token : String}
    (h : (uniqueToken id src).run db = .ok token db') :
    ∃ attempt, token = urlsafeText (src.draw id attempt) := by
  have hw : wp (uniqueToken id src) (fun token _ => ∃ attempt, token = tokenFor id attempt src)
      (fun _ _ => True) db := by
    simp only [uniqueToken, wp_bind, wp_get]
    split
    · exact ⟨_, rfl⟩
    · trivial
  rwa [wp_of_run_ok h] at hw

section Reach

-- A presented text is read only through its stripped form.
attribute [local irreducible] strip

variable {db : Database} {now : DateTime} {l : BookingLink} {t : Tenant} {p : Practitioner}
  {store : Option Store} {line : Line.Resolved}

/-- With tokens unique among the stored links, a link that can be used, with settings that
can be read, is found by exactly the presented texts that strip to its token. -/
theorem resolution_finds_iff (htokens : (db.links.map (·.token)).Nodup)
    (hnow : db.clock.base.shift ((db.clock.reads + 1 : Nat) : Int) = .ok now)
    (hl : Leads db l.token now l t p store) (hline : settings t p store = .ok line)
    (s : String) :
    (∃ r db', (resolution s).run db = .ok (l, r) db') ↔ strip s = l.token := by
  have hw := resolution_wp_leads s htokens hnow
  constructor
  · rintro ⟨r, db', hrun⟩
    rw [wp_of_run_ok hrun] at hw
    obtain ⟨-, t', p', store', line', h, -⟩ := hw
    exact h.token_eq.symm
  · intro hs
    have h : Leads db (strip s) now l t p store := by
      rw [hs]
      exact hl
    cases hrun : (resolution s).run db with
    | ok found db' =>
      rw [wp_of_run_ok hrun] at hw
      obtain ⟨-, t', p', store', line', h', -⟩ := hw
      obtain ⟨hfound, -⟩ := h.unique htokens h'
      exact ⟨found.2, db', by rw [← hfound]⟩
    | error e db' =>
      -- a failure would refuse a text that leads to `l`, or fail in its readable settings
      rw [wp_of_run_error hrun] at hw
      rcases hw.2 with ⟨hno, -⟩ | ⟨l', t', p', store', h', hline'⟩
      · exact absurd h (hno l t p store)
      · obtain ⟨rfl, rfl, rfl, rfl⟩ := h.unique htokens h'
        rw [hline] at hline'
        cases hline'

end Reach

/-- Token form. A text passes the token check exactly when it is a token word or a token
word followed by one line end. Every new token is the URL-safe text of the `tokenBytes` = 24
bytes its source draws for one attempt, and the text of any 24 bytes is a token word of 32
characters. With tokens
unique among the stored links, a link that can be used, with settings that can be read, is
found by exactly the presented texts that strip to its token. -/
theorem token_form :
    (∀ s : String, wellFormed s = true ↔ ∃ w, TokenWord w ∧ (s = w ∨ s = w ++ "\n")) ∧
    (∀ bytes : List UInt8, bytes.length = tokenBytes →
      TokenWord (urlsafeText bytes) ∧ (urlsafeText bytes).length = 32) ∧
    (∀ (src : ByteSource) (id : Uuid) (db db' : Database) (token : String),
      (uniqueToken id src).run db = .ok token db' →
      (∃ attempt, token = urlsafeText (src.draw id attempt)) ∧
        TokenWord token ∧ token.length = 32) ∧
    (∀ (db : Database) (now : DateTime) (l : BookingLink) (t : Tenant) (p : Practitioner)
      (store : Option Store) (line : Line.Resolved),
      (db.links.map (·.token)).Nodup →
      db.clock.base.shift ((db.clock.reads + 1 : Nat) : Int) = .ok now →
      Leads db l.token now l t p store → settings t p store = .ok line →
      ∀ s, (∃ r db', (resolution s).run db = .ok (l, r) db') ↔ strip s = l.token) := by
  refine ⟨wellFormed_iff, fun _ h => urlsafeText_tokenWord h, fun src id db db' token h => ?_,
    fun _ _ _ _ _ _ _ htokens hnow hl hline => resolution_finds_iff htokens hnow hl hline⟩
  obtain ⟨attempt, rfl⟩ := uniqueToken_eq h
  exact ⟨⟨attempt, rfl⟩, urlsafeText_tokenWord (src.length_draw id attempt)⟩

/-! ## A link found by a padded text -/

private def padDay : Date := ⟨epochDayNumber + 20900, by decide, by decide⟩
private def padToken : String := "ABCDEFGHIJKLMNOPqrstuvwxyz-_0123"
private def padTenant : Tenant := ⟨⟨1⟩, "Salon", "test-salon", some "trial", .obj []⟩
private def padPractitioner : Practitioner := ⟨⟨2⟩, ⟨1⟩, "Mio", true, none, .arr [], .null⟩
private def padRow : BookingLink :=
  ⟨⟨3⟩, ⟨1⟩, none, ⟨2⟩, padToken, "active", "owner", ⟨padDay, ⟨53100000000, by decide⟩⟩, none, none⟩
private def padTable : Database :=
  { tenants := [padTenant], practitioners := [padPractitioner], links := [padRow],
    clock := ⟨⟨padDay, ⟨53100000000, by decide⟩⟩, 0⟩ }

/-- A link that never expires, of a tenant on trial with an empty settings document, is
found by its token with a blank before it and a line end after it. -/
theorem padded_token_finds_link :
    strip (" " ++ padToken ++ "\n") = padRow.token ∧
      ∃ r db', (resolution (" " ++ padToken ++ "\n")).run padTable = .ok (padRow, r) db' := by
  have hs : strip (" " ++ padToken ++ "\n") = padRow.token := by decide
  have hleads : Leads padTable padRow.token ⟨padDay, ⟨53100000001, by decide⟩⟩ padRow padTenant
      padPractitioner none :=
    ⟨by decide, List.mem_singleton_self _, rfl, rfl, fun _ he => (by cases he), rfl, .inr rfl,
      rfl, rfl, rfl, fun _ hs => (by cases hs)⟩
  exact ⟨hs, ((token_form.2.2.2 padTable _ padRow padTenant padPractitioner none
    ⟨.tenant, .tenant, .obj [("liff_id", .null), ("channel_id", .null),
      ("channel_access_token", .null), ("channel_secret", .null)], none, none⟩
    (by decide) rfl hleads rfl) _).mpr hs⟩

end Link

end SalonBooking
