import IamAuth.Spelling

/-!
# The keys of the permission cache

A key joins a tenant, a project and a user by colons, with "-" for what is empty.
No part of it has a colon, so the parts are found again from the key, and a
pattern that ends in the text of a user finds the keys of that user only.
-/

set_option autoImplicit false

namespace IamAuth

open Interleave

/-! ## Canonical texts -/

/-- A character of `Uuid::to_string`: a lower-case hex digit or a hyphen. -/
def uuidChar (c : Char) : Bool := c == '-' || c.isDigit || ('a' ≤ c && c ≤ 'f')

/-- Hex digits in groups of 8-4-4-4-12. -/
def CanonicalUuid (s : String) : Prop :=
  (s.toList.splitOn '-').map List.length = [8, 4, 4, 4, 12] ∧ ∀ c ∈ s.toList, uuidChar c = true

/-- The tenant or project of a key: a canonical UUID, or nothing. -/
def CanonicalScope (s : String) : Prop := s = "" ∨ CanonicalUuid s

instance (s : String) : Decidable (CanonicalUuid s) := inferInstanceAs (Decidable (_ ∧ _))

instance (s : String) : Decidable (CanonicalScope s) := inferInstanceAs (Decidable (_ ∨ _))

theorem uuidChar_plain {c : Char} (h : uuidChar c = true) : c ≠ ':' ∧ c ≠ '*' ∧ c ≠ '?' := by
  refine ⟨?_, ?_, ?_⟩
  · rintro rfl
    exact absurd h (by decide)
  · rintro rfl
    exact absurd h (by decide)
  · rintro rfl
    exact absurd h (by decide)

theorem CanonicalUuid.not_colon {s : String} (h : CanonicalUuid s) : ':' ∉ s.toList :=
  fun hmem => (uuidChar_plain (h.2 ':' hmem)).1 rfl

theorem CanonicalUuid.no_wildcard {s : String} (h : CanonicalUuid s) :
    ∀ c ∈ s.toList, c ≠ '*' ∧ c ≠ '?' :=
  fun c hc => (uuidChar_plain (h.2 c hc)).2

theorem CanonicalUuid.ne_empty {s : String} (h : CanonicalUuid s) : s ≠ "" := by
  rintro rfl
  exact absurd h.1 (by decide)

theorem CanonicalUuid.ne_dash {s : String} (h : CanonicalUuid s) : s ≠ "-" := by
  rintro rfl
  exact absurd h.1 (by decide)

/-- What perms_key writes for a tenant or a project. -/
def keyPart (s : String) : String := if s.isEmpty then "-" else s

theorem CanonicalScope.not_colon {s : String} (h : CanonicalScope s) :
    ':' ∉ (keyPart s).toList := by
  unfold keyPart
  split
  · decide
  · next hne =>
    rcases h with rfl | h
    · exact absurd rfl hne
    · exact h.not_colon

/-- The sentinel is no canonical text. -/
theorem keyPart_inj {s s' : String} (h : CanonicalScope s) (h' : CanonicalScope s')
    (heq : keyPart s = keyPart s') : s = s' := by
  have hpart : ∀ {x : String}, CanonicalUuid x → keyPart x = x := by
    intro x hx
    simp [keyPart, hx.ne_empty]
  rcases h with rfl | h
  · rcases h' with rfl | h'
    · rfl
    · rw [hpart h'] at heq
      exact absurd heq.symm h'.ne_dash
  · rw [hpart h] at heq
    rcases h' with rfl | h'
    · exact absurd heq h.ne_dash
    · rwa [hpart h'] at heq

theorem permsKey_toList (tenant project user : String) :
    (permsKey tenant project user).toList = [':'].intercalate
      ["perms".toList, (keyPart tenant).toList, (keyPart project).toList, user.toList] := by
  simp [permsKey, keyPart]

/-! ## Keys, patterns and the scan -/

section

variable {tenant project user tenant' project' user' : String}

theorem permsKey_inj (htenant : CanonicalScope tenant) (hproject : CanonicalScope project)
    (huser : CanonicalUuid user) (htenant' : CanonicalScope tenant')
    (hproject' : CanonicalScope project')
    (heq : permsKey tenant project user = permsKey tenant' project' user') :
    tenant = tenant' ∧ project = project' ∧ user = user' := by
  have hlist := congrArg String.toList heq
  rw [permsKey_toList, permsKey_toList] at hlist
  obtain ⟨ht, hp, hu⟩ := parts_eq htenant.not_colon hproject.not_colon huser.not_colon hlist.symm
  refine ⟨?_, ?_, String.toList_inj.mp hu.symm⟩
  · exact keyPart_inj htenant htenant' (String.toList_inj.mp ht.symm)
  · exact keyPart_inj hproject hproject' (String.toList_inj.mp hp.symm)

/-- The two stars may match colons, but the last part of a key has none. -/
theorem match_permsKey (htenant : CanonicalScope tenant) (hproject : CanonicalScope project)
    (huser : CanonicalUuid user) (huser' : CanonicalUuid user') :
    globMatch (spelledPattern user').toList (permsKey tenant project user).toList = true ↔
      user = user' := by
  have hjoin : (permsKey tenant project user).toList = "perms:".toList ++
      ((keyPart tenant).toList ++ ':' :: ((keyPart project).toList ++ ':' :: user.toList)) := by
    rw [permsKey_toList]
    simp
  rw [match_spelledPattern huser'.no_wildcard, hjoin]
  constructor
  · rintro ⟨x, y, heq⟩
    have hparts : [':'].intercalate ["perms".toList, x, y, user'.toList] =
        [':'].intercalate ["perms".toList, (keyPart tenant).toList, (keyPart project).toList,
          user.toList] := by
      simpa using heq.symm
    obtain ⟨-, -, hlast⟩ := parts_eq htenant.not_colon hproject.not_colon huser.not_colon hparts
    exact String.toList_inj.mp hlast.symm
  · rintro rfl
    exact ⟨_, _, rfl⟩

end

/-- A key of this user, for some tenant and project. -/
def KeyOf (user key : String) : Prop :=
  ∃ tenant project, CanonicalScope tenant ∧ CanonicalScope project ∧
    key = permsKey tenant project user

theorem keyOf_match {user user' key : String} (hkey : KeyOf user key) (huser : CanonicalUuid user)
    (huser' : CanonicalUuid user') :
    globMatch (spelledPattern user').toList key.toList = true ↔ user = user' := by
  obtain ⟨tenant, project, htenant, hproject, rfl⟩ := hkey
  exact match_permsKey htenant hproject huser huser'

/-- Keys name their parts, a pattern finds one user, and an invalidation whose scan
is complete by the time `T` leaves no entry of that user alive and all others as they were. -/
structure ExactKeys (cr : Crates) (conn : DbRole) : Prop where
  injective : ∀ tenant project user tenant' project' user', CanonicalScope tenant →
    CanonicalScope project → CanonicalUuid user → CanonicalScope tenant' →
    CanonicalScope project' → CanonicalUuid user' →
    permsKey tenant project user = permsKey tenant' project' user' →
    tenant = tenant' ∧ project = project' ∧ user = user'
  pattern : ∀ tenant project user user', CanonicalScope tenant → CanonicalScope project →
    CanonicalUuid user → CanonicalUuid user' →
    (globMatch (spelledPattern user').toList (permsKey tenant project user).toList = true ↔
      user = user')
  sweep : ∀ (svc : AuthSvc) (T : DateTime) (cs : Nat → Choice) (st : State) (user : String),
    svc.cacheConn = true → 0 < svc.scanFuel → CanonicalUuid user →
    (invalidatePerms svc user).Meets (machine cr conn) (RedisServes T svc.scanFuel) cs st [] →
    ∀ x ∈ st.redis, ∀ user', CanonicalUuid user' → KeyOf user' x.key →
      (user' = user → T < x.expiresAt →
        x ∉ ((invalidatePerms svc user).eval (machine cr conn) cs st).2.1.redis) ∧
      (user' ≠ user → x ∈ ((invalidatePerms svc user).eval (machine cr conn) cs st).2.1.redis)

theorem exactKeys (cr : Crates) (conn : DbRole) : ExactKeys cr conn where
  injective _ _ _ _ _ _ htenant hproject huser htenant' hproject' _ heq :=
    permsKey_inj htenant hproject huser htenant' hproject' heq
  pattern _ _ _ _ htenant hproject huser huser' := match_permsKey htenant hproject huser huser'
  sweep svc T cs st user hconn hpos huser hserves x hx user' huser' hkey := by
    have hends : (invalidatePerms svc user).Ends (machine cr conn) (RedisServes T svc.scanFuel)
        (fun _ st' _ => Swept T (fun k => globMatch (spelledPattern user).toList k.toList = true)
          st.redis st'.redis) st [] :=
      sweeps_invalidatePerms (fun _ _ _ _ h => h) hconn rfl hpos user fun _ _ hswept => hswept
    have hswept := hends.eval_meets hserves
    have hmatch := keyOf_match hkey huser' huser
    constructor
    · intro hsame hlive hmem
      have hgone := hswept.gone x hmem (hmatch.mpr hsame)
      exact absurd hlive (Int.not_lt.mpr hgone)
    · intro hother
      exact hswept.kept x hx fun h => hother (hmatch.mp h)

namespace Sample

/-- Users 10 and 11 have an entry each. -/
def twoEntries : State :=
  { stateOf (user 10 none false) with
    redis := [⟨permsKey (formatUuid 1) "" (formatUuid 10), "[]", seconds 60⟩,
      ⟨permsKey (formatUuid 1) (formatUuid 2) (formatUuid 11), "[]", seconds 60⟩] }

/-- The scan offers both keys. -/
def offered : Choice :=
  { choice 0 0 "" with
    texts := [permsKey (formatUuid 1) "" (formatUuid 10),
      permsKey (formatUuid 1) (formatUuid 2) (formatUuid 11)] }

theorem uuidChar_hexDigit : ∀ n < 16, uuidChar (hexDigit n) = true := by decide

theorem canonical_formatUuid (u : Uuid) : CanonicalUuid (formatUuid u) := by
  constructor
  · rw [formatUuid_toList, splitOn_hyphenate (hyphen_not_mem u)]
    simp [length_hexDigits]
  · intro c hc
    rw [formatUuid_toList] at hc
    rcases mem_hyphenate hc with hdigit | rfl
    · obtain ⟨n, hn, rfl⟩ := List.mem_map.mp hdigit
      exact uuidChar_hexDigit n (hexDigits_lt u n hn)
    · decide

end Sample

/-- An invalidation of user 10 deletes the entry of user 10 and leaves that of user 11. -/
theorem exactKeys_twoEntries :
    let left := ((invalidatePerms Sample.cacheSvc (Sample.formatUuid 10)).eval
      (machine Sample.crates .superuser) (fun _ => Sample.offered) Sample.twoEntries).2.1.redis
    ⟨permsKey (Sample.formatUuid 1) "" (Sample.formatUuid 10), "[]", seconds 60⟩ ∉ left ∧
    ⟨permsKey (Sample.formatUuid 1) (Sample.formatUuid 2) (Sample.formatUuid 11), "[]",
      seconds 60⟩ ∈ left := by
  have hsweep := (exactKeys Sample.crates .superuser).sweep Sample.cacheSvc 0
    (fun _ => Sample.offered) Sample.twoEntries (Sample.formatUuid 10) rfl (by decide)
    (Sample.canonical_formatUuid 10) (by decide +kernel)
  have hdeleted := hsweep _ List.mem_cons_self (Sample.formatUuid 10)
    (Sample.canonical_formatUuid 10) ⟨Sample.formatUuid 1, "",
      .inr (Sample.canonical_formatUuid 1), .inl rfl, rfl⟩
  have hkept := hsweep _ (List.mem_cons_of_mem _ List.mem_cons_self) (Sample.formatUuid 11)
    (Sample.canonical_formatUuid 11) ⟨Sample.formatUuid 1, Sample.formatUuid 2,
      .inr (Sample.canonical_formatUuid 1), .inr (Sample.canonical_formatUuid 2), rfl⟩
  exact ⟨hdeleted.1 rfl (by decide), hkept.2 (by decide)⟩

end IamAuth
