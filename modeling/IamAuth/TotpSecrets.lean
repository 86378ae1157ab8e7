import IamAuth.Crates

/-!
# TOTP secrets at rest

A stored secret carries in its text whether it was encrypted. `decryptOutcome`
is decrypt with the panic of its split and the messages of its errors, which
`Encryptor.decrypt` drops as the handlers do. What is read back after a change
of `TOTP_ENC_KEY` depends on the two keys and on the tag alone.
-/

set_option autoImplicit false

namespace IamAuth

variable {cr : Crates}

/-! ## decrypt with its errors -/

inductive Outcome (α : Type) where
  | ok (a : α)
  | err (message : String)
  | panic
  deriving DecidableEq, Repr

def Outcome.toOption {α : Type} : Outcome α → Option α
  | .ok a => some a
  | _ => none

/-- `slice::split_at`, which panics past the end of the slice. -/
def splitBytes (n : Nat) (bytes : List UInt8) : Option (List UInt8 × List UInt8) :=
  if n ≤ bytes.length then some (bytes.take n, bytes.drop n) else none

/-- The messages come without the text of the crate's own error. -/
def Encryptor.decryptOutcome (cr : Crates) (e : Encryptor) (stored : String) : Outcome String :=
  match stripPrefix encPrefix stored with
  | none => .ok stored
  | some rest =>
    match e.cipher with
    | none => .err "totp secret is encrypted but TOTP_ENC_KEY is not set"
    | some key =>
      match cr.base64Decode rest with
      | none => .err "decode totp secret"
      | some raw =>
        if raw.length < nonceLen then .err "totp secret ciphertext too short"
        else
          match splitBytes nonceLen raw with
          | none => .panic
          | some (nonce, ct) =>
            match cr.aesDecrypt key nonce ct with
            | none => .err "decrypt totp secret"
            | some plain =>
              match fromUtf8 plain with
              | none => .err "totp secret not utf-8"
              | some s => .ok s

/-- The check of the length guards the split. -/
theorem splitBytes_of_not_short {raw : List UInt8} (h : ¬raw.length < nonceLen) :
    splitBytes nonceLen raw = some (raw.take nonceLen, raw.drop nonceLen) := by
  apply if_pos
  omega

theorem decrypt_eq (e : Encryptor) (stored : String) :
    e.decrypt cr stored = (e.decryptOutcome cr stored).toOption := by
  unfold Encryptor.decrypt Encryptor.decryptOutcome
  cases stripPrefix encPrefix stored with
  | none => rfl
  | some rest =>
    cases e.cipher with
    | none => rfl
    | some key =>
      dsimp only
      cases cr.base64Decode rest with
      | none => rfl
      | some raw =>
        dsimp only
        by_cases hshort : raw.length < nonceLen
        · rw [if_pos hshort, if_pos hshort]
          rfl
        rw [if_neg hshort, if_neg hshort, splitBytes_of_not_short hshort]
        dsimp only
        cases cr.aesDecrypt key (raw.take nonceLen) (raw.drop nonceLen) with
        | none => rfl
        | some plain =>
          rw [Option.bind_some]
          dsimp only
          cases fromUtf8 plain with
          | none => rfl
          | some s => rfl

/-- The payload is the base64 of a nonce and of bytes that authenticate under the
key and are the UTF-8 of `plain`. -/
structure Opens (cr : Crates) (key : List UInt8) (payload plain : String) : Prop where
  opens : ∃ raw bytes, cr.base64Decode payload = some raw ∧ nonceLen ≤ raw.length ∧
    cr.aesDecrypt key (raw.take nonceLen) (raw.drop nonceLen) = some bytes ∧
    fromUtf8 bytes = some plain

/-- All that decrypt can come to. -/
theorem decryptOutcome_cases (cr : Crates) (e : Encryptor) (stored : String) :
    (stripPrefix encPrefix stored = none ∧ e.decryptOutcome cr stored = .ok stored) ∨
    (∃ payload message, stripPrefix encPrefix stored = some payload ∧
      e.decryptOutcome cr stored = .err message) ∨
    ∃ payload key plain, stripPrefix encPrefix stored = some payload ∧ e.cipher = some key ∧
      Opens cr key payload plain ∧ e.decryptOutcome cr stored = .ok plain := by
  unfold Encryptor.decryptOutcome
  cases stripPrefix encPrefix stored with
  | none => exact .inl ⟨rfl, rfl⟩
  | some payload =>
    refine .inr ?_
    cases e.cipher with
    | none => exact .inl ⟨payload, _, rfl, rfl⟩
    | some key =>
      cases hraw : cr.base64Decode payload with
      | none => exact .inl ⟨payload, "decode totp secret", rfl, by simp [hraw]⟩
      | some raw =>
        by_cases hshort : raw.length < nonceLen
        · exact .inl ⟨payload, "totp secret ciphertext too short", rfl, by simp [hraw, hshort]⟩
        cases hbytes : cr.aesDecrypt key (raw.take nonceLen) (raw.drop nonceLen) with
        | none =>
          refine .inl ⟨payload, "decrypt totp secret", rfl, ?_⟩
          simp [hraw, hshort, splitBytes_of_not_short hshort, hbytes]
        | some bytes =>
          cases hutf : fromUtf8 bytes with
          | none =>
            refine .inl ⟨payload, "totp secret not utf-8", rfl, ?_⟩
            simp [hraw, hshort, splitBytes_of_not_short hshort, hbytes, hutf]
          | some plain =>
            have hlong : nonceLen ≤ raw.length := by omega
            refine .inr ⟨payload, key, plain, rfl, rfl, ⟨raw, bytes, hraw, hlong, hbytes, hutf⟩, ?_⟩
            simp [hraw, hshort, splitBytes_of_not_short hshort, hbytes, hutf]

theorem decryptOutcome_ne_panic (cr : Crates) (e : Encryptor) (stored : String) :
    e.decryptOutcome cr stored ≠ .panic := by
  intro hpanic
  rcases decryptOutcome_cases cr e stored with
    ⟨-, h⟩ | ⟨payload, message, -, h⟩ | ⟨payload, key, plain, -, -, -, h⟩
  · cases hpanic.symm.trans h
  · cases hpanic.symm.trans h
  · cases hpanic.symm.trans h

theorem decryptOutcome_ok {e : Encryptor} {stored payload plain : String}
    (htag : stripPrefix encPrefix stored = some payload)
    (h : e.decryptOutcome cr stored = .ok plain) :
    ∃ key, e.cipher = some key ∧ Opens cr key payload plain := by
  rcases decryptOutcome_cases cr e stored with
    ⟨hnone, -⟩ | ⟨payload', message, -, herr⟩ |
      ⟨payload', key, plain', htag', hkey, hopens, hok⟩
  · cases hnone.symm.trans htag
  · cases h.symm.trans herr
  · cases htag.symm.trans htag'
    cases h.symm.trans hok
    exact ⟨key, hkey, hopens⟩

/-! ## What a change of the key does to a stored secret -/

/-- What the service relies on: base64 and AES-GCM give back what they were given, and
a SHA-256 digest has 32 bytes. -/
structure SealingCrates (cr : Crates) : Prop where
  base64 : ∀ bytes, cr.base64Decode (cr.base64Encode bytes) = some bytes
  aes : ∀ key nonce bytes ct, key.length = 32 → nonce.length = nonceLen →
    cr.aesEncrypt key nonce bytes = some ct → cr.aesDecrypt key nonce ct = some bytes
  sha256 : ∀ bytes, (cr.sha256 bytes).length = 32

theorem length_deriveKey (hcr : SealingCrates cr) (key : String) :
    (deriveKey cr key).length = 32 := by
  unfold deriveKey
  split
  · split
    · next hlen => exact hlen
    · exact hcr.sha256 _
  · exact hcr.sha256 _

theorem cipher_new_empty (cr : Crates) : (Encryptor.new cr "").cipher = none := rfl

theorem cipher_new {key : String} (h : key ≠ "") :
    (Encryptor.new cr key).cipher = some (deriveKey cr key) := by
  simp [Encryptor.new, h]

theorem stripPrefix_append (p s : String) : stripPrefix p (p ++ s) = some s := by
  simp [stripPrefix]

/-- The list of the bytes from `i` on, after those already collected. -/
theorem toList_loop (bytes : ByteArray) (i : Nat) (acc : List UInt8) :
    ByteArray.toList.loop bytes i acc = acc.reverse ++ bytes.data.toList.drop i := by
  fun_induction ByteArray.toList.loop bytes i acc with
  | case1 i acc hi ih =>
    have hdata : i < bytes.data.size := hi
    have hlist : i < bytes.data.toList.length := by simpa using hdata
    have hbyte : bytes.get! i = bytes.data.toList[i] := by
      change bytes.data[i]! = _
      simpa using getElem!_pos bytes.data i hdata
    rw [ih, hbyte, List.reverse_cons, List.append_assoc, List.singleton_append,
      ← List.drop_eq_getElem_cons]
  | case2 i acc hi =>
    have hlen : bytes.data.toList.length ≤ i := by
      have hsize : ¬i < bytes.data.size := hi
      simp only [Array.length_toList]
      omega
    rw [List.drop_eq_nil_of_le hlen, List.append_nil]

theorem fromUtf8_toUTF8 (s : String) : fromUtf8 s.toUTF8.toList = some s := by
  have hback : (⟨s.toUTF8.toList.toArray⟩ : ByteArray) = s.toUTF8 := by
    rw [ByteArray.toList, toList_loop]
    rfl
  rw [fromUtf8, hback]
  simp [String.fromUTF8?, String.isValidUTF8, String.fromUTF8]

/-- What is read under one value of `TOTP_ENC_KEY` of a secret stored under another. -/
structure SecretsSurvive (cr : Crates) : Prop where
  /-- Under any spelling of the same key, and whatever the secret begins with. -/
  rekeyed : ∀ k₁ k₂ nonce s c, k₁ ≠ "" → k₂ ≠ "" → deriveKey cr k₁ = deriveKey cr k₂ →
    nonce.length = nonceLen → (Encryptor.new cr k₁).encrypt cr nonce s = some c →
    (Encryptor.new cr k₂).decryptOutcome cr c = .ok s
  /-- Turning encryption on leaves the plain secrets readable. -/
  legacy : ∀ k nonce s c, stripPrefix encPrefix s = none →
    (Encryptor.new cr "").encrypt cr nonce s = some c →
    (Encryptor.new cr k).decryptOutcome cr c = .ok s
  /-- Turning it off does not leave the encrypted ones readable. -/
  keyless : ∀ k nonce s c, k ≠ "" → (Encryptor.new cr k).encrypt cr nonce s = some c →
    ∃ message, (Encryptor.new cr "").decryptOutcome cr c = .err message
  total : ∀ k stored, (Encryptor.new cr k).decryptOutcome cr stored ≠ .panic
  /-- A tagged text is read only if it opens under the key. -/
  sound : ∀ k stored payload s, stripPrefix encPrefix stored = some payload →
    (Encryptor.new cr k).decryptOutcome cr stored = .ok s →
    k ≠ "" ∧ Opens cr (deriveKey cr k) payload s
  /-- The handlers read the same, without the errors. -/
  handlers : ∀ e stored, Encryptor.decrypt cr e stored =
    (Encryptor.decryptOutcome cr e stored).toOption

/-- An encrypted secret is a tag and the base64 of the nonce and the ciphertext. -/
theorem encrypt_keyed {k s c : String} {nonce : List UInt8} (hk : k ≠ "")
    (h : (Encryptor.new cr k).encrypt cr nonce s = some c) :
    ∃ ct, cr.aesEncrypt (deriveKey cr k) nonce s.toUTF8.toList = some ct ∧
      stripPrefix encPrefix c = some (cr.base64Encode (nonce ++ ct)) := by
  rw [Encryptor.encrypt, cipher_new hk] at h
  obtain ⟨ct, hct, rfl⟩ := Option.map_eq_some_iff.mp h
  exact ⟨ct, hct, stripPrefix_append _ _⟩

theorem decrypt_rekeyed (hcr : SealingCrates cr) {k₁ k₂ s c : String} {nonce : List UInt8}
    (hk₁ : k₁ ≠ "") (hk₂ : k₂ ≠ "") (hkey : deriveKey cr k₁ = deriveKey cr k₂)
    (hnonce : nonce.length = nonceLen)
    (h : (Encryptor.new cr k₁).encrypt cr nonce s = some c) :
    (Encryptor.new cr k₂).decryptOutcome cr c = .ok s := by
  obtain ⟨ct, hct, htag⟩ := encrypt_keyed hk₁ h
  rw [hkey] at hct
  have hplain := hcr.aes _ _ _ _ (length_deriveKey hcr k₂) hnonce hct
  have hlong : ¬(nonce ++ ct).length < nonceLen := by
    rw [List.length_append]
    omega
  have htake : (nonce ++ ct).take nonceLen = nonce := List.take_left' hnonce
  have hdrop : (nonce ++ ct).drop nonceLen = ct := List.drop_left' hnonce
  simp only [Encryptor.decryptOutcome, htag, cipher_new hk₂, hcr.base64, if_neg hlong,
    splitBytes_of_not_short hlong, htake, hdrop, hplain, fromUtf8_toUTF8]

/-- A secret survives every change of the key that leaves it the right to be read. -/
theorem secretsSurvive (hcr : SealingCrates cr) : SecretsSurvive cr where
  rekeyed k₁ k₂ nonce s c hk₁ hk₂ hkey hnonce h := decrypt_rekeyed hcr hk₁ hk₂ hkey hnonce h
  legacy k nonce s c hplain h := by
    obtain rfl : s = c := Option.some.inj h
    simp only [Encryptor.decryptOutcome, hplain]
  keyless k nonce s c hk h := by
    obtain ⟨ct, -, htag⟩ := encrypt_keyed hk h
    refine ⟨"totp secret is encrypted but TOTP_ENC_KEY is not set", ?_⟩
    simp only [Encryptor.decryptOutcome, htag, cipher_new_empty]
  total k stored := decryptOutcome_ne_panic cr _ stored
  sound k stored payload s htag h := by
    obtain ⟨key, hkey, hopens⟩ := decryptOutcome_ok htag h
    by_cases hk : k = ""
    · subst hk
      cases hkey
    rw [cipher_new hk] at hkey
    cases hkey
    exact ⟨hk, hopens⟩
  handlers := decrypt_eq

namespace Sample

/-- Digests of 32 bytes, and ciphertexts that end in the key and the nonce they
were made under, which decryption checks. -/
def sealing : Crates := { crates with
  sha256 := fun bytes => (bytes ++ List.replicate 32 0).take 32
  aesEncrypt := fun key nonce bytes => some (bytes ++ (key ++ nonce))
  aesDecrypt := fun key nonce ct =>
    let n := ct.length - (key ++ nonce).length
    if ct.drop n = key ++ nonce then some (ct.take n) else none }

theorem toNat_ofNat_byte (b : UInt8) : (Char.ofNat b.toNat).toNat.toUInt8 = b := by
  have hb : b.toNat < 256 := b.toNat_lt
  have hvalid : b.toNat.isValidChar := .inl (by omega)
  have hchar : (Char.ofNat b.toNat).toNat = b.toNat := by
    rw [Char.ofNat, dif_pos hvalid]
    rfl
  rw [hchar]
  simp

theorem sealingCrates : SealingCrates sealing where
  base64 bytes := by
    have hback : bytes.map (fun b => (Char.ofNat b.toNat).toNat.toUInt8) = bytes := by
      simp [toNat_ofNat_byte]
    simpa [sealing, crates, Function.comp_def] using hback
  aes key nonce bytes ct _ _ h := by
    obtain rfl := Option.some.inj h
    simp [sealing]
  sha256 bytes := by simp [sealing]

end Sample

/-- A secret that begins with the tag, read under the same key. -/
theorem secretsSurvive_tagged :
    ∃ c, (Encryptor.new Sample.sealing "key").encrypt Sample.sealing (List.replicate 12 7)
        "enc:v1:secret" = some c ∧
      (Encryptor.new Sample.sealing "key").decryptOutcome Sample.sealing c =
        .ok "enc:v1:secret" := by
  refine ⟨_, rfl, ?_⟩
  exact (secretsSurvive Sample.sealingCrates).rekeyed "key" "key" (List.replicate 12 7) _ _
    (by decide) (by decide) rfl rfl rfl

end IamAuth
