import Mathlib.Algebra.Group.Nat.Defs
import IamAuth.Schema

/-!
# What the service takes from its crates

The functions of uuid, sha2, base64, aes-gcm, totp-rs, serde_json and of the
`common` crate (passwords and JWTs) that the handlers call, as parameters: no
definition of theirs is in the repository. A function that draws randomness or
reads the clock takes the `Choice` of the step that calls it.
-/

set_option autoImplicit false

namespace IamAuth

/-- The claims of a JWT. An access token has the purpose `""`. -/
structure Claims where
  sub : String
  email : String
  tenantId : String
  projectId : String
  purpose : String
  jti : String
  exp : Int
  deriving DecidableEq, Repr

structure GenSecret where
  base32 : String
  otpauthUri : String
  deriving DecidableEq, Repr

structure Crates where
  /-- `Uuid::parse_str(..).ok()`. -/
  parseUuid : String → Option Uuid
  /-- `Uuid::to_string`. -/
  formatUuid : Uuid → String
  /-- `hex::encode(Sha256::digest(..))`. -/
  sha256Hex : String → String
  /-- `URL_SAFE_NO_PAD.encode(Sha256::digest(..))`. -/
  sha256Base64Url : String → String
  sha256 : List UInt8 → List UInt8
  /-- `base64::STANDARD`. -/
  base64Encode : List UInt8 → String
  base64Decode : String → Option (List UInt8)
  /-- AES-256-GCM under a 32-byte key and a 12-byte nonce. -/
  aesEncrypt : List UInt8 → List UInt8 → List UInt8 → Option (List UInt8)
  aesDecrypt : List UInt8 → List UInt8 → List UInt8 → Option (List UInt8)
  passwordHash : Choice → String → Option String
  passwordVerify : String → String → Bool
  jwtIssue : Choice → String → String → String → String → Option String
  jwtIssueMfa : Choice → String → Int → Option String
  jwtIssueIdToken : Choice → String → String → String → String → String → Option String
  jwtParse : DateTime → String → Option Claims
  jwtParseAccess : DateTime → String → Option Claims
  totpGenerate : Choice → String → Option GenSecret
  /-- `Secret::Encoded(..).to_bytes().ok()`. -/
  base32Decode : String → Option (List UInt8)
  /-- `TOTP::new(..)` on the secret bytes, then `check_current(code)`. -/
  totpCheck : List UInt8 → DateTime → String → Option Bool
  permsToJson : List String → String
  permsFromJson : String → Option (List String)

/-- `hash_token`. -/
def hashToken (cr : Crates) (token : String) : String := cr.sha256Hex token

/-- `totp::validate`: a malformed secret validates no code. -/
def validateTotp (cr : Crates) (now : DateTime) (code secretB32 : String) : Bool :=
  match cr.base32Decode secretB32 with
  | none => false
  | some bytes => (cr.totpCheck bytes now code).getD false

/-! ## totpsecret.rs -/

def encPrefix : String := "enc:v1:"

def nonceLen : Nat := 12

/-- With no key it passes secrets through. -/
structure Encryptor where
  cipher : Option (List UInt8)
  deriving DecidableEq, Repr

/-- A base64 value of exactly 32 bytes is the key, anything else is hashed. -/
def deriveKey (cr : Crates) (key : String) : List UInt8 :=
  match cr.base64Decode key with
  | some b => if b.length = 32 then b else cr.sha256 key.toUTF8.toList
  | none => cr.sha256 key.toUTF8.toList

def Encryptor.new (cr : Crates) (key : String) : Encryptor :=
  if key.isEmpty then ⟨none⟩ else ⟨some (deriveKey cr key)⟩

def Encryptor.encrypt (cr : Crates) (e : Encryptor) (nonce : List UInt8) (plaintext : String) :
    Option String :=
  match e.cipher with
  | none => some plaintext
  | some key => (cr.aesEncrypt key nonce plaintext.toUTF8.toList).map fun ct =>
      encPrefix ++ cr.base64Encode (nonce ++ ct)

/-- `strip_prefix`. -/
def stripPrefix (p s : String) : Option String :=
  if p.toList.isPrefixOf s.toList then some (String.ofList (s.toList.drop p.toList.length))
  else none

/-- `String::from_utf8(..).ok()`. -/
def fromUtf8 (bytes : List UInt8) : Option String := String.fromUTF8? ⟨bytes.toArray⟩

def Encryptor.decrypt (cr : Crates) (e : Encryptor) (stored : String) : Option String :=
  match stripPrefix encPrefix stored with
  | none => some stored
  | some rest =>
    match e.cipher, cr.base64Decode rest with
    | some key, some raw =>
      if raw.length < nonceLen then none
      else (cr.aesDecrypt key (raw.take nonceLen) (raw.drop nonceLen)).bind fromUtf8
    | _, _ => none

/-! ## An instance to run the model on

UUIDs and JWT claims as text that parses back; hashing, passwords, AES and TOTP
are stood in by the simplest function of their type, since no run depends on
their values. -/

namespace Sample

def hexDigit (n : Nat) : Char := if n < 10 then Char.ofNat (48 + n) else Char.ofNat (87 + n)

def hexValue (c : Char) : Option Nat :=
  if '0' ≤ c ∧ c ≤ '9' then some (c.toNat - 48)
  else if 'a' ≤ c ∧ c ≤ 'f' then some (c.toNat - 87)
  else if 'A' ≤ c ∧ c ≤ 'F' then some (c.toNat - 55)
  else none

/-- Grouped as 8-4-4-4-12. -/
def hyphenate (ds : List Char) : List Char :=
  ds.take 8 ++ '-' :: (ds.drop 8).take 4 ++ '-' :: (ds.drop 12).take 4 ++
    '-' :: (ds.drop 16).take 4 ++ '-' :: ds.drop 20

/-- Thirty-two hex digits, the most significant first. -/
def formatUuid (u : Uuid) : String :=
  String.ofList (hyphenate ((List.range 32).map fun i => hexDigit (u.toNat / 16 ^ (31 - i) % 16)))

/-- The hyphenated form only. -/
def parseUuid (s : String) : Option Uuid :=
  let groups := s.toList.splitOn '-'
  if groups.map List.length = [8, 4, 4, 4, 12] then
    (groups.flatten.mapM hexValue).map fun ds =>
      BitVec.ofNat 128 (ds.foldl (fun n d => 16 * n + d) 0)
  else none

theorem hexValue_hexDigit : ∀ n < 16, hexValue (hexDigit n) = some n := by decide

theorem hexDigit_ne_hyphen : ∀ n < 16, hexDigit n ≠ '-' := by decide

/-- The digits of `formatUuid`. -/
def hexDigits (u : Uuid) : List Nat := (List.range 32).map fun i => u.toNat / 16 ^ (31 - i) % 16

theorem foldl_digits (n m : Nat) :
    ((List.range m).map fun i => n / 16 ^ (m - 1 - i) % 16).foldl (fun a d => 16 * a + d) 0 =
      n % 16 ^ m := by
  induction m generalizing n with
  | zero => simp [Nat.mod_one]
  | succ m ih =>
    have hmap : (List.range m).map (fun i => n / 16 ^ (m + 1 - 1 - i) % 16) =
        (List.range m).map fun i => n / 16 / 16 ^ (m - 1 - i) % 16 := by
      apply List.map_congr_left
      intro i hi
      have hlt := List.mem_range.mp hi
      rw [Nat.div_div_eq_div_mul, ← Nat.pow_succ']
      congr 3
      omega
    rw [List.range_succ, List.map_append, List.foldl_append, hmap, ih]
    simp only [List.map_cons, List.map_nil, List.foldl_cons, List.foldl_nil, Nat.add_sub_cancel,
      Nat.sub_self, Nat.pow_zero, Nat.div_one]
    rw [Nat.pow_succ', Nat.mod_mul]
    omega

theorem groups_flatten (ds : List Char) : [ds.take 8, (ds.drop 8).take 4, (ds.drop 12).take 4,
    (ds.drop 16).take 4, ds.drop 20].flatten = ds := by
  simp only [List.flatten_cons, List.flatten_nil, List.append_nil]
  rw [show ds.drop 20 = (ds.drop 16).drop 4 by simp, List.take_append_drop,
    show ds.drop 16 = (ds.drop 12).drop 4 by simp, List.take_append_drop,
    show ds.drop 12 = (ds.drop 8).drop 4 by simp, List.take_append_drop, List.take_append_drop]

theorem splitOn_hyphenate {ds : List Char} (hds : '-' ∉ ds) :
    (hyphenate ds).splitOn '-' = [ds.take 8, (ds.drop 8).take 4, (ds.drop 12).take 4,
      (ds.drop 16).take 4, ds.drop 20] := by
  have hinter : hyphenate ds = ['-'].intercalate [ds.take 8, (ds.drop 8).take 4,
      (ds.drop 12).take 4, (ds.drop 16).take 4, ds.drop 20] := by
    simp [hyphenate]
  rw [hinter]
  apply List.splitOn_intercalate
  · intro l hl hmem
    apply hds
    rw [← groups_flatten ds]
    exact List.mem_flatten.mpr ⟨l, hl, hmem⟩
  · simp

theorem mapM_hexValue {ns : List Nat} (hns : ∀ n ∈ ns, n < 16) :
    (ns.map hexDigit).mapM hexValue = some ns := by
  induction ns with
  | nil => rfl
  | cons n ns ih =>
    have hn := hexValue_hexDigit n (hns n (by simp))
    have hrest := ih fun m hm => hns m (by simp [hm])
    simp [List.mapM_cons, hn, hrest]

theorem hexDigits_lt (u : Uuid) : ∀ n ∈ hexDigits u, n < 16 := by
  intro n hn
  obtain ⟨i, -, rfl⟩ := List.mem_map.mp hn
  exact Nat.mod_lt _ (by decide)

theorem length_hexDigits (u : Uuid) : (hexDigits u).length = 32 := by
  simp [hexDigits]

theorem formatUuid_toList (u : Uuid) :
    (formatUuid u).toList = hyphenate ((hexDigits u).map hexDigit) := by
  simp only [formatUuid, hexDigits, String.toList_ofList, List.map_map]
  rfl

theorem hyphen_not_mem (u : Uuid) : '-' ∉ (hexDigits u).map hexDigit := by
  intro hmem
  obtain ⟨n, hn, hdigit⟩ := List.mem_map.mp hmem
  exact hexDigit_ne_hyphen n (hexDigits_lt u n hn) hdigit

theorem parse_format (u : Uuid) : parseUuid (formatUuid u) = some u := by
  have hnumber : (hexDigits u).foldl (fun a d => 16 * a + d) 0 = u.toNat := by
    have hfold := foldl_digits u.toNat 32
    rw [Nat.mod_eq_of_lt (by have := u.isLt; omega)] at hfold
    exact hfold
  simp only [parseUuid, formatUuid_toList, splitOn_hyphenate (hyphen_not_mem u), groups_flatten,
    mapM_hexValue (hexDigits_lt u)]
  rw [if_pos (by simp [length_hexDigits])]
  simp [hnumber]

theorem formatUuid_injective : Function.Injective formatUuid := by
  intro u v h
  have hparse := parse_format u
  rw [h, parse_format v] at hparse
  exact (Option.some.inj hparse).symm

def encodeClaims (c : Claims) : String :=
  "|".intercalate [c.sub, c.email, c.tenantId, c.projectId, c.purpose, c.jti,
    String.ofList (Nat.toDigits 10 c.exp.toNat)]

def parseNat (s : String) : Nat := s.toList.foldl (fun n c => 10 * n + (c.toNat - 48)) 0

def decodeClaims (now : DateTime) (token : String) : Option Claims :=
  match (token.toList.splitOn '|').map String.ofList with
  | [sub, email, tenantId, projectId, purpose, jti, exp] =>
    if timestamp now < parseNat exp then
      some ⟨sub, email, tenantId, projectId, purpose, jti, parseNat exp⟩
    else none
  | _ => none

/-- Splitting a joined text splits every part of it. -/
theorem splitOn_intercalate_parts (x : Char) {parts : List (List Char)} (hne : parts ≠ []) :
    ([x].intercalate parts).splitOn x = parts.flatMap fun l => l.splitOn x := by
  induction parts with
  | nil => exact absurd rfl hne
  | cons l rest ih =>
    cases rest with
    | nil => simp
    | cons l' rest =>
      have hcons : [x].intercalate (l :: l' :: rest) = l ++ x :: [x].intercalate (l' :: rest) := by
        simp [List.intercalate_cons_cons]
      rw [hcons, List.splitOn_append_cons_self, ih (by simp)]
      rfl

theorem splitOn_of_length_le {x : Char} {l : List Char} (h : (l.splitOn x).length ≤ 1) :
    l.splitOn x = [l] := by
  have hpos := List.length_pos_iff.mpr (List.splitOn_ne_nil x l)
  obtain ⟨l', hl'⟩ := List.length_eq_one_iff.mp (show (l.splitOn x).length = 1 by omega)
  have hback : [x].intercalate (l.splitOn x) = l := List.intercalate_splitOn x
  rw [hl', List.intercalate_singleton] at hback
  rw [hl', hback]

theorem length_flatMap_splitOn (x : Char) (parts : List (List Char)) :
    parts.length ≤ (parts.flatMap fun l => l.splitOn x).length := by
  induction parts with
  | nil => simp
  | cons l rest ih =>
    have hpos := List.length_pos_iff.mpr (List.splitOn_ne_nil x l)
    simp only [List.flatMap_cons, List.length_append, List.length_cons]
    omega

/-- A joined text that splits into as many parts as it was joined from splits
into these parts. -/
theorem splitOn_intercalate_of_length {x : Char} {parts : List (List Char)} (hne : parts ≠ [])
    (hlen : (([x].intercalate parts).splitOn x).length = parts.length) :
    ([x].intercalate parts).splitOn x = parts := by
  rw [splitOn_intercalate_parts x hne] at hlen ⊢
  clear hne
  induction parts with
  | nil => rfl
  | cons l rest ih =>
    have hpos := List.length_pos_iff.mpr (List.splitOn_ne_nil x l)
    have hrest := length_flatMap_splitOn x rest
    simp only [List.flatMap_cons, List.length_append, List.length_cons] at hlen
    rw [List.flatMap_cons, splitOn_of_length_le (x := x) (l := l) (by omega), ih (by omega)]
    rfl

/-- A token that parses gives the claims it was made of. -/
theorem decode_encode {now : DateTime} {k k' : Claims}
    (h : decodeClaims now (encodeClaims k) = some k') :
    k'.sub = k.sub ∧ k'.email = k.email ∧ k'.tenantId = k.tenantId ∧ k'.projectId = k.projectId ∧
      k'.purpose = k.purpose ∧ k'.jti = k.jti := by
  unfold decodeClaims at h
  split at h
  · next sub email tenantId projectId purpose jti exp heq =>
    have hinter : (encodeClaims k).toList = ['|'].intercalate ([k.sub, k.email, k.tenantId,
        k.projectId, k.purpose, k.jti, String.ofList (Nat.toDigits 10 k.exp.toNat)].map
        String.toList) := by
      rw [encodeClaims, String.toList_intercalate]
      rfl
    have hlen := congrArg List.length heq
    rw [List.length_map, hinter] at hlen
    rw [hinter, splitOn_intercalate_of_length (by simp) (by rw [hlen]; rfl)] at heq
    simp only [List.map_cons, List.map_nil, String.ofList_toList, List.cons.injEq] at heq
    obtain ⟨rfl, rfl, rfl, rfl, rfl, rfl, -⟩ := heq
    split at h <;> cases h
    exact ⟨rfl, rfl, rfl, rfl, rfl, rfl⟩
  · cases h

def crates : Crates where
  parseUuid := parseUuid
  formatUuid := formatUuid
  sha256Hex s := s
  sha256Base64Url s := s
  sha256 b := b
  base64Encode b := String.ofList (b.map fun x => Char.ofNat x.toNat)
  base64Decode s := some (s.toList.map fun c => c.toNat.toUInt8)
  aesEncrypt _ _ b := some b
  aesDecrypt _ _ b := some b
  passwordHash _ p := some p
  passwordVerify h p := h == p
  jwtIssue c sub email tenantId projectId :=
    some (encodeClaims ⟨sub, email, tenantId, projectId, "", c.text, timestamp c.now + 900⟩)
  jwtIssueMfa c sub ttl := some (encodeClaims ⟨sub, "", "", "", "mfa", c.text, timestamp c.now + ttl⟩)
  jwtIssueIdToken _ sub _ aud nonce _ := some (sub ++ " " ++ aud ++ " " ++ nonce)
  jwtParse := decodeClaims
  jwtParseAccess now token := (decodeClaims now token).filter fun c => c.purpose == ""
  totpGenerate c account := some ⟨c.text, account⟩
  base32Decode s := some (s.toList.map fun c => c.toNat.toUInt8)
  totpCheck secret _ code := some (code.toList.map (fun c => c.toNat.toUInt8) == secret)
  permsToJson ps := ",".intercalate ps
  permsFromJson s := some ((s.toList.splitOn ',').map String.ofList)

/-- A step at a given time, with the draws it may need. -/
def choice (now : DateTime) (uuid : Uuid) (text : String) : Choice :=
  ⟨false, now, uuid, text, [], [], 0⟩

end Sample

end IamAuth
