import VeltrixEye.Lib.Base64
import VeltrixEye.Lib.Utf8

/-!
# Signing secrets at rest (`notifications/secret-manager.ts`)
-/

namespace VeltrixEye.Notifications

/-! ## The manager -/

def IV_LENGTH : ℕ := 12

def AUTH_TAG_LENGTH : ℕ := 16

/-- `randomBytes(IV_LENGTH)`. -/
structure Iv where
  bytes : List UInt8
  length_eq : bytes.length = IV_LENGTH

/-- AES-256-GCM under one key: the ciphertext and the tag of a text under an initialization vector, and
    the text of a ciphertext whose tag is right. -/
structure AesGcm where
  cipher : List UInt8 → List UInt8 → List UInt8 × List UInt8
  decipher : List UInt8 → List UInt8 → List UInt8 → Option (List UInt8)

structure AesGcm.Lawful (aes : AesGcm) : Prop where
  tag_length : ∀ iv text, (aes.cipher iv text).2.length = AUTH_TAG_LENGTH
  cipher_length : ∀ iv text, (aes.cipher iv text).1.length = text.length
  decipher_length : ∀ iv tag ciphertext text, aes.decipher iv tag ciphertext = some text →
    text.length = ciphertext.length
  decipher_cipher : ∀ iv text,
    aes.decipher iv (aes.cipher iv text).2 (aes.cipher iv text).1 = some text

structure EncryptedSecret where
  ciphertext : String
  keyVersion : ℕ

/-- The interface; `none` is an exception. -/
structure SecretManager where
  keyVersion : ℕ
  encrypt : Iv → String → Option EncryptedSecret
  decrypt : String → ℕ → Option String

/-- `.` matches it. -/
def notLineTerminator (c : Char) : Bool :=
  !(c = '\n' || c = '\r' || c = '\u2028' || c = '\u2029')

/-- `/^v(\d+):(.+)$/`: the two groups of a match. -/
def matchCiphertext : List Char → Option (List Char × List Char)
  | 'v' :: rest =>
    match rest.takeWhile Char.isDigit, rest.dropWhile Char.isDigit with
    | d :: digits, ':' :: c :: text =>
      if (c :: text).all notLineTerminator then some (d :: digits, c :: text) else none
    | _, _ => none
  | _ => none

def looksEncrypted (value : String) : Bool := (matchCiphertext value.toList).isSome

/-- `v${keyVersion}:${b64}`. -/
def ciphertextOf (keyVersion : ℕ) (combined : List UInt8) : String :=
  String.ofList ('v' :: (Nat.toDigits 10 keyVersion ++ ':' :: Base64.encode combined))

/-- The manager of a key and a version. -/
def EnvKeySecretManager (aes : AesGcm) (keyVersion : ℕ) : SecretManager where
  keyVersion := keyVersion
  encrypt := fun iv plaintext =>
    if plaintext = "" then none
    else
      let encrypted := aes.cipher iv.bytes (Utf8.encode plaintext.toList)
      if encrypted.2.length ≠ AUTH_TAG_LENGTH then none
      else some ⟨ciphertextOf keyVersion (iv.bytes ++ encrypted.2 ++ encrypted.1), keyVersion⟩
  decrypt := fun ciphertext version =>
    if ciphertext = "" || version ≠ keyVersion then none
    else match matchCiphertext ciphertext.toList with
      | none => none
      | some (digits, b64) =>
        if Nat.ofDigitChars 10 digits 0 ≠ version then none
        else
          let combined := Base64.decode b64
          if combined.length < IV_LENGTH + AUTH_TAG_LENGTH + 1 then none
          else
            (aes.decipher (combined.take IV_LENGTH) ((combined.drop IV_LENGTH).take AUTH_TAG_LENGTH)
              (combined.drop (IV_LENGTH + AUTH_TAG_LENGTH))).map fun decrypted =>
                String.ofList (Utf8.decode decrypted)

/-! ### What it encrypts -/

/-- The bytes of a ciphertext. -/
def AesGcm.combined (aes : AesGcm) (iv : Iv) (plaintext : String) : List UInt8 :=
  let encrypted := aes.cipher iv.bytes (Utf8.encode plaintext.toList)
  iv.bytes ++ encrypted.2 ++ encrypted.1

/-- The ciphertext of a secret. -/
def AesGcm.ciphertext (aes : AesGcm) (keyVersion : ℕ) (iv : Iv) (plaintext : String) : String :=
  ciphertextOf keyVersion (aes.combined iv plaintext)

/-- The length of a ciphertext: the version in decimal, and base64 of what 28 bytes are added to. -/
def ciphertextLength (keyVersion : ℕ) (plaintext : String) : ℕ :=
  2 + (Nat.toDigits 10 keyVersion).length + 4 * (((Utf8.encode plaintext.toList).length + 30) / 3)

section Manager

variable {aes : AesGcm} {keyVersion : ℕ}

theorem ciphertextOf_toList (combined : List UInt8) : (ciphertextOf keyVersion combined).toList =
    'v' :: (Nat.toDigits 10 keyVersion ++ ':' :: Base64.encode combined) := String.toList_ofList

theorem combined_length (haes : aes.Lawful) (iv : Iv) (plaintext : String) :
    (aes.combined iv plaintext).length = (Utf8.encode plaintext.toList).length + 28 := by
  simp only [AesGcm.combined, List.length_append, haes.tag_length, haes.cipher_length, iv.length_eq,
    AUTH_TAG_LENGTH, IV_LENGTH]
  omega

theorem ciphertext_length (haes : aes.Lawful) (iv : Iv) (plaintext : String) :
    (aes.ciphertext keyVersion iv plaintext).length = ciphertextLength keyVersion plaintext := by
  rw [AesGcm.ciphertext, ← String.length_toList, ciphertextOf_toList]
  simp only [List.length_cons, List.length_append, Base64.encode_length, combined_length haes,
    ciphertextLength]
  omega

theorem matchCiphertext_ciphertextOf {combined : List UInt8} (h : combined ≠ []) :
    matchCiphertext (ciphertextOf keyVersion combined).toList =
      some (Nat.toDigits 10 keyVersion, Base64.encode combined) := by
  have hdigits : ∀ c ∈ Nat.toDigits 10 keyVersion, c.isDigit = true :=
    fun c => Nat.isDigit_of_mem_toDigits (by decide) (by decide)
  have hlength := Base64.encode_length combined
  have hcombined := List.length_pos_of_ne_nil h
  have hlines : (Base64.encode combined).all notLineTerminator = true := by
    have hne : ∀ c, Base64.value? c = none → c ≠ '=' → ∀ d ∈ Base64.encode combined, d ≠ c := by
      rintro c hvalue hpadding d hd rfl
      exact Base64.not_mem_encode hvalue hpadding combined hd
    rw [List.all_eq_true]
    intro d hd
    simp only [notLineTerminator, hne '\n' (by decide) (by decide) d hd,
      hne '\r' (by decide) (by decide) d hd, hne '\u2028' (by decide) (by decide) d hd,
      hne '\u2029' (by decide) (by decide) d hd, decide_false, Bool.or_self, Bool.not_false]
  rw [ciphertextOf_toList, matchCiphertext, List.takeWhile_append_of_pos hdigits,
    List.dropWhile_append_of_pos hdigits, List.takeWhile_cons_of_neg (by decide),
    List.dropWhile_cons_of_neg (by decide), List.append_nil]
  obtain ⟨d, digits, hcons⟩ := List.exists_cons_of_ne_nil (Nat.toDigits_ne_nil (n := keyVersion) (b := 10))
  obtain ⟨c, text, htext⟩ := List.exists_cons_of_length_pos (l := Base64.encode combined) (by omega)
  rw [hcons, htext]
  exact if_pos (htext ▸ hlines)

theorem matchCiphertext_length {value digits text : List Char}
    (h : matchCiphertext value = some (digits, text)) : text.length < value.length := by
  unfold matchCiphertext at h
  split at h
  · rename_i rest
    split at h
    · rename_i d ds c cs _ hdrop
      split at h
      · cases h
        have hlength := (List.dropWhile_sublist (l := rest) Char.isDigit).length_le
        rw [hdrop] at hlength
        simp only [List.length_cons] at hlength ⊢
        omega
      · cases h
    · cases h
  · cases h

theorem encrypt_eq (haes : aes.Lawful) (iv : Iv) {plaintext : String} (h : plaintext ≠ "") :
    (EnvKeySecretManager aes keyVersion).encrypt iv plaintext =
      some ⟨aes.ciphertext keyVersion iv plaintext, keyVersion⟩ := by
  dsimp only [EnvKeySecretManager]
  rw [if_neg h, if_neg (not_not.mpr (haes.tag_length _ _))]
  rfl

/-- **What a manager encrypts it decrypts.** -/
theorem decrypt_encrypt (haes : aes.Lawful) (iv : Iv) {plaintext : String} (h : plaintext ≠ "") :
    (EnvKeySecretManager aes keyVersion).decrypt (aes.ciphertext keyVersion iv plaintext) keyVersion =
      some plaintext := by
  have hlength := combined_length haes iv plaintext
  have hbytes : 0 < (Utf8.encode plaintext.toList).length :=
    Nat.lt_of_lt_of_le (by simpa [Nat.pos_iff_ne_zero] using h) (Utf8.length_le_encode plaintext.toList)
  have hcombined : aes.combined iv plaintext ≠ [] := List.ne_nil_of_length_pos (by omega)
  have hempty : aes.ciphertext keyVersion iv plaintext ≠ "" := by
    intro hempty
    have hciphertext : (aes.ciphertext keyVersion iv plaintext).length = _ := ciphertext_length haes iv plaintext
    rw [hempty, ciphertextLength, String.length_empty] at hciphertext
    omega
  dsimp only [EnvKeySecretManager]
  rw [if_neg (by simpa using hempty), AesGcm.ciphertext, matchCiphertext_ciphertextOf hcombined]
  dsimp only
  rw [if_neg (not_not.mpr Nat.ofDigitChars_ten_toDigits), Base64.decode_encode,
    if_neg (by rw [hlength, IV_LENGTH, AUTH_TAG_LENGTH]; omega)]
  rw [AesGcm.combined]
  generalize hencrypted : aes.cipher iv.bytes (Utf8.encode plaintext.toList) = encrypted
  have htag : encrypted.2.length = AUTH_TAG_LENGTH := hencrypted ▸ haes.tag_length _ _
  have hopen : aes.decipher iv.bytes encrypted.2 encrypted.1 = some (Utf8.encode plaintext.toList) :=
    hencrypted ▸ haes.decipher_cipher _ _
  rw [← List.drop_drop, List.append_assoc, List.take_left' iv.length_eq, List.drop_left' iv.length_eq,
    List.take_left' htag, List.drop_left' htag, hopen, Option.map_some, Utf8.decode_encode,
    String.ofList_toList]

/-- **What a manager decrypts is shorter than its ciphertext.** -/
theorem decrypt_length (haes : aes.Lawful) {ciphertext secret : String} {version : ℕ}
    (h : (EnvKeySecretManager aes keyVersion).decrypt ciphertext version = some secret) :
    secret.length < ciphertext.length := by
  dsimp only [EnvKeySecretManager] at h
  split at h
  · cases h
  split at h
  · cases h
  rename_i digits b64 hmatch
  have hb64 := matchCiphertext_length hmatch
  split at h
  · cases h
  split at h
  · cases h
  rename_i hlong
  obtain ⟨decrypted, hopen, rfl⟩ := Option.map_eq_some_iff.mp h
  have hdecrypted := haes.decipher_length _ _ _ _ hopen
  have hsecret := Utf8.decode_length decrypted
  have hcombined := Base64.decode_length b64
  rw [List.length_drop] at hdecrypted
  rw [String.length_ofList, ← String.length_toList (s := ciphertext)]
  simp only [IV_LENGTH, AUTH_TAG_LENGTH] at hdecrypted hlong
  omega

end Manager

/-! ## The columns -/

/-- The secret columns of a preference or of a job. -/
structure SecretColumns where
  signingSecret : Option String
  signingSecretEncrypted : Option String
  signingSecretKeyVersion : Option ℕ

/-- Every column is `NULL`. -/
def SecretColumns.empty : SecretColumns := ⟨none, none, none⟩

def MAX_INTEGER : ℕ := 2147483647

/-- A `text` of a length between two bounds. -/
def textWithin (low high : ℕ) (s : String) : Bool := low ≤ s.length && s.length ≤ high

/-- The `CHECK`s of the secret columns. -/
def SecretColumns.storable (row : SecretColumns) : Bool :=
  row.signingSecret.all (textWithin 1 4096) && row.signingSecretEncrypted.all (textWithin 8 8192) &&
    row.signingSecretKeyVersion.all (· ≤ MAX_INTEGER)

/-- `encryptSecret` of the preferences and of the outbox: the columns for a secret. -/
def encryptSecret (manager : Option SecretManager) (iv : Iv) (plaintext : Option String) : SecretColumns :=
  match plaintext with
  | none => .empty
  | some plaintext =>
    if plaintext = "" then .empty
    else match manager with
      | none => ⟨some plaintext, none, none⟩
      | some manager =>
        if looksEncrypted plaintext then ⟨none, some plaintext, some manager.keyVersion⟩
        else match manager.encrypt iv plaintext with
          | some enc => ⟨none, some enc.ciphertext, some enc.keyVersion⟩
          | none => ⟨some plaintext, none, none⟩

/-- `decryptSecret` of the preferences and of the outbox. -/
def decryptSecret (manager : Option SecretManager) (row : SecretColumns) : Option String :=
  match row.signingSecretEncrypted with
  | none => row.signingSecret
  | some encrypted =>
    if encrypted = "" then row.signingSecret
    else match manager with
      | none => row.signingSecret
      | some manager =>
        match manager.decrypt encrypted (row.signingSecretKeyVersion.getD manager.keyVersion) with
        | some secret => some secret
        -- the catch: the plaintext column is the migration path
        | none => row.signingSecret

/-- The secret `deliver` of the worker hands to `provider.send`. -/
def deliverySecret (manager : Option SecretManager) (job : SecretColumns) : Option String :=
  match job.signingSecretEncrypted, manager with
  | some enc, some manager =>
    if enc = "" then job.signingSecret
    else
      (manager.decrypt enc (job.signingSecretKeyVersion.getD manager.keyVersion)).or job.signingSecret
  | _, _ => job.signingSecret

theorem deliverySecret_eq (manager : Option SecretManager) (job : SecretColumns) :
    deliverySecret manager job = decryptSecret manager job := by
  unfold deliverySecret decryptSecret
  cases job.signingSecretEncrypted with
  | none => rfl
  | some enc =>
    cases manager with
    | none =>
      dsimp only
      split <;> rfl
    | some manager =>
      dsimp only
      split
      · rfl
      · cases manager.decrypt enc (job.signingSecretKeyVersion.getD manager.keyVersion) <;> rfl

/-! ### What the columns keep -/

section Columns

variable {aes : AesGcm} {keyVersion : ℕ} {iv : Iv} {secret : String}

theorem encryptSecret_looks (manager : SecretManager) (h : looksEncrypted secret = true) :
    encryptSecret (some manager) iv (some secret) = ⟨none, some secret, some manager.keyVersion⟩ := by
  have hne : secret ≠ "" := by
    rintro rfl
    exact absurd h (by decide)
  unfold encryptSecret
  dsimp only
  rw [if_neg hne, if_pos h]

theorem encryptSecret_seals (haes : aes.Lawful) (hne : secret ≠ "") (h : looksEncrypted secret = false) :
    encryptSecret (some (EnvKeySecretManager aes keyVersion)) iv (some secret) =
      ⟨none, some (aes.ciphertext keyVersion iv secret), some keyVersion⟩ := by
  unfold encryptSecret
  dsimp only
  rw [if_neg hne, if_neg (by rw [h]; decide), encrypt_eq haes iv hne]

theorem decryptSecret_encrypted (manager : SecretManager) {encrypted : String} (hne : encrypted ≠ "")
    (version : ℕ) :
    decryptSecret (some manager) ⟨none, some encrypted, some version⟩ = manager.decrypt encrypted version := by
  unfold decryptSecret
  dsimp only
  rw [if_neg hne, Option.getD_some]
  cases manager.decrypt encrypted version <;> rfl

theorem decryptSecret_raw (haes : aes.Lawful) (hne : secret ≠ "") (version : ℕ) :
    decryptSecret (some (EnvKeySecretManager aes keyVersion)) ⟨none, some secret, some version⟩ ≠
      some secret := by
  rw [decryptSecret_encrypted _ hne]
  intro h
  exact lt_irrefl _ (decrypt_length haes h)

theorem ciphertext_ne_empty (haes : aes.Lawful) (iv : Iv) (secret : String) :
    aes.ciphertext keyVersion iv secret ≠ "" := by
  intro hempty
  have hlength : (aes.ciphertext keyVersion iv secret).length = _ := ciphertext_length haes iv secret
  rw [hempty, ciphertextLength, String.length_empty] at hlength
  omega

/-- The ciphertext of a secret and the version fit their columns. -/
def Fits (keyVersion : ℕ) (secret : String) : Prop :=
  ciphertextLength keyVersion secret ≤ 8192 ∧ keyVersion ≤ MAX_INTEGER

instance (keyVersion : ℕ) (secret : String) : Decidable (Fits keyVersion secret) :=
  inferInstanceAs (Decidable (_ ∧ _))

theorem storable_iff (haes : aes.Lawful) :
    (⟨none, some (aes.ciphertext keyVersion iv secret), some keyVersion⟩ : SecretColumns).storable = true ↔
      Fits keyVersion secret := by
  have hlength : 8 ≤ ciphertextLength keyVersion secret := by
    unfold ciphertextLength
    omega
  simp only [SecretColumns.storable, Option.all_none, Option.all_some, textWithin, Bool.true_and,
    ciphertext_length haes, Bool.and_eq_true, decide_eq_true_eq, Fits, hlength, true_and]

end Columns

end VeltrixEye.Notifications
