import PortfolioManager.Library.Checked
import PortfolioManager.Library.SealedBox
import PortfolioManager.Python.Text

/-! # Versioned envelope encryption

The data is encrypted under a fresh key, which is wrapped under a versioned key-encryption key.
The associated bytes carry the version and the caller's scope. The ciphers are parameters, and
random bytes are arguments.
-/

namespace PortfolioManager.Persistence

open PortfolioManager.Python Checked SealedBox

def algorithm : String := "AES-256-GCM+AES-KWP"
def formatVersion : ℤ := 1
def keySize : ℕ := 32
def nonceSize : ℕ := 12
def maxAssociatedData : ℕ := 8 * 1024

/-- What the envelope functions raise, or let through from a cipher, a provider or the file system. -/
inductive EnvelopeError where
  | builtin (error : Builtin)
  | secretDecryption (message : String)
  | invalidTag
  | invalidUnwrap
  | osError (message : String)
deriving DecidableEq

/-- The texts `_validate_key_version` lets through. -/
def isKeyVersion (version : String) : Bool :=
  version ≠ "" && version = strip version && version.length ≤ 64 && isAscii version &&
    version.toList.all fun character => isAlnum character || ['.', '_', '-'].contains character

/-- `_validate_key_version`. -/
def validateKeyVersion (version : String) : Except EnvelopeError (PLift (isKeyVersion version = true)) :=
  check (isKeyVersion version = true) (.builtin (.valueError "KEK version must be a short ASCII identifier"))

structure KeyEncryptionKey where
  version : String
  material : Bytes
  versionShape : isKeyVersion version = true
  materialSize : material.length = keySize
deriving DecidableEq

def KeyEncryptionKey.new (version : String) (material : Bytes) : Except EnvelopeError KeyEncryptionKey := do
  let ⟨versionShape⟩ ← validateKeyVersion version
  let ⟨materialSize⟩ ← check (material.length = keySize) (.builtin (.valueError "KEK material must be 256 bits"))
  return ⟨version, material, versionShape, materialSize⟩

structure KeyEncryptionKeyProvider where
  current : Except EnvelopeError KeyEncryptionKey
  get : String → Except EnvelopeError KeyEncryptionKey

structure EncryptedSecret where
  keyVersion : String
  wrappedDek : Bytes
  nonce : Bytes
  ciphertext : Bytes
  algorithm : String
  formatVersion : ℤ
  supported : algorithm = Persistence.algorithm ∧ formatVersion = Persistence.formatVersion
  versionShape : isKeyVersion keyVersion = true
  nonceShape : nonce.length = nonceSize
  filled : wrappedDek ≠ [] ∧ ciphertext ≠ []
deriving DecidableEq

def EncryptedSecret.new (keyVersion : String) (wrappedDek nonce ciphertext : Bytes) (algorithm : String)
    (formatVersion : ℤ) : Except EnvelopeError EncryptedSecret := do
  let ⟨supported⟩ ← check (algorithm = Persistence.algorithm ∧ formatVersion = Persistence.formatVersion)
    (.builtin (.valueError "unsupported encrypted-secret format"))
  let ⟨versionShape⟩ ← validateKeyVersion keyVersion
  let ⟨nonceShape⟩ ← check (nonce.length = nonceSize)
    (.builtin (.valueError "encrypted secret nonce must be 96 bits"))
  let ⟨filled⟩ ← check (wrappedDek ≠ [] ∧ ciphertext ≠ [])
    (.builtin (.valueError "encrypted secret ciphertext fields cannot be empty"))
  return ⟨keyVersion, wrappedDek, nonce, ciphertext, algorithm, formatVersion, supported, versionShape, nonceShape, filled⟩

/-- `dataclasses.replace` of the key version, which validates all fields again. -/
def EncryptedSecret.relabel (secret : EncryptedSecret) (version : String) : Except EnvelopeError EncryptedSecret :=
  EncryptedSecret.new version secret.wrappedDek secret.nonce secret.ciphertext secret.algorithm secret.formatVersion

/-- The two `token_bytes` draws of one encryption. -/
structure Draws where
  dek : Bytes
  nonce : Bytes
  dekShape : dek.length = keySize
  nonceShape : nonce.length = nonceSize

/-- `_validate_inputs`; that the plaintext is `bytes` is its type. -/
def validateInputs (associatedData : Bytes) : Except EnvelopeError Unit := do
  let ⟨_⟩ ← check (associatedData ≠ [] ∧ associatedData.length ≤ maxAssociatedData)
    (.builtin (.valueError "associated data must be non-empty and at most 8 KiB"))
  return ()

/-- `_bind_associated_data`. -/
def bindAssociatedData (associatedData : Bytes) (keyVersion : String) : Bytes :=
  encodeAscii "portfolio-manager:v1\x00" ++ encodeAscii keyVersion ++ [0] ++ associatedData

abbrev Ciphers := Primitives Bytes EnvelopeError

def encryptSecret (ciphers : Ciphers) (draws : Draws) (plaintext associatedData : Bytes)
    (provider : KeyEncryptionKeyProvider) : Except EnvelopeError EncryptedSecret := do
  validateInputs associatedData
  let key ← provider.current
  let aad := bindAssociatedData associatedData key.version
  let ciphertext ← ciphers.encrypt draws.dek draws.nonce plaintext aad
  let wrappedDek ← ciphers.wrap key.material draws.dek
  EncryptedSecret.new key.version wrappedDek draws.nonce ciphertext algorithm formatVersion

/-- What the `except` clause of `decrypt_secret` catches. -/
def EnvelopeError.caught : EnvelopeError → Bool
  | invalidTag | invalidUnwrap | builtin (.valueError _) | secretDecryption _ => true
  | _ => false

def decryptSecret (ciphers : Ciphers) (encrypted : EncryptedSecret) (associatedData : Bytes)
    (provider : KeyEncryptionKeyProvider) : Except EnvelopeError Bytes := do
  validateInputs associatedData
  let key ← provider.get encrypted.keyVersion
  let aad := bindAssociatedData associatedData key.version
  match ciphers.openBox key.material encrypted.wrappedDek encrypted.nonce encrypted.ciphertext aad with
  | .ok plaintext => return plaintext
  | .error error =>
      throw (if error.caught then .secretDecryption "encrypted secret authentication failed" else error)

/-! ## A key in a file -/

/-- The two observations a load makes of its path: the mode of the directory entry itself, and the bytes. -/
structure FileSystem where
  lstat : String → Except EnvelopeError ℕ
  readBytes : String → Except EnvelopeError Bytes

/-- `S_ISREG`. -/
def isRegular (mode : ℕ) : Bool := mode &&& 0o170000 = 0o100000

structure FileKeyEncryptionKeyProvider where
  path : String
  version : String

namespace FileKeyEncryptionKeyProvider

/-- `_load`. -/
def load (files : FileSystem) (provider : FileKeyEncryptionKeyProvider) : Except EnvelopeError KeyEncryptionKey := do
  let mode ← files.lstat provider.path
  let ⟨_⟩ ← check (isRegular mode = true ∧ mode &&& 0o077 = 0)
    (.builtin (.valueError "KEK file must be a regular owner-only file"))
  let material ← files.readBytes provider.path
  KeyEncryptionKey.new provider.version material

def current (files : FileSystem) (provider : FileKeyEncryptionKeyProvider) : Except EnvelopeError KeyEncryptionKey :=
  provider.load files

def get (files : FileSystem) (provider : FileKeyEncryptionKeyProvider) (version : String) :
    Except EnvelopeError KeyEncryptionKey := do
  let ⟨_⟩ ← check (version = provider.version) (.secretDecryption "requested KEK version is unavailable")
  provider.load files

/-- The port of the provider at one state of the file system. -/
def port (files : FileSystem) (provider : FileKeyEncryptionKeyProvider) : KeyEncryptionKeyProvider :=
  ⟨provider.current files, provider.get files⟩

end FileKeyEncryptionKeyProvider

/-! ## Scope and version binding -/

/-- A provider answers a request for a version with a key of that version. -/
def KeyEncryptionKeyProvider.Labelled (provider : KeyEncryptionKeyProvider) : Prop :=
  ∀ version key, provider.get version = .ok key → key.version = version

theorem KeyEncryptionKey.new_eq_ok {version : String} {material : Bytes} {key : KeyEncryptionKey}
    (built : KeyEncryptionKey.new version material = .ok key) : key.version = version ∧ key.material = material := by
  obtain ⟨_, built⟩ := check_bind_eq_ok_iff.mp built
  obtain ⟨_, built⟩ := check_bind_eq_ok_iff.mp built
  cases pure_eq_ok_iff.mp built
  exact ⟨rfl, rfl⟩

/-- The file provider is labelled, whatever the file holds. -/
theorem FileKeyEncryptionKeyProvider.labelled (files : FileSystem) (provider : FileKeyEncryptionKeyProvider) :
    (provider.port files).Labelled := by
  intro version key found
  obtain ⟨same, loaded⟩ := check_bind_eq_ok_iff.mp found
  obtain ⟨mode, _, loaded⟩ := bind_eq_ok_iff.mp loaded
  obtain ⟨_, loaded⟩ := check_bind_eq_ok_iff.mp loaded
  obtain ⟨material, _, built⟩ := bind_eq_ok_iff.mp loaded
  exact (KeyEncryptionKey.new_eq_ok built).1.trans same.symm

theorem isAscii_of_isKeyVersion {version : String} (shape : isKeyVersion version = true) : isAscii version = true := by
  simp only [isKeyVersion, Bool.and_eq_true] at shape
  exact shape.1.2

/-- The character class of a key version leaves the separator out. -/
theorem separator_not_mem {version : String} (shape : isKeyVersion version = true) : 0 ∉ encodeAscii version := by
  intro member
  have present := @mem_of_mem_encodeAscii version (isAscii_of_isKeyVersion shape) '\x00' (by decide) member
  simp only [isKeyVersion, Bool.and_eq_true, List.all_eq_true] at shape
  exact absurd (shape.2 _ present) (by decide)

/-- The framed bytes determine the version and the scope, whatever bytes the scope holds. -/
theorem bindAssociatedData_inj {associatedData associatedData' : Bytes} {version version' : String}
    (shape : isKeyVersion version = true) (shape' : isKeyVersion version' = true) :
    bindAssociatedData associatedData version = bindAssociatedData associatedData' version' ↔
      associatedData = associatedData' ∧ version = version' := by
  refine ⟨fun same => ?_, by rintro ⟨rfl, rfl⟩; rfl⟩
  simp only [bindAssociatedData, List.append_assoc, List.singleton_append, List.append_cancel_left_eq] at same
  obtain ⟨versions, scopes⟩ := (append_separator_inj (separator_not_mem shape) (separator_not_mem shape')).mp same
  exact ⟨scopes, encodeAscii_injOn (isAscii_of_isKeyVersion shape) (isAscii_of_isKeyVersion shape') versions⟩

/-- What a successful encryption leaves: a secret under the provider's current key. -/
structure Encrypts (ciphers : Ciphers) (draws : Draws) (plaintext associatedData : Bytes) (key : KeyEncryptionKey)
    (secret : EncryptedSecret) : Prop where
  version : secret.keyVersion = key.version
  nonce : secret.nonce = draws.nonce
  encrypted : ciphers.encrypt draws.dek draws.nonce plaintext (bindAssociatedData associatedData key.version) =
    .ok secret.ciphertext
  wrapped : ciphers.wrap key.material draws.dek = .ok secret.wrappedDek

theorem EncryptedSecret.new_eq_ok {keyVersion : String} {wrappedDek nonce ciphertext : Bytes} {algorithm : String}
    {formatVersion : ℤ} {secret : EncryptedSecret}
    (built : EncryptedSecret.new keyVersion wrappedDek nonce ciphertext algorithm formatVersion = .ok secret) :
    secret.keyVersion = keyVersion ∧ secret.wrappedDek = wrappedDek ∧ secret.nonce = nonce ∧
      secret.ciphertext = ciphertext := by
  obtain ⟨_, built⟩ := check_bind_eq_ok_iff.mp built
  obtain ⟨_, built⟩ := check_bind_eq_ok_iff.mp built
  obtain ⟨_, built⟩ := check_bind_eq_ok_iff.mp built
  obtain ⟨_, built⟩ := check_bind_eq_ok_iff.mp built
  cases pure_eq_ok_iff.mp built
  exact ⟨rfl, rfl, rfl, rfl⟩

/-- A valid version is all that relabelling needs. -/
theorem EncryptedSecret.relabel_eq_ok (secret : EncryptedSecret) {version : String}
    (shape : isKeyVersion version = true) :
    secret.relabel version = .ok { secret with keyVersion := version, versionShape := shape } := by
  refine check_bind_eq_ok_iff.mpr ⟨secret.supported, ?_⟩
  refine check_bind_eq_ok_iff.mpr ⟨shape, ?_⟩
  refine check_bind_eq_ok_iff.mpr ⟨secret.nonceShape, ?_⟩
  exact check_bind_eq_ok_iff.mpr ⟨secret.filled, rfl⟩

theorem encryptSecret_eq_ok {ciphers : Ciphers} {draws : Draws} {plaintext associatedData : Bytes}
    {provider : KeyEncryptionKeyProvider} {secret : EncryptedSecret}
    (made : encryptSecret ciphers draws plaintext associatedData provider = .ok secret) :
    ∃ key, provider.current = .ok key ∧ Encrypts ciphers draws plaintext associatedData key secret := by
  obtain ⟨_, _, made⟩ := bind_eq_ok_iff.mp made
  obtain ⟨key, current, made⟩ := bind_eq_ok_iff.mp made
  obtain ⟨ciphertext, encrypted, made⟩ := bind_eq_ok_iff.mp made
  obtain ⟨wrappedDek, wrapped, built⟩ := bind_eq_ok_iff.mp made
  obtain ⟨version, same, nonce, same'⟩ := EncryptedSecret.new_eq_ok built
  exact ⟨key, current, version, nonce, same' ▸ encrypted, same ▸ wrapped⟩

theorem validateInputs_of {associatedData : Bytes} (nonempty : 0 < associatedData.length)
    (bounded : associatedData.length ≤ maxAssociatedData) : validateInputs associatedData = .ok () := by
  have valid : associatedData ≠ [] ∧ associatedData.length ≤ maxAssociatedData :=
    ⟨List.ne_nil_of_length_pos nonempty, bounded⟩
  exact check_bind_eq_ok_iff.mpr ⟨valid, rfl⟩

/-- What the assumptions on AES-KWP and AES-GCM say of the key sizes in use. -/
def CiphersSound (ciphers : Ciphers) : Prop :=
  ciphers.Sound (·.length = keySize) (·.length = nonceSize) .invalidUnwrap .invalidTag

section Relabelled

variable {ciphers : Ciphers} {draws : Draws} {plaintext associatedData associatedData' : Bytes}
  {provider provider' : KeyEncryptionKeyProvider} {secret : EncryptedSecret} {key key' : KeyEncryptionKey}

/-- Decryption of an encrypted secret under any key it is looked up with. -/
theorem Encrypts.decryptSecret_eq (sound : CiphersSound ciphers)
    (encrypts : Encrypts ciphers draws plaintext associatedData key secret) {relabelled : EncryptedSecret}
    (wrapped : relabelled.wrappedDek = secret.wrappedDek) (nonce : relabelled.nonce = secret.nonce)
    (ciphertext : relabelled.ciphertext = secret.ciphertext)
    (known : provider'.get relabelled.keyVersion = .ok key') (nonempty : 0 < associatedData'.length)
    (bounded : associatedData'.length ≤ maxAssociatedData) :
    decryptSecret ciphers relabelled associatedData' provider' =
      if associatedData' = associatedData ∧ key'.version = key.version ∧ key'.material = key.material then .ok plaintext
      else .error (.secretDecryption "encrypted secret authentication failed") := by
  have opened := sound.openBox_eq (bindAssociatedData associatedData' key'.version) key.materialSize
    key'.materialSize draws.dekShape draws.nonceShape encrypts.encrypted encrypts.wrapped
  have framed := @bindAssociatedData_inj associatedData' associatedData _ _ key'.versionShape key.versionShape
  simp only [decryptSecret, validateInputs_of nonempty bounded, known, ok_bind, wrapped, nonce, ciphertext,
    encrypts.nonce, opened, framed]
  by_cases material : key'.material = key.material
  · by_cases scope : associatedData' = associatedData ∧ key'.version = key.version
    · simp [material, scope]
    · rw [if_pos material, if_neg scope, if_neg fun all => scope ⟨all.1, all.2.1⟩]
      rfl
  · rw [if_neg material, if_neg fun all => material all.2.2]
    rfl

/-- A secret can be read back exactly in its own scope, under its own key version and with its own
key material; anything else is a failed authentication. -/
theorem decryptSecret_relabelled (sound : CiphersSound ciphers) (labelled : provider'.Labelled) {version : String}
    (made : encryptSecret ciphers draws plaintext associatedData provider = .ok secret)
    (current : provider.current = .ok key) (known : provider'.get version = .ok key')
    (nonempty : 0 < associatedData'.length) (bounded : associatedData'.length ≤ maxAssociatedData) :
    ∃ relabelled, secret.relabel version = .ok relabelled ∧
      decryptSecret ciphers relabelled associatedData' provider' =
        if associatedData' = associatedData ∧ version = key.version ∧ key'.material = key.material then .ok plaintext
        else .error (.secretDecryption "encrypted secret authentication failed") := by
  obtain ⟨current', same, encrypts⟩ := encryptSecret_eq_ok made
  cases same.symm.trans current
  obtain rfl := labelled version key' known
  exact ⟨_, secret.relabel_eq_ok key'.versionShape, encrypts.decryptSecret_eq sound rfl rfl rfl known nonempty bounded⟩

end Relabelled

/-! ## A sample secret -/

def sampleMaterial : Bytes := List.replicate keySize 0x6b
def sampleDraws : Draws := ⟨(List.range 32).map UInt8.ofNat, (List.range 12).map UInt8.ofNat, by decide, by decide⟩
def sampleSecret : Bytes := encodeAscii "synthetic-api-secret"
def sampleScope : Bytes := encodeAscii "tenant/connection/api-secret/v1"

/-- AES-KWP of the sample key under the sample material. -/
def sampleWrapped : Bytes :=
  [0xbe, 0xfa, 0x71, 0x21, 0xbf, 0x7c, 0xde, 0x38, 0x38, 0xae, 0x69, 0xf7, 0x7c, 0x26, 0xe0, 0xff, 0x5b, 0xad,
    0x41, 0x17, 0x6e, 0xbe, 0x26, 0x22, 0xed, 0x8f, 0x0c, 0x2c, 0x89, 0xfe, 0x71, 0x4e, 0xf8, 0x73, 0x7a, 0x14,
    0xd4, 0xe8, 0xc0, 0xdc]

/-- AES-256-GCM of the sample secret under the sample draws, in the sample scope of version `local-v1`. -/
def sampleCiphertext : Bytes :=
  [0x34, 0x7b, 0xb8, 0x6f, 0xad, 0x80, 0xb6, 0x72, 0xee, 0x6c, 0xf6, 0xfb, 0xd8, 0xc4, 0x0b, 0x08, 0xe0, 0xa4,
    0xe2, 0x40, 0x46, 0x31, 0x96, 0xd8, 0x97, 0xb8, 0x54, 0x7f, 0xca, 0x37, 0xd6, 0xf3, 0x40, 0x28, 0x79, 0x54]

/-- Ciphers that know one wrapping and one encryption, and refuse to make others. -/
def recordedCiphers : Ciphers where
  wrap material key :=
    if material = sampleMaterial ∧ key = sampleDraws.dek then .ok sampleWrapped
    else .error (.builtin (.overflowError "not recorded"))
  unwrap material wrapped :=
    if material = sampleMaterial ∧ wrapped = sampleWrapped then .ok sampleDraws.dek else .error .invalidUnwrap
  encrypt key nonce data associated :=
    if key = sampleDraws.dek ∧ nonce = sampleDraws.nonce ∧ data = sampleSecret ∧
        associated = bindAssociatedData sampleScope "local-v1" then .ok sampleCiphertext
    else .error (.builtin (.overflowError "not recorded"))
  decrypt key nonce ciphertext associated :=
    if key = sampleDraws.dek ∧ nonce = sampleDraws.nonce ∧ ciphertext = sampleCiphertext ∧
        associated = bindAssociatedData sampleScope "local-v1" then .ok sampleSecret
    else .error .invalidTag

theorem recordedCiphers_sound : CiphersSound recordedCiphers := by
  constructor
  · intro material other key wrapped _ _ _ made
    simp only [recordedCiphers] at made ⊢
    split at made
    · next same =>
      cases made
      simp only [same.1, same.2, and_true]
    · cases made
  · intro key nonce data associated associated' ciphertext _ _ made
    simp only [recordedCiphers] at made ⊢
    split at made
    · next same =>
      cases made
      obtain ⟨rfl, rfl, rfl, rfl⟩ := same
      simp only [true_and]
    · cases made

/-- Keys of several versions that share one material. -/
def memoryProvider (current : String) (versions : List String) (material : Bytes) : KeyEncryptionKeyProvider where
  current := KeyEncryptionKey.new current material
  get version :=
    if version ∈ versions then KeyEncryptionKey.new version material else .error (.secretDecryption "missing key")

theorem memoryProvider_labelled (current : String) (versions : List String) (material : Bytes) :
    (memoryProvider current versions material).Labelled := by
  intro version key found
  simp only [memoryProvider] at found
  split at found
  · exact (KeyEncryptionKey.new_eq_ok found).1
  · cases found

def sampleKey (version : String) (shape : isKeyVersion version = true) : KeyEncryptionKey :=
  ⟨version, sampleMaterial, shape, rfl⟩

/-- After a rotation that keeps the material, the secret is readable under its version only. -/
theorem decryptSecret_relabelled_sample : ∃ secret same moved,
    encryptSecret recordedCiphers sampleDraws sampleSecret sampleScope
        (memoryProvider "local-v1" ["local-v1"] sampleMaterial) = .ok secret ∧
      secret.relabel "local-v1" = .ok same ∧ secret.relabel "local-v2" = .ok moved ∧
      decryptSecret recordedCiphers same sampleScope
        (memoryProvider "local-v2" ["local-v1", "local-v2"] sampleMaterial) = .ok sampleSecret ∧
      decryptSecret recordedCiphers moved sampleScope
        (memoryProvider "local-v2" ["local-v1", "local-v2"] sampleMaterial) =
          .error (.secretDecryption "encrypted secret authentication failed") := by
  have current : (memoryProvider "local-v1" ["local-v1"] sampleMaterial).current =
      .ok (sampleKey "local-v1" (by decide)) := rfl
  have made : encryptSecret recordedCiphers sampleDraws sampleSecret sampleScope
      (memoryProvider "local-v1" ["local-v1"] sampleMaterial) =
        .ok ⟨"local-v1", sampleWrapped, sampleDraws.nonce, sampleCiphertext, algorithm, formatVersion, by decide,
          by decide, by decide, by decide⟩ := rfl
  have labelled := memoryProvider_labelled "local-v2" ["local-v1", "local-v2"] sampleMaterial
  obtain ⟨same, relabelled, opened⟩ := @decryptSecret_relabelled _ _ _ _ sampleScope _ _ _ _
    (sampleKey "local-v1" (by decide)) recordedCiphers_sound labelled "local-v1" made current rfl (by decide) (by decide)
  obtain ⟨moved, relabelled', opened'⟩ := @decryptSecret_relabelled _ _ _ _ sampleScope _ _ _ _
    (sampleKey "local-v2" (by decide)) recordedCiphers_sound labelled "local-v2" made current rfl (by decide) (by decide)
  exact ⟨_, same, moved, made, relabelled, relabelled', opened, opened'⟩

end PortfolioManager.Persistence
