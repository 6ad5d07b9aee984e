import PortfolioManager.Persistence.Envelope

/-! # Secrets under a key in a file

The file can change between the encryption of a secret and its decryption: its bytes, its mode, or the whole entry.
What a decryption ends with depends on the version asked for, on the file as it is then, and on the bytes it held when
the secret was made.
-/

namespace PortfolioManager.Persistence

open PortfolioManager.Python Checked SealedBox

/-- A regular file that its owner alone can use. -/
def isPrivate (mode : ℕ) : Bool := isRegular mode && mode &&& 0o077 = 0

/-- The scopes that `_validate_inputs` lets through. -/
def isScope (associatedData : Bytes) : Bool := associatedData ≠ [] && associatedData.length ≤ maxAssociatedData

variable {ciphers : Ciphers} {draws : Draws} {plaintext scope scope' : Bytes} {files files' : FileSystem}
  {provider provider' : FileKeyEncryptionKeyProvider} {secret : EncryptedSecret} {key : KeyEncryptionKey}

/-! ## The key in the file -/

/-- What a load comes to, for a version that a key can have. -/
theorem load_eq (shape : isKeyVersion provider.version = true) :
    provider.load files =
      match files.lstat provider.path with
      | .error error => .error error
      | .ok mode =>
          if isPrivate mode then
            match files.readBytes provider.path with
            | .error error => .error error
            | .ok material =>
                if size : material.length = keySize then .ok ⟨provider.version, material, shape, size⟩
                else .error (.builtin (.valueError "KEK material must be 256 bits"))
          else .error (.builtin (.valueError "KEK file must be a regular owner-only file")) := by
  rw [FileKeyEncryptionKeyProvider.load]
  cases files.lstat provider.path with
  | error error => rfl
  | ok mode =>
    rw [ok_bind]
    by_cases owned : isRegular mode = true ∧ mode &&& 0o077 = 0
    · have private_ : isPrivate mode = true := by simpa [isPrivate] using owned
      rw [check_of _ owned, ok_bind]
      dsimp only
      rw [if_pos private_]
      cases files.readBytes provider.path with
      | error error => rfl
      | ok material =>
        rw [ok_bind, KeyEncryptionKey.new, validateKeyVersion, check_of _ shape, ok_bind]
        by_cases size : material.length = keySize
        · rw [check_of _ size]
          dsimp only
          rw [dif_pos size]
          rfl
        · rw [check_of_not _ size]
          dsimp only
          rw [dif_neg size]
          rfl
    · have shared : ¬isPrivate mode = true := by simpa [isPrivate] using owned
      rw [check_of_not _ owned]
      dsimp only
      rw [if_neg shared]
      rfl

/-- A key that was loaded is the content of its file. -/
theorem load_eq_ok (loaded : provider.load files = .ok key) :
    key.version = provider.version ∧ files.readBytes provider.path = .ok key.material := by
  obtain ⟨mode, _, loaded⟩ := bind_eq_ok_iff.mp loaded
  obtain ⟨_, loaded⟩ := check_bind_eq_ok_iff.mp loaded
  obtain ⟨material, read, built⟩ := bind_eq_ok_iff.mp loaded
  obtain ⟨version, rfl⟩ := KeyEncryptionKey.new_eq_ok built
  exact ⟨version, read⟩

/-! ## Decryption -/

theorem validateInputs_of_not (invalid : ¬isScope scope = true) :
    validateInputs scope = .error (.builtin (.valueError "associated data must be non-empty and at most 8 KiB")) := by
  have outside : ¬(scope ≠ [] ∧ scope.length ≤ maxAssociatedData) := by simpa [isScope] using invalid
  rw [validateInputs, check_of_not _ outside]
  rfl

/-- In a valid scope and under its own version, a decryption ends with what the load of the key ends with, or else opens
the secret with the key. -/
theorem decrypt_of_load (sound : CiphersSound ciphers)
    (made : encryptSecret ciphers draws plaintext scope (provider.port files) = .ok secret) (valid : isScope scope' = true)
    (same : provider.version = provider'.version) :
    decryptSecret ciphers secret scope' (provider'.port files') = (do
      let key ← provider'.load files'
      if scope' = scope ∧ files.readBytes provider.path = .ok key.material then return plaintext
      else throw (.secretDecryption "encrypted secret authentication failed")) := by
  obtain ⟨key, loaded, encrypts⟩ := encryptSecret_eq_ok made
  obtain ⟨version, read⟩ := load_eq_ok loaded
  have bounds : scope' ≠ [] ∧ scope'.length ≤ maxAssociatedData := by simpa [isScope] using valid
  have nonempty := List.length_pos_of_ne_nil bounds.1
  have asked : (provider'.port files').get secret.keyVersion = provider'.load files' := by
    change provider'.get files' secret.keyVersion = _
    rw [FileKeyEncryptionKeyProvider.get, check_of _ (encrypts.version.trans (version.trans same))]
    rfl
  cases found : provider'.load files' with
  | error error =>
    rw [decryptSecret, validateInputs_of nonempty bounds.2, asked, found]
    rfl
  | ok key' =>
    have agreed : key'.version = key.version := (load_eq_ok found).1.trans (same.symm.trans version.symm)
    rw [encrypts.decryptSecret_eq sound rfl rfl rfl (asked.trans found) nonempty bounds.2]
    refine if_congr (and_congr_right fun _ => ?_) rfl rfl
    rw [read, Except.ok.injEq]
    exact (and_iff_right agreed).trans eq_comm

/-- A secret made under a key file opens in its own scope, under its own version and while the file holds the bytes
it held, and a shared file is not read. -/
theorem decrypt_with_file (sound : CiphersSound ciphers)
    (made : encryptSecret ciphers draws plaintext scope (provider.port files) = .ok secret) :
    decryptSecret ciphers secret scope' (provider'.port files') =
      if ¬isScope scope' then .error (.builtin (.valueError "associated data must be non-empty and at most 8 KiB"))
      else if provider.version ≠ provider'.version then .error (.secretDecryption "requested KEK version is unavailable")
      else match files'.lstat provider'.path with
        | .error error => .error error
        | .ok mode =>
            if ¬isPrivate mode then .error (.builtin (.valueError "KEK file must be a regular owner-only file"))
            else match files'.readBytes provider'.path with
              | .error error => .error error
              | .ok material =>
                  if material.length ≠ keySize then .error (.builtin (.valueError "KEK material must be 256 bits"))
                  else if scope' = scope ∧ files.readBytes provider.path = .ok material then .ok plaintext
                  else .error (.secretDecryption "encrypted secret authentication failed") := by
  obtain ⟨key, loaded, encrypts⟩ := encryptSecret_eq_ok made
  obtain ⟨version, _⟩ := load_eq_ok loaded
  by_cases valid : isScope scope' = true
  case neg =>
    rw [decryptSecret, validateInputs_of_not valid, if_pos valid]
    rfl
  have bounds : scope' ≠ [] ∧ scope'.length ≤ maxAssociatedData := by simpa [isScope] using valid
  rw [if_neg (not_not.mpr valid)]
  by_cases same : provider.version = provider'.version
  case neg =>
    have asked : (provider'.port files').get secret.keyVersion =
        .error (.secretDecryption "requested KEK version is unavailable") := by
      change provider'.get files' secret.keyVersion = _
      rw [FileKeyEncryptionKeyProvider.get, check_of_not _ (encrypts.version.trans version ▸ same)]
      rfl
    rw [if_pos same, decryptSecret, validateInputs_of (List.length_pos_of_ne_nil bounds.1) bounds.2, asked]
    rfl
  have shape : isKeyVersion provider'.version = true := same ▸ version ▸ key.versionShape
  rw [if_neg (not_not.mpr same), decrypt_of_load sound made valid same, load_eq shape]
  cases files'.lstat provider'.path with
  | error error => rfl
  | ok mode =>
    dsimp only
    by_cases owned : isPrivate mode = true
    case neg =>
      rw [if_neg owned, if_pos owned]
      rfl
    rw [if_pos owned, if_neg (not_not.mpr owned)]
    cases files'.readBytes provider'.path with
    | error error => rfl
    | ok material =>
      dsimp only
      by_cases size : material.length = keySize
      · rw [dif_pos size, if_neg (not_not.mpr size)]
        rfl
      · rw [dif_neg size, if_pos size]
        rfl

/-- A host whose only file holds the sample material. -/
def sampleFiles (mode : ℕ) (material : Bytes) : FileSystem where
  lstat path := if path = "/run/kek" then .ok mode else .error (.osError "No such file or directory")
  readBytes path := if path = "/run/kek" then .ok material else .error (.osError "No such file or directory")

/-- A secret made under a private file, after the mode of the file has changed, and after its bytes have. -/
theorem decrypt_with_file_sample : ∃ secret,
    encryptSecret recordedCiphers sampleDraws sampleSecret sampleScope
        (FileKeyEncryptionKeyProvider.port (sampleFiles 0o100600 sampleMaterial) ⟨"/run/kek", "local-v1"⟩) = .ok secret ∧
      decryptSecret recordedCiphers secret sampleScope
          (FileKeyEncryptionKeyProvider.port (sampleFiles 0o100400 sampleMaterial) ⟨"/run/kek", "local-v1"⟩) = .ok sampleSecret ∧
      decryptSecret recordedCiphers secret sampleScope
          (FileKeyEncryptionKeyProvider.port (sampleFiles 0o100644 sampleMaterial) ⟨"/run/kek", "local-v1"⟩) =
        .error (.builtin (.valueError "KEK file must be a regular owner-only file")) ∧
      decryptSecret recordedCiphers secret sampleScope
          (FileKeyEncryptionKeyProvider.port (sampleFiles 0o100600 (List.replicate keySize 0)) ⟨"/run/kek", "local-v1"⟩) =
        .error (.secretDecryption "encrypted secret authentication failed") := by
  have made : encryptSecret recordedCiphers sampleDraws sampleSecret sampleScope
      (FileKeyEncryptionKeyProvider.port (sampleFiles 0o100600 sampleMaterial) ⟨"/run/kek", "local-v1"⟩) =
        .ok ⟨"local-v1", sampleWrapped, sampleDraws.nonce, sampleCiphertext, algorithm, formatVersion, by decide,
          by decide, by decide, by decide⟩ := rfl
  refine ⟨_, made, ?_, ?_, ?_⟩ <;>
    · rw [decrypt_with_file recordedCiphers_sound made]
      rfl

end PortfolioManager.Persistence
