import Mathlib.Tactic.Common

/-! # Two-layer sealed boxes

Data is sealed under a one-time key, and the one-time key is wrapped under a long-lived one. The
primitives may fail; what they guarantee is stated for what they have sealed and wrapped. A box
then opens exactly under the key and the associated bytes it was closed with.
-/

namespace SealedBox

universe u v

variable {B : Type u} {ε : Type v}

structure Primitives (B : Type u) (ε : Type v) where
  wrap : B → B → Except ε B
  unwrap : B → B → Except ε B
  encrypt : B → B → B → B → Except ε B
  decrypt : B → B → B → B → Except ε B

/-- Unwrapping needs the wrapping key, and decryption the associated bytes of the encryption; both
fail with their own error otherwise. The guarantees range over keys and nonces of the right shape. -/
structure Primitives.Sound [DecidableEq B] (primitives : Primitives B ε) (isKey isNonce : B → Prop)
    (invalidUnwrap invalidTag : ε) : Prop where
  unwrap_wrap : ∀ {material other key wrapped : B}, isKey material → isKey other → isKey key →
    primitives.wrap material key = .ok wrapped →
    primitives.unwrap other wrapped = if other = material then .ok key else .error invalidUnwrap
  decrypt_encrypt : ∀ {key nonce data associated associated' ciphertext : B}, isKey key → isNonce nonce →
    primitives.encrypt key nonce data associated = .ok ciphertext →
    primitives.decrypt key nonce ciphertext associated' =
      if associated' = associated then .ok data else .error invalidTag

/-- Open a box: recover the one-time key, then the data. -/
def Primitives.openBox (primitives : Primitives B ε) (material wrapped nonce ciphertext associated : B) : Except ε B := do
  let key ← primitives.unwrap material wrapped
  primitives.decrypt key nonce ciphertext associated

variable [DecidableEq B] {primitives : Primitives B ε} {isKey isNonce : B → Prop} {invalidUnwrap invalidTag : ε}

/-- A box opens under its own key and associated bytes, and otherwise fails for one of two reasons. -/
theorem Primitives.Sound.openBox_eq (sound : primitives.Sound isKey isNonce invalidUnwrap invalidTag)
    {material other key nonce data associated ciphertext wrapped : B} (associated' : B) (outer : isKey material)
    (outer' : isKey other) (inner : isKey key) (fresh : isNonce nonce)
    (encrypted : primitives.encrypt key nonce data associated = .ok ciphertext)
    (wrapping : primitives.wrap material key = .ok wrapped) :
    primitives.openBox other wrapped nonce ciphertext associated' =
      if other = material then if associated' = associated then .ok data else .error invalidTag
      else .error invalidUnwrap := by
  rw [openBox, sound.unwrap_wrap outer outer' inner wrapping]
  by_cases same : other = material
  · rw [if_pos same, if_pos same]
    exact sound.decrypt_encrypt inner fresh encrypted
  · rw [if_neg same, if_neg same]
    rfl

/-- A field that ends at the first separator can be read back, whatever follows it. -/
theorem append_separator_inj {α : Type*} {separator : α} {first second rest rest' : List α} (clean : separator ∉ first)
    (clean' : separator ∉ second) :
    first ++ separator :: rest = second ++ separator :: rest' ↔ first = second ∧ rest = rest' := by
  refine ⟨fun same => ?_, by rintro ⟨rfl, rfl⟩; rfl⟩
  induction first generalizing second with
  | nil =>
    cases second with
    | nil => exact ⟨rfl, (List.cons.inj same).2⟩
    | cons head tail =>
      rw [List.nil_append, List.cons_append, List.cons.injEq] at same
      exact absurd (same.1 ▸ List.mem_cons_self ..) clean'
  | cons head tail ih =>
    cases second with
    | nil =>
      rw [List.nil_append, List.cons_append, List.cons.injEq] at same
      exact absurd (same.1.symm ▸ List.mem_cons_self ..) clean
    | cons head' tail' =>
      rw [List.cons_append, List.cons_append, List.cons.injEq] at same
      obtain ⟨rfl, rfl⟩ := ih (List.not_mem_of_not_mem_cons clean) (List.not_mem_of_not_mem_cons clean') same.2
      exact ⟨by rw [same.1], rfl⟩

end SealedBox
