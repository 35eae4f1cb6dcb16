import HonoWarden.Web.Text

/-!
# Payloads in sealed blocks

A payload of any length in a block of one length: two bytes of length, the payload, and noise up to
the end. The block is sealed by an authenticated cipher that adds 16 bytes, so what is sealed has
one length whatever the payload was.

`Aead` is the cipher, with the two facts its users rely on. Nothing is asked of what it hides.

Results:
* **`blockPayload_fillBlock`**: the payload is read back out of its block;
* `length_fillBlock`: the block has the length of the noise.
-/

namespace Web

/-! ## The cipher -/

/-- An authenticated cipher with keys of 32 bytes, nonces of 12 and tags of 16; `none` is a refusal
to open. -/
structure Aead where
  encrypt (key iv aad plaintext : List Byte) : List Byte
  decrypt (key iv aad ciphertext : List Byte) : Option (List Byte)
  length_encrypt {key iv : List Byte} (aad plaintext : List Byte) :
    key.length = 32 → iv.length = 12 →
      (encrypt key iv aad plaintext).length = plaintext.length + 16
  decrypt_encrypt {key iv : List Byte} (aad plaintext : List Byte) :
    key.length = 32 → iv.length = 12 →
      decrypt key iv aad (encrypt key iv aad plaintext) = some plaintext

/-- The tag of `tagAead`: the first 16 bytes of the key, the nonce and the associated data. -/
def tagBytes (key iv aad : List Byte) : List Byte :=
  (key ++ iv ++ aad ++ List.replicate 16 0).take 16

theorem length_tagBytes (key iv aad : List Byte) : (tagBytes key iv aad).length = 16 := by
  unfold tagBytes
  rw [List.length_take, List.length_append, List.length_replicate]
  omega

/-- The plaintext with a tag behind it: a cipher in form only. -/
def tagAead : Aead where
  encrypt key iv aad plaintext := plaintext ++ tagBytes key iv aad
  decrypt key iv aad ciphertext :=
    if tagBytes key iv aad <:+ ciphertext then some (ciphertext.take (ciphertext.length - 16))
    else none
  length_encrypt aad plaintext _ _ := by
    rw [List.length_append, length_tagBytes]
  decrypt_encrypt aad plaintext _ _ := by
    rw [if_pos (List.suffix_append _ _), List.length_append, length_tagBytes, Nat.add_sub_cancel,
      List.take_left]

/-! ## The block -/

/-- Two bytes, the higher one first: `setUint16`. -/
def uint16Bytes (n : Nat) : List Byte := [Fin.ofNat _ (n / 256), Fin.ofNat _ n]

/-- `getUint16(0)`, of at least two bytes. -/
def getUint16 : List Byte → Nat
  | high :: low :: _ => high.val * 256 + low.val
  | _ => 0

/-- A payload behind its length, over what `noise` has in these places. -/
def fillBlock (noise payload : List Byte) : List Byte :=
  uint16Bytes payload.length ++ (payload ++ noise.drop (2 + payload.length))

/-- `block.subarray(2, length + 2)`, with the length in front of the block. -/
def blockPayload (block : List Byte) : List Byte := (block.drop 2).take (getUint16 block)

theorem length_fillBlock {noise payload : List Byte} (h : 2 + payload.length ≤ noise.length) :
    (fillBlock noise payload).length = noise.length := by
  simp only [fillBlock, uint16Bytes, List.length_append, List.length_drop, List.length_cons,
    List.length_nil]
  omega

theorem getUint16_fillBlock {noise payload : List Byte} (h : payload.length < 65536) :
    getUint16 (fillBlock noise payload) = payload.length := by
  have hvalue : (Fin.ofNat 256 (payload.length / 256)).val * 256 +
      (Fin.ofNat 256 payload.length).val = payload.length := by
    simp only [Fin.ofNat]
    omega
  exact hvalue

/-- **The payload is read back out of its block.** -/
theorem blockPayload_fillBlock {noise payload : List Byte} (h : payload.length < 65536) :
    blockPayload (fillBlock noise payload) = payload := by
  have hdrop : (fillBlock noise payload).drop 2 = payload ++ noise.drop (2 + payload.length) := rfl
  rw [blockPayload, getUint16_fillBlock h, hdrop, List.take_left]

end Web
