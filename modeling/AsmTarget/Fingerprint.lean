/-
**Fingerprints.**

* `Json.fingerprint`: the SHA-256 digest of the text of a value;
* `Descriptor.fingerprint`: the digest that stands for a descriptor;
* `Sha256.Digest.text`: a digest as sixty-four hexadecimal digits.
-/

import AsmTarget.Json.Encode
import AsmTarget.Sha256

namespace AsmTarget

/-- The digest as hexadecimal digits. -/
def Sha256.Digest.text (digest : Sha256.Digest) : String :=
  Text.Hexadecimal.octets digest.toList

/-- The digest of the text of a JSON value. -/
def Json.fingerprint (value : Json) : Sha256.Digest :=
  Sha256.digest value.compact.toUTF8.toList

/-- The digest of the text that identifies a descriptor. -/
def Descriptor.fingerprint (descriptor : Descriptor) : Sha256.Digest :=
  descriptor.toJson.fingerprint

end AsmTarget
