/-
Keyed digests.

`Digest` is a digest with the size of its blocks; `mac` keys it: the key, made one block long, is
mixed with two pads, and the digest is taken twice, so that nobody without the key can extend or
forge a code.
-/
import TokenGate.Hash.Sha2

namespace TokenGate.Hash

/-- A digest and the number of bytes of its blocks. -/
structure Digest where
  block : Nat
  run : List UInt8 → List UInt8

/-- SHA-256 with its blocks of 64 bytes. -/
def Digest.sha256 : Digest := ⟨64, Hash.sha256⟩

/-- SHA-384 with its blocks of 128 bytes. -/
def Digest.sha384 : Digest := ⟨128, Hash.sha384⟩

/-- SHA-512 with its blocks of 128 bytes. -/
def Digest.sha512 : Digest := ⟨128, Hash.sha512⟩

/-- The key on exactly one block: a longer key is digested first, a shorter one filled with zeros.
-/
def Digest.blockKey (D : Digest) (key : List UInt8) : List UInt8 :=
  let key := if key.length > D.block then D.run key else key
  key ++ List.replicate (D.block - key.length) 0

/-- The keyed digest of a message. -/
def Digest.mac (D : Digest) (key message : List UInt8) : List UInt8 :=
  let key := D.blockKey key
  D.run (key.map (· ^^^ 0x5C) ++ D.run (key.map (· ^^^ 0x36) ++ message))

end TokenGate.Hash
