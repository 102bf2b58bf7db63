import ObjectStore.Digest.Sha256

/-!
The keyed digest: two nested digests, whose messages start with the key under two different masks.
-/

namespace ObjectStore.Digest.Hmac

/-- A key of exactly one block. Longer keys are replaced by their digests. -/
def blockKey (key : List UInt8) : List UInt8 :=
  let short := if blockSize < key.length then Sha256.hash key else key
  short ++ List.replicate (blockSize - short.length) 0

def sign (key message : List UInt8) : List UInt8 :=
  let masked (mask : UInt8) := (blockKey key).map (· ^^^ mask)
  Sha256.hash (masked 0x5C ++ Sha256.hash (masked 0x36 ++ message))

end ObjectStore.Digest.Hmac
