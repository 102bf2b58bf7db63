/-!
Words of four bytes in both byte orders, and messages as blocks of sixty-four bytes.
-/

namespace ObjectStore.Digest

def rotateLeft (x n : UInt32) : UInt32 :=
  (x <<< n) ||| (x >>> (32 - n))

def rotateRight (x n : UInt32) : UInt32 :=
  (x >>> n) ||| (x <<< (32 - n))

def wordsBig : List UInt8 → List UInt32
  | a :: b :: c :: d :: rest =>
    ((a.toUInt32 <<< 24) ||| (b.toUInt32 <<< 16) ||| (c.toUInt32 <<< 8) ||| d.toUInt32)
      :: wordsBig rest
  | _ => []

def wordsLittle : List UInt8 → List UInt32
  | a :: b :: c :: d :: rest =>
    (a.toUInt32 ||| (b.toUInt32 <<< 8) ||| (c.toUInt32 <<< 16) ||| (d.toUInt32 <<< 24))
      :: wordsLittle rest
  | _ => []

def bytesBig (w : UInt32) : List UInt8 :=
  [(w >>> 24).toUInt8, (w >>> 16).toUInt8, (w >>> 8).toUInt8, w.toUInt8]

def bytesLittle (w : UInt32) : List UInt8 :=
  [w.toUInt8, (w >>> 8).toUInt8, (w >>> 16).toUInt8, (w >>> 24).toUInt8]

/-- The last bytes of a count, the most significant first. -/
def countBig : Nat → Nat → List UInt8
  | 0, _ => []
  | width + 1, n => countBig width (n / 256) ++ [UInt8.ofNat (n % 256)]

def blockSize : Nat := 64

/-- A message followed by a one bit, the fewest zeros that complete a block, and its length in bits
in the given order of bytes. -/
def pad (length : Nat → List UInt8) (message : List UInt8) : List UInt8 :=
  let size := message.length
  message ++ 0x80 :: List.replicate ((119 - size % 64) % 64) 0 ++ length (8 * size)

def foldBlocksFrom (f : σ → List UInt8 → σ) : Nat → List UInt8 → σ → σ
  | 0, _, s => s
  | n + 1, bytes, s => foldBlocksFrom f n (bytes.drop blockSize) (f s (bytes.take blockSize))

/-- Folds a function over the whole blocks of a message. -/
def foldBlocks (f : σ → List UInt8 → σ) (s : σ) (bytes : List UInt8) : σ :=
  foldBlocksFrom f (bytes.length / blockSize) bytes s

end ObjectStore.Digest
