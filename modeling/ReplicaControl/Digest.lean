/-!
# Digests of byte strings

A digest absorbs a message in blocks of 64 bytes. The message is padded with one bit, zeros and its
length in bits. Messages authenticated with a key (HMAC) are digested twice, each time behind a
block made from the key.

- `Digest.hash`: the digest of a message, for `Digest.md5`, `Digest.sha1` and `Digest.sha256`.
- `Digest.Keyed`, `Digest.Keyed.mac`: a key made ready, and the code of a message under it.
- **Keys of any length** (`exists_keyed?`): `Digest.keyed?` asks for a whole block and can fail;
  `length_keyBlock` shows that it never does, so that `Digest.keyed` is total.
-/

namespace ReplicaControl

/-- A hash function that works through blocks of 64 bytes, each of which changes a `State`. -/
structure Digest where
  State : Type
  start : State
  /-- The state after a block, which has 64 bytes. -/
  absorb : State → List UInt8 → State
  /-- The bytes of a length, in the byte order of the hash function. -/
  lengthBytes : UInt64 → List UInt8
  /-- The digest that a state stands for, of `size` bytes. -/
  output : State → List UInt8
  /-- The number of bytes of every `output`, which fit into a block. -/
  size : Nat
  length_output : ∀ s, (output s).length = size
  size_le : size ≤ 64

namespace Digest

/-- The bytes of `w`, the most significant first. -/
def bigEndian (w : UInt32) : List UInt8 :=
  [(w >>> 24).toUInt8, (w >>> 16).toUInt8, (w >>> 8).toUInt8, w.toUInt8]

/-- The bytes of `w`, the least significant first. -/
def littleEndian (w : UInt32) : List UInt8 :=
  [w.toUInt8, (w >>> 8).toUInt8, (w >>> 16).toUInt8, (w >>> 24).toUInt8]

/-- The bytes of `w`, the most significant first. -/
def bigEndianLong (w : UInt64) : List UInt8 :=
  bigEndian (w >>> 32).toUInt32 ++ bigEndian w.toUInt32

/-- The bytes of `w`, the least significant first. -/
def littleEndianLong (w : UInt64) : List UInt8 :=
  littleEndian w.toUInt32 ++ littleEndian (w >>> 32).toUInt32

/-- The words of bytes, four bytes each by `bigEndian`. -/
def bigEndianWords : List UInt8 → List UInt32
  | a :: b :: c :: d :: rest =>
    (a.toUInt32 <<< 24 ||| b.toUInt32 <<< 16 ||| c.toUInt32 <<< 8 ||| d.toUInt32) ::
      bigEndianWords rest
  | _ => []

/-- The words of bytes, four bytes each by `littleEndian`. -/
def littleEndianWords : List UInt8 → List UInt32
  | a :: b :: c :: d :: rest =>
    (d.toUInt32 <<< 24 ||| c.toUInt32 <<< 16 ||| b.toUInt32 <<< 8 ||| a.toUInt32) ::
      littleEndianWords rest
  | _ => []

def rotateLeft (w n : UInt32) : UInt32 := w <<< n ||| w >>> (32 - n)

def rotateRight (w n : UInt32) : UInt32 := w >>> n ||| w <<< (32 - n)

variable (d : Digest)

/-- The state after all blocks of `message`, whose length is a multiple of 64. -/
def absorbAll (s : d.State) (message : List UInt8) : d.State :=
  if message.isEmpty then s else absorbAll (d.absorb s (message.take 64)) (message.drop 64)
termination_by message.length
decreasing_by
  cases message
  · contradiction
  · simp only [List.length_drop, List.length_cons]
    omega

/-- What follows a message of `length` bytes, so that whole blocks result. -/
def padding (length : Nat) : List UInt8 :=
  0x80 :: (List.replicate ((64 - (length + 9) % 64) % 64) 0 ++
    d.lengthBytes (8 * length).toUInt64)

/-- The digest of `message` from a state that has absorbed `absorbed` bytes before it. -/
def finish (s : d.State) (absorbed : Nat) (message : List UInt8) : List UInt8 :=
  d.output (d.absorbAll s (message ++ d.padding (absorbed + message.length)))

/-- The digest of `message`. -/
def hash (message : List UInt8) : List UInt8 := d.finish d.start 0 message

/-- A key made ready for `hmac`: the states after its inner and its outer block. -/
structure Keyed where
  inner : d.State
  outer : d.State

/-- The block of `key`: a long key is digested first, a short one is filled up with zeros. -/
def keyBlock (key : List UInt8) : List UInt8 :=
  let key := if 64 < key.length then d.hash key else key
  key ++ List.replicate (64 - key.length) 0

theorem length_hash (message : List UInt8) : (d.hash message).length = d.size := d.length_output _

/-- `keyBlock` of a key of any length is a whole block. -/
theorem length_keyBlock (key : List UInt8) : (d.keyBlock key).length = 64 := by
  have hhash := d.length_hash key
  have hsize := d.size_le
  rw [keyBlock, List.length_append, List.length_replicate]
  split <;> omega

/-- Why a key is refused. -/
inductive KeyFault where
  | blockLength (actual : Nat)
deriving DecidableEq

/-- Makes `key` ready: `keyBlock` must give a whole block, which is absorbed under two masks. -/
def keyed? (key : List UInt8) : Except KeyFault d.Keyed :=
  let block := d.keyBlock key
  if block.length = 64 then
    .ok ⟨d.absorb d.start (block.map (· ^^^ 0x36)), d.absorb d.start (block.map (· ^^^ 0x5C))⟩
  else .error (.blockLength block.length)

/-- No key has a `KeyFault`. -/
theorem exists_keyed? (key : List UInt8) : ∃ k, d.keyed? key = .ok k :=
  ⟨_, if_pos (d.length_keyBlock key)⟩

/-- The key that `keyed?` makes ready; it refuses none, by `exists_keyed?`. -/
def keyed (key : List UInt8) : d.Keyed :=
  match h : d.keyed? key with
  | .ok k => k
  | .error _ => absurd (d.exists_keyed? key) fun ⟨_, hk⟩ => nomatch h.symm.trans hk

theorem keyed?_eq_ok (key : List UInt8) : d.keyed? key = .ok (d.keyed key) := by
  unfold keyed
  split
  · assumption
  · next h => exact absurd (d.exists_keyed? key) fun ⟨_, hk⟩ => nomatch h.symm.trans hk

/-- The code of `message` under the key `k`. -/
def Keyed.mac {d : Digest} (k : d.Keyed) (message : List UInt8) : List UInt8 :=
  d.finish k.outer 64 (d.finish k.inner 64 message)

/-- The code of `message` under `key`. -/
def hmac (key message : List UInt8) : List UInt8 := (d.keyed key).mac message

theorem length_hmac (key message : List UInt8) : (d.hmac key message).length = d.size :=
  d.length_output _

end Digest

end ReplicaControl

/-!
## MD5

A digest of 16 bytes from a state of four words, for `passwordDigest`.
-/

namespace ReplicaControl.Digest

namespace Md5

structure State where
  (a b c d : UInt32)

def start : State := ⟨0x67452301, 0xefcdab89, 0x98badcfe, 0x10325476⟩

def constants : List UInt32 :=
  [0xd76aa478, 0xe8c7b756, 0x242070db, 0xc1bdceee, 0xf57c0faf, 0x4787c62a, 0xa8304613, 0xfd469501,
   0x698098d8, 0x8b44f7af, 0xffff5bb1, 0x895cd7be, 0x6b901122, 0xfd987193, 0xa679438e, 0x49b40821,
   0xf61e2562, 0xc040b340, 0x265e5a51, 0xe9b6c7aa, 0xd62f105d, 0x02441453, 0xd8a1e681, 0xe7d3fbc8,
   0x21e1cde6, 0xc33707d6, 0xf4d50d87, 0x455a14ed, 0xa9e3e905, 0xfcefa3f8, 0x676f02d9, 0x8d2a4c8a,
   0xfffa3942, 0x8771f681, 0x6d9d6122, 0xfde5380c, 0xa4beea44, 0x4bdecfa9, 0xf6bb4b60, 0xbebfbc70,
   0x289b7ec6, 0xeaa127fa, 0xd4ef3085, 0x04881d05, 0xd9d4d039, 0xe6db99e5, 0x1fa27cf8, 0xc4ac5665,
   0xf4292244, 0x432aff97, 0xab9423a7, 0xfc93a039, 0x655b59c3, 0x8f0ccc92, 0xffeff47d, 0x85845dd1,
   0x6fa87e4f, 0xfe2ce6e0, 0xa3014314, 0x4e0811a1, 0xf7537e82, 0xbd3af235, 0x2ad7d2bb, 0xeb86d391]

/-- How far the bits are turned in round `i`. -/
def shift (i : Nat) : UInt32 :=
  let turns : List UInt32 :=
    if i < 16 then [7, 12, 17, 22]
    else if i < 32 then [5, 9, 14, 20]
    else if i < 48 then [4, 11, 16, 23]
    else [6, 10, 15, 21]
  turns.getD (i % 4) 0

/-- The state after the rounds of given constants, the first of them being round `i`. -/
def rounds (words : Array UInt32) (i : Nat) (a b c d : UInt32) : List UInt32 → State
  | k :: ks =>
    let (f, place) :=
      if i < 16 then ((b &&& c) ||| (~~~b &&& d), i)
      else if i < 32 then ((d &&& b) ||| (~~~d &&& c), 5 * i + 1)
      else if i < 48 then (b ^^^ c ^^^ d, 3 * i + 5)
      else (c ^^^ (b ||| ~~~d), 7 * i)
    let turned := rotateLeft (a + f + k + words.getD (place % 16) 0) (shift i)
    rounds words (i + 1) d (b + turned) b c ks
  | [] => ⟨a, b, c, d⟩

def absorb (s : State) (block : List UInt8) : State :=
  let t := rounds (littleEndianWords block).toArray 0 s.a s.b s.c s.d constants
  ⟨s.a + t.a, s.b + t.b, s.c + t.c, s.d + t.d⟩

def output (s : State) : List UInt8 := [s.a, s.b, s.c, s.d].flatMap littleEndian

end Md5

def md5 : Digest where
  State := Md5.State
  start := Md5.start
  absorb := Md5.absorb
  lengthBytes := littleEndianLong
  output := Md5.output
  size := 16
  length_output _ := rfl
  size_le := by decide

/-!
## SHA-1

A digest of 20 bytes from a state of five words, for `ScramVariant.sha1`.
-/

namespace Sha1

structure State where
  (a b c d e : UInt32)

def start : State := ⟨0x67452301, 0xefcdab89, 0x98badcfe, 0x10325476, 0xc3d2e1f0⟩

/-- The words of the rounds: those of the block, then each from four before it. -/
def schedule (block : List UInt32) : Array UInt32 :=
  (List.range 64).foldl (fun w i =>
    w.push (rotateLeft
      (w.getD (i + 13) 0 ^^^ w.getD (i + 8) 0 ^^^ w.getD (i + 2) 0 ^^^ w.getD i 0) 1))
    block.toArray

/-- The state after the rounds of given words, the first of them being round `i`. -/
def rounds (i : Nat) (a b c d e : UInt32) : List UInt32 → State
  | w :: ws =>
    let f :=
      if i < 20 then ((b &&& c) ||| (~~~b &&& d)) + 0x5a827999
      else if i < 40 then (b ^^^ c ^^^ d) + 0x6ed9eba1
      else if i < 60 then ((b &&& c) ||| (b &&& d) ||| (c &&& d)) + 0x8f1bbcdc
      else (b ^^^ c ^^^ d) + 0xca62c1d6
    rounds (i + 1) (rotateLeft a 5 + f + e + w) a (rotateLeft b 30) c d ws
  | [] => ⟨a, b, c, d, e⟩

def absorb (s : State) (block : List UInt8) : State :=
  let t := rounds 0 s.a s.b s.c s.d s.e (schedule (bigEndianWords block)).toList
  ⟨s.a + t.a, s.b + t.b, s.c + t.c, s.d + t.d, s.e + t.e⟩

def output (s : State) : List UInt8 := [s.a, s.b, s.c, s.d, s.e].flatMap bigEndian

end Sha1

def sha1 : Digest where
  State := Sha1.State
  start := Sha1.start
  absorb := Sha1.absorb
  lengthBytes := bigEndianLong
  output := Sha1.output
  size := 20
  length_output _ := rfl
  size_le := by decide

/-!
## SHA-256

A digest of 32 bytes from a state of eight words, for `ScramVariant.sha256` and for the salts of
resources.
-/

namespace Sha256

structure State where
  (a b c d e f g h : UInt32)

def constants : List UInt32 :=
  [0x428a2f98, 0x71374491, 0xb5c0fbcf, 0xe9b5dba5, 0x3956c25b, 0x59f111f1, 0x923f82a4, 0xab1c5ed5,
   0xd807aa98, 0x12835b01, 0x243185be, 0x550c7dc3, 0x72be5d74, 0x80deb1fe, 0x9bdc06a7, 0xc19bf174,
   0xe49b69c1, 0xefbe4786, 0x0fc19dc6, 0x240ca1cc, 0x2de92c6f, 0x4a7484aa, 0x5cb0a9dc, 0x76f988da,
   0x983e5152, 0xa831c66d, 0xb00327c8, 0xbf597fc7, 0xc6e00bf3, 0xd5a79147, 0x06ca6351, 0x14292967,
   0x27b70a85, 0x2e1b2138, 0x4d2c6dfc, 0x53380d13, 0x650a7354, 0x766a0abb, 0x81c2c92e, 0x92722c85,
   0xa2bfe8a1, 0xa81a664b, 0xc24b8b70, 0xc76c51a3, 0xd192e819, 0xd6990624, 0xf40e3585, 0x106aa070,
   0x19a4c116, 0x1e376c08, 0x2748774c, 0x34b0bcb5, 0x391c0cb3, 0x4ed8aa4a, 0x5b9cca4f, 0x682e6ff3,
   0x748f82ee, 0x78a5636f, 0x84c87814, 0x8cc70208, 0x90befffa, 0xa4506ceb, 0xbef9a3f7, 0xc67178f2]

def start : State :=
  ⟨0x6a09e667, 0xbb67ae85, 0x3c6ef372, 0xa54ff53a, 0x510e527f, 0x9b05688c, 0x1f83d9ab, 0x5be0cd19⟩

/-- The words of the rounds: those of the block, then each from four before it. -/
def schedule (block : List UInt32) : Array UInt32 :=
  (List.range 48).foldl (fun w i =>
    let x := w.getD (i + 1) 0
    let y := w.getD (i + 14) 0
    let s0 := rotateRight x 7 ^^^ rotateRight x 18 ^^^ x >>> 3
    let s1 := rotateRight y 17 ^^^ rotateRight y 19 ^^^ y >>> 10
    w.push (w.getD i 0 + s0 + w.getD (i + 9) 0 + s1)) block.toArray

/-- The state after the rounds of given constants and words. -/
def rounds (a b c d e f g h : UInt32) : List UInt32 → List UInt32 → State
  | k :: ks, w :: ws =>
    let s1 := rotateRight e 6 ^^^ rotateRight e 11 ^^^ rotateRight e 25
    let choice := (e &&& f) ^^^ (~~~e &&& g)
    let t1 := h + s1 + choice + k + w
    let s0 := rotateRight a 2 ^^^ rotateRight a 13 ^^^ rotateRight a 22
    let majority := (a &&& b) ^^^ (a &&& c) ^^^ (b &&& c)
    rounds (t1 + s0 + majority) a b c (d + t1) e f g ks ws
  | _, _ => ⟨a, b, c, d, e, f, g, h⟩

def absorb (s : State) (block : List UInt8) : State :=
  let words := (schedule (bigEndianWords block)).toList
  let t := rounds s.a s.b s.c s.d s.e s.f s.g s.h constants words
  ⟨s.a + t.a, s.b + t.b, s.c + t.c, s.d + t.d, s.e + t.e, s.f + t.f, s.g + t.g, s.h + t.h⟩

def output (s : State) : List UInt8 :=
  [s.a, s.b, s.c, s.d, s.e, s.f, s.g, s.h].flatMap bigEndian

end Sha256

def sha256 : Digest where
  State := Sha256.State
  start := Sha256.start
  absorb := Sha256.absorb
  lengthBytes := bigEndianLong
  output := Sha256.output
  size := 32
  length_output _ := rfl
  size_le := by decide

end ReplicaControl.Digest
