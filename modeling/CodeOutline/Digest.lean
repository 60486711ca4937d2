import CodeOutline.Text.Case

/-!
# Digests

Two lines, or two pieces of source text, count as the same content when they are equal up to letter
case and the blanks around them. A forest does not keep the content itself but a digest of it: the
SHA-256 digest of the trimmed text in small letters, cut to sixteen hexadecimal digits. The diff
compares nothing else, so it is exact as far as the digest is free of collisions.

## Main definitions

* `Digest.sha256`: the SHA-256 digest of a list of bytes
* `contentHash`: the content hash of a text
* `hashLength`: the length of a content hash
-/

namespace CodeOutline

namespace Digest

/-- The round constants: the first 32 bits of the fractions of the cube roots of the first 64
primes. -/
def roundConstants : List UInt32 := [
  0x428a2f98, 0x71374491, 0xb5c0fbcf, 0xe9b5dba5, 0x3956c25b, 0x59f111f1, 0x923f82a4, 0xab1c5ed5,
  0xd807aa98, 0x12835b01, 0x243185be, 0x550c7dc3, 0x72be5d74, 0x80deb1fe, 0x9bdc06a7, 0xc19bf174,
  0xe49b69c1, 0xefbe4786, 0x0fc19dc6, 0x240ca1cc, 0x2de92c6f, 0x4a7484aa, 0x5cb0a9dc, 0x76f988da,
  0x983e5152, 0xa831c66d, 0xb00327c8, 0xbf597fc7, 0xc6e00bf3, 0xd5a79147, 0x06ca6351, 0x14292967,
  0x27b70a85, 0x2e1b2138, 0x4d2c6dfc, 0x53380d13, 0x650a7354, 0x766a0abb, 0x81c2c92e, 0x92722c85,
  0xa2bfe8a1, 0xa81a664b, 0xc24b8b70, 0xc76c51a3, 0xd192e819, 0xd6990624, 0xf40e3585, 0x106aa070,
  0x19a4c116, 0x1e376c08, 0x2748774c, 0x34b0bcb5, 0x391c0cb3, 0x4ed8aa4a, 0x5b9cca4f, 0x682e6ff3,
  0x748f82ee, 0x78a5636f, 0x84c87814, 0x8cc70208, 0x90befffa, 0xa4506ceb, 0xbef9a3f7, 0xc67178f2]

/-- The eight working words. -/
structure Words where
  a : UInt32
  b : UInt32
  c : UInt32
  d : UInt32
  e : UInt32
  f : UInt32
  g : UInt32
  h : UInt32

/-- The words a digest starts from: the first 32 bits of the fractions of the square roots of the
first eight primes. -/
def Words.start : Words :=
  ⟨0x6a09e667, 0xbb67ae85, 0x3c6ef372, 0xa54ff53a, 0x510e527f, 0x9b05688c, 0x1f83d9ab, 0x5be0cd19⟩

/-- Addition word by word. -/
def Words.add (x y : Words) : Words :=
  ⟨x.a + y.a, x.b + y.b, x.c + y.c, x.d + y.d, x.e + y.e, x.f + y.f, x.g + y.g, x.h + y.h⟩

/-- The words in order. -/
def Words.toList (w : Words) : List UInt32 :=
  [w.a, w.b, w.c, w.d, w.e, w.f, w.g, w.h]

/-- Rotation to the right. -/
def rotate (x : UInt32) (n : UInt32) : UInt32 :=
  (x >>> n) ||| (x <<< (32 - n))

/-- One round on the working words. -/
def round (w : Words) (constant word : UInt32) : Words :=
  let s1 := rotate w.e 6 ^^^ rotate w.e 11 ^^^ rotate w.e 25
  let choice := (w.e &&& w.f) ^^^ (~~~w.e &&& w.g)
  let t1 := w.h + s1 + choice + constant + word
  let s0 := rotate w.a 2 ^^^ rotate w.a 13 ^^^ rotate w.a 22
  let majority := (w.a &&& w.b) ^^^ (w.a &&& w.c) ^^^ (w.b &&& w.c)
  ⟨t1 + s0 + majority, w.a, w.b, w.c, w.d + t1, w.e, w.f, w.g⟩

/-- One more word of the message schedule. -/
def scheduleStep (w : Array UInt32) (i : Nat) : Array UInt32 :=
  let x := w.getD (i - 15) 0
  let y := w.getD (i - 2) 0
  let s0 := rotate x 7 ^^^ rotate x 18 ^^^ (x >>> 3)
  let s1 := rotate y 17 ^^^ rotate y 19 ^^^ (y >>> 10)
  w.push (w.getD (i - 16) 0 + s0 + w.getD (i - 7) 0 + s1)

/-- The message schedule of a block of sixteen words: 64 words. -/
def schedule (block : List UInt32) : Array UInt32 :=
  ((List.range 48).map (· + 16)).foldl scheduleStep block.toArray

/-- The working words after a block of sixteen words. -/
def compress (w : Words) (block : List UInt32) : Words :=
  w.add ((roundConstants.zip (schedule block).toList).foldl (fun v (k, x) => round v k x) w)

/-- Four bytes as a word, the highest byte first. -/
def wordOfBytes (a b c d : UInt8) : UInt32 :=
  (a.toUInt32 <<< 24) ||| (b.toUInt32 <<< 16) ||| (c.toUInt32 <<< 8) ||| d.toUInt32

/-- The bytes as words, four at a time; bytes that do not fill a word are left out. -/
def wordsOfBytes : List UInt8 → List UInt32
  | a :: b :: c :: d :: rest => wordOfBytes a b c d :: wordsOfBytes rest
  | _ => []

/-- The word as four bytes, the highest first. -/
def bytesOfWord (w : UInt32) : List UInt8 :=
  [(w >>> 24).toUInt8, (w >>> 16).toUInt8, (w >>> 8).toUInt8, w.toUInt8]

/-- The `n` lowest bytes of a number, the highest first. -/
def bytesOfNat (n : Nat) (value : Nat) : List UInt8 :=
  (List.range n).reverse.map fun i => UInt8.ofNat (value / Nat.pow 256 i)

/-- What follows a message of `length` bytes to fill its last block: a one bit, zeros, and the
length in bits. -/
def padding (length : Nat) : List UInt8 :=
  0x80 :: List.replicate ((119 - length % 64) % 64) 0 ++ bytesOfNat 8 (8 * length)

/-- The working words after all blocks. -/
def absorb (w : Words) (words : List UInt32) : Words :=
  if words.length < 16 then w
  else absorb (compress w (words.take 16)) (words.drop 16)
termination_by words.length
decreasing_by simp only [List.length_drop]; omega

/-- The SHA-256 digest of a message, as 32 bytes. -/
def sha256 (message : List UInt8) : List UInt8 :=
  (absorb Words.start (wordsOfBytes (message ++ padding message.length))).toList.flatMap bytesOfWord

/-- A byte as two hexadecimal digits. -/
def hexByte (b : UInt8) : List Char :=
  [Nat.digitChar (b.toNat / 16), Nat.digitChar (b.toNat % 16)]

end Digest

/-- The number of characters a content hash has. -/
def hashLength : Nat := 16

/-- What a content hash is taken of: the text without the blanks around it, in small letters. -/
def normalText (s : String) : String :=
  String.ofList (Text.lower (Text.trim s.toList))

/-- The first hexadecimal digits of the SHA-256 digest of a text's UTF-8 bytes. -/
def digestText (s : String) : String :=
  String.ofList (((Digest.sha256 s.toUTF8.toList).flatMap Digest.hexByte).take hashLength)

/-- The content hash of a text: equal for texts that differ only in letter case and in the blanks
around them. -/
def contentHash (s : String) : String :=
  digestText (normalText s)

/-! ### The length of a digest -/

theorem Digest.length_sha256 (message : List UInt8) : (sha256 message).length = 32 := by
  simp [sha256, Words.toList, bytesOfWord]

theorem length_digestText (s : String) : (digestText s).length = hashLength := by
  have hhex : (Digest.hexByte · |>.length) = fun _ => 2 := rfl
  simp [digestText, hashLength, List.length_flatMap, hhex, List.map_const', Digest.length_sha256]

/-- A content hash is not empty, so it is never taken for a missing one. -/
theorem contentHash_ne_empty (s : String) : contentHash s ≠ "" := by
  intro h
  have hlength := length_digestText (normalText s)
  rw [← contentHash, h] at hlength
  simp [hashLength] at hlength

end CodeOutline
