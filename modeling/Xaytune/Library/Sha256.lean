import Mathlib.Algebra.Ring.Nat

/-!
# SHA-256

The digest of some bytes, as sixty-four hexadecimal letters.
-/

namespace Xaytune.Library.Sha256

def roundConstants : List UInt32 :=
  [0x428a2f98, 0x71374491, 0xb5c0fbcf, 0xe9b5dba5, 0x3956c25b, 0x59f111f1,
    0x923f82a4, 0xab1c5ed5, 0xd807aa98, 0x12835b01, 0x243185be, 0x550c7dc3,
    0x72be5d74, 0x80deb1fe, 0x9bdc06a7, 0xc19bf174, 0xe49b69c1, 0xefbe4786,
    0x0fc19dc6, 0x240ca1cc, 0x2de92c6f, 0x4a7484aa, 0x5cb0a9dc, 0x76f988da,
    0x983e5152, 0xa831c66d, 0xb00327c8, 0xbf597fc7, 0xc6e00bf3, 0xd5a79147,
    0x06ca6351, 0x14292967, 0x27b70a85, 0x2e1b2138, 0x4d2c6dfc, 0x53380d13,
    0x650a7354, 0x766a0abb, 0x81c2c92e, 0x92722c85, 0xa2bfe8a1, 0xa81a664b,
    0xc24b8b70, 0xc76c51a3, 0xd192e819, 0xd6990624, 0xf40e3585, 0x106aa070,
    0x19a4c116, 0x1e376c08, 0x2748774c, 0x34b0bcb5, 0x391c0cb3, 0x4ed8aa4a,
    0x5b9cca4f, 0x682e6ff3, 0x748f82ee, 0x78a5636f, 0x84c87814, 0x8cc70208,
    0x90befffa, 0xa4506ceb, 0xbef9a3f7, 0xc67178f2]

/-- The eight working words. -/
structure Words where
  a : UInt32
  b : UInt32
  c : UInt32
  d : UInt32
  e : UInt32
  f : UInt32
  g : UInt32
  h : UInt32

def Words.initial : Words :=
  ⟨0x6a09e667, 0xbb67ae85, 0x3c6ef372, 0xa54ff53a,
    0x510e527f, 0x9b05688c, 0x1f83d9ab, 0x5be0cd19⟩

namespace Words

def add (first second : Words) : Words :=
  ⟨first.a + second.a, first.b + second.b, first.c + second.c, first.d + second.d,
    first.e + second.e, first.f + second.f, first.g + second.g, first.h + second.h⟩

def toList (words : Words) : List UInt32 :=
  [words.a, words.b, words.c, words.d, words.e, words.f, words.g, words.h]

end Words

def rotate (word count : UInt32) : UInt32 := (word >>> count) ||| (word <<< (32 - count))

/-- A message padded to whole blocks of sixty-four bytes. -/
def pad (message : List UInt8) : List UInt8 :=
  message ++ 0x80 :: List.replicate ((119 - message.length % 64) % 64) 0 ++
    (List.range 8).map fun place => UInt8.ofNat (8 * message.length / 256 ^ (7 - place))

/-- The words of some bytes, the first byte the highest. -/
def wordsOf : List UInt8 → List UInt32
  | first :: second :: third :: fourth :: rest =>
      ((first.toUInt32 <<< 24) ||| (second.toUInt32 <<< 16) ||| (third.toUInt32 <<< 8) |||
        fourth.toUInt32) :: wordsOf rest
  | _ => []

/-- The next words of a schedule, the last sixteen given. -/
def schedule : Nat → List UInt32 → List UInt32
  | 0, window => window
  | count + 1, window =>
      let word (place : Nat) : UInt32 := window.getD place 0
      let low := rotate (word 1) 7 ^^^ rotate (word 1) 18 ^^^ (word 1 >>> 3)
      let high := rotate (word 14) 17 ^^^ rotate (word 14) 19 ^^^ (word 14 >>> 10)
      let next := word 0 + low + word 9 + high
      word 0 :: schedule count (window.drop 1 ++ [next])

/-- One round with a constant and a word of the schedule. -/
def round (words : Words) (step : UInt32 × UInt32) : Words :=
  let mixed := rotate words.e 6 ^^^ rotate words.e 11 ^^^ rotate words.e 25
  let chosen := (words.e &&& words.f) ^^^ (~~~ words.e &&& words.g)
  let first := words.h + mixed + chosen + step.1 + step.2
  let blended := rotate words.a 2 ^^^ rotate words.a 13 ^^^ rotate words.a 22
  let majority := (words.a &&& words.b) ^^^ (words.a &&& words.c) ^^^ (words.b &&& words.c)
  ⟨first + (blended + majority), words.a, words.b, words.c, words.d + first, words.e, words.f,
    words.g⟩

def compress (words : Words) (block : List UInt32) : Words :=
  words.add ((roundConstants.zip (schedule 48 block)).foldl round words)

/-- The words of a message, block by block. -/
def absorb : Nat → Words → List UInt32 → Words
  | 0, words, _ => words
  | blocks + 1, words, message => absorb blocks (compress words (message.take 16)) (message.drop 16)

def digest (message : List UInt8) : Words :=
  let words := wordsOf (pad message)
  absorb (words.length / 16) .initial words

/-- The eight hexadecimal letters of a word. -/
def hexOf (word : UInt32) : List Char :=
  [28, 24, 20, 16, 12, 8, 4, 0].map fun (shift : UInt32) =>
    Nat.digitChar ((word >>> shift).toNat % 16)

def hex (message : List UInt8) : List Char := (digest message).toList.flatMap hexOf

theorem hex_length (message : List UInt8) : (hex message).length = 64 := by
  simp [hex, hexOf, Words.toList]

theorem hex_letters (message : List UInt8) :
    ∀ letter ∈ hex message, letter ∈ "0123456789abcdef".toList := by
  intro letter member
  obtain ⟨word, _, inWord⟩ := List.mem_flatMap.mp member
  obtain ⟨shift, _, rfl⟩ := List.mem_map.mp inWord
  have all : ∀ digit < 16, Nat.digitChar digit ∈ "0123456789abcdef".toList := by decide
  exact all _ (Nat.mod_lt _ (by decide))

end Xaytune.Library.Sha256
