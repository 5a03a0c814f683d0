import TableBrowser.Table.Basic
/-!
# The identity of a table

A table is told from others by the SHA-256 digest of all that it holds. The digest of a
byte sequence is given as 64 hexadecimal digits.
-/

namespace TableBrowser.Digest

def roundConstants : List UInt32 := [
  0x428a2f98, 0x71374491, 0xb5c0fbcf, 0xe9b5dba5, 0x3956c25b, 0x59f111f1, 0x923f82a4, 0xab1c5ed5,
  0xd807aa98, 0x12835b01, 0x243185be, 0x550c7dc3, 0x72be5d74, 0x80deb1fe, 0x9bdc06a7, 0xc19bf174,
  0xe49b69c1, 0xefbe4786, 0x0fc19dc6, 0x240ca1cc, 0x2de92c6f, 0x4a7484aa, 0x5cb0a9dc, 0x76f988da,
  0x983e5152, 0xa831c66d, 0xb00327c8, 0xbf597fc7, 0xc6e00bf3, 0xd5a79147, 0x06ca6351, 0x14292967,
  0x27b70a85, 0x2e1b2138, 0x4d2c6dfc, 0x53380d13, 0x650a7354, 0x766a0abb, 0x81c2c92e, 0x92722c85,
  0xa2bfe8a1, 0xa81a664b, 0xc24b8b70, 0xc76c51a3, 0xd192e819, 0xd6990624, 0xf40e3585, 0x106aa070,
  0x19a4c116, 0x1e376c08, 0x2748774c, 0x34b0bcb5, 0x391c0cb3, 0x4ed8aa4a, 0x5b9cca4f, 0x682e6ff3,
  0x748f82ee, 0x78a5636f, 0x84c87814, 0x8cc70208, 0x90befffa, 0xa4506ceb, 0xbef9a3f7, 0xc67178f2]

/-- The eight words that a block is mixed into. -/
structure State where
  a : UInt32
  b : UInt32
  c : UInt32
  d : UInt32
  e : UInt32
  f : UInt32
  g : UInt32
  h : UInt32

def initial : State where
  a := 0x6a09e667
  b := 0xbb67ae85
  c := 0x3c6ef372
  d := 0xa54ff53a
  e := 0x510e527f
  f := 0x9b05688c
  g := 0x1f83d9ab
  h := 0x5be0cd19

def State.words (state : State) : List UInt32 :=
  [state.a, state.b, state.c, state.d, state.e, state.f, state.g, state.h]

def State.add (left right : State) : State where
  a := left.a + right.a
  b := left.b + right.b
  c := left.c + right.c
  d := left.d + right.d
  e := left.e + right.e
  f := left.f + right.f
  g := left.g + right.g
  h := left.h + right.h

def rotateRight (word : UInt32) (count : UInt32) : UInt32 :=
  (word >>> count) ||| (word <<< (32 - count))

/-- The next word of a schedule whose last sixteen words are given, newest first. -/
def nextWord (newestFirst : List UInt32) : UInt32 :=
  let aged (age : Nat) : UInt32 := newestFirst.getD (age - 1) 0
  let small0 (word : UInt32) := rotateRight word 7 ^^^ rotateRight word 18 ^^^ (word >>> 3)
  let small1 (word : UInt32) := rotateRight word 17 ^^^ rotateRight word 19 ^^^ (word >>> 10)
  small1 (aged 2) + aged 7 + small0 (aged 15) + aged 16

/-- A schedule of sixteen words grown by `count` more, newest first. -/
def grow : (count : Nat) → List UInt32 → List UInt32
  | 0, words => words
  | count + 1, words => grow count (nextWord words :: words)

def mix (state : State) (constant word : UInt32) : State :=
  let big1 := rotateRight state.e 6 ^^^ rotateRight state.e 11 ^^^ rotateRight state.e 25
  let choice := (state.e &&& state.f) ^^^ (~~~state.e &&& state.g)
  let first := state.h + big1 + choice + constant + word
  let big0 := rotateRight state.a 2 ^^^ rotateRight state.a 13 ^^^ rotateRight state.a 22
  let majority := (state.a &&& state.b) ^^^ (state.a &&& state.c) ^^^ (state.b &&& state.c)
  { a := first + (big0 + majority), b := state.a, c := state.b, d := state.c,
    e := state.d + first, f := state.e, g := state.f, h := state.g }

def absorb (state : State) (block : List UInt32) : State :=
  let schedule := (grow 48 block.reverse).reverse
  let mixed := (roundConstants.zip schedule).foldl
    (fun state (constant, word) => mix state constant word) state
  state.add mixed

def wordOfBytes : List UInt8 → UInt32 :=
  List.foldl (fun word byte => (word <<< 8) ||| byte.toUInt32) 0

def bytesOfWord (word : UInt32) : List UInt8 :=
  [(word >>> 24).toUInt8, (word >>> 16).toUInt8, (word >>> 8).toUInt8, word.toUInt8]

/-- Consecutive groups of a size; the last one may be shorter. -/
def groups {α : Type} (size : Nat) : (count : Nat) → List α → List (List α)
  | 0, _ => []
  | count + 1, items =>
      if items.isEmpty then [] else items.take size :: groups size count (items.drop size)

/-- A one bit, zeros up to a whole block, and the length in bits at its end. -/
def padding (length : Nat) : List UInt8 :=
  let zeros := (119 - length % 64) % 64
  let bits := 8 * length
  0x80 :: List.replicate zeros 0 ++
    (List.range 8).map fun index => UInt8.ofNat (bits / Nat.pow 256 (7 - index) % 256)

def digest (bytes : List UInt8) : List UInt8 :=
  let padded := bytes ++ padding bytes.length
  let words := (groups 4 (padded.length / 4 + 1) padded).map wordOfBytes
  let blocks := groups 16 (words.length / 16 + 1) words
  (blocks.foldl absorb initial).words.flatMap bytesOfWord

def hexDigit (value : UInt8) : Char :=
  if value < 10 then Char.ofNat ('0'.toNat + value.toNat)
  else Char.ofNat ('a'.toNat + (value.toNat - 10))

def hex (bytes : List UInt8) : String :=
  String.ofList (bytes.flatMap fun (byte : UInt8) => [hexDigit (byte >>> 4), hexDigit (byte &&& 15)])

def ofText (text : String) : String := hex (digest text.toUTF8.toList)

end TableBrowser.Digest

namespace TableBrowser

def Table.fingerprint (table : Table) : String := Digest.ofText table.fingerprintText

end TableBrowser
