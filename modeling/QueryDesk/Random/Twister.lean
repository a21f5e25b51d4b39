/-!
# A twisted shift register

The Mersenne Twister with a period of 2^19937 - 1: a register of 624 words of 32 bits, from which
words are drawn one after the other, and which is renewed as a whole when all are drawn.  The
register is filled from a key of words, here the digits of a seed to the base 2^32.

From the words come whole numbers below a bound, each equally likely (a word too large is drawn
again), and fractions of one with 53 binary digits.
-/

set_option autoImplicit false

namespace QueryDesk

/-- The register and the place of the next word to draw. -/
structure Twister where
  words : Array UInt32
  next : Nat

namespace Twister

/-- The count of words in the register. -/
def size : Nat := 624

/-- The distance of the words that are combined in a renewal. -/
def middle : Nat := 397

/-- The word at a place. -/
def word (words : Array UInt32) (i : Nat) : UInt32 := words.getD i 0

/-! ## Seeding -/

/-- The register that one word fills. -/
def fill (seed : UInt32) : Array UInt32 :=
  (List.range (size - 1)).foldl
    (fun words i =>
      let previous := word words i
      words.push ((1812433253 : UInt32) * (previous ^^^ (previous >>> 30)) + UInt32.ofNat (i + 1)))
    #[seed]

/-- The place of the `k`-th step of mixing: the places 1 to 623 in turn. -/
def turn (k : Nat) : Nat := k % (size - 1) + 1

/-- Mixes the word in front of a place into the one at the place.  The place in front of the first
holds a copy of the last word, but not when mixing begins. -/
def mix (factor : UInt32) (combine : UInt32 → UInt32) (words : Array UInt32) (k : Nat) :
    Array UInt32 :=
  let i := turn k
  let words :=
    if i = 1 ∧ k ≠ 0 then words.setIfInBounds 0 (word words (size - 1)) else words
  let previous := word words (i - 1)
  words.setIfInBounds i (combine (word words i ^^^ ((previous ^^^ (previous >>> 30)) * factor)))

/-- The register that a key of words fills: the key is mixed in from its front, over and over
until the register is covered, and then the places themselves. -/
def ofKey (key : List UInt32) : Twister :=
  let keys := key.toArray
  let steps := max size keys.size
  let addKey (k : Nat) (w : UInt32) : UInt32 :=
    w + keys.getD (k % keys.size) 0 + UInt32.ofNat (k % keys.size)
  let dropPlace (k : Nat) (w : UInt32) : UInt32 := w - UInt32.ofNat (turn k)
  let words := (List.range steps).foldl (fun words k => mix 1664525 (addKey k) words k)
    (fill 19650218)
  let words := (List.range (size - 1)).foldl
    (fun words k => mix 1566083941 (dropPlace (steps + k)) words (steps + k)) words
  ⟨words.setIfInBounds 0 0x80000000, size⟩

/-- The digits of a number to the base 2^32, the lowest first, at least one. -/
def keyOf (n : Nat) : List UInt32 :=
  if n < 0x100000000 then [UInt32.ofNat n] else UInt32.ofNat n :: keyOf (n / 0x100000000)
termination_by n

/-- The register for a seed; its sign does not count. -/
def ofSeed (seed : Int) : Twister := ofKey (keyOf seed.natAbs)

/-! ## Drawing -/

/-- Renews the word at a place. -/
def renewWord (words : Array UInt32) (i : Nat) : Array UInt32 :=
  let y := (word words i &&& 0x80000000) ||| (word words ((i + 1) % size) &&& 0x7FFFFFFF)
  let odd : UInt32 := if y &&& 1 = 0 then 0 else 0x9908B0DF
  words.setIfInBounds i (word words ((i + middle) % size) ^^^ (y >>> 1) ^^^ odd)

/-- Renews the register. -/
def renew (words : Array UInt32) : Array UInt32 := (List.range size).foldl renewWord words

/-- Spreads the bits of a word. -/
def temper (y : UInt32) : UInt32 :=
  let y := y ^^^ (y >>> 11)
  let y := y ^^^ ((y <<< 7) &&& 0x9D2C5680)
  let y := y ^^^ ((y <<< 15) &&& 0xEFC60000)
  y ^^^ (y >>> 18)

/-- Draws a word. -/
def draw (t : Twister) : UInt32 × Twister :=
  if t.next < size then (temper (word t.words t.next), ⟨t.words, t.next + 1⟩)
  else
    let words := renew t.words
    (temper (word words 0), ⟨words, 1⟩)

/-- The bits of a bound. -/
def bits (bound : Nat) : Nat := if bound = 0 then 0 else Nat.log2 bound + 1

/-- Draws a number below a bound, with so many tries.  A register cannot fail that often: more
than its 19937 bits would have to be ones. -/
def below (bound : Nat) : Nat → Twister → Nat × Twister
  | 0, t => (0, t)
  | tries + 1, t =>
    let (w, t) := t.draw
    let n := w.toNat / Nat.pow 2 (32 - bits bound)
    if n < bound then (n, t) else below bound tries t

/-- Draws a number below a bound. -/
def drawBelow (bound : Nat) (t : Twister) : Nat × Twister := below bound 20000 t

/-- Draws a fraction, in units of 2^-53. -/
def drawFraction (t : Twister) : Nat × Twister :=
  let (a, t) := t.draw
  let (b, t) := t.draw
  (a.toNat / Nat.pow 2 5 * Nat.pow 2 26 + b.toNat / Nat.pow 2 6, t)

end Twister
end QueryDesk
