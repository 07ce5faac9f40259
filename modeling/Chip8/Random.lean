namespace Chip8

/-- The Mersenne twister with 624 words of 32 bits. -/
structure Twister where
  state : Vector UInt32 624
  /-- The next word to be drawn; at 624 all words are renewed first. -/
  position : Nat

namespace Twister

@[inline] def word (s : Vector UInt32 624) (k : Nat) : UInt32 :=
  if h : k < 624 then s.get ⟨k, h⟩ else 0

def fill (seed : UInt32) : Vector UInt32 624 :=
  (List.range 623).foldl
    (fun s (k : Nat) =>
      let last := word s k
      s.setIfInBounds (k + 1) ((1812433253 : UInt32) * (last ^^^ (last >>> 30)) + UInt32.ofNat (k + 1)))
    (Vector.replicate 624 seed)

/-- The place after `i`, which is 1 after the last one; the last word is then copied to the front. -/
def advance (s : Vector UInt32 624) (i : Nat) : Vector UInt32 624 × Nat :=
  if 624 ≤ i + 1 then (s.setIfInBounds 0 (word s 623), 1) else (s, i + 1)

def stirKey (key : Array UInt32) :
    Nat → Nat → Nat → Vector UInt32 624 → Vector UInt32 624 × Nat
  | 0, i, _, s => (s, i)
  | n + 1, i, j, s =>
    let last := word s (i - 1)
    let mixed := (word s i ^^^ ((last ^^^ (last >>> 30)) * 1664525))
      + key.getD j 0 + UInt32.ofNat j
    let (s, i) := advance (s.setIfInBounds i mixed) i
    stirKey key n i (if key.size ≤ j + 1 then 0 else j + 1) s

def stirPlain : Nat → Nat → Vector UInt32 624 → Vector UInt32 624
  | 0, _, s => s
  | n + 1, i, s =>
    let last := word s (i - 1)
    let mixed := (word s i ^^^ ((last ^^^ (last >>> 30)) * 1566083941)) - UInt32.ofNat i
    let (s, i) := advance (s.setIfInBounds i mixed) i
    stirPlain n i s

def ofKey (key : Array UInt32) : Twister :=
  let (s, i) := stirKey key (max 624 key.size) 1 0 (fill 19650218)
  ⟨(stirPlain 623 i s).setIfInBounds 0 0x80000000, 624⟩

def keyWords (n : Nat) : List UInt32 :=
  if n < UInt32.size then [UInt32.ofNat n] else UInt32.ofNat n :: keyWords (n / UInt32.size)
termination_by n
decreasing_by
  simp only [UInt32.size] at *
  omega

def ofSeed (seed : Int) : Twister := ofKey (keyWords seed.natAbs).toArray

def renew (s : Vector UInt32 624) : Vector UInt32 624 :=
  (List.range 624).foldl
    (fun s k =>
      let y := (word s k &&& 0x80000000) ||| (word s ((k + 1) % 624) &&& 0x7FFFFFFF)
      let twist : UInt32 := if y &&& 1 = 0 then 0 else 0x9908B0DF
      s.setIfInBounds k (word s ((k + 397) % 624) ^^^ (y >>> 1) ^^^ twist))
    s

def temper (y : UInt32) : UInt32 :=
  let y := y ^^^ (y >>> 11)
  let y := y ^^^ ((y <<< 7) &&& 0x9D2C5680)
  let y := y ^^^ ((y <<< 15) &&& 0xEFC60000)
  y ^^^ (y >>> 18)

def next (t : Twister) : UInt32 × Twister :=
  let t := if t.position < 624 then t else ⟨renew t.state, 0⟩
  (temper (word t.state t.position), { t with position := t.position + 1 })

end Twister

/-- Where the machine takes its random numbers from. -/
inductive RandomSource where
  /-- Numbers fixed beforehand, and how many of them have been drawn. -/
  | tape (values : Nat → Int) (drawn : Nat)
  | twister (state : Twister)

namespace RandomSource

def cycle (values : Array Int) : RandomSource :=
  tape (fun k => values.getD (k % values.size) 0) 0

def zeros : RandomSource := tape (fun _ => 0) 0

def ofSeed (seed : Int) : RandomSource := twister (Twister.ofSeed seed)

/-- Draws nine bits until they make a byte, for as many words as are given. -/
def drawByte : Nat → Twister → Nat × Twister
  | 0, t => (0, t)
  | attempts + 1, t =>
    let (word, t) := t.next
    let bits := (word >>> 23).toNat
    if bits < 256 then (bits, t) else drawByte attempts t

/-- The number of words after which a source gives up finding a byte: among so many consecutive
words of the generator one always has a clear top bit. -/
def attempts : Nat := 20000

def next : RandomSource → Int × RandomSource
  | tape values drawn => (values drawn, tape values (drawn + 1))
  | twister state =>
    let (byte, state) := drawByte attempts state
    (byte, twister state)

end RandomSource

end Chip8
