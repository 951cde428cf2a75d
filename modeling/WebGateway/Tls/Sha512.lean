/-!
# SHA-512

The message is filled up to blocks of 128 octets, which are mixed one after the other into eight
words of 64 bits. The constants are the first bits behind the point of the square and cube roots of
the first primes.
-/

set_option autoImplicit false
set_option relaxedAutoImplicit false

namespace WebGateway.Tls.Sha512

/-- The greatest number between two bounds whose power does not exceed a value, found by halving
the interval so many times. -/
def rootBetween (exponent value : Nat) : Nat → Nat → Nat → Nat
  | 0, low, _ => low
  | steps + 1, low, high =>
    let middle := (low + high) / 2
    if middle ^ exponent ≤ value then rootBetween exponent value steps middle high
    else rootBetween exponent value steps low middle

/-- The first 64 bits behind the point of a root of a number below 512. -/
def rootBits (exponent number : Nat) : UInt64 :=
  UInt64.ofNat (rootBetween exponent (number * Nat.pow 2 (64 * exponent)) 80 0 (Nat.pow 2 80))

def isPrime (number : Nat) : Bool :=
  2 ≤ number && (List.range number).all fun d ↦ d < 2 || number % d != 0

/-- The first eighty primes. -/
def primes : List Nat :=
  (List.range 410).filter isPrime

def initialWords : List UInt64 :=
  (primes.take 8).map (rootBits 2)

def roundConstants : List UInt64 :=
  (primes.take 80).map (rootBits 3)

def rotate (word : UInt64) (count : UInt64) : UInt64 :=
  (word >>> count) ||| (word <<< (64 - count))

/-- The word of eight octets. -/
def wordOf (octets : List UInt8) : UInt64 :=
  octets.foldl (fun word octet ↦ word <<< 8 ||| octet.toUInt64) 0

/-- The octets of a word. -/
def octetsOf (word : UInt64) : List UInt8 :=
  ([56, 48, 40, 32, 24, 16, 8, 0] : List UInt64).map fun count ↦ (word >>> count).toUInt8

/-- The pieces of a list, each of the given size. -/
def pieces (size : Nat) (octets : List UInt8) : List (List UInt8) :=
  (List.range ((octets.length + size - 1) / size)).map fun index ↦
    (octets.drop (index * size)).take size

/-- The message filled up to whole blocks, with its length in bits at the end. -/
def fill (message : List UInt8) : List UInt8 :=
  let zeros := (239 - message.length % 128) % 128
  message ++ 0x80 :: List.replicate zeros 0 ++ List.replicate 8 0 ++
    octetsOf (UInt64.ofNat (8 * message.length))

/-- The word that follows sixteen others, given the last first. -/
def nextWord (words : List UInt64) : UInt64 :=
  let w₂ := words.getD 1 0
  let w₁₅ := words.getD 14 0
  let s₀ := rotate w₁₅ 1 ^^^ rotate w₁₅ 8 ^^^ (w₁₅ >>> 7)
  let s₁ := rotate w₂ 19 ^^^ rotate w₂ 61 ^^^ (w₂ >>> 6)
  words.getD 15 0 + s₀ + words.getD 6 0 + s₁

/-- The eighty words of a block. -/
def schedule (block : List UInt8) : List UInt64 :=
  let start := ((pieces 8 block).map wordOf).reverse
  ((List.range 64).foldl (fun words _ ↦ nextWord words :: words) start).reverse

/-- Mixes one word of the schedule into the state. -/
def mix (state : List UInt64) (input : UInt64 × UInt64) : List UInt64 :=
  match state with
  | [a, b, c, d, e, f, g, h] =>
    let s₁ := rotate e 14 ^^^ rotate e 18 ^^^ rotate e 41
    let choice := (e &&& f) ^^^ ((e ^^^ 0xffffffffffffffff) &&& g)
    let t₁ := h + s₁ + choice + input.1 + input.2
    let s₀ := rotate a 28 ^^^ rotate a 34 ^^^ rotate a 39
    let majority := (a &&& b) ^^^ (a &&& c) ^^^ (b &&& c)
    [t₁ + (s₀ + majority), a, b, c, d + t₁, e, f, g]
  | other => other

def mixBlock (state : List UInt64) (block : List UInt8) : List UInt64 :=
  let mixed := (roundConstants.zip (schedule block)).foldl mix state
  state.zipWith (· + ·) mixed

/-- The digest of a message, 64 octets. -/
def digest (message : List UInt8) : List UInt8 :=
  ((pieces 128 (fill message)).foldl mixBlock initialWords).flatMap octetsOf

end WebGateway.Tls.Sha512
