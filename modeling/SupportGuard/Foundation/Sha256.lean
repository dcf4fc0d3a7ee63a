import Mathlib.Data.List.Basic

/-! # SHA-256

An executable SHA-256 over byte strings and its hexadecimal digest. Words are
natural numbers below `2 ^ 32`, so that a closed digest can be evaluated by the
kernel. -/

namespace Foundation

namespace Sha256

/-! ## Words -/

def word (value : Nat) : Nat :=
  value % 0x100000000

def rotateRight (amount value : Nat) : Nat :=
  (value >>> amount) ||| word (value <<< (32 - amount))

def complement (value : Nat) : Nat :=
  0xffffffff - value

def roundConstants : List Nat := [
  0x428a2f98, 0x71374491, 0xb5c0fbcf, 0xe9b5dba5,
  0x3956c25b, 0x59f111f1, 0x923f82a4, 0xab1c5ed5,
  0xd807aa98, 0x12835b01, 0x243185be, 0x550c7dc3,
  0x72be5d74, 0x80deb1fe, 0x9bdc06a7, 0xc19bf174,
  0xe49b69c1, 0xefbe4786, 0x0fc19dc6, 0x240ca1cc,
  0x2de92c6f, 0x4a7484aa, 0x5cb0a9dc, 0x76f988da,
  0x983e5152, 0xa831c66d, 0xb00327c8, 0xbf597fc7,
  0xc6e00bf3, 0xd5a79147, 0x06ca6351, 0x14292967,
  0x27b70a85, 0x2e1b2138, 0x4d2c6dfc, 0x53380d13,
  0x650a7354, 0x766a0abb, 0x81c2c92e, 0x92722c85,
  0xa2bfe8a1, 0xa81a664b, 0xc24b8b70, 0xc76c51a3,
  0xd192e819, 0xd6990624, 0xf40e3585, 0x106aa070,
  0x19a4c116, 0x1e376c08, 0x2748774c, 0x34b0bcb5,
  0x391c0cb3, 0x4ed8aa4a, 0x5b9cca4f, 0x682e6ff3,
  0x748f82ee, 0x78a5636f, 0x84c87814, 0x8cc70208,
  0x90befffa, 0xa4506ceb, 0xbef9a3f7, 0xc67178f2]

/-! ## Compression -/

structure State where
  a : Nat
  b : Nat
  c : Nat
  d : Nat
  e : Nat
  f : Nat
  g : Nat
  h : Nat

def initial : State where
  a := 0x6a09e667
  b := 0xbb67ae85
  c := 0x3c6ef372
  d := 0xa54ff53a
  e := 0x510e527f
  f := 0x9b05688c
  g := 0x1f83d9ab
  h := 0x5be0cd19

/-- The message schedule is a window of sixteen words whose head is the word of
the current round; this is the word that enters the window. -/
def nextWord (window : List Nat) : Nat :=
  let second := window.getD 1 0
  let fifteenth := window.getD 14 0
  let low := (rotateRight 7 second ^^^ rotateRight 18 second) ^^^ (second >>> 3)
  let high := (rotateRight 17 fifteenth ^^^ rotateRight 19 fifteenth) ^^^
    (fifteenth >>> 10)
  word (window.getD 0 0 + low + window.getD 9 0 + high)

def round (state : State) (constant current : Nat) : State :=
  let sumE := (rotateRight 6 state.e ^^^ rotateRight 11 state.e) ^^^
    rotateRight 25 state.e
  let choice := (state.e &&& state.f) ^^^ (complement state.e &&& state.g)
  let first := state.h + sumE + choice + constant + current
  let sumA := (rotateRight 2 state.a ^^^ rotateRight 13 state.a) ^^^
    rotateRight 22 state.a
  let majority := ((state.a &&& state.b) ^^^ (state.a &&& state.c)) ^^^
    (state.b &&& state.c)
  { a := word (first + sumA + majority)
    b := state.a
    c := state.b
    d := state.c
    e := word (state.d + first)
    f := state.e
    g := state.f
    h := state.g }

def rounds : List Nat → List Nat → State → State
  | [], _, state => state
  | constant :: constants, window, state =>
      rounds constants (window.tail ++ [nextWord window])
        (round state constant (window.headD 0))

def State.add (left right : State) : State where
  a := word (left.a + right.a)
  b := word (left.b + right.b)
  c := word (left.c + right.c)
  d := word (left.d + right.d)
  e := word (left.e + right.e)
  f := word (left.f + right.f)
  g := word (left.g + right.g)
  h := word (left.h + right.h)

def compress (state : State) (block : List Nat) : State :=
  state.add (rounds roundConstants block state)

/-! ## Messages -/

def bigEndianWords : List Nat → List Nat
  | first :: second :: third :: fourth :: rest =>
      (first * 0x1000000 + second * 0x10000 + third * 0x100 + fourth) ::
        bigEndianWords rest
  | _ => []

def bigEndianBytes : Nat → Nat → List Nat
  | 0, _ => []
  | count + 1, value => bigEndianBytes count (value / 256) ++ [value % 256]

def pad (message : List Nat) : List Nat :=
  message ++ 0x80 ::
    (List.replicate ((119 - message.length % 64) % 64) 0 ++
      bigEndianBytes 8 (8 * message.length))

/-- Collect words into blocks of sixteen and compress each block when it is
full. -/
def absorb : List Nat → List Nat → State → State
  | _, [], state => state
  | block, next :: words, state =>
      if block.length = 15 then absorb [] words (compress state (block ++ [next]))
      else absorb (block ++ [next]) words state

def digest (message : List UInt8) : List Nat :=
  let words := bigEndianWords (pad (message.map UInt8.toNat))
  let state := absorb [] words initial
  [state.a, state.b, state.c, state.d, state.e, state.f, state.g, state.h].flatMap
    (bigEndianBytes 4)

/-- The digest as sixty-four lowercase hexadecimal characters. -/
def hexDigest (message : List UInt8) : String :=
  String.ofList ((digest message).flatMap fun byte =>
    [Nat.digitChar (byte / 16), Nat.digitChar (byte % 16)])

example : hexDigest [97, 98, 99] =
    "ba7816bf8f01cfea414140de5dae2223b00361a396177a9cb410ff61f20015ad" := by
  decide +kernel

end Sha256

end Foundation
