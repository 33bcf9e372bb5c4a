set_option relaxedAutoImplicit false
set_option autoImplicit false

/-!
# Reading bytes as UTF-8

Bytes are read as UTF-8 and nothing is refused: where they are not well formed, each *maximal
subpart* — the longest run of bytes that begins some well-formed sequence, and otherwise a single
byte — stands for one replacement character U+FFFD. The byte that shows that a sequence is broken
is not part of it and is read again as the first byte of what follows.

## Main definitions

* `WorkTree.Utf8.Lead`, `WorkTree.Utf8.lead` — what a byte means where a character may begin.
* `WorkTree.Utf8.Pending` — a sequence that has begun and is not complete.
* `WorkTree.Utf8.decode` — the characters of a list of bytes.
-/

namespace WorkTree.Utf8

/-- The character that stands for what cannot be read. -/
def replacement : Char :=
  Char.ofNat 0xFFFD

/-- A sequence that has begun: the bits read so far, the bounds of the byte that must come next,
and how many bytes are due after that one. -/
structure Pending where
  bits : Nat
  low : Nat
  high : Nat
  more : Nat
  deriving DecidableEq, Repr

/-- What a byte means where a character may begin. -/
inductive Lead where
  | whole (c : Char)
  | opens (p : Pending)
  | broken
  deriving DecidableEq, Repr

/-- The well-formed beginnings. The bounds of the second byte keep out overlong forms, surrogates
and numbers beyond the last code point. -/
def lead (b : UInt8) : Lead :=
  let n := b.toNat
  if n < 0x80 then .whole (Char.ofNat n)
  else if 0xC2 ≤ n && n ≤ 0xDF then .opens ⟨n % 0x20, 0x80, 0xBF, 0⟩
  else if n = 0xE0 then .opens ⟨n % 0x10, 0xA0, 0xBF, 1⟩
  else if n = 0xED then .opens ⟨n % 0x10, 0x80, 0x9F, 1⟩
  else if 0xE1 ≤ n && n ≤ 0xEF then .opens ⟨n % 0x10, 0x80, 0xBF, 1⟩
  else if n = 0xF0 then .opens ⟨n % 0x08, 0x90, 0xBF, 2⟩
  else if n = 0xF4 then .opens ⟨n % 0x08, 0x80, 0x8F, 2⟩
  else if 0xF1 ≤ n && n ≤ 0xF3 then .opens ⟨n % 0x08, 0x80, 0xBF, 2⟩
  else .broken

/-- The characters of the bytes that follow an incomplete sequence, or that begin afresh when there
is none. -/
def decodeFrom : Option Pending → List UInt8 → List Char
  | none, [] => []
  | some _, [] => [replacement]
  | none, b :: rest =>
    match lead b with
    | .whole c => c :: decodeFrom none rest
    | .opens p => decodeFrom (some p) rest
    | .broken => replacement :: decodeFrom none rest
  | some p, b :: rest =>
    if p.low ≤ b.toNat && b.toNat ≤ p.high then
      let bits := p.bits * 0x40 + b.toNat % 0x40
      match p.more with
      | 0 => Char.ofNat bits :: decodeFrom none rest
      | more + 1 => decodeFrom (some ⟨bits, 0x80, 0xBF, more⟩) rest
    else
      match lead b with
      | .whole c => replacement :: c :: decodeFrom none rest
      | .opens q => replacement :: decodeFrom (some q) rest
      | .broken => replacement :: replacement :: decodeFrom none rest

/-- The characters that a list of bytes stands for. -/
def decode (bytes : List UInt8) : List Char :=
  decodeFrom none bytes

end WorkTree.Utf8
