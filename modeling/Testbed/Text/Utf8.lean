/-!
# UTF-8

Characters as bytes and back. Reading is strict, and then says where and how the bytes go wrong,
or lenient, and then puts U+FFFD for each longest piece that could have begun a character.
-/

namespace Testbed.Text.Utf8

def encodeChar (c : Char) : List UInt8 :=
  let n := c.toNat
  if n < 0x80 then [.ofNat n]
  else if n < 0x800 then [.ofNat (0xC0 + n / 64), .ofNat (0x80 + n % 64)]
  else if n < 0x10000 then
    [.ofNat (0xE0 + n / 4096), .ofNat (0x80 + n / 64 % 64), .ofNat (0x80 + n % 64)]
  else
    [.ofNat (0xF0 + n / 262144), .ofNat (0x80 + n / 4096 % 64), .ofNat (0x80 + n / 64 % 64),
      .ofNat (0x80 + n % 64)]

def encode (s : List Char) : List UInt8 := s.flatMap encodeChar

/-- A first byte's share of the value, and the bounds of the byte that follows it. -/
structure Lead where
  value : Nat
  low : Nat
  high : Nat
  tails : Nat

/-- What a byte beyond ASCII begins, if it can begin a character. -/
def lead? (b : UInt8) : Option Lead :=
  let n := b.toNat
  if 0xC2 ≤ n ∧ n ≤ 0xDF then some ⟨n - 0xC0, 0x80, 0xBF, 1⟩
  else if n = 0xE0 then some ⟨0, 0xA0, 0xBF, 2⟩
  else if n = 0xED then some ⟨13, 0x80, 0x9F, 2⟩
  else if 0xE1 ≤ n ∧ n ≤ 0xEF then some ⟨n - 0xE0, 0x80, 0xBF, 2⟩
  else if n = 0xF0 then some ⟨0, 0x90, 0xBF, 3⟩
  else if 0xF1 ≤ n ∧ n ≤ 0xF3 then some ⟨n - 0xF0, 0x80, 0xBF, 3⟩
  else if n = 0xF4 then some ⟨4, 0x80, 0x8F, 3⟩
  else none

/-- Why bytes are not text: `length` bytes that cannot stand there, or bytes that end too early. -/
inductive Flaw where
  | invalid (length : Nat)
  | truncated
  deriving Repr, DecidableEq

/-- One reading step: a character and the number of bytes it took, or a flaw after `taken` bytes
that belonged together. -/
inductive Step where
  | char (c : Char) (length : Nat)
  | flaw (f : Flaw) (taken : Nat)

/-- The continuation bytes of a character, the first of them between `low` and `high`. -/
def tail (value low high taken : Nat) : Nat → List UInt8 → Step
  | 0, _ => .char (Char.ofNat value) taken
  | _ + 1, [] => .flaw .truncated taken
  | k + 1, b :: r =>
    if low ≤ b.toNat ∧ b.toNat ≤ high then
      tail (value * 64 + b.toNat % 64) 0x80 0xBF (taken + 1) k r
    else .flaw (.invalid taken) taken

def step (b : UInt8) (r : List UInt8) : Step :=
  if b.toNat < 0x80 then .char (Char.ofNat b.toNat) 1
  else match lead? b with
    | none => .flaw (.invalid 1) 1
    | some l => tail l.value l.low l.high 1 l.tails r

/-- Strict reading from byte number `index` on; `skip` bytes still belong to the last character. -/
def decodeFrom (index : Nat) : Nat → List UInt8 → Except (Nat × Flaw) (List Char)
  | _, [] => .ok []
  | k + 1, _ :: r => decodeFrom (index + 1) k r
  | 0, b :: r =>
    match step b r with
    | .char c n => (decodeFrom (index + 1) (n - 1) r).map (c :: ·)
    | .flaw f _ => .error (index, f)

/-- The text of the bytes, or the index of the first flaw and what it is. -/
def decode (bytes : List UInt8) : Except (Nat × Flaw) (List Char) := decodeFrom 0 0 bytes

def symbolsFrom : Nat → List UInt8 → List (Option Char)
  | _, [] => []
  | k + 1, _ :: r => symbolsFrom k r
  | 0, b :: r =>
    match step b r with
    | .char c n => some c :: symbolsFrom (n - 1) r
    | .flaw _ n => none :: symbolsFrom (n - 1) r

/-- The characters of the bytes, with nothing in the place of each flaw. A byte of ASCII is always a
character of its own. -/
def symbols (bytes : List UInt8) : List (Option Char) := symbolsFrom 0 bytes

/-- The text of the bytes with every flaw replaced by U+FFFD, and without a byte order mark. -/
def decodeLenient (bytes : List UInt8) : List Char :=
  match (symbols bytes).map (·.getD (Char.ofNat 0xFFFD)) with
  | c :: r => if c.toNat = 0xFEFF then r else c :: r
  | [] => []

def Flaw.message (index : Nat) : Flaw → String
  | .invalid n => s!"invalid utf-8 sequence of {n} bytes from index {index}"
  | .truncated => s!"incomplete utf-8 byte sequence from index {index}"

end Testbed.Text.Utf8
