/-!
Reading bytes from the front of a list.

A reader returns a value and the bytes it left, with the proof that they are a suffix of what it
was given. So a loop over readers can be seen to end, and what a reader took is the rest of the
list.
-/

namespace Spreadsheet

/-- The `k` low base-256 digits of a number, lowest first. -/
def leBytes : Nat → Nat → List UInt8
  | 0, _ => []
  | k + 1, n => n.toUInt8 :: leBytes k (n / 256)

/-- The number with the given base-256 digits, lowest first. -/
def ofLEBytes : List UInt8 → Nat
  | [] => 0
  | b :: bs => b.toNat + 256 * ofLEBytes bs

/-- Why the payload of a token cannot be read. -/
inductive PayloadFault
  | endOfBytes (needed remaining : Nat)
  | errorCode (code : UInt8)
  | textFlags (flags : UInt8)
  | loneSurrogate
  | elementKind (kind : UInt8)
  deriving DecidableEq, Repr

/-- What reading from `s` gave, and what it left. -/
structure Reading (α : Type) (s : List UInt8) where
  value : α
  rest : List UInt8
  suffix : rest <:+ s

def Reader (α : Type) : Type := (s : List UInt8) → Except PayloadFault (Reading α s)

namespace Reader

instance : Monad Reader where
  pure a s := .ok ⟨a, s, List.suffix_refl s⟩
  bind r f s := match r s with
    | .error e => .error e
    | .ok ⟨a, rest, h⟩ => match f a rest with
      | .error e => .error e
      | .ok ⟨b, rest', h'⟩ => .ok ⟨b, rest', h'.trans h⟩

def fail (fault : PayloadFault) : Reader α := fun _ => .error fault

/-- The next `n` bytes. -/
def bytes (n : Nat) : Reader (Vector UInt8 n) := fun s =>
  let front := s.take n
  if h : front.length = n then .ok ⟨⟨front.toArray, by simpa using h⟩, s.drop n, s.drop_suffix n⟩
  else .error (.endOfBytes n front.length)

/-- The number in the next `k` bytes, lowest first. -/
def number (k : Nat) : Reader Nat := do return ofLEBytes (← bytes k).toList

def u8 : Reader UInt8 := do return (← number 1).toUInt8

def u16 : Reader UInt16 := do return (← number 2).toUInt16

def u64 : Reader UInt64 := do return (← number 8).toUInt64

/-- The same reader `n` times. -/
def times (n : Nat) (r : Reader α) : Reader (List α) := fun s =>
  let rec go : Nat → List α → (rest : List UInt8) → rest <:+ s →
      Except PayloadFault (Reading (List α) s)
    | 0, acc, rest, h => .ok ⟨acc.reverse, rest, h⟩
    | n + 1, acc, rest, h => match r rest with
      | .error e => .error e
      | .ok ⟨a, rest', h'⟩ => go n (a :: acc) rest' (h'.trans h)
  go n [] s (List.suffix_refl s)

end Reader

end Spreadsheet
