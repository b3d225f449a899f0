/-
  File:      AlphaForge/Lib/PrefixText.lean
  Subject:   Texts that are read back from the front: a writer and a reader for every payload over
             any number format that has them. No program fact.

  * `Code` -- a writer with its reader; what is read is what was written, and the rest is left.
  * `nat`, `pair`, `retract`, `int`, `rational`, `list`, `string` -- codes out of codes.
  * **`readValue_write`** -- a payload is read back, given enough fuel; its length is enough.
-/
import AlphaForge.Lib.Extended
import AlphaForge.Lib.Payload

namespace AlphaForge.Lib

/-- A writer and its reader. -/
structure Code (α : Type) where
  write : α → List Char
  read : List Char → Option (α × List Char)
  read_write : ∀ x rest, read (write x ++ rest) = some (x, rest)

namespace Code

variable {α β : Type}

/-! ## 1. Numbers and texts -/

/-- Reads the strokes of a number up to its end. -/
def readNat : List Char → Option (ℕ × List Char)
  | '|' :: rest => (readNat rest).map fun r => (r.1 + 1, r.2)
  | '.' :: rest => some (0, rest)
  | _ => none

def nat : Code ℕ where
  write n := List.replicate n '|' ++ ['.']
  read := readNat
  read_write n rest := by
    induction n with
    | zero => rfl
    | succ n ih =>
      rw [List.replicate_succ, List.cons_append, List.cons_append, readNat, ih]
      rfl

/-- A code of a type that sits inside another. -/
def retract (code : Code β) (into : α → β) (back : β → α) (h : ∀ x, back (into x) = x) :
    Code α where
  write x := code.write (into x)
  read text := (code.read text).map fun r => (back r.1, r.2)
  read_write x rest := by rw [code.read_write, Option.map_some, h]

def pair (first : Code α) (second : Code β) : Code (α × β) where
  write x := first.write x.1 ++ second.write x.2
  read text := do
    let (x, rest) ← first.read text
    let (y, rest) ← second.read rest
    return ((x, y), rest)
  read_write x rest := by
    rw [List.append_assoc, first.read_write]
    show (second.read (second.write x.2 ++ rest)).bind _ = _
    rw [second.read_write]
    rfl

def int : Code ℤ :=
  (pair nat nat).retract (fun n => (n.toNat, (-n).toNat)) (fun p => (p.1 : ℤ) - p.2)
    (fun n => by omega)

def rational : Code ℚ :=
  (pair int nat).retract (fun q => (q.num, q.den)) (fun p => (p.1 : ℚ) / p.2) Rat.num_div_den

/-- Reads a number of things. -/
def readTimes (code : Code α) : ℕ → List Char → Option (List α × List Char)
  | 0, text => some ([], text)
  | n + 1, text => do
    let (x, rest) ← code.read text
    let (xs, rest) ← readTimes code n rest
    return (x :: xs, rest)

theorem readTimes_write (code : Code α) (xs : List α) (rest : List Char) :
    readTimes code xs.length (xs.flatMap code.write ++ rest) = some (xs, rest) := by
  induction xs with
  | nil => rfl
  | cons x xs ih =>
    rw [List.length_cons, List.flatMap_cons, List.append_assoc, readTimes, code.read_write]
    show (readTimes code xs.length (xs.flatMap code.write ++ rest)).bind _ = _
    rw [ih]
    rfl

def list (code : Code α) : Code (List α) where
  write xs := nat.write xs.length ++ xs.flatMap code.write
  read text := (nat.read text).bind fun r => readTimes code r.1 r.2
  read_write xs rest := by
    rw [List.append_assoc, nat.read_write, Option.bind_some, readTimes_write]

/-- Reads one character. -/
def readChar : List Char → Option (Char × List Char)
  | [] => none
  | c :: rest => some (c, rest)

def char : Code Char where
  write c := [c]
  read := readChar
  read_write _ _ := rfl

def string : Code String :=
  (list char).retract String.toList String.ofList fun _ => String.ofList_toList

/-- Exact numbers. -/
def extended : Code Extended :=
  (pair nat rational).retract
    (fun
      | .nan => (0, 0)
      | .negInf => (1, 0)
      | .posInf => (2, 0)
      | .finite q => (3, q))
    (fun
      | (0, _) => .nan
      | (1, _) => .negInf
      | (2, _) => .posInf
      | (_, q) => .finite q)
    (fun x => by cases x <;> rfl)

end Code

/-! ## 2. Payloads -/

section Values

variable {F : Type} (number : Code F)

mutual

def writeValue : Value F → List Char
  | .none => ['n']
  | .bool true => ['t']
  | .bool false => ['f']
  | .int n => 'i' :: Code.int.write n
  | .float x => 'x' :: number.write x
  | .text s => 's' :: Code.string.write s
  | .list items => 'l' :: writeItems items
  | .mapping entries => 'm' :: writeEntries entries

def writeItems : List (Value F) → List Char
  | [] => ['e']
  | v :: rest => 'c' :: (writeValue v ++ writeItems rest)

def writeEntries : List (String × Value F) → List Char
  | [] => ['e']
  | (key, v) :: rest => 'c' :: (Code.string.write key ++ (writeValue v ++ writeEntries rest))

end

mutual

def readValue : ℕ → List Char → Option (Value F × List Char)
  | 0, _ => none
  | _ + 1, [] => none
  | n + 1, c :: rest =>
    if c = 'n' then some (.none, rest)
    else if c = 't' then some (.bool true, rest)
    else if c = 'f' then some (.bool false, rest)
    else if c = 'i' then (Code.int.read rest).map fun r => (.int r.1, r.2)
    else if c = 'x' then (number.read rest).map fun r => (.float r.1, r.2)
    else if c = 's' then (Code.string.read rest).map fun r => (.text r.1, r.2)
    else if c = 'l' then (readItems n rest).map fun r => (.list r.1, r.2)
    else if c = 'm' then (readEntries n rest).map fun r => (.mapping r.1, r.2)
    else none

def readItems : ℕ → List Char → Option (List (Value F) × List Char)
  | 0, _ => none
  | _ + 1, [] => none
  | n + 1, c :: rest =>
    if c = 'e' then some ([], rest)
    else (readValue n rest).bind fun v => (readItems n v.2).map fun r => (v.1 :: r.1, r.2)

def readEntries : ℕ → List Char → Option (List (String × Value F) × List Char)
  | 0, _ => none
  | _ + 1, [] => none
  | n + 1, c :: rest =>
    if c = 'e' then some ([], rest)
    else (Code.string.read rest).bind fun key => (readValue n key.2).bind fun v =>
      (readEntries n v.2).map fun r => ((key.1, v.1) :: r.1, r.2)

end

theorem writeValue_pos (v : Value F) : 0 < (writeValue number v).length := by
  cases v with
  | bool b => cases b <;> exact Nat.succ_pos _
  | none => exact Nat.succ_pos _
  | int n => exact Nat.succ_pos _
  | float x => exact Nat.succ_pos _
  | text s => exact Nat.succ_pos _
  | list items => exact Nat.succ_pos _
  | mapping entries => exact Nat.succ_pos _

mutual

/-- **A payload is read back.** -/
theorem readValue_write : ∀ (v : Value F) (n : ℕ) (rest : List Char),
    (writeValue number v).length ≤ n →
    readValue number n (writeValue number v ++ rest) = some (v, rest)
  | v, 0, _, h => absurd (writeValue_pos number v) (not_lt.mpr h)
  | .none, n + 1, rest, _ => rfl
  | .bool true, n + 1, rest, _ => rfl
  | .bool false, n + 1, rest, _ => rfl
  | .int k, n + 1, rest, _ => by
    show (Code.int.read (Code.int.write k ++ rest)).map _ = _
    rw [Code.int.read_write]
    rfl
  | .float x, n + 1, rest, _ => by
    show (number.read (number.write x ++ rest)).map _ = _
    rw [number.read_write]
    rfl
  | .text s, n + 1, rest, _ => by
    show (Code.string.read (Code.string.write s ++ rest)).map _ = _
    rw [Code.string.read_write]
    rfl
  | .list items, n + 1, rest, h => by
    rw [writeValue, List.length_cons, Nat.add_le_add_iff_right] at h
    show (readItems number n (writeItems number items ++ rest)).map _ = _
    rw [readItems_write items n rest h]
    rfl
  | .mapping entries, n + 1, rest, h => by
    rw [writeValue, List.length_cons, Nat.add_le_add_iff_right] at h
    show (readEntries number n (writeEntries number entries ++ rest)).map _ = _
    rw [readEntries_write entries n rest h]
    rfl

theorem readItems_write : ∀ (items : List (Value F)) (n : ℕ) (rest : List Char),
    (writeItems number items).length ≤ n →
    readItems number n (writeItems number items ++ rest) = some (items, rest)
  | [], 0, _, h => absurd h (Nat.not_succ_le_zero 0)
  | [], n + 1, rest, _ => rfl
  | _ :: _, 0, _, h => by
    rw [writeItems, List.length_cons] at h
    omega
  | v :: others, n + 1, rest, h => by
    rw [writeItems, List.length_cons, List.length_append] at h
    show (readValue number n (writeValue number v ++ writeItems number others ++ rest)).bind _ = _
    rw [List.append_assoc, readValue_write v n _ (by omega), Option.bind_some,
      readItems_write others n rest (by omega)]
    rfl

theorem readEntries_write : ∀ (entries : List (String × Value F)) (n : ℕ) (rest : List Char),
    (writeEntries number entries).length ≤ n →
    readEntries number n (writeEntries number entries ++ rest) = some (entries, rest)
  | [], 0, _, h => absurd h (Nat.not_succ_le_zero 0)
  | [], n + 1, rest, _ => rfl
  | (_, _) :: _, 0, _, h => by
    rw [writeEntries, List.length_cons] at h
    omega
  | (key, v) :: others, n + 1, rest, h => by
    rw [writeEntries, List.length_cons, List.length_append, List.length_append] at h
    show (Code.string.read (Code.string.write key ++ (writeValue number v ++
      writeEntries number others) ++ rest)).bind _ = _
    rw [List.append_assoc, Code.string.read_write, Option.bind_some, List.append_assoc,
      readValue_write v n _ (by omega), Option.bind_some,
        readEntries_write others n rest (by omega)]
    rfl

end

end Values

end AlphaForge.Lib
