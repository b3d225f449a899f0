/-
  File:      AlphaForge/Lib/PyText.lean
  Subject:   Text methods of Python over all of Unicode. No program fact.

  * `Unicode` -- what the character tables say about digits and case.
  * `strip`, `splitOn`, `replace` -- `text.strip()`, `text.split(" ")`, `text.replace(old, new)`.
  * `canonicalInt` -- `str(int(text)) == text`.
  * `replace_all`, `replace_ne_nil` -- a replacement keeps what holds of the characters of both
    texts, and loses no text altogether.
-/
import Mathlib.Data.Int.Notation
import Mathlib.Data.List.Basic
import Mathlib.Data.List.DropRight
import Mathlib.Data.Nat.Notation

namespace AlphaForge.Lib.PyText

/-! ## 1. Characters -/

/-- What the Unicode tables say. -/
structure Unicode where
  /-- `character.isdigit()`. -/
  isDigit : Char → Bool
  /-- `text.lower()`. -/
  lower : String → String
  /-- `text.upper()`. -/
  upper : String → String

/-- `character.isspace()`. -/
def isSpace (c : Char) : Bool :=
  let n := c.toNat
  (9 ≤ n && n ≤ 13) || (28 ≤ n && n ≤ 32) || n == 0x85 || n == 0xa0 || n == 0x1680 ||
    (0x2000 ≤ n && n ≤ 0x200a) || n == 0x2028 || n == 0x2029 || n == 0x202f || n == 0x205f ||
    n == 0x3000

/-- `text.strip()`. -/
def strip (s : String) : String :=
  String.ofList ((s.toList.dropWhile isSpace).rdropWhile isSpace)

theorem strip_of_no_space {s : String} (h : ∀ c ∈ s.toList, isSpace c = false) : strip s = s := by
  have hfront : s.toList.dropWhile isSpace = s.toList := by
    rw [List.dropWhile_eq_self_iff]
    intro hl
    rw [h _ (List.getElem_mem hl)]
    exact Bool.false_ne_true
  have hback : s.toList.rdropWhile isSpace = s.toList := by
    rw [List.rdropWhile_eq_self_iff]
    intro hl
    rw [h _ (List.getLast_mem hl)]
    exact Bool.false_ne_true
  unfold strip
  rw [hfront, hback, String.ofList_toList]

theorem dropWhile_rdropWhile {p : Char → Bool} {cs : List Char} (h : cs.dropWhile p = cs) :
    (cs.rdropWhile p).dropWhile p = cs.rdropWhile p := by
  rw [List.dropWhile_eq_self_iff] at h ⊢
  intro hl
  -- what is left is a front part of `cs`, so it starts as `cs` does
  have hfrontPart := List.rdropWhile_prefix p (l := cs)
  rw [hfrontPart.getElem hl]
  exact h (lt_of_lt_of_le hl hfrontPart.length_le)

theorem strip_strip (s : String) : strip (strip s) = strip s := by
  unfold strip
  rw [String.toList_ofList, dropWhile_rdropWhile (List.dropWhile_idempotent _ _),
    List.rdropWhile_idempotent]

/-- `text.lstrip("-").isdigit()`. -/
def digitsAfterSign (u : Unicode) (s : String) : Bool :=
  let digits := s.toList.dropWhile (· == '-')
  !digits.isEmpty && digits.all u.isDigit

/-- The number ASCII digits spell. -/
def readDigits (cs : List Char) : Option ℕ :=
  if !cs.isEmpty && cs.all Char.isDigit then some (Nat.ofDigitChars 10 cs 0) else none

/-- The integer of a text of ASCII digits, perhaps with a minus. -/
def readInt : List Char → Option ℤ
  | '-' :: cs => (readDigits cs).map fun (n : ℕ) => -(n : ℤ)
  | cs => (readDigits cs).map fun (n : ℕ) => (n : ℤ)

/-- `str(int(text)) == text`: any other spelling of an integer differs from its `str`. -/
def canonicalInt (s : String) : Bool :=
  match readInt s.toList with
  | some n => toString n == s
  | none => false

theorem readDigits_toDigits (n : ℕ) : readDigits (Nat.toDigits 10 n) = some n := by
  unfold readDigits
  have hall : (Nat.toDigits 10 n).all Char.isDigit = true := by
    rw [List.all_eq_true]
    exact fun c hc => Nat.isDigit_of_mem_toDigits (by decide) (by decide) hc
  rw [hall, Nat.ofDigitChars_ten_toDigits]
  simp [Nat.toDigits_ne_nil]

theorem readInt_toString (n : ℤ) : readInt (toString n).toList = some n := by
  rw [Int.toString_eq_repr, Int.repr_eq_if]
  split
  · rw [Nat.toList_repr]
    cases hd : Nat.toDigits 10 n.toNat with
    | nil => exact absurd hd Nat.toDigits_ne_nil
    | cons c cs =>
      have hc : c ≠ '-' := by
        rintro rfl
        have hdigit : ('-').isDigit = true :=
          Nat.isDigit_of_mem_toDigits (by decide) (by decide) (hd ▸ List.mem_cons_self)
        cases hdigit
      unfold readInt
      split
      · rename_i heq
        exact absurd (List.cons.inj heq).1 hc
      · rw [← hd, readDigits_toDigits, Option.map_some]
        congr 1
        omega
  · have hminus : "-".toList = ['-'] := rfl
    rw [String.toList_append, Nat.toList_repr, hminus]
    show (readDigits (Nat.toDigits 10 (-n).toNat)).map (fun k : ℕ => -(k : ℤ)) = _
    rw [readDigits_toDigits, Option.map_some]
    congr 1
    omega

theorem canonicalInt_toString (n : ℤ) : canonicalInt (toString n) = true := by
  unfold canonicalInt
  rw [readInt_toString]
  exact beq_self_eq_true _

theorem isSpace_digit {c : Char} (h : c.isDigit = true) : isSpace c = false := by
  have hn : 48 ≤ c.toNat ∧ c.toNat ≤ 57 := by
    unfold Char.isDigit at h
    rw [Bool.and_eq_true, decide_eq_true_iff, decide_eq_true_iff] at h
    exact h
  simp only [isSpace, Bool.or_eq_false_iff, Bool.and_eq_false_iff, decide_eq_false_iff_not,
    beq_eq_false_iff_ne]
  omega

theorem strip_toString (n : ℤ) : strip (toString n) = toString n := by
  refine strip_of_no_space ?_
  rw [Int.toString_eq_repr, Int.repr_eq_if]
  have hdigits : ∀ k : ℕ, ∀ c ∈ k.repr.toList, isSpace c = false := by
    intro k c hc
    rw [Nat.toList_repr] at hc
    exact isSpace_digit (Nat.isDigit_of_mem_toDigits (by decide) (by decide) hc)
  split
  · exact hdigits _
  · intro c hc
    rw [String.toList_append, List.mem_append] at hc
    rcases hc with hc | hc
    · have hminus : c = '-' := by simpa using hc
      rw [hminus]
      rfl
    · exact hdigits _ c hc

/-! ## 2. Parts -/

/-- `text.split(" ")`. -/
def splitOn : List Char → List (List Char)
  | [] => [[]]
  | c :: cs =>
    if c = ' ' then [] :: splitOn cs
    else
      match splitOn cs with
      | [] => [[c]]
      | part :: parts => (c :: part) :: parts

/-- The rest of a replacement: `skip` characters of an occurrence are still to be dropped. -/
def replaceFrom (old new : List Char) : ℕ → List Char → List Char
  | _, [] => []
  | skip + 1, _ :: cs => replaceFrom old new skip cs
  | 0, c :: cs =>
    if old.isPrefixOf (c :: cs) then new ++ replaceFrom old new (old.length - 1) cs
    else c :: replaceFrom old new 0 cs

/-- `text.replace(old, new)` of a text `old` that is not empty. -/
def replace (old new : List Char) (text : List Char) : List Char := replaceFrom old new 0 text

theorem replaceFrom_all {P : Char → Prop} {old new : List Char} (hnew : ∀ c ∈ new, P c)
    (text : List Char) (skip : ℕ) (h : ∀ c ∈ text, P c) :
    ∀ c ∈ replaceFrom old new skip text, P c := by
  induction text generalizing skip with
  | nil =>
    unfold replaceFrom
    exact h
  | cons c cs ih =>
    rw [List.forall_mem_cons] at h
    cases skip with
    | succ skip => exact ih skip h.2
    | zero =>
      unfold replaceFrom
      split
      · intro d hd
        rcases List.mem_append.mp hd with hd | hd
        · exact hnew d hd
        · exact ih _ h.2 d hd
      · exact List.forall_mem_cons.mpr ⟨h.1, ih 0 h.2⟩

/-- What holds of the characters of both texts holds of the result's. -/
theorem replace_all {P : Char → Prop} {old new text : List Char} (hnew : ∀ c ∈ new, P c)
    (h : ∀ c ∈ text, P c) : ∀ c ∈ replace old new text, P c :=
  replaceFrom_all hnew text 0 h

theorem replace_ne_nil {old new text : List Char} (hnew : new ≠ []) (h : text ≠ []) :
    replace old new text ≠ [] := by
  cases text with
  | nil => exact absurd rfl h
  | cons c cs =>
    unfold replace replaceFrom
    split
    · exact List.append_ne_nil_of_left_ne_nil hnew _
    · exact List.cons_ne_nil _ _

end AlphaForge.Lib.PyText
