/-!
# Halves of pairs

A written code can be one half of a pair that only together denotes a character. A half on its own
is no character, yet a text can hold it and shows it as its code. Texts keep a half as a character
of a plane that no script uses, at the same distance from its start.

Main definitions:

- `ofCode`: the character with a code, or the stand-in of a half.
- `halfCode?`: the code of the half that a character stands for.
- `isByteCode`: whether a half is one that stands for a byte.
- `joinHalves`: a text with all pairs of halves as characters.
-/

namespace ClusterConfig.Text

/-- How far the stand-in of a half is from its code. -/
def halfShift : Nat := 0xD0000

/-- Whether a code is that of a half. -/
def isHalfCode (code : Nat) : Bool :=
  0xD800 ≤ code && code ≤ 0xDFFF

/-- Whether a half is one of those that stand for a byte which belongs to no character. -/
def isByteCode (code : Nat) : Bool :=
  0xDC80 ≤ code && code ≤ 0xDCFF

/-- The character with a code, or the stand-in of a half. -/
def ofCode (code : Nat) : Char :=
  if isHalfCode code then Char.ofNat (halfShift + code) else Char.ofNat code

/-- The code of the half that a character stands for, if it stands for one. -/
def halfCode? (c : Char) : Option Nat :=
  if isHalfCode (c.toNat - halfShift) then some (c.toNat - halfShift) else none

/-- The character that two halves denote, if the one is a first half and the other a second one. -/
def pair? (first second : Nat) : Option Char :=
  if 0xD800 ≤ first ∧ first ≤ 0xDBFF ∧ 0xDC00 ≤ second ∧ second ≤ 0xDFFF then
    some (Char.ofNat (0x10000 + (first - 0xD800) * 0x400 + (second - 0xDC00)))
  else none

/-- The character that the stand-ins of two halves denote together. -/
def join? (c d : Char) : Option Char := do
  let first ← halfCode? c
  let second ← halfCode? d
  pair? first second

/-- The text with all pairs of halves as characters. -/
def joinHalves : List Char → List Char
  | c :: d :: cs =>
    match join? c d with
    | some both => both :: joinHalves cs
    | none => c :: joinHalves (d :: cs)
  | cs => cs

/-- The stand-in of a half shows its code. -/
theorem halfCode?_ofCode {code : Nat} (h : isHalfCode code = true) :
    halfCode? (ofCode code) = some code := by
  have hvalid : (halfShift + code).isValidChar := by
    simp only [isHalfCode, Bool.and_eq_true, decide_eq_true_eq] at h
    simp only [halfShift, Nat.isValidChar]
    omega
  have hval : (ofCode code).toNat = halfShift + code := by
    rw [ofCode, if_pos h, Char.ofNat, dif_pos hvalid]
    rfl
  simp [halfCode?, hval, h]

end ClusterConfig.Text
