import Mathlib.Algebra.Ring.Nat
import Mathlib.Data.List.DropRight

/-!
# Functions on texts

The string functions of the standard library, over the characters of a text so that they
can be evaluated.
-/

namespace DeepNps.Text

open List

def isSpace (char : Char) : Bool :=
  ('\t' ≤ char && char ≤ '\r') || char == ' ' || char == '\u0085' || char == '\u00a0' ||
    char == '\u1680' || ('\u2000' ≤ char && char ≤ '\u200a') || char == '\u2028' ||
    char == '\u2029' || char == '\u202f' || char == '\u205f' || char == '\u3000'

def trimChars (chars : List Char) : List Char := (chars.dropWhile isSpace).rdropWhile isSpace

def trimSpace (text : String) : String := String.ofList (trimChars text.toList)

theorem trimChars_trimChars (chars : List Char) :
    trimChars (trimChars chars) = trimChars chars := by
  rw [trimChars, trimChars]
  generalize dropped : chars.dropWhile isSpace = rest
  cases rest with
  | nil => rfl
  | cons first rest =>
    have notSpace : isSpace first = false := by
      have nonempty : chars.dropWhile isSpace ≠ [] := by simp [dropped]
      simpa [dropped] using head_dropWhile_not isSpace nonempty
    -- the first character stays, so nothing is dropped in front of it again
    have kept : ((first :: rest).rdropWhile isSpace).dropWhile isSpace =
        (first :: rest).rdropWhile isSpace := by
      obtain ⟨_, whole⟩ := rdropWhile_prefix isSpace (first :: rest)
      cases isFront : (first :: rest).rdropWhile isSpace with
      | nil => rfl
      | cons =>
        rw [isFront, cons_append] at whole
        cases whole
        simp [notSpace]
    rw [kept, rdropWhile_idempotent]

@[simp]
theorem trimSpace_trimSpace (text : String) : trimSpace (trimSpace text) = trimSpace text := by
  simp [trimSpace, trimChars_trimChars]

def replaceChar (old new : Char) (text : String) : String :=
  String.ofList (text.toList.map fun char => if char = old then new else char)

theorem replaceChar_replaceChar {old new : Char} (distinct : new ≠ old) (text : String) :
    replaceChar old new (replaceChar old new text) = replaceChar old new text := by
  simp only [replaceChar, String.toList_ofList, map_map]
  congr 1
  refine map_congr_left fun char _ => ?_
  by_cases isOld : char = old
  · simp [isOld, distinct]
  · simp [isOld]

def unixChars : List Char → List Char
  | '\r' :: '\n' :: chars => '\n' :: unixChars chars
  | char :: chars => char :: unixChars chars
  | [] => []

def unixLines (text : String) : String := String.ofList (unixChars text.toList)

def split (text : String) (separator : Char) : List String :=
  (text.toList.splitOn separator).map String.ofList

def hasPrefix (text front : String) : Bool := front.toList.isPrefixOf text.toList

def hasSuffix (text back : String) : Bool := back.toList.isSuffixOf text.toList

def trimPrefix (text front : String) : String :=
  if hasPrefix text front then String.ofList (text.toList.drop front.toList.length) else text

theorem eq_append_trimPrefix {text front : String} (begins : hasPrefix text front) :
    text.toList = front.toList ++ (trimPrefix text front).toList := by
  obtain ⟨_, whole⟩ := isPrefixOf_iff_prefix.mp begins
  rw [trimPrefix, if_pos begins, String.toList_ofList, ← whole, drop_left]

def byteCount (chars : List Char) : Nat := (chars.map Char.utf8Size).sum

def byteLength (text : String) : Nat := byteCount text.toList

@[simp]
theorem byteCount_cons (char : Char) (chars : List Char) :
    byteCount (char :: chars) = char.utf8Size + byteCount chars :=
  rfl

theorem byteCount_le_of_sublist {part whole : List Char} (isPart : part.Sublist whole) :
    byteCount part ≤ byteCount whole := by
  induction isPart with
  | slnil => exact le_rfl
  | cons =>
    rw [byteCount_cons]
    omega
  | cons_cons =>
    rw [byteCount_cons, byteCount_cons]
    omega

theorem eq_of_sublist_of_byteCount {part whole : List Char} (isPart : part.Sublist whole)
    (same : byteCount part = byteCount whole) : part = whole := by
  induction isPart with
  | slnil => rfl
  | cons char rest =>
    have smaller := byteCount_le_of_sublist rest
    have := char.utf8Size_pos
    rw [byteCount_cons] at same
    omega
  | cons_cons _ _ ih =>
    rw [byteCount_cons, byteCount_cons] at same
    rw [ih (by omega)]

theorem hasPrefix_unique {text first second : String} (isFirst : hasPrefix text first)
    (isSecond : hasPrefix text second) (same : byteLength first = byteLength second) :
    first = second := by
  rw [hasPrefix, isPrefixOf_iff_prefix] at isFirst isSecond
  rw [← String.toList_inj]
  rcases prefix_or_prefix_of_prefix isFirst isSecond with fits | fits
  · exact eq_of_sublist_of_byteCount fits.sublist same
  · exact (eq_of_sublist_of_byteCount fits.sublist same.symm).symm

theorem hasSuffix_unique {text first second : String} (isFirst : hasSuffix text first)
    (isSecond : hasSuffix text second) (same : byteLength first = byteLength second) :
    first = second := by
  rw [hasSuffix, isSuffixOf_iff_suffix] at isFirst isSecond
  rw [← String.toList_inj]
  rcases suffix_or_suffix_of_suffix isFirst isSecond with fits | fits
  · exact eq_of_sublist_of_byteCount fits.sublist same
  · exact (eq_of_sublist_of_byteCount fits.sublist same.symm).symm

def mapChars (change : Char → Char) (text : String) : String :=
  String.ofList (text.toList.map change)

def byteSum (text : String) : Nat :=
  (text.toList.flatMap fun char => (String.utf8EncodeChar char).map UInt8.toNat).sum

def ascii (text : String) : List UInt8 := text.toList.map fun char => char.toNat.toUInt8

end DeepNps.Text
