import Mathlib.Data.List.Infix

/-!
# String operations

The operations of the Go package `strings`, on the characters of a string.  The identifiers are
plain text of one byte a character.
-/

namespace Strings

open List String

def hasPrefix (s p : String) : Bool := p.toList.isPrefixOf s.toList

def trimPrefix (s p : String) : String :=
  if hasPrefix s p then String.ofList (s.toList.drop p.toList.length) else s

def hasSuffix (s p : String) : Bool := p.toList.isSuffixOf s.toList

def trimSuffix (s p : String) : String :=
  if hasSuffix s p then String.ofList (s.toList.take (s.toList.length - p.toList.length)) else s

/-- `strings.Index`, `none` for -1. -/
def index (s p : String) : Option Nat := s.toList.tails.findIdx? p.toList.isPrefixOf

def contains (s p : String) : Bool := (index s p).isSome

def split (s : String) (c : Char) : List String := (s.toList.splitOn c).map String.ofList

def join (parts : List String) (p : String) : String := p.intercalate parts

/-- `s[:n]`. -/
def cut (s : String) (n : Nat) : String := String.ofList (s.toList.take n)

/-- `unicode.IsSpace`, on one byte. -/
def isSpace (c : Char) : Bool :=
  c ∈ [' ', '\t', '\n', '\x0b', '\x0c', '\r', '\x85', '\xa0']

def trimRight (s : String) (c : Char) : String :=
  String.ofList (s.toList.reverse.dropWhile (· = c)).reverse

def trimSpace (s : String) : String :=
  String.ofList ((s.toList.dropWhile isSpace).reverse.dropWhile isSpace).reverse

def toLower (s : String) : String := String.ofList (s.toList.map Char.toLower)

def toUpper (s : String) : String := String.ofList (s.toList.map Char.toUpper)

def equalFold (s t : String) : Bool := toLower s == toLower t

def len (s : String) : Nat := s.toList.length

variable {s : String}

theorem split_of_notMem {c : Char} (h : c ∉ s.toList) : split s c = [s] := by
  have hs : s.toList.splitOn c = [s.toList] := by
    refine splitOnP_eq_singleton fun x hx => ?_
    rw [beq_eq_false_iff_ne]
    rintro rfl
    exact h hx
  rw [split, hs, map_singleton, ofList_toList]

theorem split_append (s t : String) (c : Char) :
    split (s ++ String.ofList [c] ++ t) c = split s c ++ split t c := by
  simp only [split, List.splitOn, String.toList_append, String.toList_ofList, List.append_assoc,
    singleton_append]
  rw [List.splitOnP_append_cons (p := (· == c)) _ _ (beq_self_eq_true c), List.map_append]

theorem join_split (s : String) (c : Char) : join (split s c) (String.ofList [c]) = s := by
  apply String.ext
  simp [join, split, String.toList_intercalate, List.intercalate_splitOn]

theorem split_ne_nil (s : String) (c : Char) : split s c ≠ [] := by
  rw [split, ne_eq, map_eq_nil_iff]
  exact splitOnP_ne_nil _ _

theorem contains_iff {p : String} : contains s p = true ↔ p.toList <:+: s.toList := by
  rw [contains, index, List.findIdx?_isSome, any_eq_true, infix_iff_prefix_suffix]
  constructor
  · rintro ⟨t, ht, hp⟩
    exact ⟨t, List.isPrefixOf_iff_prefix.mp hp, mem_tails _ _ |>.mp ht⟩
  · rintro ⟨t, hp, ht⟩
    exact ⟨t, mem_tails _ _ |>.mpr ht, List.isPrefixOf_iff_prefix.mpr hp⟩

theorem contains_append (s p t : String) : contains (s ++ p ++ t) p = true := by
  rw [contains_iff, toList_append, toList_append]
  exact infix_append _ _ _

theorem contains_self (s : String) : contains s s = true := contains_iff.mpr infix_rfl

theorem contains_trans {t u : String} (hst : contains s t = true) (htu : contains t u = true) :
    contains s u = true :=
  contains_iff.mpr ((contains_iff.mp htu).trans (contains_iff.mp hst))

@[simp] theorem len_append (s t : String) : len (s ++ t) = len s + len t := by
  simp only [len, String.toList_append, List.length_append]

theorem cut_append (s t : String) : cut (s ++ t) (len s) = s := by
  rw [cut, len, toList_append, take_left, ofList_toList]

/-- The `i`-th part of a string that is cut every `width` characters. -/
def chunk (s : String) (width i : Nat) : String :=
  String.ofList ((s.toList.drop (i * width)).take width)

theorem len_chunk_le (s : String) (width i : Nat) : len (chunk s width i) ≤ width := by
  rw [chunk, len, toList_ofList]
  exact length_take_le _ _

theorem foldl_chunk (s : String) (width n : Nat) :
    (List.range n).foldl (fun t i => t ++ chunk s width i) "" = cut s (n * width) := by
  induction n with
  | zero =>
    rw [Nat.zero_mul, cut]
    rfl
  | succ n ih =>
    rw [range_succ, foldl_append, ih, foldl_cons, foldl_nil, cut, cut, chunk,
      ← ofList_append, Nat.succ_mul, take_add]

theorem cut_of_len_le {n : Nat} (h : len s ≤ n) : cut s n = s := by
  rw [cut, take_of_length_le h, ofList_toList]

/-- The parts of a string, each with a separator behind it. -/
def terminated (c : Char) : List String → String
  | [] => ""
  | part :: parts => part ++ String.ofList [c] ++ terminated c parts

theorem terminated_append (c : Char) (parts : List String) (part : String) :
    terminated c (parts ++ [part]) = terminated c parts ++ part ++ String.ofList [c] := by
  induction parts with
  | nil => simp only [nil_append, terminated, append_empty, empty_append]
  | cons first parts ih =>
    rw [cons_append, terminated, terminated, ih]
    simp only [String.append_assoc]

theorem split_terminated {c : Char} {parts : List String} (h : ∀ part ∈ parts, c ∉ part.toList) :
    split (terminated c parts) c = parts ++ [""] := by
  induction parts with
  | nil => rfl
  | cons part parts ih =>
    rw [terminated, split_append, split_of_notMem (h part mem_cons_self),
      ih fun p hp => h p (mem_cons_of_mem _ hp)]
    rfl

end Strings
