import Mathlib.Data.Nat.Digits.Lemmas

/-!
# Reading and printing numerals

`strconv.ParseInt`, with the value that it returns next to its error, and `%0wX` of `fmt.Sprintf`
for numbers that are not negative.
-/

namespace Numeral

open List Nat

def maxUint64 : Nat := 2 ^ 64 - 1

/-- The value of a digit; letters count from ten on, in either case. -/
def digitValue (c : Char) : Option Nat :=
  if '0' ≤ c ∧ c ≤ '9' then some (c.toNat - '0'.toNat)
  else if 'a' ≤ c ∧ c ≤ 'z' then some (c.toNat - 'a'.toNat + 10)
  else if 'A' ≤ c ∧ c ≤ 'Z' then some (c.toNat - 'A'.toNat + 10)
  else none

/-- The loop of `strconv.ParseUint`: `none` for a bad character, and the largest value on
overflow. -/
def parseUint (base acc : Nat) : List Char → Option Nat
  | [] => some acc
  | c :: cs =>
    match digitValue c with
    | some d =>
      if base ≤ d then none
      else if maxUint64 < acc * base + d then some maxUint64
      else parseUint base (acc * base + d) cs
    | none => none

inductive NumError where
  | invalid
  | outOfRange
deriving DecidableEq, Repr

/-- `strconv.ParseInt` after the sign. -/
def parseMagnitude (base : Nat) (negative : Bool) (cs : List Char) : Int × Option NumError :=
  match cs with
  | [] => (0, some .invalid)
  | cs =>
    match parseUint base 0 cs with
    | none => (0, some .invalid)
    | some n =>
      if negative then
        if 2 ^ 63 < n then (-(2 ^ 63), some .outOfRange) else (-(n : Int), none)
      else
        if 2 ^ 63 ≤ n then (2 ^ 63 - 1, some .outOfRange) else ((n : Int), none)

/-- `strconv.ParseInt(s, base, 64)`: the value and the error. -/
def parseInt (base : Nat) (s : String) : Int × Option NumError :=
  match s.toList with
  | '+' :: cs => parseMagnitude base false cs
  | '-' :: cs => parseMagnitude base true cs
  | cs => parseMagnitude base false cs

def upperHexDigits : List Char := "0123456789ABCDEF".toList

def hexDigit (d : Nat) : Char := upperHexDigits.getD d '0'

def hexDigitValue (c : Char) : Nat := upperHexDigits.idxOf c

/-- `fmt.Sprintf("%0wX", n)`. -/
def formatHex (width n : Nat) : List Char :=
  ((Nat.digits 16 n).reverse.map hexDigit).leftpad (max width 1) '0'

def UpperHex (cs : List Char) : Prop := ∀ c ∈ cs, c ∈ upperHexDigits

instance (cs : List Char) : Decidable (UpperHex cs) := List.decidableBAll _ cs

/-- The number that a string of upper-case hexadecimal digits stands for. -/
def hexValue (cs : List Char) : Nat := Nat.ofDigits 16 (cs.map hexDigitValue).reverse

theorem hexDigit_zero : hexDigit 0 = '0' := by decide

theorem upperHexDigits_spec : ∀ c ∈ upperHexDigits,
    digitValue c = some (hexDigitValue c) ∧ hexDigitValue c < 16 ∧ hexDigit (hexDigitValue c) = c ∧
      c ≠ '+' ∧ c ≠ '-' := by
  have ha : upperHexDigits.all fun c => digitValue c = some (hexDigitValue c) ∧
      hexDigitValue c < 16 ∧ hexDigit (hexDigitValue c) = c ∧ c ≠ '+' ∧ c ≠ '-' := by decide
  simpa only [all_eq_true, decide_eq_true_eq] using ha

variable {cs : List Char}

theorem UpperHex.of_cons {c : Char} (h : UpperHex (c :: cs)) : c ∈ upperHexDigits ∧ UpperHex cs :=
  ⟨h c (by simp), fun c' hc' => h c' (by simp [hc'])⟩

theorem UpperHex.value_lt (h : UpperHex cs) : ∀ d ∈ (cs.map hexDigitValue).reverse, d < 16 := by
  intro d hd
  rw [mem_reverse, mem_map] at hd
  obtain ⟨c, hc, rfl⟩ := hd
  exact (upperHexDigits_spec c (h c hc)).2.1

theorem hexValue_cons (c : Char) (cs : List Char) :
    hexValue (c :: cs) = hexDigitValue c * 16 ^ cs.length + hexValue cs := by
  simp only [hexValue, map_cons, reverse_cons, ofDigits_append, length_reverse,
    length_map, ofDigits_singleton]
  ring

theorem hexValue_lt (h : UpperHex cs) : hexValue cs < 16 ^ cs.length := by
  have := ofDigits_lt_base_pow_length (by decide) h.value_lt
  simpa [hexValue] using this

theorem parseUint_of_upperHex (h : UpperHex cs) (acc : Nat)
    (hr : acc * 16 ^ cs.length + hexValue cs ≤ maxUint64) :
    parseUint 16 acc cs = some (acc * 16 ^ cs.length + hexValue cs) := by
  induction cs generalizing acc with
  | nil => simp [parseUint, hexValue]
  | cons c cs ih =>
    obtain ⟨hc, hcs⟩ := h.of_cons
    obtain ⟨hv, hlt, -⟩ := upperHexDigits_spec c hc
    have ha : acc * 16 ^ (c :: cs).length + hexValue (c :: cs) =
        (acc * 16 + hexDigitValue c) * 16 ^ cs.length + hexValue cs := by
      rw [hexValue_cons, length_cons]
      ring
    rw [ha] at hr ⊢
    have hf : acc * 16 + hexDigitValue c ≤ maxUint64 := by
      have : acc * 16 + hexDigitValue c ≤ (acc * 16 + hexDigitValue c) * 16 ^ cs.length :=
        Nat.le_mul_of_pos_right _ (by positivity)
      omega
    simp only [parseUint, hv, not_le.mpr hlt, not_lt.mpr hf]
    exact ih hcs _ hr

theorem formatHex_value (h : UpperHex cs) (hne : cs ≠ []) :
    formatHex cs.length (hexValue cs) = cs := by
  have hlt := hexValue_lt h
  have hl : (Nat.digits 16 (hexValue cs)).length ≤ cs.length :=
    (digits_length_le_iff (by decide) _).mpr hlt
  have hw : max cs.length 1 = cs.length :=
    max_eq_left (length_pos_iff.mpr hne)
  -- the digits, filled up with zeros, are the digits of the string
  have hdi : Nat.digits 16 (hexValue cs) ++
      List.replicate (cs.length - (Nat.digits 16 (hexValue cs)).length) 0 =
        (cs.map hexDigitValue).reverse := by
    refine ofDigits_inj_of_len_eq (b := 16) (by decide) ?_ ?_ h.value_lt ?_
    · simp only [length_append, length_replicate, length_reverse, length_map]
      omega
    · intro d hd
      rcases mem_append.mp hd with hd | hd
      · exact digits_lt_base (by decide) hd
      · rw [eq_of_mem_replicate hd]
        decide
    · rw [ofDigits_append_replicate_zero, ofDigits_digits, hexValue]
  have hm : (cs.map hexDigitValue).map hexDigit = cs := by
    have hid : ∀ c ∈ cs, (hexDigit ∘ hexDigitValue) c = id c := fun c hc =>
      (upperHexDigits_spec c (h c hc)).2.2.1
    rw [map_map, map_congr_left hid, map_id]
  calc formatHex cs.length (hexValue cs)
      = ((Nat.digits 16 (hexValue cs) ++
          List.replicate (cs.length - (Nat.digits 16 (hexValue cs)).length) 0).reverse).map
            hexDigit := by
        rw [formatHex, List.leftpad, hw, reverse_append, reverse_replicate,
          map_append, map_replicate, hexDigit_zero, length_map, length_reverse]
    _ = cs := by rw [hdi, reverse_reverse, hm]

theorem hexDigit_spec : ∀ d < 16, hexDigitValue (hexDigit d) = d ∧ hexDigit d ∈ upperHexDigits := by
  decide

theorem hexValue_formatHex (width n : Nat) : hexValue (formatHex width n) = n := by
  have hz : hexDigitValue '0' = 0 := by decide
  have hid : ∀ d ∈ (Nat.digits 16 n).reverse, (hexDigitValue ∘ hexDigit) d = id d := fun d hd =>
    (hexDigit_spec d (digits_lt_base (by decide) (mem_reverse.mp hd))).1
  rw [hexValue, formatHex, List.leftpad, map_append, map_replicate, hz, map_map,
    map_congr_left hid, map_id, reverse_append, reverse_reverse,
    reverse_replicate, ofDigits_append_replicate_zero, ofDigits_digits]

theorem parseInt_of_upperHex {s : String} (h : UpperHex s.toList) (hne : s.toList ≠ [])
    (hl : s.toList.length ≤ 15) : parseInt 16 s = ((hexValue s.toList : Int), none) := by
  have hlt : hexValue s.toList < 16 ^ 15 :=
    lt_of_lt_of_le (hexValue_lt h) (Nat.pow_le_pow_right (by decide) hl)
  have hp : parseUint 16 0 s.toList = some (hexValue s.toList) := by
    have := parseUint_of_upperHex h 0 (by simp only [maxUint64]; omega)
    simpa using this
  obtain ⟨c, cs, hcs⟩ := exists_cons_of_ne_nil hne
  obtain ⟨-, -, -, hpl, hm⟩ := upperHexDigits_spec c (h c (by simp [hcs]))
  have hs : ¬ 2 ^ 63 ≤ hexValue s.toList := by omega
  -- the first character is a digit, so it is not taken for a sign
  have hsi : parseInt 16 s = parseMagnitude 16 false s.toList := by
    unfold parseInt
    split
    case h_1 rest heq => exact absurd (cons.inj (hcs.symm.trans heq)).1 hpl
    case h_2 rest heq => exact absurd (cons.inj (hcs.symm.trans heq)).1 hm
    case h_3 => rfl
  rw [hsi, parseMagnitude, hp]
  · simp only [Bool.false_eq_true, if_false, hs]
  · exact fun hnil => hne hnil

theorem hexValue_zero_cons (cs : List Char) : hexValue ('0' :: cs) = hexValue cs := by
  have : hexDigitValue '0' = 0 := by decide
  rw [hexValue_cons, this, zero_mul, zero_add]

/-- The value of decimal digits, 0 if there is anything else. -/
def decimal (cs : List Char) : Nat :=
  if cs ≠ [] ∧ cs.all Char.isDigit then Nat.ofDigitChars 10 cs 0 else 0

/-- The value that `strconv.Atoi` returns for a number that is in range: 0 with an error. -/
def atoi (s : String) : Int :=
  match s.toList with
  | '+' :: cs => decimal cs
  | '-' :: cs => -(decimal cs : Int)
  | cs => decimal cs

theorem isDigit_of_mem_repr {n : Nat} {c : Char} (h : c ∈ n.repr.toList) : c.isDigit = true := by
  rw [toList_repr] at h
  exact isDigit_of_mem_toDigits (by decide) (by decide) h

theorem toList_repr_ne_nil (n : Nat) : n.repr.toList ≠ [] := by
  rw [toList_repr]
  exact toDigits_ne_nil

theorem decimal_repr (n : Nat) : decimal n.repr.toList = n := by
  have ha : n.repr.toList.all Char.isDigit = true :=
    all_eq_true.mpr fun c hc => isDigit_of_mem_repr hc
  rw [decimal, if_pos ⟨toList_repr_ne_nil n, ha⟩, toList_repr, ofDigitChars_ten_toDigits]

theorem repr_injective : Function.Injective Nat.repr := by
  intro i j h
  rw [← decimal_repr i, h, decimal_repr]

theorem atoi_repr (n : Nat) : atoi n.repr = n := by
  unfold atoi
  split
  case h_1 cs heq => exact absurd (isDigit_of_mem_repr (n := n) (heq ▸ mem_cons_self)) (by decide)
  case h_2 cs heq => exact absurd (isDigit_of_mem_repr (n := n) (heq ▸ mem_cons_self)) (by decide)
  case h_3 => exact congrArg Nat.cast (decimal_repr n)

end Numeral
