import Mathlib.Data.List.TakeWhile
import Mathlib.Data.Nat.Digits.Lemmas

/-! # C strings

The functions of `<string.h>`, `<stdlib.h>` and `<stdio.h>` on byte lists.  A C
string is the list of its bytes without the terminating NUL; a pointer into it
is the list of the bytes from there on, and `none` is a null pointer. -/

namespace CoServer.Lib

def ascii (text : String) : List UInt8 := text.toList.map fun char => UInt8.ofNat char.toNat

/-! ## Searching -/

/-- The offset of the first occurrence of a byte in a block of memory. -/
def memchr (buffer : List UInt8) (byte : UInt8) : Option Nat := buffer.findIdx? (· == byte)

/-- The C string that starts a block of memory. -/
def cstr (buffer : List UInt8) : List UInt8 := buffer.takeWhile (· != 0)

/-- The offset of the first occurrence of a string. -/
def strstr : List UInt8 → List UInt8 → Option Nat
  | [], needle => if needle.isEmpty then some 0 else none
  | byte :: bytes, needle =>
    if needle.isPrefixOf (byte :: bytes) then some 0 else (strstr bytes needle).map (· + 1)

section
variable {bytes front back : List UInt8} {byte : UInt8}

theorem findIdx_append_cons (habsent : byte ∉ front) :
    (front ++ byte :: back).findIdx? (· == byte) = some front.length := by
  induction front with
  | nil => rw [List.nil_append, List.findIdx?_cons, beq_self_eq_true, if_pos rfl, List.length_nil]
  | cons head front ih =>
    simp only [List.mem_cons, not_or] at habsent
    have hne : (head == byte) = false := beq_eq_false_iff_ne.mpr (Ne.symm habsent.1)
    rw [List.cons_append, List.findIdx?_cons, hne, ih habsent.2]
    rfl

theorem memchr_found (habsent : byte ∉ front) : memchr (front ++ byte :: back) byte = some front.length :=
  findIdx_append_cons habsent

theorem memchr_none (habsent : byte ∉ bytes) : memchr bytes byte = none := by
  rw [memchr, List.findIdx?_eq_none_iff]
  intro other hmem
  exact beq_eq_false_iff_ne.mpr fun heq => habsent (heq ▸ hmem)

theorem cstr_self (habsent : 0 ∉ bytes) : cstr bytes = bytes := by
  rw [cstr, List.takeWhile_eq_self_iff]
  intro other hmem
  exact bne_iff_ne.mpr fun heq => habsent (heq ▸ hmem)

theorem strstr_found (habsent : byte ∉ front) : strstr (front ++ byte :: back) [byte] = some front.length := by
  induction front with
  | nil => simp [strstr]
  | cons head front ih =>
    simp only [List.mem_cons, not_or] at habsent
    simp [strstr, habsent.1, ih habsent.2]

theorem strstr_prefix (needle rest : List UInt8) : strstr (needle ++ rest) needle = some 0 := by
  cases needle with
  | nil => cases rest <;> rfl
  | cons byte needle =>
    rw [List.cons_append, strstr, if_pos]
    exact List.isPrefixOf_iff_prefix.2 (List.prefix_append (byte :: needle) rest)

theorem strstr_none (habsent : byte ∉ bytes) : strstr bytes [byte] = none := by
  induction bytes with
  | nil => rfl
  | cons head bytes ih =>
    simp only [List.mem_cons, not_or] at habsent
    simp [strstr, habsent.1, ih habsent.2]

end

/-! ## Tokens -/

/-- The first call of `strtok`, without the state it keeps for further calls. -/
def strtok (text delimiters : List UInt8) : Option (List UInt8) :=
  match text.dropWhile (· ∈ delimiters) with
  | [] => none
  | token => some (token.takeWhile (· ∉ delimiters))

/-- The length of the longest beginning made of accepted bytes. -/
def strspn (text accept : List UInt8) : Nat := (text.takeWhile (· ∈ accept)).length

/-- `strncasecmp` returns zero. -/
def strncaseEq (left right : List UInt8) (count : Nat) : Bool :=
  let lower := fun byte : UInt8 => if 65 ≤ byte ∧ byte ≤ 90 then byte + 32 else byte
  (left.take count).map lower == (right.take count).map lower

/-- A token that is followed by nothing but delimiters. -/
theorem strtok_token {token after delimiters : List UInt8} (hnonempty : token ≠ [])
    (hfree : ∀ byte ∈ token, byte ∉ delimiters) (hafter : ∀ byte ∈ after, byte ∈ delimiters) :
    strtok (token ++ after) delimiters = some token := by
  obtain ⟨head, rest, rfl⟩ := List.exists_cons_of_ne_nil hnonempty
  have hhead : head ∉ delimiters := hfree head List.mem_cons_self
  have hdrop : ((head :: rest) ++ after).dropWhile (· ∈ delimiters) = (head :: rest) ++ after := by
    simp [hhead]
  have hall : (head :: rest).takeWhile (· ∉ delimiters) = head :: rest := by
    rw [List.takeWhile_eq_self_iff]
    simpa using hfree
  have hnone : after.takeWhile (· ∉ delimiters) = [] := by
    cases after with
    | nil => rfl
    | cons byte after => simp [hafter byte List.mem_cons_self]
  have htake : ((head :: rest) ++ after).takeWhile (· ∉ delimiters) = head :: rest := by
    rw [List.takeWhile_append, hall, if_pos rfl, hnone, List.append_nil]
  simp only [strtok]
  split
  · rename_i hnil
    rw [hdrop] at hnil
    cases hnil
  · rw [hdrop, htake]

theorem strtok_delimiters {text delimiters : List UInt8} (hall : ∀ byte ∈ text, byte ∈ delimiters) :
    strtok text delimiters = none := by
  have hdrop : text.dropWhile (· ∈ delimiters) = [] := by
    rw [List.dropWhile_eq_nil_iff]
    simpa using hall
  simp only [strtok, hdrop]

theorem drop_strspn (text accept : List UInt8) : text.drop (strspn text accept) = text.dropWhile (· ∈ accept) := by
  have hsplit := @List.drop_left _ (text.takeWhile (· ∈ accept)) (text.dropWhile (· ∈ accept))
  rwa [List.takeWhile_append_dropWhile] at hsplit

/-! ## Numbers -/

def isSpace (byte : UInt8) : Bool := byte == 32 || (9 ≤ byte && byte ≤ 13)

def isDigit (byte : UInt8) : Bool := 48 ≤ byte && byte ≤ 57

/-- The number that a string of decimal digits spells. -/
def decimalValue (digits : List UInt8) : Nat :=
  digits.foldl (fun value digit => value * 10 + (digit.toNat - 48)) 0

/-- `strtol` in base ten: white space, a sign and digits, as a `long`. -/
def strtol (text : List UInt8) : Int :=
  match text.dropWhile isSpace with
  | 45 :: rest => max (-2 ^ 63) (-(decimalValue (rest.takeWhile isDigit) : Int))
  | 43 :: rest => min (2 ^ 63 - 1) (decimalValue (rest.takeWhile isDigit))
  | rest => min (2 ^ 63 - 1) (decimalValue (rest.takeWhile isDigit))

/-- The shortest decimal numeral. -/
def decimal (n : Nat) : List UInt8 :=
  if n = 0 then [48] else (Nat.digits 10 n).reverse.map fun digit => UInt8.ofNat (48 + digit)

/-- What `%d` prints. -/
def decimalInt (n : Int) : List UInt8 := if n < 0 then 45 :: decimal n.natAbs else decimal n.natAbs

theorem isDigit_decimal {n : Nat} {byte : UInt8} (hmem : byte ∈ decimal n) : isDigit byte = true := by
  by_cases hzero : n = 0
  · simp only [decimal, if_pos hzero, List.mem_singleton] at hmem
    rw [hmem]
    rfl
  · simp only [decimal, if_neg hzero, List.mem_map, List.mem_reverse] at hmem
    obtain ⟨digit, hdigit, rfl⟩ := hmem
    have hlt : digit < 10 := Nat.digits_lt_base (by decide) hdigit
    have hnat : (UInt8.ofNat (48 + digit)).toNat = 48 + digit := by
      rw [UInt8.toNat_ofNat']
      omega
    simp only [isDigit, Bool.and_eq_true, decide_eq_true_eq, UInt8.le_iff_toNat_le, hnat]
    exact ⟨Nat.le_add_right 48 digit, by show 48 + digit ≤ 57; omega⟩

theorem decimal_ne_nil (n : Nat) : decimal n ≠ [] := by
  by_cases hzero : n = 0
  · simp [decimal, hzero]
  · simp [decimal, hzero, Nat.digits_ne_nil_iff_ne_zero.mpr hzero]

theorem decimalValue_decimal (n : Nat) : decimalValue (decimal n) = n := by
  by_cases hzero : n = 0
  · rw [hzero]
    rfl
  · have hdigits : ∀ digits : List Nat, (∀ digit ∈ digits, digit < 10) →
        (digits.map fun digit => UInt8.ofNat (48 + digit)).foldr
          (fun digit value => value * 10 + (digit.toNat - 48)) 0 = Nat.ofDigits 10 digits := by
      intro digits hlt
      induction digits with
      | nil => rfl
      | cons digit digits ih =>
        have hdigit := hlt digit List.mem_cons_self
        have hnat : (UInt8.ofNat (48 + digit)).toNat = 48 + digit := by
          rw [UInt8.toNat_ofNat']
          omega
        rw [List.map_cons, List.foldr_cons, ih fun other hmem => hlt other (List.mem_cons_of_mem _ hmem),
          Nat.ofDigits_cons, hnat]
        omega
    rw [decimalValue, decimal, if_neg hzero, List.map_reverse, List.foldl_reverse,
      hdigits _ fun digit hmem => Nat.digits_lt_base (by decide) hmem, Nat.ofDigits_digits]

/-- A number is known by its numeral. -/
theorem decimalInt_injective : Function.Injective decimalInt := by
  have digits : ∀ {m n : Nat}, decimal m = decimal n → m = n := by
    intro m n same
    rw [← decimalValue_decimal m, same, decimalValue_decimal]
  -- a minus sign is no digit
  have unsigned : ∀ {text : List UInt8} {n : Nat}, 45 :: text ≠ decimal n := by
    intro text n same
    have sign : isDigit 45 = true := isDigit_decimal (same ▸ List.mem_cons_self)
    exact absurd sign (by decide)
  intro m n same
  unfold decimalInt at same
  split at same <;> split at same
  · have := digits (List.cons.inj same).2
    omega
  · exact absurd same unsigned
  · exact absurd same.symm unsigned
  · have := digits same
    omega

theorem isDigit_not_isSpace {byte : UInt8} (hdigit : isDigit byte = true) : isSpace byte = false := by
  simp only [isDigit, Bool.and_eq_true, decide_eq_true_eq, UInt8.le_iff_toNat_le] at hdigit
  have hlow : 48 ≤ byte.toNat := hdigit.1
  simp only [isSpace, Bool.or_eq_false_iff, beq_eq_false_iff_ne, Bool.and_eq_false_iff,
    decide_eq_false_iff_not, UInt8.le_iff_toNat_le]
  have hnine : (9 : UInt8).toNat = 9 := rfl
  have hthirteen : (13 : UInt8).toNat = 13 := rfl
  refine ⟨?_, .inr ?_⟩
  · intro heq
    rw [heq] at hlow
    exact absurd hlow (by decide)
  · omega

/-- A numeral between white space and something that is no digit. -/
theorem strtol_numeral {space digits after : List UInt8} (hspace : ∀ byte ∈ space, isSpace byte = true)
    (hdigits : ∀ byte ∈ digits, isDigit byte = true) (hnonempty : digits ≠ [])
    (hafter : ∀ byte, after.head? = some byte → isDigit byte = false) :
    strtol (space ++ digits ++ after) = min (2 ^ 63 - 1) (decimalValue digits : Int) := by
  obtain ⟨head, rest, rfl⟩ := List.exists_cons_of_ne_nil hnonempty
  have hhead := hdigits head List.mem_cons_self
  have hdrop : (space ++ (head :: rest) ++ after).dropWhile isSpace = (head :: rest) ++ after := by
    rw [List.append_assoc, List.dropWhile_append_of_pos hspace, List.cons_append, List.dropWhile_cons,
      if_neg (by rw [isDigit_not_isSpace hhead]; exact Bool.false_ne_true)]
  have htake : ((head :: rest) ++ after).takeWhile isDigit = head :: rest := by
    have hnone : after.takeWhile isDigit = [] := by
      cases after with
      | nil => rfl
      | cons byte after => simp [hafter byte rfl]
    rw [List.takeWhile_append_of_pos hdigits, hnone, List.append_nil]
  rw [List.cons_append] at hdrop htake
  simp only [strtol, hdrop]
  split
  · rename_i heq
    cases heq
    exact absurd hhead (by decide)
  · rename_i heq
    cases heq
    exact absurd hhead (by decide)
  · rw [htake]

theorem strtol_decimal {n : Nat} (hsmall : n < 2 ^ 63) : strtol (decimal n) = n := by
  have hnumeral := @strtol_numeral [] (decimal n) [] (fun _ hmem => nomatch hmem)
    (fun _ hmem => isDigit_decimal hmem) (decimal_ne_nil n) (fun _ hhead => nomatch hhead)
  rw [List.nil_append, List.append_nil, decimalValue_decimal] at hnumeral
  rw [hnumeral]
  omega

theorem strtol_decimalInt {n : Int} (hlow : -2 ^ 63 ≤ n) (hhigh : n < 2 ^ 63) : strtol (decimalInt n) = n := by
  by_cases hneg : n < 0
  · have htake : (decimal n.natAbs).takeWhile isDigit = decimal n.natAbs := by
      rw [List.takeWhile_eq_self_iff]
      exact fun _ hmem => isDigit_decimal hmem
    have hdrop : (decimalInt n).dropWhile isSpace = 45 :: decimal n.natAbs := by
      rw [decimalInt, if_pos hneg]
      rfl
    simp only [strtol, hdrop, htake, decimalValue_decimal]
    omega
  · rw [decimalInt, if_neg hneg, strtol_decimal (by omega)]
    omega

/-! ## Printing -/

/-- What `snprintf` leaves in a buffer of `size` bytes. -/
def snprintf (size : Nat) (text : List UInt8) : List UInt8 := text.take (size - 1)

theorem snprintf_fits {size : Nat} {text : List UInt8} (hfits : text.length < size) : snprintf size text = text := by
  rw [snprintf, List.take_of_length_le]
  omega

end CoServer.Lib
