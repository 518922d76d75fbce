import Irrigation.Library.Scanning
import Mathlib.Algebra.Order.Ring.Nat
import Mathlib.Data.List.TakeWhile

/-! Decimal numerals as the C library reads them. -/
namespace Numerals

open Scanning

def digitValue (digit : UInt8) : Nat := digit.toNat - 48

def decimalValue (digits : List UInt8) : Nat := digits.foldl (fun value digit => 10 * value + digitValue digit) 0

/-- `ULONG_MAX`, with 32 bits. -/
def ulongMax : UInt32 := 0xffffffff

/-- Whether a numeral has a minus sign, and what follows its sign. -/
def splitSign : List UInt8 → Bool × List UInt8
  | [] => (false,[])
  | byte :: rest =>
    if byte = '-'.toUInt8 then (true,rest)
    else if byte = '+'.toUInt8 then (false,rest)
    else (false,byte :: rest)

/-- `strtoul(text, &end, 10)`, with the text that `end` points to. -/
def strtoul (text : List UInt8) : UInt32 × List UInt8 :=
  let signed := splitSign (text.dropWhile isspace)
  let digits := signed.2.takeWhile isdigit
  let rest := signed.2.dropWhile isdigit
  if digits = [] then (0,text)
  else if decimalValue digits > ulongMax.toNat then (ulongMax,rest)
  else (if signed.1 then -(decimalValue digits).toUInt32 else (decimalValue digits).toUInt32,rest)

theorem isdigit_iff {byte : UInt8} : isdigit byte = true ↔ 48 ≤ byte.toNat ∧ byte.toNat ≤ 57 := by
  simp [isdigit,UInt8.le_iff_toNat_le]

theorem digit_not_sign {byte : UInt8} (digit : isdigit byte = true) : byte ≠ '-'.toUInt8 ∧ byte ≠ '+'.toUInt8 := by
  constructor <;> rintro rfl <;> contradiction

/-- Digits up to the end are read as the number they denote. -/
theorem strtoul_digits {digits : List UInt8} (some : digits ≠ []) (all : ∀ digit ∈ digits, isdigit digit = true)
    (small : decimalValue digits < 2 ^ 32) : strtoul digits = ((decimalValue digits).toUInt32,[]) := by
  obtain ⟨head,tail,rfl⟩ := List.exists_cons_of_ne_nil some
  have first := all head List.mem_cons_self
  have unsigned : splitSign (head :: tail) = (false,head :: tail) := by
    rw [splitSign,if_neg (digit_not_sign first).1,if_neg (digit_not_sign first).2]
  have blank : (head :: tail).dropWhile isspace = head :: tail :=
    List.dropWhile_cons_of_neg (by simp [digit_not_space first])
  have whole : (head :: tail).takeWhile isdigit = head :: tail := List.takeWhile_eq_self_iff.mpr all
  have nothing : (head :: tail).dropWhile isdigit = [] := List.dropWhile_eq_nil_iff.mpr all
  have bounded : ¬decimalValue (head :: tail) > ulongMax.toNat := by
    have limit : ulongMax.toNat = 2 ^ 32 - 1 := rfl
    omega
  simp only [strtoul,blank,unsigned,whole,nothing,if_neg some,if_neg bounded,Bool.false_eq_true,if_false]

/-! ### Whole numerals -/

/-- Blanks, at most one sign, and digits up to the end. -/
def WholeNumeral (text : List UInt8) : Prop :=
  ∃ blanks sign digits : List UInt8, text = blanks ++ sign ++ digits ∧ (∀ byte ∈ blanks, isspace byte = true) ∧
    (sign = [] ∨ sign = ['+'.toUInt8] ∨ sign = ['-'.toUInt8]) ∧ digits ≠ [] ∧
    ∀ digit ∈ digits, isdigit digit = true

theorem splitSign_cases (text : List UInt8) : ∃ sign, text = sign ++ (splitSign text).2 ∧
    (sign = [] ∨ sign = ['+'.toUInt8] ∨ sign = ['-'.toUInt8]) := by
  cases text with
  | nil => exact ⟨[],rfl,.inl rfl⟩
  | cons byte rest =>
    rw [splitSign]
    split_ifs with minus plus
    · exact ⟨['-'.toUInt8],by rw [minus]; rfl,.inr (.inr rfl)⟩
    · exact ⟨['+'.toUInt8],by rw [plus]; rfl,.inr (.inl rfl)⟩
    · exact ⟨[],rfl,.inl rfl⟩

theorem splitSign_signed {sign digits : List UInt8}
    (signs : sign = [] ∨ sign = ['+'.toUInt8] ∨ sign = ['-'.toUInt8])
    (all : ∀ digit ∈ digits, isdigit digit = true) : (splitSign (sign ++ digits)).2 = digits := by
  rcases signs with rfl | rfl | rfl
  · cases digits with
    | nil => rfl
    | cons first rest =>
      have apart := digit_not_sign (all first List.mem_cons_self)
      simp only [List.nil_append,splitSign,if_neg apart.1,if_neg apart.2]
  · rfl
  · rfl

/-- A text is read up to its end exactly when it is a whole numeral; the empty one is read so too. -/
theorem strtoul_whole_iff {text : List UInt8} (some : text ≠ []) : (strtoul text).2 = [] ↔ WholeNumeral text := by
  constructor
  · intro whole
    obtain ⟨sign,signed,signs⟩ := splitSign_cases (text.dropWhile isspace)
    have digits : (splitSign (text.dropWhile isspace)).2.takeWhile isdigit ≠ [] := by
      intro nothing
      simp only [strtoul,if_pos nothing] at whole
      exact some whole
    have rest : (splitSign (text.dropWhile isspace)).2.dropWhile isdigit = [] := by
      simp only [strtoul,if_neg digits] at whole
      split at whole <;> exact whole
    have all := List.dropWhile_eq_nil_iff.mp rest
    refine ⟨text.takeWhile isspace,sign,_,?_,fun _ => List.mem_takeWhile_imp,signs,?_,all⟩
    · rw [List.append_assoc,← signed,List.takeWhile_append_dropWhile]
    · intro nothing
      rw [nothing] at digits
      exact digits rfl
  · rintro ⟨blanks,sign,digits,rfl,spaces,signs,some,all⟩
    obtain ⟨first,others,rfl⟩ := List.exists_cons_of_ne_nil some
    have unblank : (sign ++ first :: others).dropWhile isspace = sign ++ first :: others := by
      rcases signs with rfl | rfl | rfl
      · exact List.dropWhile_cons_of_neg (by simp [digit_not_space (all first List.mem_cons_self)])
      · rfl
      · rfl
    have blank : (blanks ++ sign ++ first :: others).dropWhile isspace = sign ++ first :: others := by
      rw [List.append_assoc,List.dropWhile_append_of_pos spaces,unblank]
    have taken : (first :: others).takeWhile isdigit = first :: others := List.takeWhile_eq_self_iff.mpr all
    have nothing : (first :: others).dropWhile isdigit = [] := List.dropWhile_eq_nil_iff.mpr all
    simp only [strtoul,blank,splitSign_signed signs all,taken,nothing,if_neg some]
    split <;> rfl

/-! ### Two digits -/

/-- A number below a hundred, padded with a zero. -/
def twoDigits (number : Nat) : List UInt8 := [(48 + number / 10).toUInt8,(48 + number % 10).toUInt8]

theorem twoDigits_codes {number : Nat} (small : number < 100) : (48 + number / 10).toUInt8.toNat = 48 + number / 10 ∧
    (48 + number % 10).toUInt8.toNat = 48 + number % 10 := by
  constructor
  · simp; omega
  · simp; omega

theorem twoDigits_digits {number : Nat} (small : number < 100) : ∀ digit ∈ twoDigits number, isdigit digit = true := by
  obtain ⟨tens,units⟩ := twoDigits_codes small
  simp only [twoDigits,List.mem_cons,List.not_mem_nil,or_false]
  rintro byte (rfl | rfl)
  · exact isdigit_iff.mpr (by omega)
  · exact isdigit_iff.mpr (by omega)

theorem strtoul_twoDigits {number : Nat} (small : number < 100) :
    strtoul (twoDigits number) = (number.toUInt32,[]) := by
  obtain ⟨tens,units⟩ := twoDigits_codes small
  have value : decimalValue (twoDigits number) = number := by
    simp only [decimalValue,twoDigits,List.foldl_cons,List.foldl_nil,digitValue,tens,units]
    omega
  have some : twoDigits number ≠ [] := List.cons_ne_nil _ _
  rw [strtoul_digits some (twoDigits_digits small) (by omega),value]

/-! ### Printing -/

/-- What `%u` prints of a number. -/
def decimal (number : Nat) : List UInt8 := (Nat.toDigits 10 number).map Char.toUInt8

theorem decimal_digit {digit : Nat} (small : digit < 10) : digit.digitChar.toUInt8.toNat = 48 + digit := by
  have each : (List.range 10).all fun digit => digit.digitChar.toUInt8.toNat = 48 + digit := by decide
  simpa using List.all_eq_true.mp each digit (List.mem_range.mpr small)

theorem decimal_of_lt {number : Nat} (small : number < 10) : decimal number = [number.digitChar.toUInt8] := by
  rw [decimal,Nat.toDigits_of_lt_base small]
  rfl

theorem decimal_of_ge {number : Nat} (large : 10 ≤ number) :
    decimal number = decimal (number / 10) ++ [(number % 10).digitChar.toUInt8] := by
  rw [decimal,Nat.toDigits_of_base_le (by decide) large,List.map_append]
  rfl

theorem decimal_ne_nil (number : Nat) : decimal number ≠ [] :=
  fun nothing => Nat.toDigits_ne_nil (List.map_eq_nil_iff.mp nothing)

theorem decimal_digits (number : Nat) : ∀ digit ∈ decimal number, isdigit digit = true := by
  induction number using Nat.strongRecOn with
  | ind number ih =>
    have units := decimal_digit (Nat.mod_lt number (by decide : 0 < 10))
    by_cases small : number < 10
    · rw [Nat.mod_eq_of_lt small] at units
      rw [decimal_of_lt small,List.forall_mem_singleton,isdigit_iff]
      omega
    · rw [decimal_of_ge (Nat.le_of_not_lt small)]
      intro digit member
      rcases List.mem_append.mp member with front | last
      · exact ih (number / 10) (by omega) digit front
      · rw [List.mem_singleton.mp last,isdigit_iff]
        omega

theorem decimalValue_concat (digits : List UInt8) (digit : UInt8) :
    decimalValue (digits ++ [digit]) = 10 * decimalValue digits + digitValue digit := by
  simp [decimalValue]

theorem decimalValue_decimal (number : Nat) : decimalValue (decimal number) = number := by
  induction number using Nat.strongRecOn with
  | ind number ih =>
    have units := decimal_digit (Nat.mod_lt number (by decide : 0 < 10))
    by_cases small : number < 10
    · rw [Nat.mod_eq_of_lt small] at units
      simp only [decimal_of_lt small,decimalValue,List.foldl_cons,List.foldl_nil,digitValue]
      omega
    · rw [decimal_of_ge (Nat.le_of_not_lt small),decimalValue_concat,ih (number / 10) (by omega),digitValue]
      omega

/-- A numeral has no leading zero. -/
theorem decimal_head {number : Nat} (positive : 0 < number) : (decimal number).head? ≠ some '0'.toUInt8 := by
  induction number using Nat.strongRecOn with
  | ind number ih =>
    by_cases small : number < 10
    · rw [decimal_of_lt small,List.head?_cons]
      intro zero
      have first := congrArg UInt8.toNat (Option.some.inj zero)
      rw [decimal_digit small] at first
      have code : '0'.toUInt8.toNat = 48 := rfl
      omega
    · rw [decimal_of_ge (Nat.le_of_not_lt small),List.head?_append_of_ne_nil _ (decimal_ne_nil _)]
      exact ih (number / 10) (by omega) (by omega)

theorem decimal_length_le {number digits : Nat} (some : 0 < digits) (small : number < 10 ^ digits) :
    (decimal number).length ≤ digits := by
  rw [decimal,List.length_map]
  exact (Nat.length_toDigits_le_iff (by decide) some).mpr small

end Numerals
