import Irrigation.Library.Json

/-! The JSON scanner of the Shelly driver. Its loops and its recursion take fuel, and for a
terminated text the length of the text is enough of it. -/
namespace Irrigation

open Scanning Json

namespace Shelly

def skipWhitespace : Cursor → Scan Cursor := skipWhile fun byte => byte != 0 && isspace byte

/-! ### Strings -/

/-- The digits of `\u`; it stops at the last one. -/
def skipHexDigits : Nat → Cursor → Scan Cursor
  | 0,value => .ok value
  | count + 1,value => do
    let value := value.drop 1
    if isxdigit (← deref value) then skipHexDigits count value
    else .error .rejected

/-- What comes after a backslash. -/
def skipEscape (value : Cursor) : Scan Cursor := do
  let byte ← deref value
  if byte = 'u'.toUInt8 then
    let value ← skipHexDigits 4 value
    return value.drop 1
  else if byte ∈ ascii "\"\\/bfnrt" then return value.drop 1
  else .error .rejected

/-- `if (*value++ == '\\') { … }` -/
def skipCharacter (value : Cursor) : Scan Cursor := do
  if (← deref value) = '\\'.toUInt8 then skipEscape (value.drop 1)
  else return value.drop 1

def skipCharacters : Nat → Cursor → Nat → Scan (Cursor × Nat)
  | 0,_,_ => .error .exhausted
  | fuel + 1,value,count => do
    let byte ← deref value
    if byte = 0 ∨ byte = '"'.toUInt8 then return (value,count)
    else if byte < 0x20 then .error .rejected
    else
      let value ← skipCharacter value
      skipCharacters fuel value (count + 1)

/-- The string's content, the number of its characters, and the cursor behind it. -/
def parseString (cursor : Cursor) : Scan (Cursor × Nat × Cursor) := do
  let start ← expect '"'.toUInt8 cursor
  let (value,count) ← skipCharacters start.length start 0
  let next ← expect '"'.toUInt8 value
  return (start,count,next)

/-! ### Numbers -/

/-- `do { ++value; } while (isdigit(*value));` -/
def skipDigits (value : Cursor) : Scan Cursor := skipWhile isdigit (value.drop 1)

def skipInteger (value : Cursor) : Scan Cursor := do
  let byte ← deref value
  if byte = '0'.toUInt8 then return value.drop 1
  else if isdigit byte then skipDigits value
  else .error .rejected

def skipFraction (value : Cursor) : Scan Cursor := do
  if (← deref value) = '.'.toUInt8 then
    let value := value.drop 1
    if isdigit (← deref value) then skipDigits value
    else .error .rejected
  else return value

def skipSign (signs : List UInt8) (value : Cursor) : Scan Cursor := do
  if (← deref value) ∈ signs then return value.drop 1
  else return value

def skipExponent (value : Cursor) : Scan Cursor := do
  if (← deref value) ∈ ascii "eE" then
    let value ← skipSign (ascii "+-") (value.drop 1)
    if isdigit (← deref value) then skipDigits value
    else .error .rejected
  else return value

def skipJsonNumber (cursor : Cursor) : Scan Cursor := do
  let value ← skipSign (ascii "-") cursor
  let value ← skipInteger value
  let value ← skipFraction value
  skipExponent value

/-! ### Values -/

section Containers

variable (skipValue : Cursor → Scan Cursor)

def skipElements : Nat → Cursor → Scan Cursor
  | 0,_ => .error .exhausted
  | fuel + 1,value => do
    let value ← skipValue value
    let value ← skipWhitespace value
    if (← deref value) = ']'.toUInt8 then return value.drop 1
    else
      let value ← expect ','.toUInt8 value
      let value ← skipWhitespace value
      skipElements fuel value

def skipJsonArray (cursor : Cursor) : Scan Cursor := do
  let value ← skipWhitespace cursor
  let value ← expect '['.toUInt8 value
  let value ← skipWhitespace value
  if (← deref value) = ']'.toUInt8 then return value.drop 1
  else skipElements skipValue value.length value

def skipMembers : Nat → Cursor → Scan Cursor
  | 0,_ => .error .exhausted
  | fuel + 1,value => do
    let (_,_,value) ← parseString value
    let value ← skipWhitespace value
    let value ← expect ':'.toUInt8 value
    let value ← skipValue value
    let value ← skipWhitespace value
    if (← deref value) = '}'.toUInt8 then return value.drop 1
    else
      let value ← expect ','.toUInt8 value
      let value ← skipWhitespace value
      skipMembers fuel value

def skipJsonObject (cursor : Cursor) : Scan Cursor := do
  let value ← skipWhitespace cursor
  let value ← expect '{'.toUInt8 value
  let value ← skipWhitespace value
  if (← deref value) = '}'.toUInt8 then return value.drop 1
  else skipMembers skipValue value.length value

end Containers

/-- The fuel bounds how deep values are nested. -/
def skipJsonValue : Nat → Cursor → Scan Cursor
  | 0,_ => .error .exhausted
  | depth + 1,cursor => do
    let value ← skipWhitespace cursor
    let byte ← deref value
    if byte = '"'.toUInt8 then
      let (_,_,next) ← parseString value
      return next
    else if byte = '{'.toUInt8 then skipJsonObject (skipJsonValue depth) value
    else if byte = '['.toUInt8 then skipJsonArray (skipJsonValue depth) value
    else if ← strncmp value (ascii "true") then return value.drop 4
    else if ← strncmp value (ascii "false") then return value.drop 5
    else if ← strncmp value (ascii "null") then return value.drop 4
    else skipJsonNumber value

example : skipJsonValue 9 (ascii " \x7b\"a\":[1,-2.5e+3],\"b\":\x7b\x7d\x7d tail") = .ok (ascii " tail") := by decide +kernel

/-! ### White space -/

section Blank

variable {cursor : Cursor}

/-- No white space comes first. -/
def Solid : Cursor → Prop := Begins (isspace · = false)

theorem Solid.of_blank {gap : List UInt8} (blank : Blank gap) (solid : Solid (gap ++ cursor)) : gap = [] := by
  cases gap with
  | nil => rfl
  | cons byte gap =>
    obtain ⟨head,tail,split,noSpace⟩ := solid
    obtain ⟨rfl,_⟩ := List.cons.inj split
    rw [blank byte List.mem_cons_self] at noSpace
    contradiction

theorem ensures_skipWhitespace (terminated : 0 ∈ cursor) :
    Ensures (skipWhitespace cursor) fun rest => Reads Blank cursor rest ∧ Solid rest := by
  refine (ensures_skipWhile rfl terminated).mono ?_
  rintro rest ⟨⟨ahead,gap,all,split⟩,head,tail,first,stops⟩
  refine ⟨⟨ahead,gap,?_,split⟩,head,tail,first,?_⟩
  · intro byte member
    exact (Bool.and_eq_true_iff.mp (all byte member)).2
  · rcases Bool.and_eq_false_iff.mp stops with nul | solid
    · rw [bne_eq_false_iff_eq.mp nul]
      rfl
    · exact solid

theorem skipWhitespace_append {gap : List UInt8} (blank : Blank gap) (solid : Solid cursor) :
    skipWhitespace (gap ++ cursor) = .ok cursor := by
  refine skipWhile_append ?_ (solid.mono fun head noSpace => by simp [noSpace])
  intro byte member
  have space := blank byte member
  refine Bool.and_eq_true_iff.mpr ⟨?_,space⟩
  rw [bne_iff_ne]
  rintro rfl
  contradiction

end Blank

/-! ### Strings are scanned to their end -/

section Strings

variable {cursor value : Cursor}

theorem ensures_skipHexDigits (count : Nat) (terminated : 0 ∈ value.drop 1) :
    Ensures (skipHexDigits count value) fun next => 0 ∈ next.drop 1 ∧
      ∃ digits, digits.length = count ∧ (∀ digit ∈ digits, isxdigit digit = true) ∧
        value.drop 1 = digits ++ next.drop 1 := by
  induction count generalizing value with
  | zero => exact ⟨terminated,[],rfl,nofun,rfl⟩
  | succ count ih =>
    refine (ensures_deref terminated).bind ?_
    rintro digit ⟨rest,split⟩
    rw [split] at terminated ⊢
    by_cases hex : isxdigit digit = true
    · rw [if_pos hex]
      have other : digit ≠ 0 := by
        rintro rfl
        contradiction
      have step : Ensures (skipHexDigits count (digit :: rest)) _ := ih (mem_behind terminated other)
      refine step.mono ?_
      rintro next ⟨ahead,digits,four,all,rfl⟩
      exact ⟨ahead,digit :: digits,congrArg (· + 1) four,List.forall_mem_cons.mpr ⟨hex,all⟩,rfl⟩
    · rw [if_neg hex]
      exact ensures_rejected

theorem ensures_skipEscape (terminated : 0 ∈ value) :
    Ensures (skipEscape value) (Reads (fun text => Character ('\\'.toUInt8 :: text)) value) := by
  refine (ensures_deref terminated).bind ?_
  rintro byte ⟨rest,rfl⟩
  by_cases unicode : byte = 'u'.toUInt8
  · subst unicode
    rw [if_pos rfl]
    refine (ensures_skipHexDigits 4 (mem_behind terminated (by decide))).bind ?_
    rintro next ⟨ahead,digits,four,hex,split⟩
    refine ⟨ahead,'u'.toUInt8 :: digits,.unicode four hex,?_⟩
    exact congrArg (List.cons _) split
  · rw [if_neg unicode]
    have letters : ascii "\"\\/bfnrt" = escapes := rfl
    rw [letters]
    by_cases known : byte ∈ escapes
    · rw [if_pos known]
      refine ⟨mem_behind terminated ?_,[byte],.escaped known,rfl⟩
      rintro rfl
      exact absurd known (by decide)
    · rw [if_neg known]
      exact ensures_rejected

theorem ensures_skipCharacter {byte : UInt8} {rest : Cursor} (terminated : 0 ∈ rest) (printable : 0x20 ≤ byte)
    (noQuote : byte ≠ '"'.toUInt8) : Ensures (skipCharacter (byte :: rest)) (Reads Character (byte :: rest)) := by
  by_cases escape : byte = '\\'.toUInt8
  · subst escape
    refine (ensures_skipEscape terminated).mono ?_
    rintro next ⟨ahead,text,character,rfl⟩
    exact ⟨ahead,_,character,rfl⟩
  · have plain : skipCharacter (byte :: rest) = .ok rest := if_neg escape
    rw [plain]
    exact ⟨terminated,[byte],.plain printable noQuote escape,rfl⟩

theorem ensures_skipCharacters {fuel : Nat} (enough : value.length ≤ fuel) (count : Nat) (terminated : 0 ∈ value) :
    Ensures (skipCharacters fuel value count) fun (next,total) => 0 ∈ next ∧
      ∃ text further, Characters text further ∧ total = count + further ∧ value = text ++ next := by
  induction fuel generalizing value count with
  | zero =>
    rw [List.length_eq_zero_iff.mp (Nat.le_zero.mp enough)] at terminated
    contradiction
  | succ fuel ih =>
    refine (ensures_deref terminated).bind ?_
    rintro byte ⟨rest,rfl⟩
    have room : rest.length ≤ fuel := Nat.le_of_succ_le_succ enough
    by_cases stops : byte = 0 ∨ byte = '"'.toUInt8
    · rw [if_pos stops]
      exact ⟨terminated,[],0,.nil,rfl,rfl⟩
    · rw [if_neg stops]
      obtain ⟨other,noQuote⟩ := not_or.mp stops
      have behind := mem_behind terminated other
      by_cases control : byte < 0x20
      · rw [if_pos control]
        exact ensures_rejected
      · rw [if_neg control]
        refine (ensures_skipCharacter behind (UInt8.not_lt.mp control) noQuote).bind ?_
        rintro value ⟨ahead,character,first,split⟩
        have shorter : value.length ≤ fuel := by
          have consumes := first.length_pos
          have whole := congrArg List.length split
          rw [List.length_cons,List.length_append] at whole
          omega
        refine (ih shorter (count + 1) ahead).mono ?_
        rintro ⟨next,total⟩ ⟨last,others,further,characters,rfl,rfl⟩
        refine ⟨last,character ++ others,further + 1,.cons first characters,by omega,?_⟩
        rw [split,List.append_assoc]

/-- The content starts behind the quote, and the length counts the characters. -/
theorem ensures_parseString (terminated : 0 ∈ cursor) :
    Ensures (parseString cursor) fun (content,length,next) => 0 ∈ next ∧
      ∃ text, Characters text length ∧ content = text ++ '"'.toUInt8 :: next ∧ cursor = quoted text ++ next := by
  refine (ensures_expect terminated (by decide)).bind ?_
  rintro start ⟨behind,rfl⟩
  refine (ensures_skipCharacters (Nat.le_refl _) 0 behind).bind ?_
  rintro ⟨value,count⟩ ⟨ahead,text,further,characters,rfl,rfl⟩
  refine (ensures_expect ahead (by decide)).bind ?_
  rintro next ⟨last,rfl⟩
  rw [Nat.zero_add]
  refine ⟨last,text,characters,rfl,?_⟩
  rw [quoted,List.cons_append,List.append_assoc]
  rfl

end Strings

/-! ### Numbers are scanned to their end -/

section Numbers

variable {value : Cursor}

theorem digit_ne_zero {byte : UInt8} (digit : isdigit byte = true) : byte ≠ 0 := by
  rintro rfl
  contradiction

theorem ensures_skipDigits {byte : UInt8} {rest : Cursor} (terminated : 0 ∈ byte :: rest)
    (digit : isdigit byte = true) : Ensures (skipDigits (byte :: rest)) (Reads Digits (byte :: rest)) := by
  refine (ensures_skipWhile rfl (mem_behind terminated (digit_ne_zero digit))).mono ?_
  rintro next ⟨⟨ahead,digits,all,split⟩,_⟩
  have whole : rest = digits ++ next := split
  rw [whole]
  exact ⟨ahead,byte :: digits,⟨List.cons_ne_nil _ _,List.forall_mem_cons.mpr ⟨digit,all⟩⟩,rfl⟩

theorem ensures_skipSign {signs : List UInt8} (plain : 0 ∉ signs) (terminated : 0 ∈ value) :
    Ensures (skipSign signs value) (Reads (· ∈ [] :: signs.map fun sign => [sign]) value) := by
  refine (ensures_deref terminated).bind ?_
  rintro byte ⟨rest,rfl⟩
  by_cases signed : byte ∈ signs
  · rw [if_pos signed]
    refine ⟨mem_behind terminated ?_,[byte],?_,rfl⟩
    · rintro rfl
      exact plain signed
    · exact List.mem_cons_of_mem _ (List.mem_map_of_mem signed)
  · rw [if_neg signed]
    exact ⟨terminated,[],List.mem_cons_self,rfl⟩

theorem ensures_skipInteger (terminated : 0 ∈ value) : Ensures (skipInteger value) (Reads Integer value) := by
  refine (ensures_deref terminated).bind ?_
  rintro byte ⟨rest,rfl⟩
  by_cases zero : byte = '0'.toUInt8
  · rw [if_pos zero]
    subst zero
    exact ⟨mem_behind terminated (by decide),_,.zero,rfl⟩
  · rw [if_neg zero]
    by_cases digit : isdigit byte = true
    · rw [if_pos digit]
      refine (ensures_skipDigits terminated digit).mono ?_
      rintro next ⟨ahead,digits,all,split⟩
      refine ⟨ahead,digits,.nonzero all ?_,split⟩
      obtain ⟨head,tail,rfl,_⟩ := all.head
      obtain ⟨rfl,_⟩ := List.cons.inj split
      simpa using zero
    · rw [if_neg digit]
      exact ensures_rejected

theorem ensures_someDigits (terminated : 0 ∈ value) :
    Ensures (do if isdigit (← deref value) then skipDigits value else .error .rejected) (Reads Digits value) := by
  refine (ensures_deref terminated).bind ?_
  rintro byte ⟨rest,rfl⟩
  by_cases digit : isdigit byte = true
  · rw [if_pos digit]
    exact ensures_skipDigits terminated digit
  · rw [if_neg digit]
    exact ensures_rejected

theorem ensures_skipFraction (terminated : 0 ∈ value) : Ensures (skipFraction value) (Reads Fraction value) := by
  refine (ensures_deref terminated).bind ?_
  rintro byte ⟨rest,rfl⟩
  by_cases point : byte = '.'.toUInt8
  · rw [if_pos point]
    subst point
    refine (ensures_someDigits (mem_behind terminated (by decide))).mono ?_
    rintro next ⟨ahead,digits,all,split⟩
    exact ⟨ahead,_,.some all,congrArg (List.cons _) split⟩
  · rw [if_neg point]
    exact ⟨terminated,[],.none,rfl⟩

theorem ensures_skipExponent (terminated : 0 ∈ value) : Ensures (skipExponent value) (Reads Exponent value) := by
  refine (ensures_deref terminated).bind ?_
  rintro byte ⟨rest,rfl⟩
  by_cases marked : byte ∈ ascii "eE"
  · rw [if_pos marked]
    have other : byte ≠ 0 := by
      rintro rfl
      exact absurd marked (by decide)
    refine (ensures_skipSign (by decide) (mem_behind terminated other)).bind ?_
    rintro value ⟨ahead,sign,signed,split⟩
    refine (ensures_someDigits ahead).mono ?_
    rintro next ⟨last,digits,all,rfl⟩
    refine ⟨last,byte :: (sign ++ digits),.some marked signed all,?_⟩
    rw [List.cons_append,List.append_assoc]
    exact congrArg (List.cons _) split
  · rw [if_neg marked]
    exact ⟨terminated,[],.none,rfl⟩

theorem ensures_skipJsonNumber (terminated : 0 ∈ value) : Ensures (skipJsonNumber value) (Reads Number value) := by
  refine (ensures_skipSign (by decide) terminated).bind ?_
  rintro unsigned ⟨first,sign,signed,rfl⟩
  refine (ensures_skipInteger first).bind ?_
  rintro part ⟨second,integer,whole,rfl⟩
  refine (ensures_skipFraction second).bind ?_
  rintro scale ⟨third,fraction,digits,rfl⟩
  refine (ensures_skipExponent third).mono ?_
  rintro next ⟨last,exponent,scaled,rfl⟩
  refine ⟨last,_,.mk signed whole digits scaled,?_⟩
  simp only [List.append_assoc]

end Numbers

/-! ### Values are scanned to their end -/

section Values

variable {skipValue : Cursor → Scan Cursor} {size : Nat} {cursor : Cursor}

/-- Texts up to a size are scanned over one value, which may have white space before it. -/
def ReadsValues (skipValue : Cursor → Scan Cursor) (size : Nat) : Prop :=
  ∀ cursor, 0 ∈ cursor → cursor.length ≤ size → Ensures (skipValue cursor)
    (Reads (fun text => ∃ gap value, Blank gap ∧ Value value ∧ text = gap ++ value) cursor)

theorem ReadsValues.solid (values : ReadsValues skipValue size) (solid : Solid cursor) (terminated : 0 ∈ cursor)
    (small : cursor.length ≤ size) : Ensures (skipValue cursor) (Reads Value cursor) := by
  refine (values cursor terminated small).mono ?_
  rintro rest ⟨ahead,_,⟨gap,value,blank,isValue,rfl⟩,rfl⟩
  rw [List.append_assoc] at solid
  rw [solid.of_blank blank]
  exact ⟨ahead,value,isValue,rfl⟩

theorem ensures_skipElements (values : ReadsValues skipValue size) {fuel : Nat} (enough : cursor.length ≤ fuel)
    (small : cursor.length ≤ size) (solid : Solid cursor) (terminated : 0 ∈ cursor) :
    Ensures (skipElements skipValue fuel cursor)
      (Reads (fun text => ∃ elements, Elements elements ∧ text = elements ++ [']'.toUInt8]) cursor) := by
  induction fuel generalizing cursor with
  | zero =>
    rw [List.length_eq_zero_iff.mp (Nat.le_zero.mp enough)] at terminated
    contradiction
  | succ fuel ih =>
    refine (values.solid solid terminated small).bind ?_
    rintro first ⟨afterValue,value,isValue,rfl⟩
    refine (ensures_skipWhitespace afterValue).bind ?_
    rintro stripped ⟨⟨ahead,gap,blank,rfl⟩,_⟩
    refine (ensures_deref ahead).bind ?_
    rintro byte ⟨rest,rfl⟩
    by_cases ends : byte = ']'.toUInt8
    · rw [if_pos ends]
      subst ends
      refine ⟨mem_behind ahead (by decide),_,⟨_,.last isValue blank,rfl⟩,?_⟩
      simp only [List.append_assoc]
      rfl
    · rw [if_neg ends]
      refine (ensures_expect ahead (by decide)).bind ?_
      rintro _ ⟨afterComma,split⟩
      obtain ⟨rfl,rfl⟩ := List.cons.inj split
      refine (ensures_skipWhitespace afterComma).bind ?_
      rintro others ⟨⟨further,before,blankBefore,rfl⟩,stripped⟩
      simp only [List.length_append,List.length_cons] at enough small
      refine (ih (by omega) (by omega) stripped further).mono ?_
      rintro next ⟨last,_,⟨elements,others,rfl⟩,rfl⟩
      refine ⟨last,_,⟨_,.more isValue blank blankBefore others,rfl⟩,?_⟩
      simp only [List.append_assoc,List.cons_append]

theorem ensures_skipJsonArray (values : ReadsValues skipValue size) (small : cursor.length ≤ size) (terminated : 0 ∈ cursor) :
    Ensures (skipJsonArray skipValue ('['.toUInt8 :: cursor)) (Reads Value ('['.toUInt8 :: cursor)) := by
  refine (ensures_skipWhitespace terminated).bind ?_
  rintro stripped ⟨⟨ahead,gap,blank,rfl⟩,solid⟩
  refine (ensures_deref ahead).bind ?_
  rintro byte ⟨rest,rfl⟩
  by_cases ends : byte = ']'.toUInt8
  · rw [if_pos ends]
    subst ends
    refine ⟨mem_behind ahead (by decide),_,.emptyArray blank,?_⟩
    simp only [List.cons_append,List.append_assoc]
    rfl
  · rw [if_neg ends]
    rw [List.length_append] at small
    refine (ensures_skipElements values (Nat.le_refl _) (by omega) solid ahead).mono ?_
    rintro next ⟨last,_,⟨elements,listed,rfl⟩,split⟩
    refine ⟨last,_,.array blank listed,?_⟩
    rw [split]
    simp only [List.cons_append,List.append_assoc]

theorem ensures_skipMembers (values : ReadsValues skipValue size) {fuel : Nat} (enough : cursor.length ≤ fuel)
    (small : cursor.length ≤ size) (terminated : 0 ∈ cursor) :
    Ensures (skipMembers skipValue fuel cursor)
      (Reads (fun text => ∃ members listed, Members members listed ∧ text = listed ++ ['}'.toUInt8]) cursor) := by
  induction fuel generalizing cursor with
  | zero =>
    rw [List.length_eq_zero_iff.mp (Nat.le_zero.mp enough)] at terminated
    contradiction
  | succ fuel ih =>
    refine (ensures_parseString terminated).bind ?_
    rintro ⟨_,_,_⟩ ⟨afterKey,key,characters,_,rfl⟩
    refine (ensures_skipWhitespace afterKey).bind ?_
    rintro _ ⟨⟨beforeColon,gap,blank,rfl⟩,_⟩
    refine (ensures_expect beforeColon (by decide)).bind ?_
    rintro _ ⟨afterColon,rfl⟩
    simp only [List.length_append,List.length_cons] at enough small
    refine (values _ afterColon (by omega)).bind ?_
    rintro _ ⟨afterValue,_,⟨before,value,blankBefore,isValue,rfl⟩,rfl⟩
    refine (ensures_skipWhitespace afterValue).bind ?_
    rintro _ ⟨⟨stripped,after,blankAfter,rfl⟩,_⟩
    have pair := Pair.mk characters blank blankBefore isValue blankAfter
    refine (ensures_deref stripped).bind ?_
    rintro byte ⟨rest,rfl⟩
    by_cases ends : byte = '}'.toUInt8
    · rw [if_pos ends]
      subst ends
      refine ⟨mem_behind stripped (by decide),_,⟨_,_,.last pair,rfl⟩,?_⟩
      simp only [List.append_assoc,List.cons_append]
      rfl
    · rw [if_neg ends]
      refine (ensures_expect stripped (by decide)).bind ?_
      rintro _ ⟨afterComma,split⟩
      obtain ⟨rfl,rfl⟩ := List.cons.inj split
      refine (ensures_skipWhitespace afterComma).bind ?_
      rintro others ⟨⟨further,between,blankBetween,rfl⟩,_⟩
      simp only [List.length_append,List.length_cons] at enough small
      refine (ih (by omega) (by omega) further).mono ?_
      rintro next ⟨last,_,⟨_,_,others,rfl⟩,rfl⟩
      refine ⟨last,_,⟨_,_,.more pair blankBetween others,rfl⟩,?_⟩
      simp only [List.append_assoc,List.cons_append]

theorem ensures_skipJsonObject (values : ReadsValues skipValue size) (small : cursor.length ≤ size) (terminated : 0 ∈ cursor) :
    Ensures (skipJsonObject skipValue ('{'.toUInt8 :: cursor)) (Reads Value ('{'.toUInt8 :: cursor)) := by
  refine (ensures_skipWhitespace terminated).bind ?_
  rintro stripped ⟨⟨ahead,gap,blank,rfl⟩,_⟩
  refine (ensures_deref ahead).bind ?_
  rintro byte ⟨rest,rfl⟩
  by_cases ends : byte = '}'.toUInt8
  · rw [if_pos ends]
    subst ends
    refine ⟨mem_behind ahead (by decide),_,.object (.empty blank),?_⟩
    simp only [List.cons_append,List.append_assoc]
    rfl
  · rw [if_neg ends]
    rw [List.length_append] at small
    refine (ensures_skipMembers values (Nat.le_refl _) (by omega) ahead).mono ?_
    rintro next ⟨last,_,⟨_,_,listed,rfl⟩,split⟩
    refine ⟨last,_,.object (.members blank listed),?_⟩
    rw [split]
    simp only [List.cons_append,List.append_assoc]

/-- A literal is passed over, or the scan goes on. -/
theorem ensures_literal {literal : List UInt8} (plain : 0 ∉ literal) (value : Value literal) (terminated : 0 ∈ cursor)
    {otherwise : Scan Cursor} (further : Ensures otherwise (Reads Value cursor)) :
    Ensures (do if ← strncmp cursor literal then return cursor.drop literal.length else otherwise)
      (Reads Value cursor) := by
  refine (ensures_strncmp plain terminated).bind ?_
  rintro found reads
  by_cases same : found = true
  · rw [if_pos same]
    obtain ⟨ahead,text,rfl,split⟩ := reads same
    exact ⟨ahead,text,value,split⟩
  · rw [if_neg same]
    exact further

/-- Any terminated text is accepted as a value and what follows it, or rejected. -/
theorem skipJsonValue_reads (depth : Nat) : ReadsValues (skipJsonValue depth) depth := by
  induction depth with
  | zero =>
    intro cursor terminated empty
    rw [List.length_eq_zero_iff.mp (Nat.le_zero.mp empty)] at terminated
    contradiction
  | succ depth ih =>
    intro cursor terminated small
    refine (ensures_skipWhitespace terminated).bind ?_
    rintro value ⟨⟨ahead,gap,blank,rfl⟩,_⟩
    have padded {rest : Cursor} (reads : Reads Value value rest) :
        Reads (fun text => ∃ gap value, Blank gap ∧ Value value ∧ text = gap ++ value) (gap ++ value) rest := by
      obtain ⟨last,text,isValue,rfl⟩ := reads
      exact ⟨last,_,⟨gap,text,blank,isValue,rfl⟩,(List.append_assoc ..).symm⟩
    suffices scanned : Ensures _ (Reads Value value) from scanned.mono fun _ => padded
    refine (ensures_deref ahead).bind ?_
    rintro byte ⟨rest,rfl⟩
    rw [List.length_append,List.length_cons] at small
    have room : rest.length ≤ depth := by omega
    by_cases string : byte = '"'.toUInt8
    · rw [if_pos string]
      refine (ensures_parseString ahead).bind ?_
      rintro ⟨_,_,next⟩ ⟨last,text,characters,_,split⟩
      exact ⟨last,_,.string characters,split⟩
    rw [if_neg string]
    by_cases object : byte = '{'.toUInt8
    · rw [if_pos object]
      subst object
      exact ensures_skipJsonObject ih room (mem_behind ahead (by decide))
    rw [if_neg object]
    by_cases array : byte = '['.toUInt8
    · rw [if_pos array]
      subst array
      exact ensures_skipJsonArray ih room (mem_behind ahead (by decide))
    rw [if_neg array]
    refine ensures_literal (by decide) .true ahead ?_
    refine ensures_literal (by decide) .false ahead ?_
    refine ensures_literal (by decide) .null ahead ?_
    refine (ensures_skipJsonNumber ahead).mono ?_
    rintro next ⟨last,text,number,split⟩
    exact ⟨last,text,.number number,split⟩

end Values

end Shelly

end Irrigation
