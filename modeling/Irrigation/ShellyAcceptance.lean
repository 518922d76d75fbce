import Irrigation.ShellyScanner

/-! Every value of the grammar is passed over, where what follows it cannot make a number
longer. -/
namespace Irrigation

open Scanning Json

namespace Shelly

variable {text rest : List UInt8}

/-! ### Strings -/

theorem skipHexDigits_append {digits : List UInt8} (hex : ∀ digit ∈ digits, isxdigit digit = true) (byte : UInt8)
    (rest : Cursor) : ∃ next, skipHexDigits digits.length (byte :: (digits ++ rest)) = .ok next ∧ next.drop 1 = rest := by
  induction digits generalizing byte with
  | nil => exact ⟨_,rfl,rfl⟩
  | cons digit digits ih =>
    obtain ⟨first,others⟩ := List.forall_mem_cons.mp hex
    obtain ⟨next,scanned,behind⟩ := ih others digit
    refine ⟨next,?_,behind⟩
    rw [← scanned]
    exact if_pos first

theorem skipEscape_append (character : Character ('\\'.toUInt8 :: text)) (rest : Cursor) :
    skipEscape (text ++ rest) = .ok rest := by
  cases character with
  | plain _ _ noEscape => contradiction
  | escaped known =>
    rw [List.cons_append,skipEscape,deref_bind,if_neg (fun unicode => absurd known (by rw [unicode]; decide))]
    exact if_pos known
  | @unicode digits four hex =>
    obtain ⟨next,scanned,behind⟩ := skipHexDigits_append hex 'u'.toUInt8 rest
    rw [four] at scanned
    rw [List.cons_append,skipEscape,deref_bind,if_pos rfl,scanned]
    exact congrArg Except.ok behind

theorem skipCharacter_append (character : Character text) (rest : Cursor) : skipCharacter (text ++ rest) = .ok rest := by
  obtain ⟨head,tail,rfl,_⟩ := character.begins
  rw [List.cons_append,skipCharacter,deref_bind]
  by_cases escape : head = '\\'.toUInt8
  · subst escape
    rw [if_pos rfl]
    exact skipEscape_append character rest
  · rw [if_neg escape]
    cases character with
    | plain => rfl
    | escaped | unicode => contradiction

theorem skipCharacters_append {further : Nat} (characters : Characters text further) {fuel : Nat} (enough : further < fuel)
    (count : Nat) (rest : Cursor) :
    skipCharacters fuel (text ++ '"'.toUInt8 :: rest) count = .ok ('"'.toUInt8 :: rest,count + further) := by
  induction characters generalizing fuel count with
  | nil =>
    cases fuel with
    | zero => contradiction
    | succ fuel =>
      rw [List.nil_append,skipCharacters,deref_bind]
      exact if_pos (Or.inr rfl)
  | @cons character text further first _ ih =>
    cases fuel with
    | zero => contradiction
    | succ fuel =>
      obtain ⟨head,tail,split,other,noQuote,printable⟩ := first.begins
      have step := skipCharacter_append first (text ++ '"'.toUInt8 :: rest)
      rw [split] at step
      rw [split,List.append_assoc,List.cons_append,skipCharacters,deref_bind,if_neg (not_or.mpr ⟨other,noQuote⟩),
        if_neg printable,← List.cons_append,step,ok_bind,ih (Nat.lt_of_succ_lt_succ enough),Nat.add_assoc,Nat.add_comm 1]

theorem parseString_append {count : Nat} (characters : Characters text count) (rest : Cursor) :
    parseString (quoted text ++ rest) = .ok (text ++ '"'.toUInt8 :: rest,count,rest) := by
  have split : quoted text ++ rest = '"'.toUInt8 :: (text ++ '"'.toUInt8 :: rest) := by
    rw [quoted,List.cons_append,List.append_assoc]
    rfl
  have enough : count < (text ++ '"'.toUInt8 :: rest).length := by
    have short := characters.count_le
    rw [List.length_append,List.length_cons]
    omega
  rw [split,parseString,expect_bind,skipCharacters_append characters enough,ok_bind,Nat.zero_add]
  exact expect_bind ..

/-! ### Numbers -/

theorem skipDigits_append (digits : Digits text) (stops : Begins (isdigit · = false) rest) :
    skipDigits (text ++ rest) = .ok rest := by
  obtain ⟨head,tail,rfl,_,others⟩ := digits.head
  exact skipWhile_append others stops

theorem someDigits_append (digits : Digits text) (stops : Begins (isdigit · = false) rest) :
    (do if isdigit (← deref (text ++ rest)) then skipDigits (text ++ rest) else .error .rejected) = .ok rest := by
  have scanned := skipDigits_append digits stops
  obtain ⟨head,tail,rfl,first,_⟩ := digits.head
  rw [List.cons_append] at scanned ⊢
  rw [deref_bind,if_pos first,scanned]

theorem skipSign_append {signs : List UInt8} (signed : text ∈ [] :: signs.map fun sign => [sign])
    (unsigned : Begins (· ∉ signs) rest) : skipSign signs (text ++ rest) = .ok rest := by
  rcases List.mem_cons.mp signed with rfl | signed
  · obtain ⟨head,tail,rfl,other⟩ := unsigned
    rw [List.nil_append,skipSign,deref_bind,if_neg other]
    rfl
  · obtain ⟨sign,among,rfl⟩ := List.mem_map.mp signed
    rw [List.singleton_append,skipSign,deref_bind,if_pos among]
    rfl

theorem digit_not_sign {byte : UInt8} (digit : isdigit byte = true) : byte ∉ ascii "+-" := by
  intro sign
  rcases List.mem_cons.mp sign with rfl | sign
  · contradiction
  · rw [List.mem_singleton.mp sign] at digit
    contradiction

theorem skipInteger_append (integer : Integer text) (stops : Begins (isdigit · = false) rest) :
    skipInteger (text ++ rest) = .ok rest := by
  cases integer with
  | zero => rfl
  | nonzero digits leading =>
    have scanned := skipDigits_append digits stops
    obtain ⟨head,tail,rfl,first,_⟩ := digits.head
    have notZero : head ≠ '0'.toUInt8 := by simpa using leading
    rw [List.cons_append] at scanned ⊢
    rw [skipInteger,deref_bind,if_neg notZero,if_pos first,scanned]

theorem skipFraction_append (fraction : Fraction text)
    (stops : Begins (fun head => isdigit head = false ∧ head ≠ '.'.toUInt8) rest) :
    skipFraction (text ++ rest) = .ok rest := by
  cases fraction with
  | none =>
    obtain ⟨head,tail,rfl,_,noPoint⟩ := stops
    rw [List.nil_append,skipFraction,deref_bind,if_neg noPoint]
    rfl
  | some digits =>
    rw [List.cons_append,skipFraction,deref_bind,if_pos rfl]
    exact someDigits_append digits (stops.mono fun _ => And.left)

theorem skipExponent_append (exponent : Exponent text) (delimited : Delimited rest) :
    skipExponent (text ++ rest) = .ok rest := by
  have stops : Begins (isdigit · = false) rest := delimited.mono fun head ends => by
    simpa using fun digit => ends (.inl digit)
  cases exponent with
  | none =>
    obtain ⟨head,tail,rfl,ends⟩ := delimited
    rw [List.nil_append,skipExponent,deref_bind,if_neg fun marked => ends (.inr (.inr marked))]
    rfl
  | @some mark sign text marked signed digits =>
    obtain ⟨head,tail,split,first,_⟩ := digits.head
    have unsigned : Begins (· ∉ ascii "+-") (text ++ rest) := by
      rw [split]
      exact ⟨head,_,rfl,digit_not_sign first⟩
    rw [List.cons_append,List.append_assoc,skipExponent,deref_bind,if_pos marked]
    change (skipSign (ascii "+-") (sign ++ (text ++ rest)) >>= _) = _
    rw [skipSign_append signed unsigned,ok_bind]
    exact someDigits_append digits stops

theorem digit_not_minus {byte : UInt8} (digit : isdigit byte = true) : byte ∉ ascii "-" := by
  intro minus
  rw [List.mem_singleton.mp minus] at digit
  contradiction

theorem skipJsonNumber_append (number : Number text) (delimited : Delimited rest) :
    skipJsonNumber (text ++ rest) = .ok rest := by
  cases number with
  | @mk sign integer fraction exponent signed whole part scale =>
    have afterFraction := scale.stops delimited
    have afterInteger := part.stops afterFraction
    have unsigned : Begins (· ∉ ascii "-") (integer ++ (fraction ++ (exponent ++ rest))) :=
      (whole.begins.mono fun _ => digit_not_minus).append _
    simp only [List.append_assoc]
    rw [skipJsonNumber,skipSign_append signed unsigned,ok_bind,skipInteger_append whole afterInteger,ok_bind,
      skipFraction_append part afterFraction,ok_bind,skipExponent_append scale delimited]

/-! ### Values -/

section Values

variable {skipValue : Cursor → Scan Cursor} {size : Nat}

/-- Values up to a size are passed over, with white space before them or without. -/
def PassesValues (skipValue : Cursor → Scan Cursor) (size : Nat) : Prop :=
  ∀ gap value rest, Blank gap → Value value → value.length ≤ size → Delimited rest →
    skipValue (gap ++ (value ++ rest)) = .ok rest

theorem PassesValues.solid (passes : PassesValues skipValue size) (value : Value text) (small : text.length ≤ size)
    (delimited : Delimited rest) : skipValue (text ++ rest) = .ok rest :=
  passes [] text rest nofun value small delimited

theorem members_solid {members : List Member} (listed : Members members text) (tail : Cursor) : Solid (text ++ tail) := by
  obtain ⟨others,rfl⟩ := listed.head
  exact ⟨_,_,rfl,rfl⟩

theorem opens_solid {tail : Cursor} (opens : Begins Opens text) : Solid (text ++ tail) :=
  (opens.mono fun _ => And.left).append tail

theorem skipElements_append (passes : PassesValues skipValue size) {fuel : Nat} (elements : Elements text)
    (enough : text.length ≤ fuel) (small : text.length ≤ size) (rest : Cursor) :
    skipElements skipValue fuel (text ++ ']'.toUInt8 :: rest) = .ok rest := by
  induction fuel generalizing text with
  | zero =>
    obtain ⟨head,tail,rfl,_⟩ := elements.opens
    contradiction
  | succ fuel ih =>
    cases elements with
    | last element blank =>
      rw [List.length_append] at small
      rw [List.append_assoc,skipElements,passes.solid element (by omega) (blank.delimited ⟨_,_,rfl,bracket_ends⟩),ok_bind,
        skipWhitespace_append blank ⟨_,_,rfl,rfl⟩,ok_bind,deref_bind]
      exact if_pos rfl
    | @more value gap before text element blank blankBefore others =>
      simp only [List.length_append,List.length_cons] at small enough
      simp only [List.append_assoc,List.cons_append]
      rw [skipElements,passes.solid element (by omega) (blank.delimited ⟨_,_,rfl,comma_ends⟩),ok_bind,
        skipWhitespace_append blank ⟨_,_,rfl,rfl⟩,ok_bind,deref_bind,if_neg (by decide),expect_bind,
        skipWhitespace_append blankBefore (opens_solid others.opens),ok_bind]
      exact ih others (by omega) (by omega)

theorem skipJsonArray_empty {gap : List UInt8} (blank : Blank gap) (rest : Cursor) :
    skipJsonArray skipValue ('['.toUInt8 :: (gap ++ ']'.toUInt8 :: rest)) = .ok rest := by
  have start : skipWhitespace ('['.toUInt8 :: (gap ++ ']'.toUInt8 :: rest)) = .ok _ := rfl
  rw [skipJsonArray,start,ok_bind,expect_bind,skipWhitespace_append blank ⟨_,_,rfl,rfl⟩,ok_bind,deref_bind]
  exact if_pos rfl

theorem skipJsonArray_append (passes : PassesValues skipValue size) {gap : List UInt8} (blank : Blank gap)
    (elements : Elements text) (small : text.length ≤ size) (rest : Cursor) :
    skipJsonArray skipValue ('['.toUInt8 :: (gap ++ (text ++ ']'.toUInt8 :: rest))) = .ok rest := by
  have start : skipWhitespace ('['.toUInt8 :: (gap ++ (text ++ ']'.toUInt8 :: rest))) = .ok _ := rfl
  have opens := elements.opens
  have enough : text.length ≤ (text ++ ']'.toUInt8 :: rest).length := by
    rw [List.length_append]
    omega
  have scanned := skipElements_append passes elements enough small rest
  rw [skipJsonArray,start,ok_bind,expect_bind,skipWhitespace_append blank (opens_solid opens),ok_bind]
  obtain ⟨head,tail,rfl,_,notEnd⟩ := opens
  rw [List.cons_append] at scanned ⊢
  rw [deref_bind,if_neg notEnd,scanned]

/-- A pair is passed over up to the byte that ends it. -/
theorem skipMembers_pair (passes : PassesValues skipValue size) {member : Member} (pair : Pair member text)
    (small : text.length ≤ size) (ends : Begins Ends rest) (fuel : Nat) :
    skipMembers skipValue (fuel + 1) (text ++ rest) = (do
      if (← deref rest) = '}'.toUInt8 then return rest.drop 1
      else
        let value ← expect ','.toUInt8 rest
        let value ← skipWhitespace value
        skipMembers skipValue fuel value) := by
  obtain ⟨characters,blank,blankBefore,content,blankAfter⟩ := pair
  simp only [List.length_append,List.length_cons] at small
  simp only [List.append_assoc,List.cons_append]
  rw [skipMembers,parseString_append characters,ok_bind]
  dsimp only
  rw [skipWhitespace_append blank ⟨_,_,rfl,rfl⟩,ok_bind,expect_bind,
    passes _ _ _ blankBefore content (by omega) (blankAfter.delimited ends),ok_bind,
    skipWhitespace_append blankAfter (ends.mono fun _ => And.left),ok_bind]

theorem skipMembers_append (passes : PassesValues skipValue size) {fuel : Nat} {members : List Member}
    (listed : Members members text) (enough : text.length ≤ fuel) (small : text.length ≤ size) (rest : Cursor) :
    skipMembers skipValue fuel (text ++ '}'.toUInt8 :: rest) = .ok rest := by
  induction fuel generalizing text members with
  | zero =>
    obtain ⟨tail,rfl⟩ := listed.head
    contradiction
  | succ fuel ih =>
    cases listed with
    | last pair =>
      rw [skipMembers_pair passes pair small ⟨_,_,rfl,brace_ends⟩,deref_bind]
      exact if_pos rfl
    | @more member members pairText between text pair blankBetween others =>
      simp only [List.length_append,List.length_cons] at small enough
      rw [List.append_assoc,List.cons_append,List.append_assoc,
        skipMembers_pair passes pair (by omega) ⟨_,_,rfl,comma_ends⟩,deref_bind,if_neg (by decide),expect_bind,
        skipWhitespace_append blankBetween (members_solid others _),ok_bind]
      exact ih others (by omega) (by omega)

theorem skipJsonObject_append (passes : PassesValues skipValue size) {members : List Member} (object : Object members text)
    (small : text.length ≤ size + 1) (rest : Cursor) : skipJsonObject skipValue (text ++ rest) = .ok rest := by
  cases object with
  | @empty gap blank =>
    have start : skipWhitespace ('{'.toUInt8 :: (gap ++ '}'.toUInt8 :: rest)) = .ok _ := rfl
    simp only [List.append_assoc,List.cons_append,List.nil_append]
    rw [skipJsonObject,start,ok_bind,expect_bind,skipWhitespace_append blank ⟨_,_,rfl,rfl⟩,ok_bind,deref_bind]
    exact if_pos rfl
  | @members _ gap text blank listed =>
    have start : skipWhitespace ('{'.toUInt8 :: (gap ++ (text ++ '}'.toUInt8 :: rest))) = .ok _ := rfl
    simp only [List.length_append,List.length_cons] at small
    have enough : text.length ≤ (text ++ '}'.toUInt8 :: rest).length := by
      rw [List.length_append]
      omega
    have scanned := skipMembers_append passes listed enough (by omega) rest
    obtain ⟨tail,rfl⟩ := listed.head
    simp only [List.append_assoc,List.cons_append,List.nil_append] at start scanned ⊢
    rw [skipJsonObject,start,ok_bind,expect_bind,skipWhitespace_append blank ⟨_,_,rfl,rfl⟩,ok_bind,deref_bind,
      if_neg (by decide),scanned]

theorem skipJsonNumber_start (number : Number text) (tail : Cursor) : Begins (fun head => head ≠ '"'.toUInt8 ∧
    head ≠ '{'.toUInt8 ∧ head ≠ '['.toUInt8 ∧ head ≠ 't'.toUInt8 ∧ head ≠ 'f'.toUInt8 ∧ head ≠ 'n'.toUInt8)
    (text ++ tail) := by
  refine (number.begins.mono ?_).append tail
  rintro head (rfl | digit)
  · decide
  · refine ⟨?_,?_,?_,?_,?_,?_⟩ <;> rintro rfl <;> contradiction

theorem literal_passed (literal : List UInt8) (rest : Cursor) (otherwise : Scan Cursor) :
    (do if ← strncmp (literal ++ rest) literal then return (literal ++ rest).drop literal.length else otherwise) =
      .ok rest := by
  rw [strncmp_append,ok_bind,if_pos rfl,List.drop_left]
  rfl

theorem literal_other {α : Type} {head letter : UInt8} (differ : head ≠ letter) (tail : Cursor) (literal : List UInt8)
    (found otherwise : Scan α) :
    (do if ← strncmp (head :: tail) (letter :: literal) then found else otherwise) = otherwise := by
  rw [strncmp_head differ,ok_bind]
  rfl

/-- Every value is passed over when the nesting is not deeper than its text is long. -/
theorem skipJsonValue_passes (depth : Nat) : PassesValues (skipJsonValue depth) depth := by
  induction depth with
  | zero =>
    intro gap value rest _ isValue empty
    obtain ⟨head,tail,rfl,_⟩ := isValue.opens
    contradiction
  | succ depth ih =>
    intro gap value rest blank isValue small delimited
    rw [skipJsonValue,skipWhitespace_append blank (opens_solid isValue.opens),ok_bind]
    cases isValue with
    | @string text _ characters =>
      have scanned := parseString_append characters rest
      rw [quoted,List.cons_append] at scanned ⊢
      rw [deref_bind,if_pos rfl,scanned]
      rfl
    | number number =>
      have scanned := skipJsonNumber_append number delimited
      obtain ⟨head,tail,split,string,object,array,true',false',null'⟩ := skipJsonNumber_start number rest
      rw [split] at scanned ⊢
      rw [deref_bind,if_neg string,if_neg object,if_neg array]
      refine (literal_other true' ..).trans ?_
      refine (literal_other false' ..).trans ?_
      exact (literal_other null' ..).trans scanned
    | true =>
      have start : ascii "true" ++ rest = 't'.toUInt8 :: (ascii "rue" ++ rest) := rfl
      rw [start,deref_bind,if_neg (by decide),if_neg (by decide),if_neg (by decide)]
      exact literal_passed (ascii "true") rest _
    | false =>
      have start : ascii "false" ++ rest = 'f'.toUInt8 :: (ascii "alse" ++ rest) := rfl
      rw [start,deref_bind,if_neg (by decide),if_neg (by decide),if_neg (by decide)]
      refine (literal_other (by decide) ..).trans ?_
      exact literal_passed (ascii "false") rest _
    | null =>
      have start : ascii "null" ++ rest = 'n'.toUInt8 :: (ascii "ull" ++ rest) := rfl
      rw [start,deref_bind,if_neg (by decide),if_neg (by decide),if_neg (by decide)]
      refine (literal_other (by decide) ..).trans ?_
      refine (literal_other (by decide) ..).trans ?_
      exact literal_passed (ascii "null") rest _
    | @emptyArray gap blank =>
      simp only [List.cons_append,List.append_assoc,List.nil_append]
      rw [deref_bind,if_neg (by decide),if_neg (by decide),if_pos rfl]
      exact skipJsonArray_empty blank rest
    | @array gap text blank elements =>
      simp only [List.length_cons,List.length_append] at small
      simp only [List.cons_append,List.append_assoc,List.nil_append]
      rw [deref_bind,if_neg (by decide),if_neg (by decide),if_pos rfl]
      exact skipJsonArray_append ih blank elements (by omega) rest
    | object object =>
      have scanned := skipJsonObject_append ih object small rest
      obtain ⟨tail,rfl⟩ := object.head
      rw [List.cons_append] at scanned ⊢
      rw [deref_bind,if_neg (by decide),if_pos rfl,scanned]

end Values

end Shelly

end Irrigation
