import Irrigation.Library.Scanning

/-! The grammar of JSON on bytes. A string is its raw text, and an object shows its members as
raw keys with the texts of their values. -/
namespace Json

open Scanning

/-! ### Tokens -/

def Blank (text : List UInt8) : Prop := ∀ byte ∈ text, isspace byte = true

def escapes : List UInt8 := ascii "\"\\/bfnrt"

inductive Character : List UInt8 → Prop
  | plain {byte : UInt8} (printable : 0x20 ≤ byte) (noQuote : byte ≠ '"'.toUInt8) (noEscape : byte ≠ '\\'.toUInt8) :
      Character [byte]
  | escaped {byte : UInt8} (known : byte ∈ escapes) : Character ['\\'.toUInt8,byte]
  | unicode {digits : List UInt8} (four : digits.length = 4) (hex : ∀ digit ∈ digits, isxdigit digit = true) :
      Character ('\\'.toUInt8 :: 'u'.toUInt8 :: digits)

theorem Character.length_pos {text : List UInt8} (character : Character text) : 0 < text.length := by
  cases character <;> exact Nat.succ_pos _

/-- The text between the quotes of a string, and how many characters it stands for. -/
inductive Characters : List UInt8 → Nat → Prop
  | nil : Characters [] 0
  | cons {character text : List UInt8} {count : Nat} (first : Character character) (others : Characters text count) :
      Characters (character ++ text) (count + 1)

def quoted (text : List UInt8) : List UInt8 := '"'.toUInt8 :: (text ++ ['"'.toUInt8])

def Digits (text : List UInt8) : Prop := text ≠ [] ∧ ∀ digit ∈ text, isdigit digit = true

inductive Integer : List UInt8 → Prop
  | zero : Integer ['0'.toUInt8]
  | nonzero {text : List UInt8} (digits : Digits text) (leading : text.head? ≠ some '0'.toUInt8) : Integer text

inductive Fraction : List UInt8 → Prop
  | none : Fraction []
  | some {text : List UInt8} (digits : Digits text) : Fraction ('.'.toUInt8 :: text)

inductive Exponent : List UInt8 → Prop
  | none : Exponent []
  | some {mark : UInt8} {sign text : List UInt8} (marked : mark ∈ ascii "eE") (signed : sign ∈ [[],ascii "+",ascii "-"])
      (digits : Digits text) : Exponent (mark :: (sign ++ text))

inductive Number : List UInt8 → Prop
  | mk {sign integer fraction exponent : List UInt8} (signed : sign ∈ [[],ascii "-"]) (whole : Integer integer)
      (part : Fraction fraction) (scale : Exponent exponent) : Number (sign ++ (integer ++ (fraction ++ exponent)))

/-! ### Values -/

/-- A member of an object, by the raw text of its key and the text of its value. -/
structure Member where
  key : List UInt8
  value : List UInt8
  deriving DecidableEq

mutual

inductive Value : List UInt8 → Prop
  | string {text : List UInt8} {count : Nat} (characters : Characters text count) : Value (quoted text)
  | number {text : List UInt8} (number : Number text) : Value text
  | true : Value (ascii "true")
  | false : Value (ascii "false")
  | null : Value (ascii "null")
  | emptyArray {gap : List UInt8} (blank : Blank gap) : Value ('['.toUInt8 :: (gap ++ [']'.toUInt8]))
  | array {gap text : List UInt8} (blank : Blank gap) (elements : Elements text) :
      Value ('['.toUInt8 :: (gap ++ (text ++ [']'.toUInt8])))
  | object {members : List Member} {text : List UInt8} (object : Object members text) : Value text

inductive Elements : List UInt8 → Prop
  | last {value gap : List UInt8} (element : Value value) (blank : Blank gap) : Elements (value ++ gap)
  | more {value gap before text : List UInt8} (element : Value value) (blank : Blank gap) (blankBefore : Blank before)
      (others : Elements text) : Elements (value ++ (gap ++ ','.toUInt8 :: (before ++ text)))

inductive Pair : Member → List UInt8 → Prop
  | mk {key value gap before after : List UInt8} {count : Nat} (characters : Characters key count) (blank : Blank gap)
      (blankBefore : Blank before) (content : Value value) (blankAfter : Blank after) :
      Pair ⟨key,value⟩ (quoted key ++ (gap ++ ':'.toUInt8 :: (before ++ (value ++ after))))

inductive Members : List Member → List UInt8 → Prop
  | last {member : Member} {text : List UInt8} (pair : Pair member text) : Members [member] text
  | more {member : Member} {members : List Member} {pairText before text : List UInt8} (pair : Pair member pairText)
      (blankBefore : Blank before) (others : Members members text) :
      Members (member :: members) (pairText ++ ','.toUInt8 :: (before ++ text))

inductive Object : List Member → List UInt8 → Prop
  | empty {gap : List UInt8} (blank : Blank gap) : Object [] ('{'.toUInt8 :: (gap ++ ['}'.toUInt8]))
  | members {members : List Member} {gap text : List UInt8} (blank : Blank gap) (listed : Members members text) :
      Object members ('{'.toUInt8 :: (gap ++ (text ++ ['}'.toUInt8])))

end

/-- A text that is a single object, with nothing but white space around it. -/
inductive Document (members : List Member) : List UInt8 → Prop
  | mk {before text after : List UInt8} (blankBefore : Blank before) (object : Object members text)
      (blankAfter : Blank after) : Document members (before ++ (text ++ after))

/-! ### No text contains NUL -/

theorem noNul_cons {byte : UInt8} {text : List UInt8} (other : 0 ≠ byte) (text_noNul : 0 ∉ text) : 0 ∉ byte :: text :=
  List.not_mem_cons_of_ne_of_not_mem other text_noNul

theorem Blank.noNul {text : List UInt8} (blank : Blank text) : 0 ∉ text := fun nul => nomatch blank 0 nul

theorem Character.noNul {text : List UInt8} (character : Character text) : 0 ∉ text := by
  cases character with
  | plain printable =>
    refine noNul_cons ?_ List.not_mem_nil
    rintro rfl
    exact absurd printable (by decide)
  | escaped known =>
    refine noNul_cons (by decide) (noNul_cons ?_ List.not_mem_nil)
    rintro rfl
    exact absurd known (by decide)
  | unicode _ hex => exact noNul_cons (by decide) (noNul_cons (by decide) fun nul => nomatch hex 0 nul)

theorem Characters.noNul {text : List UInt8} {count : Nat} (characters : Characters text count) : 0 ∉ text := by
  induction characters with
  | nil => exact List.not_mem_nil
  | cons first _ ih => exact List.not_mem_append first.noNul ih

theorem quoted_noNul {text : List UInt8} {count : Nat} (characters : Characters text count) : 0 ∉ quoted text :=
  noNul_cons (by decide) (List.not_mem_append characters.noNul (by decide))

theorem Digits.noNul {text : List UInt8} (digits : Digits text) : 0 ∉ text := fun nul => nomatch digits.2 0 nul

theorem Integer.noNul {text : List UInt8} (integer : Integer text) : 0 ∉ text := by
  cases integer with
  | zero => decide
  | nonzero digits => exact digits.noNul

theorem Fraction.noNul {text : List UInt8} (fraction : Fraction text) : 0 ∉ text := by
  cases fraction with
  | none => exact List.not_mem_nil
  | some digits => exact noNul_cons (by decide) digits.noNul

theorem signs_noNul : ∀ sign ∈ [[],ascii "+",ascii "-"], (0 : UInt8) ∉ sign := by decide

theorem Exponent.noNul {text : List UInt8} (exponent : Exponent text) : 0 ∉ text := by
  cases exponent with
  | none => exact List.not_mem_nil
  | some marked signed digits =>
    refine noNul_cons ?_ (List.not_mem_append (signs_noNul _ signed) digits.noNul)
    rintro rfl
    exact absurd marked (by decide)

theorem Number.noNul {text : List UInt8} (number : Number text) : 0 ∉ text := by
  obtain ⟨signed,whole,part,scale⟩ := number
  have among : [[],ascii "-"] ⊆ [[],ascii "+",ascii "-"] := by decide
  have sign := signs_noNul _ (among signed)
  exact List.not_mem_append sign (List.not_mem_append whole.noNul (List.not_mem_append part.noNul scale.noNul))

mutual

theorem Value.noNul {text : List UInt8} : Value text → 0 ∉ text
  | .string characters => quoted_noNul characters
  | .number number => number.noNul
  | .true => by decide
  | .false => by decide
  | .null => by decide
  | .emptyArray blank => noNul_cons (by decide) (List.not_mem_append blank.noNul (by decide))
  | .array blank elements =>
    noNul_cons (by decide) (List.not_mem_append blank.noNul (List.not_mem_append elements.noNul (by decide)))
  | .object object => object.noNul

theorem Elements.noNul {text : List UInt8} : Elements text → 0 ∉ text
  | .last element blank => List.not_mem_append element.noNul blank.noNul
  | .more element blank blankBefore others =>
    List.not_mem_append element.noNul (List.not_mem_append blank.noNul
      (noNul_cons (by decide) (List.not_mem_append blankBefore.noNul others.noNul)))

theorem Pair.noNul {member : Member} {text : List UInt8} : Pair member text → 0 ∉ text
  | .mk characters blank blankBefore content blankAfter =>
    List.not_mem_append (quoted_noNul characters) (List.not_mem_append blank.noNul
      (noNul_cons (by decide) (List.not_mem_append blankBefore.noNul (List.not_mem_append content.noNul blankAfter.noNul))))

theorem Members.noNul {members : List Member} {text : List UInt8} : Members members text → 0 ∉ text
  | .last pair => pair.noNul
  | .more pair blankBefore others =>
    List.not_mem_append pair.noNul (noNul_cons (by decide) (List.not_mem_append blankBefore.noNul others.noNul))

theorem Object.noNul {members : List Member} {text : List UInt8} : Object members text → 0 ∉ text
  | .empty blank => noNul_cons (by decide) (List.not_mem_append blank.noNul (by decide))
  | .members blank listed =>
    noNul_cons (by decide) (List.not_mem_append blank.noNul (List.not_mem_append listed.noNul (by decide)))

end

theorem Document.noNul {members : List Member} {text : List UInt8} (document : Document members text) : 0 ∉ text := by
  obtain ⟨blankBefore,object,blankAfter⟩ := document
  exact List.not_mem_append blankBefore.noNul (List.not_mem_append object.noNul blankAfter.noNul)

/-! ### How a value begins -/

theorem Character.begins {text : List UInt8} (character : Character text) :
    Begins (fun head => head ≠ 0 ∧ head ≠ '"'.toUInt8 ∧ ¬head < 0x20) text := by
  have noNul := character.noNul
  cases character with
  | plain printable noQuote => exact ⟨_,_,rfl,by simpa [eq_comm] using noNul,noQuote,UInt8.not_lt.mpr printable⟩
  | escaped | unicode => exact ⟨_,_,rfl,by decide,by decide,by decide⟩

theorem Characters.count_le {text : List UInt8} {count : Nat} (characters : Characters text count) :
    count ≤ text.length := by
  induction characters with
  | nil => exact Nat.le_refl _
  | cons first _ ih =>
    have consumes := first.length_pos
    rw [List.length_append]
    omega

/-- Neither white space nor the end of a list. -/
def Opens (byte : UInt8) : Prop := isspace byte = false ∧ byte ≠ ']'.toUInt8

theorem Digits.head {text : List UInt8} (digits : Digits text) : ∃ head tail, text = head :: tail ∧
    isdigit head = true ∧ ∀ digit ∈ tail, isdigit digit = true := by
  obtain ⟨some,all⟩ := digits
  cases text with
  | nil => contradiction
  | cons head tail => exact ⟨head,tail,rfl,List.forall_mem_cons.mp all⟩

theorem Integer.begins {text : List UInt8} (integer : Integer text) : Begins (isdigit · = true) text := by
  cases integer with
  | zero => exact ⟨_,_,rfl,by decide⟩
  | nonzero digits =>
    obtain ⟨head,tail,rfl,first,_⟩ := digits.head
    exact ⟨head,tail,rfl,first⟩

theorem Number.begins {text : List UInt8} (number : Number text) :
    Begins (fun head => head = '-'.toUInt8 ∨ isdigit head = true) text := by
  obtain ⟨signed,whole,part,scale⟩ := number
  rcases List.mem_cons.mp signed with rfl | signed
  · exact (whole.begins.mono fun _ => .inr).append _
  · rw [List.mem_singleton.mp signed]
    exact ⟨_,_,rfl,.inl rfl⟩

theorem Object.head {members : List Member} {text : List UInt8} (object : Object members text) :
    ∃ tail, text = '{'.toUInt8 :: tail := by
  cases object <;> exact ⟨_,rfl⟩

theorem Value.opens {text : List UInt8} (value : Value text) : Begins Opens text := by
  cases value with
  | string => exact ⟨_,_,rfl,by decide,by decide⟩
  | number number =>
    obtain ⟨head,tail,rfl,minus | digit⟩ := number.begins
    · subst minus
      exact ⟨_,_,rfl,by decide,by decide⟩
    · exact ⟨_,_,rfl,digit_not_space digit,by rintro rfl; contradiction⟩
  | true => exact ⟨_,_,rfl,by decide,by decide⟩
  | false => exact ⟨_,_,rfl,by decide,by decide⟩
  | null => exact ⟨_,_,rfl,by decide,by decide⟩
  | emptyArray => exact ⟨_,_,rfl,by decide,by decide⟩
  | array => exact ⟨_,_,rfl,by decide,by decide⟩
  | object object =>
    obtain ⟨tail,rfl⟩ := object.head
    exact ⟨_,_,rfl,by decide,by decide⟩

/-- A value that begins like a boolean is one. -/
theorem Value.boolean_or_other {text : List UInt8} (value : Value text) : text = ascii "true" ∨ text = ascii "false" ∨
    Begins (fun head => head ≠ 't'.toUInt8 ∧ head ≠ 'f'.toUInt8) text := by
  cases value with
  | string | emptyArray | array | null => exact .inr (.inr ⟨_,_,rfl,by decide,by decide⟩)
  | number number =>
    refine .inr (.inr (number.begins.mono ?_))
    rintro head (rfl | digit)
    · decide
    · constructor <;> rintro rfl <;> contradiction
  | true => exact .inl rfl
  | false => exact .inr (.inl rfl)
  | object object =>
    obtain ⟨tail,rfl⟩ := object.head
    exact .inr (.inr ⟨_,_,rfl,by decide,by decide⟩)

theorem Elements.opens {text : List UInt8} (elements : Elements text) : Begins Opens text := by
  cases elements with
  | last element | more element => exact element.opens.append _

theorem Members.head {members : List Member} {text : List UInt8} (listed : Members members text) :
    ∃ tail, text = '"'.toUInt8 :: tail := by
  cases listed with
  | last pair | more pair =>
    cases pair
    exact ⟨_,rfl⟩

/-! ### What may follow a number -/

/-- A byte that could make a number longer. -/
def Continues (byte : UInt8) : Prop := isdigit byte = true ∨ byte = '.'.toUInt8 ∨ byte ∈ ascii "eE"

instance : DecidablePred Continues := fun byte =>
  inferInstanceAs (Decidable (isdigit byte = true ∨ byte = '.'.toUInt8 ∨ byte ∈ ascii "eE"))

/-- The text goes on, but no number before it does. -/
def Delimited : List UInt8 → Prop := Begins fun head => ¬Continues head

theorem space_delimits {byte : UInt8} (space : isspace byte = true) : ¬Continues byte := by
  rintro (digit | rfl | mark)
  · rw [digit_not_space digit] at space
    contradiction
  · contradiction
  · rcases List.mem_cons.mp mark with rfl | mark
    · contradiction
    · rw [List.mem_singleton.mp mark] at space
      contradiction

/-- A byte that ends what stands before it, white space or not. -/
def Ends (byte : UInt8) : Prop := isspace byte = false ∧ ¬Continues byte

instance : DecidablePred Ends := fun byte => inferInstanceAs (Decidable (isspace byte = false ∧ ¬Continues byte))

theorem comma_ends : Ends ','.toUInt8 := by decide

theorem bracket_ends : Ends ']'.toUInt8 := by decide

theorem brace_ends : Ends '}'.toUInt8 := by decide

theorem Blank.delimited {gap text : List UInt8} (blank : Blank gap) (ends : Begins Ends text) :
    Delimited (gap ++ text) := by
  cases gap with
  | nil => exact ends.mono fun _ => And.right
  | cons head gap => exact ⟨head,_,rfl,space_delimits (blank head List.mem_cons_self)⟩

theorem Fraction.stops {text rest : List UInt8} (fraction : Fraction text)
    (stops : Begins (fun head => isdigit head = false ∧ head ≠ '.'.toUInt8) rest) :
    Begins (isdigit · = false) (text ++ rest) := by
  cases fraction with
  | none => exact stops.mono fun _ => And.left
  | some => exact ⟨_,_,rfl,by decide⟩

theorem Exponent.stops {text rest : List UInt8} (exponent : Exponent text) (delimited : Delimited rest) :
    Begins (fun head => isdigit head = false ∧ head ≠ '.'.toUInt8) (text ++ rest) := by
  cases exponent with
  | none =>
    refine delimited.mono fun head ends => ⟨?_,fun point => ends (.inr (.inl point))⟩
    simpa using fun digit => ends (.inl digit)
  | some marked =>
    have marks : (ascii "eE").all (fun mark => isdigit mark = false ∧ mark ≠ '.'.toUInt8) = true := by decide
    exact ⟨_,_,rfl,of_decide_eq_true (List.all_eq_true.mp marks _ marked)⟩

end Json
