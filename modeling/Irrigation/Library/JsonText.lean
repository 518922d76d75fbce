import Irrigation.Library.Json
import Irrigation.Library.Numerals

/-! JSON values as trees, their compact texts and a reader. Where no string needs an escape, the
text of a tree is in the grammar and the reader gets the tree back. -/
namespace Json

open Scanning Numerals

inductive Tree where
  | string (text : List UInt8)
  | number (value : Nat)
  | boolean (value : Bool)
  | array (elements : List Tree)
  | object (members : List (List UInt8 × Tree))

/-! ### Texts of trees -/

/-- Texts with a comma between any two. -/
def joined : List (List UInt8) → List UInt8
  | [] => []
  | [text] => text
  | text :: next :: rest => text ++ ','.toUInt8 :: joined (next :: rest)

mutual

def render : Tree → List UInt8
  | .string text => quoted text
  | .number value => decimal value
  | .boolean value => ascii (if value then "true" else "false")
  | .array elements => '['.toUInt8 :: (joined (renderElements elements) ++ [']'.toUInt8])
  | .object members => '{'.toUInt8 :: (joined (renderMembers members) ++ ['}'.toUInt8])

def renderElements : List Tree → List (List UInt8)
  | [] => []
  | element :: rest => render element :: renderElements rest

def renderMembers : List (List UInt8 × Tree) → List (List UInt8)
  | [] => []
  | (key,value) :: rest => (quoted key ++ ':'.toUInt8 :: render value) :: renderMembers rest

end

def renderMember (member : List UInt8 × Tree) : List UInt8 := quoted member.1 ++ ':'.toUInt8 :: render member.2

theorem renderElements_eq (elements : List Tree) : renderElements elements = elements.map render := by
  induction elements with
  | nil => simp [renderElements]
  | cons element rest ih => simp [renderElements,ih]

theorem renderMembers_eq (members : List (List UInt8 × Tree)) : renderMembers members = members.map renderMember := by
  induction members with
  | nil => simp [renderMembers]
  | cons member rest ih => simp [renderMembers,renderMember,ih]

@[simp] theorem render_string (text : List UInt8) : render (.string text) = quoted text := by rw [render]

@[simp] theorem render_number (value : Nat) : render (.number value) = decimal value := by rw [render]

@[simp] theorem render_boolean (value : Bool) :
    render (.boolean value) = ascii (if value then "true" else "false") := by rw [render]

@[simp] theorem render_array (elements : List Tree) :
    render (.array elements) = '['.toUInt8 :: (joined (elements.map render) ++ [']'.toUInt8]) := by
  rw [render,renderElements_eq]

@[simp] theorem render_object (members : List (List UInt8 × Tree)) :
    render (.object members) = '{'.toUInt8 :: (joined (members.map renderMember) ++ ['}'.toUInt8]) := by
  rw [render,renderMembers_eq]

/-- Each text of a numbered list, with a comma in front of all but the first. -/
theorem joined_zipIdx {α : Type*} (print : α × Nat → List UInt8) (entries : List α) :
    (entries.zipIdx).flatMap (fun entry => (if entry.2 = 0 then [] else [','.toUInt8]) ++ print entry) =
      joined ((entries.zipIdx).map print) := by
  have later : ∀ (entries : List α) (index : Nat), 0 < index →
      (entries.zipIdx index).flatMap (fun entry => (if entry.2 = 0 then [] else [','.toUInt8]) ++ print entry) =
        ((entries.zipIdx index).map print).flatMap (','.toUInt8 :: ·) := by
    intro entries
    induction entries with
    | nil => exact fun _ _ => rfl
    | cons entry rest ih =>
      intro index positive
      rw [List.zipIdx_cons,List.flatMap_cons,List.map_cons,List.flatMap_cons,ih (index + 1) (Nat.succ_pos _),
        if_neg (Nat.ne_of_gt positive)]
      rfl
  have behind : ∀ (text : List UInt8) (texts : List (List UInt8)),
      joined (text :: texts) = text ++ texts.flatMap (','.toUInt8 :: ·) := by
    intro text texts
    induction texts generalizing text with
    | nil => exact (List.append_nil text).symm
    | cons next rest ih => rw [joined,ih,List.flatMap_cons,List.cons_append]
  cases entries with
  | nil => rfl
  | cons entry rest => rw [List.zipIdx_cons,List.flatMap_cons,List.map_cons,behind,later rest _ (Nat.succ_pos _)]; rfl

theorem length_joined_le {texts : List (List UInt8)} {bound : Nat} (each : ∀ text ∈ texts, text.length ≤ bound) :
    (joined texts).length ≤ texts.length * (bound + 1) := by
  induction texts with
  | nil => exact Nat.zero_le _
  | cons text rest ih =>
    obtain ⟨first,others⟩ := List.forall_mem_cons.mp each
    cases rest with
    | nil =>
      rw [joined,List.length_singleton]
      omega
    | cons next rest =>
      have behind := ih others
      rw [joined,List.length_append,List.length_cons,List.length_cons,Nat.succ_mul]
      omega

/-! ### Strings without escapes -/

def plain (byte : UInt8) : Bool := 0x20 ≤ byte && byte != '"'.toUInt8 && byte != '\\'.toUInt8

theorem digit_plain {byte : UInt8} (digit : isdigit byte = true) : plain byte = true := by
  have range := isdigit_iff.mp digit
  simp only [plain,Bool.and_eq_true,decide_eq_true_eq,bne_iff_ne,UInt8.le_iff_toNat_le]
  refine ⟨⟨Nat.le_trans (by decide) range.1,?_⟩,?_⟩ <;> rintro rfl <;> contradiction

inductive Plain : Tree → Prop
  | string {text : List UInt8} (bytes : ∀ byte ∈ text, plain byte = true) : Plain (.string text)
  | number (value : Nat) : Plain (.number value)
  | boolean (value : Bool) : Plain (.boolean value)
  | array {elements : List Tree} (each : ∀ element ∈ elements, Plain element) : Plain (.array elements)
  | object {members : List (List UInt8 × Tree)} (keys : ∀ member ∈ members, ∀ byte ∈ member.1, plain byte = true)
      (values : ∀ member ∈ members, Plain member.2) : Plain (.object members)

/-! ### The grammar -/

theorem characters_plain {text : List UInt8} (bytes : ∀ byte ∈ text, plain byte = true) :
    ∃ count, Characters text count := by
  induction text with
  | nil => exact ⟨0,.nil⟩
  | cons byte rest ih =>
    obtain ⟨first,others⟩ := List.forall_mem_cons.mp bytes
    obtain ⟨count,characters⟩ := ih others
    simp only [plain,Bool.and_eq_true,decide_eq_true_eq,bne_iff_ne] at first
    exact ⟨count + 1,.cons (.plain first.1.1 first.1.2 first.2) characters⟩

theorem number_decimal (number : Nat) : Number (decimal number) := by
  have whole : Integer (decimal number) := by
    rcases Nat.eq_zero_or_pos number with rfl | positive
    · exact .zero
    · exact .nonzero ⟨decimal_ne_nil _,decimal_digits _⟩ (decimal_head positive)
  have number : Number ([] ++ (decimal number ++ ([] ++ []))) := .mk (by decide) whole .none .none
  rwa [List.nil_append,List.append_nil,List.append_nil] at number

theorem blank_nil : Blank [] := fun _ member => nomatch member

theorem elements_joined {texts : List (List UInt8)} (some : texts ≠ []) (values : ∀ text ∈ texts, Value text) :
    Elements (joined texts) := by
  induction texts with
  | nil => contradiction
  | cons text rest ih =>
    obtain ⟨value,others⟩ := List.forall_mem_cons.mp values
    cases rest with
    | nil =>
      have last := Elements.last value blank_nil
      rwa [List.append_nil] at last
    | cons next rest => exact .more value blank_nil blank_nil (ih (List.cons_ne_nil _ _) others)

theorem members_joined {members : List (List UInt8 × Tree)} (some : members ≠ [])
    (keys : ∀ member ∈ members, ∀ byte ∈ member.1, plain byte = true)
    (values : ∀ member ∈ members, Value (render member.2)) :
    Members (members.map fun member => ⟨member.1,render member.2⟩) (joined (members.map renderMember)) := by
  induction members with
  | nil => contradiction
  | cons member rest ih =>
    obtain ⟨key,otherKeys⟩ := List.forall_mem_cons.mp keys
    obtain ⟨value,others⟩ := List.forall_mem_cons.mp values
    obtain ⟨count,characters⟩ := characters_plain key
    have pair : Pair ⟨member.1,render member.2⟩ (renderMember member) := by
      have spaced := Pair.mk characters blank_nil blank_nil value blank_nil
      rwa [List.append_nil] at spaced
    cases rest with
    | nil => exact .last pair
    | cons next rest => exact .more pair blank_nil (ih (List.cons_ne_nil _ _) otherKeys others)

theorem object_render {members : List (List UInt8 × Tree)}
    (keys : ∀ member ∈ members, ∀ byte ∈ member.1, plain byte = true)
    (values : ∀ member ∈ members, Value (render member.2)) :
    Object (members.map fun member => ⟨member.1,render member.2⟩) (render (.object members)) := by
  rw [render_object]
  by_cases some : members = []
  · subst some
    exact .empty blank_nil
  · exact .members blank_nil (members_joined some keys values)

theorem Plain.value {tree : Tree} (isPlain : Plain tree) : Value (render tree) := by
  induction isPlain with
  | string bytes =>
    obtain ⟨count,characters⟩ := characters_plain bytes
    rw [render_string]
    exact .string characters
  | number value =>
    rw [render_number]
    exact .number (number_decimal value)
  | boolean value =>
    rw [render_boolean]
    cases value with
    | true => exact .true
    | false => exact .false
  | @array elements _ each =>
    rw [render_array]
    by_cases some : elements = []
    · subst some
      exact .emptyArray blank_nil
    · refine .array blank_nil (elements_joined (by simpa using some) ?_)
      simpa using each
  | object keys _ values => exact .object (object_render keys values)

/-! ### Reading -/

/-- The string in front of a text, from behind its opening quote. -/
def readQuoted (text : List UInt8) : Option (List UInt8 × List UInt8) :=
  match text.dropWhile plain with
  | [] => none
  | byte :: rest => if byte = '"'.toUInt8 then some (text.takeWhile plain,rest) else none

/-- What is left of a text behind a literal. -/
def readLiteral (literal text : List UInt8) : Option (List UInt8) :=
  if text.take literal.length = literal then some (text.drop literal.length) else none

def readNumber (text : List UInt8) : Option (Nat × List UInt8) :=
  let digits := text.takeWhile isdigit
  if digits = [] then none else some (decimalValue digits,text.dropWhile isdigit)

mutual

/-- The value in front of a text, with fuel for its nesting and its lengths. -/
def readTree : Nat → List UInt8 → Option (Tree × List UInt8)
  | 0, _ => none
  | _ + 1, [] => none
  | fuel + 1, byte :: rest =>
    if byte = '"'.toUInt8 then (readQuoted rest).map fun (text,rest) => (.string text,rest)
    else if byte = '['.toUInt8 then
      if rest.head? = some ']'.toUInt8 then some (.array [],rest.tail)
      else (readElements fuel rest).map fun (elements,rest) => (.array elements,rest)
    else if byte = '{'.toUInt8 then
      if rest.head? = some '}'.toUInt8 then some (.object [],rest.tail)
      else (readMembers fuel rest).map fun (members,rest) => (.object members,rest)
    else if byte = 't'.toUInt8 then (readLiteral (ascii "rue") rest).map fun rest => (.boolean true,rest)
    else if byte = 'f'.toUInt8 then (readLiteral (ascii "alse") rest).map fun rest => (.boolean false,rest)
    else (readNumber (byte :: rest)).map fun (value,rest) => (.number value,rest)

def readElements : Nat → List UInt8 → Option (List Tree × List UInt8)
  | 0, _ => none
  | fuel + 1, text => do
    let (element,rest) ← readTree fuel text
    if rest.head? = some ','.toUInt8 then
      let (elements,rest) ← readElements fuel rest.tail
      pure (element :: elements,rest)
    else if rest.head? = some ']'.toUInt8 then pure ([element],rest.tail)
    else none

def readMembers : Nat → List UInt8 → Option (List (List UInt8 × Tree) × List UInt8)
  | 0, _ => none
  | fuel + 1, text => do
    let text ← readLiteral (ascii "\"") text
    let (key,rest) ← readQuoted text
    let rest ← readLiteral (ascii ":") rest
    let (value,rest) ← readTree fuel rest
    if rest.head? = some ','.toUInt8 then
      let (members,rest) ← readMembers fuel rest.tail
      pure ((key,value) :: members,rest)
    else if rest.head? = some '}'.toUInt8 then pure ([(key,value)],rest.tail)
    else none

end

/-- The tree of a whole text. -/
def read (text : List UInt8) : Option Tree :=
  match readTree text.length text with
  | some (tree,[]) => some tree
  | _ => none

/-- What follows does not make a number longer. -/
def Stops (rest : List UInt8) : Prop := ∀ byte ∈ rest.head?, isdigit byte = false

theorem stops_cons {byte : UInt8} (other : isdigit byte = false) (rest : List UInt8) : Stops (byte :: rest) := by
  intro head same
  cases same
  exact other

theorem readQuoted_quoted {text : List UInt8} (bytes : ∀ byte ∈ text, plain byte = true) (rest : List UInt8) :
    readQuoted (text ++ '"'.toUInt8 :: rest) = some (text,rest) := by
  have ends : ¬plain '"'.toUInt8 = true := by decide
  have taken : (text ++ '"'.toUInt8 :: rest).takeWhile plain = text := by
    rw [List.takeWhile_append_of_pos bytes,List.takeWhile_cons_of_neg ends,List.append_nil]
  have dropped : (text ++ '"'.toUInt8 :: rest).dropWhile plain = '"'.toUInt8 :: rest := by
    rw [List.dropWhile_append_of_pos bytes,List.dropWhile_cons_of_neg ends]
  simp only [readQuoted,dropped,taken,if_true]

theorem readLiteral_append (literal rest : List UInt8) : readLiteral literal (literal ++ rest) = some rest := by
  simp [readLiteral]

theorem readNumber_decimal (number : Nat) {rest : List UInt8} (stops : Stops rest) :
    readNumber (decimal number ++ rest) = some (number,rest) := by
  have digits := decimal_digits number
  have ends : rest.takeWhile isdigit = [] ∧ rest.dropWhile isdigit = rest := by
    cases rest with
    | nil => exact ⟨rfl,rfl⟩
    | cons byte rest =>
      have other : ¬isdigit byte = true := by simpa using stops byte rfl
      exact ⟨List.takeWhile_cons_of_neg other,List.dropWhile_cons_of_neg other⟩
  have taken : (decimal number ++ rest).takeWhile isdigit = decimal number := by
    rw [List.takeWhile_append_of_pos digits,ends.1,List.append_nil]
  have dropped : (decimal number ++ rest).dropWhile isdigit = rest := by
    rw [List.dropWhile_append_of_pos digits,ends.2]
  simp only [readNumber,taken,dropped,if_neg (decimal_ne_nil number),decimalValue_decimal]

/-- With fuel for its text, the tree is read in front of anything that ends a number. -/
def ReadsBack (tree : Tree) : Prop :=
  ∀ fuel rest, (render tree).length ≤ fuel → Stops rest → readTree fuel (render tree ++ rest) = some (tree,rest)

theorem readElements_joined {elements : List Tree} (some : elements ≠ [])
    (each : ∀ element ∈ elements, ReadsBack element) (rest : List UInt8) :
    ∀ fuel, (joined (elements.map render)).length < fuel →
      readElements fuel (joined (elements.map render) ++ ']'.toUInt8 :: rest) = Option.some (elements,rest) := by
  induction elements with
  | nil => contradiction
  | cons element others ih =>
    obtain ⟨first,later⟩ := List.forall_mem_cons.mp each
    rintro (_ | fuel) enough
    · contradiction
    cases others with
    | nil =>
      have read := first fuel (']'.toUInt8 :: rest) (Nat.le_of_lt_succ enough) (stops_cons (by decide) _)
      rw [List.map_singleton,joined,readElements,read]
      rfl
    | cons next others =>
      have lengths : (joined ((element :: next :: others).map render)).length =
          (render element).length + ((joined ((next :: others).map render)).length + 1) := List.length_append
      have split : joined ((element :: next :: others).map render) ++ ']'.toUInt8 :: rest =
          render element ++ ','.toUInt8 :: (joined ((next :: others).map render) ++ ']'.toUInt8 :: rest) :=
        List.append_assoc _ _ _
      have read := first fuel (','.toUInt8 :: (joined ((next :: others).map render) ++ ']'.toUInt8 :: rest)) (by omega)
        (stops_cons (by decide) _)
      have onwards := ih (List.cons_ne_nil _ _) later fuel (by omega)
      rw [split,readElements,read]
      simp only [Option.bind_eq_bind,Option.bind_some,List.head?_cons,if_true,List.tail_cons,onwards]
      rfl

theorem readMembers_joined {members : List (List UInt8 × Tree)} (some : members ≠ [])
    (keys : ∀ member ∈ members, ∀ byte ∈ member.1, plain byte = true) (each : ∀ member ∈ members, ReadsBack member.2)
    (rest : List UInt8) : ∀ fuel, (joined (members.map renderMember)).length < fuel →
      readMembers fuel (joined (members.map renderMember) ++ '}'.toUInt8 :: rest) = Option.some (members,rest) := by
  induction members with
  | nil => contradiction
  | cons member others ih =>
    obtain ⟨key,laterKeys⟩ := List.forall_mem_cons.mp keys
    obtain ⟨first,later⟩ := List.forall_mem_cons.mp each
    rintro (_ | fuel) enough
    · contradiction
    have name (text : List UInt8) : readLiteral (ascii "\"") (renderMember member ++ text) =
        Option.some (member.1 ++ '"'.toUInt8 :: (ascii ":" ++ (render member.2 ++ text))) := by
      rw [← readLiteral_append (ascii "\"")]
      simp [renderMember,quoted,ascii]
    have longer : (render member.2).length < (renderMember member).length := by
      simp only [renderMember,quoted,List.length_append,List.length_cons]
      omega
    cases others with
    | nil =>
      have enough : (renderMember member).length < fuel + 1 := enough
      have read := first fuel ('}'.toUInt8 :: rest) (by omega) (stops_cons (by decide) _)
      rw [List.map_singleton,joined,readMembers,name]
      simp only [Option.bind_eq_bind,Option.bind_some,readQuoted_quoted key,readLiteral_append,read]
      rfl
    | cons next others =>
      have lengths : (joined ((member :: next :: others).map renderMember)).length =
          (renderMember member).length + ((joined ((next :: others).map renderMember)).length + 1) := List.length_append
      have split : joined ((member :: next :: others).map renderMember) ++ '}'.toUInt8 :: rest =
          renderMember member ++ ','.toUInt8 :: (joined ((next :: others).map renderMember) ++ '}'.toUInt8 :: rest) :=
        List.append_assoc _ _ _
      have read := first fuel (','.toUInt8 :: (joined ((next :: others).map renderMember) ++ '}'.toUInt8 :: rest))
        (by omega) (stops_cons (by decide) _)
      have onwards := ih (List.cons_ne_nil _ _) laterKeys later fuel (by omega)
      rw [split,readMembers,name]
      simp only [Option.bind_eq_bind,Option.bind_some,readQuoted_quoted key,readLiteral_append,read,List.head?_cons,
        if_true,List.tail_cons,onwards]
      rfl

theorem string_readsBack {text : List UInt8} (bytes : ∀ byte ∈ text, plain byte = true) :
    ReadsBack (.string text) := by
  rintro (_ | fuel) rest enough stops
  · simp [quoted] at enough
  rw [render_string,quoted,List.cons_append,List.append_assoc,List.singleton_append,readTree,if_pos rfl,
    readQuoted_quoted bytes]
  rfl

theorem number_readsBack (value : Nat) : ReadsBack (.number value) := by
  rintro (_ | fuel) rest enough stops
  · exact absurd (List.eq_nil_of_length_eq_zero (Nat.le_zero.mp enough)) (by simpa using decimal_ne_nil value)
  obtain ⟨first,others,split⟩ := List.exists_cons_of_ne_nil (decimal_ne_nil value)
  have digit : isdigit first = true := decimal_digits value first (by rw [split]; exact List.mem_cons_self)
  have read := readNumber_decimal value stops
  rw [split,List.cons_append] at read
  have apart : ¬first = '"'.toUInt8 ∧ ¬first = '['.toUInt8 ∧ ¬first = '{'.toUInt8 ∧ ¬first = 't'.toUInt8 ∧
      ¬first = 'f'.toUInt8 := by
    refine ⟨?_,?_,?_,?_,?_⟩ <;> rintro rfl <;> contradiction
  rw [render_number,split,List.cons_append,readTree,if_neg apart.1,if_neg apart.2.1,if_neg apart.2.2.1,
    if_neg apart.2.2.2.1,if_neg apart.2.2.2.2,read]
  rfl

theorem boolean_readsBack (value : Bool) : ReadsBack (.boolean value) := by
  rintro (_ | fuel) rest enough stops
  · cases value <;> simp [ascii] at enough
  cases value with
  | true =>
    have text : render (.boolean true) = 't'.toUInt8 :: ascii "rue" := render_boolean true
    rw [text,List.cons_append,readTree,if_neg (by decide),if_neg (by decide),if_neg (by decide),if_pos rfl,
      readLiteral_append]
    rfl
  | false =>
    have text : render (.boolean false) = 'f'.toUInt8 :: ascii "alse" := render_boolean false
    rw [text,List.cons_append,readTree,if_neg (by decide),if_neg (by decide),if_neg (by decide),if_neg (by decide),
      if_pos rfl,readLiteral_append]
    rfl

/-- An array that is not empty goes on with a value, so not with its closing bracket. -/
theorem array_readsBack {elements : List Tree} (plains : ∀ element ∈ elements, Plain element)
    (each : ∀ element ∈ elements, ReadsBack element) : ReadsBack (.array elements) := by
  rintro (_ | fuel) rest enough stops
  · simp at enough
  rw [render_array,List.length_cons,List.length_append,List.length_singleton] at enough
  rw [render_array,List.cons_append,List.append_assoc,List.singleton_append,readTree,if_neg (by decide),if_pos rfl]
  by_cases some : elements = []
  · subst some
    rfl
  have texts : Elements (joined (elements.map render)) := by
    refine elements_joined (by simpa using some) ?_
    simpa using fun element member => (plains element member).value
  obtain ⟨head,tail,begins,opens⟩ := texts.opens
  have notEmpty : ¬(joined (elements.map render) ++ ']'.toUInt8 :: rest).head? = Option.some ']'.toUInt8 := by
    rw [begins]
    exact fun same => opens.2 (Option.some.inj same)
  rw [if_neg notEmpty,readElements_joined some each rest fuel (by omega)]
  rfl

theorem object_readsBack {members : List (List UInt8 × Tree)}
    (keys : ∀ member ∈ members, ∀ byte ∈ member.1, plain byte = true) (plains : ∀ member ∈ members, Plain member.2)
    (each : ∀ member ∈ members, ReadsBack member.2) : ReadsBack (.object members) := by
  rintro (_ | fuel) rest enough stops
  · simp at enough
  rw [render_object,List.length_cons,List.length_append,List.length_singleton] at enough
  rw [render_object,List.cons_append,List.append_assoc,List.singleton_append,readTree,if_neg (by decide),
    if_neg (by decide),if_pos rfl]
  by_cases some : members = []
  · subst some
    rfl
  obtain ⟨tail,begins⟩ := (members_joined some keys fun member inside => (plains member inside).value).head
  have notEmpty : ¬(joined (members.map renderMember) ++ '}'.toUInt8 :: rest).head? = Option.some '}'.toUInt8 := by
    rw [begins,List.cons_append,List.head?_cons]
    decide
  rw [if_neg notEmpty,readMembers_joined some keys each rest fuel (by omega)]
  rfl

theorem Plain.readsBack {tree : Tree} (isPlain : Plain tree) : ReadsBack tree := by
  induction isPlain with
  | string bytes => exact string_readsBack bytes
  | number value => exact number_readsBack value
  | boolean value => exact boolean_readsBack value
  | array plains each => exact array_readsBack plains each
  | object keys plains each => exact object_readsBack keys plains each

/-- The reader inverts the printer. -/
theorem read_render {tree : Tree} (isPlain : Plain tree) : read (render tree) = some tree := by
  have back := isPlain.readsBack (render tree).length [] (Nat.le_refl _) (fun _ member => nomatch member)
  rw [List.append_nil] at back
  rw [read,back]

end Json
