import Irrigation.ShellyAcceptance

/-! The response of a Shelly device, read from the members of its top level object. -/
namespace Irrigation

open Scanning Json

namespace Shelly

structure ShellyResponse where
  hasError : Bool
  hasOutput : Bool
  output : Bool
  deriving DecidableEq

def noResponse : ShellyResponse := ⟨false,false,false⟩

def keyEquals (content : Cursor) (length : Nat) (expected : List UInt8) : Scan Bool :=
  if length = expected.length then memcmp content expected else .ok false

/-- The value of one member, with the key before it already read. -/
def parseMember (key : Cursor) (keyLength : Nat) (value : Cursor) (response : ShellyResponse) :
    Scan (Cursor × ShellyResponse) := do
  if ← keyEquals key keyLength (ascii "output") then
    if response.hasOutput then .error .rejected
    else if ← strncmp value (ascii "true") then return (value.drop 4,{ response with hasOutput := true, output := true })
    else if ← strncmp value (ascii "false") then return (value.drop 5,{ response with hasOutput := true, output := false })
    else .error .rejected
  else
    let isError ← keyEquals key keyLength (ascii "error")
    let value ← skipJsonValue value.length value
    return (value,{ response with hasError := isError || response.hasError })

/-- `return *skip_whitespace(value) == '\0';` -/
def parseEnd (value : Cursor) (response : ShellyResponse) : Scan ShellyResponse := do
  let value ← skipWhitespace value
  if (← deref value) = 0 then return response
  else .error .rejected

def parseMembers : Nat → Cursor → ShellyResponse → Scan ShellyResponse
  | 0,_,_ => .error .exhausted
  | fuel + 1,value,response => do
    let (key,keyLength,value) ← parseString value
    let value ← skipWhitespace value
    let value ← expect ':'.toUInt8 value
    let value ← skipWhitespace value
    let (value,response) ← parseMember key keyLength value response
    let value ← skipWhitespace value
    if (← deref value) = '}'.toUInt8 then parseEnd (value.drop 1) response
    else
      let value ← expect ','.toUInt8 value
      let value ← skipWhitespace value
      parseMembers fuel value response

/-- Neither the text nor the response is NULL where the driver calls this. -/
def parseShellyResponse (text : Cursor) : Scan ShellyResponse := do
  let value ← skipWhitespace text
  let value ← expect '{'.toUInt8 value
  let value ← skipWhitespace value
  if (← deref value) = '}'.toUInt8 then parseEnd (value.drop 1) noResponse
  else parseMembers value.length value noResponse

/-! ### What the members say -/

/-- A member named `output` must be the first one and a boolean; one named `error` is noted. -/
def readMember (response : ShellyResponse) (member : Member) : Option ShellyResponse :=
  if member.key = ascii "output" then
    if response.hasOutput then none
    else if member.value = ascii "true" then some { response with hasOutput := true, output := true }
    else if member.value = ascii "false" then some { response with hasOutput := true, output := false }
    else none
  else some { response with hasError := decide (member.key = ascii "error") || response.hasError }

def readMembers : List Member → ShellyResponse → Option ShellyResponse
  | [],response => some response
  | member :: members,response => (readMember response member).bind (readMembers members)

/-! ### Keys -/

section Keys

variable {text expected : List UInt8} {length : Nat}

/-- Without escapes every byte is a character. -/
theorem characters_plain (characters : Characters text length) (plain : '\\'.toUInt8 ∉ text) : length = text.length := by
  induction characters with
  | nil => rfl
  | cons first _ ih =>
    obtain ⟨noEscape,others⟩ := not_or.mp (List.mem_append.not.mp plain)
    cases first with
    | plain => exact congrArg (· + 1) (ih others)
    | escaped | unicode => exact absurd List.mem_cons_self noEscape

/-- A key whose first bytes are those of a name with as many characters is that name. -/
theorem characters_start (characters : Characters text length) (plain : '\\'.toUInt8 ∉ expected)
    (sameLength : length = expected.length) {rest : Cursor} (starts : (text ++ rest).take expected.length = expected) :
    text = expected := by
  induction characters generalizing expected with
  | nil => exact (List.length_eq_zero_iff.mp sameLength.symm).symm
  | @cons character text count first others ih =>
    cases expected with
    | nil => contradiction
    | cons letter expected =>
      obtain ⟨noEscape,unescaped⟩ := List.ne_and_not_mem_of_not_mem_cons plain
      cases first with
      | plain =>
        obtain ⟨rfl,further⟩ := List.cons.inj starts
        exact congrArg (List.cons _) (ih unescaped (Nat.succ.inj sameLength) further)
      | escaped | unicode =>
        obtain ⟨escape,_⟩ := List.cons.inj starts
        exact absurd escape noEscape

/-- The comparison of the counted length and the first bytes decides whether the raw key is the name. -/
theorem keyEquals_eq (characters : Characters text length) (plain : '\\'.toUInt8 ∉ expected) (rest : Cursor) :
    keyEquals (text ++ rest) length expected = .ok (decide (text = expected)) := by
  by_cases sameLength : length = expected.length
  · have room : expected.length ≤ (text ++ rest).length := by
      have short := characters.count_le
      rw [List.length_append]
      omega
    rw [keyEquals,if_pos sameLength,memcmp_eq room]
    refine congrArg Except.ok (decide_eq_decide.mpr ⟨characters_start characters plain sameLength,?_⟩)
    rintro rfl
    exact List.take_left
  · rw [keyEquals,if_neg sameLength]
    have differ : text ≠ expected := by
      rintro rfl
      exact sameLength (characters_plain characters plain)
    rw [decide_eq_false differ]

end Keys

/-! ### Accepted responses say what their members say -/

section Sound

variable {cursor : Cursor} {response : ShellyResponse}

theorem ensures_parseMember {text rest : List UInt8} {length : Nat} (characters : Characters text length)
    (solid : Solid cursor) (terminated : 0 ∈ cursor) :
    Ensures (parseMember (text ++ rest) length cursor response) fun (next,final) => 0 ∈ next ∧
      ∃ value, Value value ∧ readMember response ⟨text,value⟩ = some final ∧ cursor = value ++ next := by
  rw [parseMember,keyEquals_eq characters (by decide),ok_bind]
  by_cases output : text = ascii "output"
  · rw [decide_eq_true output,if_pos rfl]
    by_cases again : response.hasOutput = true
    · rw [if_pos again]
      exact ensures_rejected
    rw [if_neg again]
    refine (ensures_strncmp (by decide) terminated).bind ?_
    rintro found reads
    by_cases isTrue : found = true
    · rw [if_pos isTrue]
      obtain ⟨ahead,value,rfl,split⟩ := reads isTrue
      exact ⟨ahead,_,.true,by simp [readMember,output,again],split⟩
    rw [if_neg isTrue]
    refine (ensures_strncmp (by decide) terminated).bind ?_
    rintro found reads
    by_cases isFalse : found = true
    · rw [if_pos isFalse]
      obtain ⟨ahead,value,rfl,split⟩ := reads isFalse
      have differ : ascii "false" ≠ ascii "true" := by decide
      exact ⟨ahead,_,.false,by simp [readMember,output,again,differ],split⟩
    rw [if_neg isFalse]
    exact ensures_rejected
  · rw [decide_eq_false output,if_neg Bool.false_ne_true,keyEquals_eq characters (by decide),ok_bind]
    refine ((skipJsonValue_reads cursor.length).solid solid terminated (Nat.le_refl _)).bind ?_
    rintro next ⟨ahead,value,isValue,split⟩
    exact ⟨ahead,value,isValue,by rw [readMember,if_neg output],split⟩

/-- The text is the one behind the object's end, up to the terminator. -/
def Ended (cursor : Cursor) : Prop := ∃ gap after, Blank gap ∧ cursor = gap ++ 0 :: after

theorem ensures_parseEnd (terminated : 0 ∈ cursor) :
    Ensures (parseEnd cursor response) fun final => final = response ∧ Ended cursor := by
  refine (ensures_skipWhitespace terminated).bind ?_
  rintro rest ⟨⟨ahead,gap,blank,rfl⟩,_⟩
  refine (ensures_deref ahead).bind ?_
  rintro byte ⟨after,rfl⟩
  by_cases nul : byte = 0
  · rw [if_pos nul]
    subst nul
    exact ⟨rfl,gap,after,blank,rfl⟩
  · rw [if_neg nul]
    exact ensures_rejected

theorem ensures_parseMembers {fuel : Nat} (enough : cursor.length ≤ fuel) (terminated : 0 ∈ cursor) :
    Ensures (parseMembers fuel cursor response) fun final => ∃ members listed rest, Members members listed ∧
      readMembers members response = some final ∧ Ended rest ∧ cursor = listed ++ '}'.toUInt8 :: rest := by
  induction fuel generalizing cursor response with
  | zero =>
    rw [List.length_eq_zero_iff.mp (Nat.le_zero.mp enough)] at terminated
    contradiction
  | succ fuel ih =>
    refine (ensures_parseString terminated).bind ?_
    rintro ⟨_,_,_⟩ ⟨afterKey,key,characters,rfl,rfl⟩
    refine (ensures_skipWhitespace afterKey).bind ?_
    rintro _ ⟨⟨beforeColon,gap,blank,rfl⟩,_⟩
    refine (ensures_expect beforeColon (by decide)).bind ?_
    rintro _ ⟨afterColon,rfl⟩
    refine (ensures_skipWhitespace afterColon).bind ?_
    rintro _ ⟨⟨beforeValue,before,blankBefore,rfl⟩,solid⟩
    refine (ensures_parseMember characters solid beforeValue).bind ?_
    rintro ⟨_,later⟩ ⟨afterValue,value,isValue,read,rfl⟩
    refine (ensures_skipWhitespace afterValue).bind ?_
    rintro _ ⟨⟨stripped,after,blankAfter,rfl⟩,_⟩
    have pair := Pair.mk characters blank blankBefore isValue blankAfter
    refine (ensures_deref stripped).bind ?_
    rintro byte ⟨rest,rfl⟩
    by_cases ends : byte = '}'.toUInt8
    · rw [if_pos ends]
      subst ends
      refine (ensures_parseEnd (mem_behind stripped (by decide))).mono ?_
      rintro _ ⟨rfl,ended⟩
      refine ⟨_,_,rest,.last pair,by rw [readMembers,read]; rfl,ended,?_⟩
      simp only [List.append_assoc,List.cons_append]
    · rw [if_neg ends]
      refine (ensures_expect stripped (by decide)).bind ?_
      rintro _ ⟨afterComma,split⟩
      obtain ⟨rfl,rfl⟩ := List.cons.inj split
      refine (ensures_skipWhitespace afterComma).bind ?_
      rintro others ⟨⟨further,between,blankBetween,rfl⟩,_⟩
      simp only [List.length_append,List.length_cons] at enough
      refine (ih (by omega) further).mono ?_
      rintro final ⟨_,_,rest,others,readOthers,ended,rfl⟩
      refine ⟨_,_,rest,.more pair blankBetween others,by rw [readMembers,read]; exact readOthers,ended,?_⟩
      simp only [List.append_assoc,List.cons_append]

theorem ensures_parseShellyResponse (terminated : 0 ∈ cursor) :
    Ensures (parseShellyResponse cursor) fun final => ∃ members text after, Document members text ∧
      readMembers members noResponse = some final ∧ cursor = text ++ 0 :: after := by
  refine (ensures_skipWhitespace terminated).bind ?_
  rintro _ ⟨⟨first,before,blankBefore,rfl⟩,_⟩
  refine (ensures_expect first (by decide)).bind ?_
  rintro _ ⟨inside,rfl⟩
  refine (ensures_skipWhitespace inside).bind ?_
  rintro _ ⟨⟨stripped,gap,blank,rfl⟩,_⟩
  refine (ensures_deref stripped).bind ?_
  rintro byte ⟨rest,rfl⟩
  by_cases ends : byte = '}'.toUInt8
  · rw [if_pos ends]
    subst ends
    refine (ensures_parseEnd (mem_behind stripped (by decide))).mono ?_
    rintro _ ⟨rfl,last,after,blankAfter,rfl⟩
    refine ⟨[],_,after,.mk blankBefore (.empty blank) blankAfter,rfl,?_⟩
    simp only [List.append_assoc,List.cons_append,List.nil_append]
  · rw [if_neg ends]
    refine (ensures_parseMembers (Nat.le_refl _) stripped).mono ?_
    rintro final ⟨members,listed,_,all,read,⟨last,after,blankAfter,rfl⟩,split⟩
    refine ⟨members,_,after,.mk blankBefore (.members blank all) blankAfter,read,?_⟩
    rw [split]
    simp only [List.append_assoc,List.cons_append,List.nil_append]

end Sound

/-! ### The members decide the response -/

section Complete

variable {response : ShellyResponse}

def verdict {α : Type} : Option α → Scan α
  | some value => .ok value
  | none => .error .rejected

theorem parseMember_append {text value tail : List UInt8} {length : Nat} (characters : Characters text length)
    (isValue : Value value) (delimited : Delimited tail) (rest : Cursor) :
    parseMember (text ++ rest) length (value ++ tail) response =
      verdict ((readMember response ⟨text,value⟩).map fun final => (tail,final)) := by
  rw [parseMember,keyEquals_eq characters (by decide),ok_bind]
  by_cases output : text = ascii "output"
  · rw [decide_eq_true output,if_pos rfl]
    by_cases again : response.hasOutput = true
    · rw [if_pos again]
      simp [readMember,output,again,verdict]
    rw [if_neg again]
    rcases isValue.boolean_or_other with rfl | rfl | ⟨head,others,rfl,noTrue,noFalse⟩
    · rw [strncmp_append,ok_bind,if_pos rfl]
      simp only [readMember,output,again,if_true,if_false,Bool.false_eq_true]
      rfl
    · have differ : ascii "false" ≠ ascii "true" := by decide
      have noTrue : strncmp (ascii "false" ++ tail) (ascii "true") = .ok false := rfl
      rw [noTrue,ok_bind,if_neg Bool.false_ne_true,strncmp_append,ok_bind,if_pos rfl]
      simp only [readMember,output,again,if_true,if_neg differ,Bool.false_eq_true,if_false]
      rfl
    · have notTrue : head :: others ≠ ascii "true" := fun same => noTrue (List.cons.inj same).1
      have notFalse : head :: others ≠ ascii "false" := fun same => noFalse (List.cons.inj same).1
      rw [List.cons_append]
      refine (literal_other noTrue ..).trans ((literal_other noFalse ..).trans ?_)
      simp only [readMember,output,again,if_true,if_neg notTrue,if_neg notFalse,Bool.false_eq_true,if_false]
      rfl
  · have small : value.length ≤ (value ++ tail).length := by
      rw [List.length_append]
      omega
    rw [decide_eq_false output,if_neg Bool.false_ne_true,keyEquals_eq characters (by decide),ok_bind,
      (skipJsonValue_passes _).solid isValue small delimited,ok_bind,readMember,if_neg output]
    rfl

theorem parseEnd_append {gap : List UInt8} (blank : Blank gap) (after : Cursor) :
    parseEnd (gap ++ 0 :: after) response = .ok response := by
  rw [parseEnd,skipWhitespace_append blank ⟨_,_,rfl,rfl⟩,ok_bind,deref_bind]
  exact if_pos rfl

/-- A pair is read up to the byte that ends it. -/
theorem parseMembers_pair {text tail : List UInt8} {member : Member} (pair : Pair member text) (ends : Begins Ends tail)
    (fuel : Nat) : parseMembers (fuel + 1) (text ++ tail) response = (do
      let later ← verdict (readMember response member)
      if (← deref tail) = '}'.toUInt8 then parseEnd (tail.drop 1) later
      else
        let value ← expect ','.toUInt8 tail
        let value ← skipWhitespace value
        parseMembers fuel value later) := by
  obtain ⟨characters,blankKey,blankBefore,content,blankAfter⟩ := pair
  simp only [List.append_assoc,List.cons_append]
  rw [parseMembers,parseString_append characters,ok_bind]
  dsimp only
  rw [skipWhitespace_append blankKey ⟨_,_,rfl,rfl⟩,ok_bind,expect_bind,
    skipWhitespace_append blankBefore (opens_solid content.opens),ok_bind,
    parseMember_append characters content (blankAfter.delimited ends)]
  cases readMember response _ with
  | none => rfl
  | some later =>
    dsimp only [Option.map_some,verdict]
    rw [ok_bind]
    dsimp only
    rw [skipWhitespace_append blankAfter (ends.mono fun _ => And.left),ok_bind,ok_bind]

theorem parseMembers_append {text gap : List UInt8} {members : List Member} (listed : Members members text)
    {fuel : Nat} (enough : text.length ≤ fuel) (blank : Blank gap) (after : Cursor) :
    parseMembers fuel (text ++ '}'.toUInt8 :: (gap ++ 0 :: after)) response = verdict (readMembers members response) := by
  induction fuel generalizing text members response with
  | zero =>
    obtain ⟨tail,rfl⟩ := listed.head
    contradiction
  | succ fuel ih =>
    cases listed with
    | @last member text pair =>
      rw [parseMembers_pair pair ⟨_,_,rfl,brace_ends⟩,readMembers]
      cases readMember response member with
      | none => rfl
      | some later =>
        rw [verdict,ok_bind,deref_bind,if_pos rfl]
        exact parseEnd_append blank after
    | @more member members pairText between text pair blankBetween others =>
      simp only [List.length_append,List.length_cons] at enough
      rw [List.append_assoc,List.cons_append,List.append_assoc,parseMembers_pair pair ⟨_,_,rfl,comma_ends⟩,readMembers]
      cases readMember response member with
      | none => rfl
      | some later =>
        rw [verdict,ok_bind,deref_bind,if_neg (by decide),expect_bind,
          skipWhitespace_append blankBetween (members_solid others _),ok_bind]
        exact ih others (by omega)

/-- A terminated document is judged by the members of its top level alone. -/
theorem parseShellyResponse_document {text : List UInt8} {members : List Member} (document : Document members text)
    (after : Cursor) : parseShellyResponse (text ++ 0 :: after) = verdict (readMembers members noResponse) := by
  cases document with
  | @mk before text last blankBefore object blankAfter =>
    cases object with
    | empty blank =>
      simp only [List.append_assoc,List.cons_append,List.nil_append]
      rw [parseShellyResponse,skipWhitespace_append blankBefore ⟨_,_,rfl,rfl⟩,ok_bind,expect_bind,
        skipWhitespace_append blank ⟨_,_,rfl,rfl⟩,ok_bind,deref_bind,if_pos rfl]
      exact parseEnd_append blankAfter after
    | @members _ gap text blank listed =>
      have enough : text.length ≤ (text ++ '}'.toUInt8 :: (last ++ 0 :: after)).length := by
        rw [List.length_append]
        omega
      have parsed : parseMembers _ _ noResponse = _ := parseMembers_append listed enough blankAfter after
      obtain ⟨tail,rfl⟩ := listed.head
      simp only [List.append_assoc,List.cons_append,List.nil_append] at parsed ⊢
      rw [parseShellyResponse,skipWhitespace_append blankBefore ⟨_,_,rfl,rfl⟩,ok_bind,expect_bind,
        skipWhitespace_append blank ⟨_,_,rfl,rfl⟩,ok_bind,deref_bind,if_neg (by decide)]
      exact parsed

/-- An output that is nested in another value, or inside a string, is none. -/
example : parseShellyResponse (ascii "\x7b\"a\":[\x7b\"output\":true\x7d],\"b\":\"output\"\x7d" ++ [0]) = .ok noResponse := by decide +kernel

end Complete

/-! ### Terminated texts -/

section Terminated

variable {body : List UInt8}

theorem takeWhile_terminated (noNul : 0 ∉ body) (after : Cursor) : (body ++ 0 :: after).takeWhile (· ≠ 0) = body := by
  rw [List.takeWhile_append_of_pos]
  · simp
  · intro byte member
    rw [decide_eq_true_eq]
    rintro rfl
    exact noNul member

/-- A text is accepted when it is a document whose members can be read. -/
theorem parseShellyResponse_ok_iff (noNul : 0 ∉ body) (after : Cursor) (response : ShellyResponse) :
    parseShellyResponse (body ++ 0 :: after) = .ok response ↔
      ∃ members, Document members body ∧ readMembers members noResponse = some response := by
  constructor
  · intro parsed
    have terminated : 0 ∈ body ++ 0 :: after := List.mem_append_right body List.mem_cons_self
    obtain ⟨members,text,later,document,read,split⟩ := (ensures_parseShellyResponse terminated).of_ok parsed
    have same := congrArg (List.takeWhile (· ≠ 0)) split
    rw [takeWhile_terminated noNul,takeWhile_terminated document.noNul] at same
    subst same
    exact ⟨members,document,read⟩
  · rintro ⟨members,document,read⟩
    rw [parseShellyResponse_document document,read]
    rfl

theorem parseShellyResponse_settles (body after : Cursor) :
    (∃ response, parseShellyResponse (body ++ 0 :: after) = .ok response) ∨
      parseShellyResponse (body ++ 0 :: after) = .error .rejected := by
  have terminated : 0 ∈ body ++ 0 :: after := List.mem_append_right body List.mem_cons_self
  rcases (ensures_parseShellyResponse terminated).cases with ⟨response,parsed,_⟩ | rejected
  · exact .inl ⟨response,parsed⟩
  · exact .inr rejected

/-- What lies behind the terminator does not matter. -/
theorem parseShellyResponse_terminator (noNul : 0 ∉ body) (after later : Cursor) :
    parseShellyResponse (body ++ 0 :: after) = parseShellyResponse (body ++ 0 :: later) := by
  rcases parseShellyResponse_settles body after with ⟨response,parsed⟩ | rejected
  · rw [parsed]
    exact ((parseShellyResponse_ok_iff noNul later response).mpr
      ((parseShellyResponse_ok_iff noNul after response).mp parsed)).symm
  · rcases parseShellyResponse_settles body later with ⟨response,parsed⟩ | others
    · have accepted := (parseShellyResponse_ok_iff noNul after response).mpr
        ((parseShellyResponse_ok_iff noNul later response).mp parsed)
      rw [rejected] at accepted
      contradiction
    · rw [rejected,others]

end Terminated

/-! ### What readable members say -/

def booleanText (value : Bool) : List UInt8 := ascii (if value then "true" else "false")

theorem booleanText_injective : Function.Injective booleanText := by
  intro first second same
  cases first <;> cases second <;> first | rfl | exact absurd same (by decide)

theorem readMember_output {response : ShellyResponse} {member : Member} (output : member.key = ascii "output")
    (final : ShellyResponse) : readMember response member = some final ↔ response.hasOutput = false ∧
      ∃ value, member.value = booleanText value ∧ final = { response with hasOutput := true, output := value } := by
  rw [readMember,if_pos output]
  by_cases again : response.hasOutput = true
  · simp [again]
  rw [if_neg again]
  by_cases isTrue : member.value = booleanText true
  · rw [isTrue]
    refine (Iff.of_eq (congrArg (· = some final) (if_pos rfl))).trans ?_
    simp [again,booleanText_injective.eq_iff,eq_comm]
  by_cases isFalse : member.value = booleanText false
  · rw [isFalse]
    refine (Iff.of_eq (congrArg (· = some final) ((if_neg (by decide)).trans (if_pos rfl)))).trans ?_
    simp [again,booleanText_injective.eq_iff,eq_comm]
  refine (Iff.of_eq (congrArg (· = some final) ((if_neg isTrue).trans (if_neg isFalse)))).trans ?_
  simp [isTrue,isFalse]

theorem readMember_other {response : ShellyResponse} {member : Member} (output : member.key ≠ ascii "output") :
    readMember response member =
      some { response with hasError := decide (member.key = ascii "error") || response.hasError } := if_neg output

/-- What the members say, where they can be read. -/
def summary (members : List Member) (response : ShellyResponse) : ShellyResponse where
  hasError := members.any (fun member => member.key = ascii "error") || response.hasError
  hasOutput := members.any (fun member => member.key = ascii "output") || response.hasOutput
  output := members.any (· = ⟨ascii "output",booleanText true⟩) || response.output

/-- Together with an output that was read there is one at most, and all are booleans. -/
def Readable (members : List Member) (response : ShellyResponse) : Prop :=
  members.countP (fun member => member.key = ascii "output") + response.hasOutput.toNat ≤ 1 ∧
    ∀ member ∈ members, member.key = ascii "output" → ∃ value, member.value = booleanText value

section Reading

variable {member : Member} {members : List Member} {response : ShellyResponse}

theorem readable_output (output : member.key = ascii "output") : Readable (member :: members) response ↔
    response.hasOutput = false ∧ (∃ value, member.value = booleanText value) ∧
      Readable members { response with hasOutput := true } := by
  simp only [Readable,List.countP_cons,output,decide_true,if_true,Bool.toNat_true,List.forall_mem_cons,true_imp_iff]
  cases response.hasOutput
  · simp
    tauto
  · simp

theorem summary_output (output : member.key = ascii "output") {value : Bool} (isValue : member.value = booleanText value)
    (first : response.output = false) : summary (member :: members) response =
      summary members { response with hasOutput := true, output := value } := by
  have noError : ascii "output" ≠ ascii "error" := by decide
  obtain ⟨key,text⟩ := member
  dsimp only at output isValue
  subst output isValue
  cases value <;> simp [summary,noError,first,booleanText_injective.eq_iff]

theorem readable_other (other : member.key ≠ ascii "output") (hasError : Bool) : Readable (member :: members) response ↔
    Readable members { response with hasError := hasError } := by
  simp [Readable,other]

theorem summary_other (other : member.key ≠ ascii "output") : summary (member :: members) response =
    summary members { response with hasError := decide (member.key = ascii "error") || response.hasError } := by
  have noOutput : ∀ value, member ≠ ⟨ascii "output",value⟩ := by
    rintro value rfl
    exact other rfl
  simp [summary,other,noOutput,Bool.or_assoc,Bool.or_left_comm]

theorem readMembers_some_iff (members : List Member) {response : ShellyResponse}
    (consistent : response.hasOutput = false → response.output = false) (final : ShellyResponse) :
    readMembers members response = some final ↔ Readable members response ∧ final = summary members response := by
  induction members generalizing response with
  | nil =>
    have room : response.hasOutput.toNat ≤ 1 := Bool.toNat_le _
    simp [readMembers,Readable,summary,room,eq_comm]
  | cons member members ih =>
    rw [readMembers,Option.bind_eq_some_iff]
    by_cases output : member.key = ascii "output"
    · constructor
      · rintro ⟨later,read,others⟩
        obtain ⟨first,value,isValue,rfl⟩ := (readMember_output output later).mp read
        obtain ⟨readable,rfl⟩ := (ih (by simp)).mp others
        exact ⟨(readable_output output).mpr ⟨first,⟨value,isValue⟩,readable⟩,
          (summary_output output isValue (consistent first)).symm⟩
      · rintro ⟨readable,rfl⟩
        obtain ⟨first,⟨value,isValue⟩,others⟩ := (readable_output output).mp readable
        refine ⟨_,(readMember_output output _).mpr ⟨first,value,isValue,rfl⟩,?_⟩
        exact (ih (by simp)).mpr ⟨others,summary_output output isValue (consistent first)⟩
    · rw [readable_other output (decide (member.key = ascii "error") || response.hasError),summary_other output,
        readMember_other output]
      refine Iff.trans ?_ (ih consistent)
      simp

end Reading

/-- No error, and at most one output, which is a boolean. -/
structure Unambiguous (members : List Member) : Prop where
  noError : ∀ member ∈ members, member.key ≠ ascii "error"
  oneOutput : members.countP (fun member => member.key = ascii "output") ≤ 1
  boolean : ∀ member ∈ members, member.key = ascii "output" → ∃ value, member.value = booleanText value

/-! ### Confirming members -/

section Confirming

variable {members : List Member}

theorem read_withoutError_iff (final : ShellyResponse) : readMembers members noResponse = some final ∧ final.hasError = false ↔
    Unambiguous members ∧ final = summary members noResponse := by
  rw [readMembers_some_iff members fun _ => rfl]
  constructor
  · rintro ⟨⟨⟨one,boolean⟩,rfl⟩,clean⟩
    exact ⟨⟨by simpa [summary,noResponse] using clean,one,boolean⟩,rfl⟩
  · rintro ⟨⟨noError,one,boolean⟩,rfl⟩
    exact ⟨⟨⟨one,boolean⟩,rfl⟩,by simpa [summary,noResponse] using noError⟩

theorem Unambiguous.unique (unambiguous : Unambiguous members) {first second : Member} (inside : first ∈ members)
    (other : second ∈ members) (output : first.key = ascii "output") (another : second.key = ascii "output") :
    first = second := by
  have one := unambiguous.oneOutput
  rw [List.countP_eq_length_filter] at one
  have here : first ∈ members.filter fun member => member.key = ascii "output" :=
    List.mem_filter.mpr ⟨inside,decide_eq_true output⟩
  have there : second ∈ members.filter fun member => member.key = ascii "output" :=
    List.mem_filter.mpr ⟨other,decide_eq_true another⟩
  obtain ⟨only,same⟩ := List.length_eq_one_iff.mp (Nat.le_antisymm one (List.length_pos_of_mem here))
  rw [same,List.mem_singleton] at here there
  rw [here,there]

theorem Unambiguous.confirms_iff (unambiguous : Unambiguous members) (requested : Bool) :
    ((summary members noResponse).hasOutput = true ∧ (summary members noResponse).output = requested) ↔
      ⟨ascii "output",booleanText requested⟩ ∈ members := by
  have outputs : (summary members noResponse).hasOutput = true ↔ ∃ member ∈ members, member.key = ascii "output" := by
    simp [summary,noResponse]
  have trueOutput : (summary members noResponse).output = true ↔ ⟨ascii "output",booleanText true⟩ ∈ members := by
    simp [summary,noResponse]
  rw [outputs]
  cases requested with
  | true =>
    rw [trueOutput]
    exact ⟨And.right,fun inside => ⟨⟨_,inside,rfl⟩,inside⟩⟩
  | false =>
    rw [← Bool.not_eq_true,trueOutput]
    constructor
    · rintro ⟨⟨⟨key,value⟩,inside,rfl⟩,notTrue⟩
      obtain ⟨output,rfl⟩ := unambiguous.boolean _ inside rfl
      cases output with
      | true => exact absurd inside notTrue
      | false => exact inside
    · intro inside
      refine ⟨⟨_,inside,rfl⟩,fun other => ?_⟩
      have same := congrArg Member.value (unambiguous.unique inside other rfl rfl)
      exact absurd (booleanText_injective same) (by decide)

end Confirming

end Shelly

end Irrigation
