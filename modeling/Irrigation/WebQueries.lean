import Irrigation.Library.UrlEncoding
import Irrigation.WebHandlers

/-! Queries that a browser encodes, and what the handlers read from them: a value comes back as it
was typed exactly when its encoded form fits the handler's buffer. -/
namespace Irrigation

open Scanning UrlEncoding

/-! ### The decoder -/

theorem hexDigit_hexDigitOf {value : Nat} (small : value < 16) : (hexDigit (hexDigitOf value)).toNat = value := by
  have each : (List.range 16).all fun value => (hexDigit (hexDigitOf value)).toNat = value := by decide
  simpa using List.all_eq_true.mp each value (List.mem_range.mpr small)

theorem hexDigits_join (byte : UInt8) :
    16 * hexDigit (hexDigitOf (byte.toNat / 16)) + hexDigit (hexDigitOf (byte.toNat % 16)) = byte := by
  obtain ⟨high,low⟩ := halves_small byte
  apply UInt8.toNat_inj.mp
  have sixteen : (16 : UInt8).toNat = 16 := rfl
  rw [UInt8.toNat_add,UInt8.toNat_mul,hexDigit_hexDigitOf high,hexDigit_hexDigitOf low,sixteen]
  have bounded := byte.toNat_lt
  omega

/-- `url_decode` reverts every encoder of the browser. -/
theorem urlDecodeBytes_decodes : Decodes urlDecodeBytes where
  nil := rfl
  plus rest := by
    match rest with
    | [] => rfl
    | [_] => rfl
    | _ :: _ :: _ => rw [urlDecodeBytes,if_pos rfl]
  escaped byte rest := by
    obtain ⟨high,low⟩ := halves_small byte
    have digits := And.intro (hexDigitOf_isxdigit high) (hexDigitOf_isxdigit low)
    simp only [escape,List.cons_append,List.nil_append]
    rw [urlDecodeBytes,if_neg (by decide),if_pos ⟨rfl,digits⟩,hexDigits_join]
  plain byte rest notPlus notPercent := by
    match rest with
    | [] => simp [urlDecodeBytes,notPlus]
    | [_] => simp [urlDecodeBytes,notPlus]
    | _ :: _ :: _ => rw [urlDecodeBytes,if_neg notPlus,if_neg fun percent => notPercent percent.1]

/-! ### Values in a query -/

/-- Lower case letters and underscores, as in every key that the handlers ask for. -/
def KeyText (key : List UInt8) : Prop := ∀ byte ∈ key, (97 ≤ byte ∧ byte ≤ 122) ∨ byte = '_'.toUInt8

instance (key : List UInt8) : Decidable (KeyText key) := List.decidableBAll _ key

/-- What the server library documents of `httpd_query_key_value`: of the pairs of a query it stores
the value of the one with the key, if it fits the buffer with its terminator. -/
def ReadsPairs (library : QueryKeyValue) : Prop :=
  ∀ (pairs : Pairs) (query key value : CString) (size : Nat), query.bytes = queryText pairs → PlainPairs pairs →
    (∀ pair ∈ pairs, KeyText pair.1) → (pairs.map Prod.fst).Nodup → (key.bytes,value.bytes) ∈ pairs →
    library query key size = if value.bytes.length < size then some value else none

/-- Keys with the texts that a page sends for them. -/
abbrev Parameters := List (String × List UInt8)

/-- The pairs that an encoder makes of parameters. -/
def encodedPairs (encoder : Encoder) (parameters : Parameters) : Pairs :=
  parameters.map fun parameter => (ascii parameter.1,encoder.encode parameter.2)

def encodedQuery (encoder : Encoder) (parameters : Parameters) : List UInt8 :=
  queryText (encodedPairs encoder parameters)

/-- A request to a URI with encoded parameters behind it. -/
def pageRequest (uri : String) (query : List UInt8) : HttpRequest :=
  ⟨.ofBytes (ascii uri ++ '?'.toUInt8 :: query),some (.ofBytes query)⟩

theorem ofBytes_of_noNul {bytes : List UInt8} (noNul : ∀ byte ∈ bytes, byte ≠ 0) : (CString.ofBytes bytes).bytes = bytes :=
  List.takeWhile_eq_self_iff.mpr fun byte member => by simpa using noNul byte member

/-- An encoded text has no NUL if its encoder escapes it. -/
theorem encode_noNul {encoder : Encoder} (escapes : encoder.plain 0 = false) (text : List UInt8) :
    ∀ byte ∈ encoder.encode text, byte ≠ 0 := by
  rintro byte member rfl
  rcases Encoder.mem_encode member with plus | plain | percent | digit
  · exact absurd plus (by decide)
  · exact absurd (plain.symm.trans escapes) (by decide)
  · exact absurd percent (by decide)
  · exact absurd digit (by decide)

/-- The keys that a page sends: plain and different. -/
structure PlainKeys (parameters : Parameters) : Prop where
  letters : ∀ parameter ∈ parameters, KeyText (ascii parameter.1)
  distinct : (parameters.map fun parameter => ascii parameter.1).Nodup

instance (parameters : Parameters) : Decidable (PlainKeys parameters) :=
  decidable_of_iff ((∀ parameter ∈ parameters, KeyText (ascii parameter.1)) ∧
    (parameters.map fun parameter => ascii parameter.1).Nodup) ⟨fun h => ⟨h.1,h.2⟩,fun h => ⟨h.1,h.2⟩⟩

theorem KeyText.plain {key : List UInt8} (letters : KeyText key) :
    '&'.toUInt8 ∉ key ∧ '='.toUInt8 ∉ key ∧ ∀ byte ∈ key, byte ≠ 0 := by
  have apart (byte : UInt8) (member : byte ∈ key) : byte ≠ '&'.toUInt8 ∧ byte ≠ '='.toUInt8 ∧ byte ≠ 0 := by
    rcases letters byte member with ⟨above,_⟩ | rfl
    · have code := UInt8.le_iff_toNat_le.mp above
      simp only [UInt8.reduceToNat] at code
      refine ⟨?_,?_,?_⟩
      · rintro rfl; exact absurd code (by decide)
      · rintro rfl; exact absurd code (by decide)
      · rintro rfl; exact absurd code (by decide)
    · decide
  exact ⟨fun member => (apart _ member).1 rfl,fun member => (apart _ member).2.1 rfl,fun byte member => (apart byte member).2.2⟩

section Reading

variable {encoder : Encoder} {parameters : Parameters}

theorem encodedPairs_plain (reserves : encoder.Reserves) (keys : PlainKeys parameters) :
    PlainPairs (encodedPairs encoder parameters) := by
  intro pair member
  obtain ⟨parameter,inside,rfl⟩ := List.mem_map.mp member
  obtain ⟨pairs,equals,_⟩ := (keys.letters parameter inside).plain
  exact ⟨pairs,equals,(reserves.separated parameter.2).1⟩

theorem mem_queryText {pairs : Pairs} {byte : UInt8} (member : byte ∈ queryText pairs) :
    byte = '&'.toUInt8 ∨ byte = '='.toUInt8 ∨ ∃ pair ∈ pairs, byte ∈ pair.1 ∨ byte ∈ pair.2 := by
  induction pairs with
  | nil => exact absurd member List.not_mem_nil
  | cons pair rest ih =>
    have ofPair (inside : byte ∈ pairText pair) : byte = '='.toUInt8 ∨ byte ∈ pair.1 ∨ byte ∈ pair.2 := by
      rcases List.mem_append.mp inside with key | value
      · exact .inr (.inl key)
      · rcases List.mem_cons.mp value with equals | value
        · exact .inl equals
        · exact .inr (.inr value)
    have here (inside : byte ∈ pairText pair) :
        byte = '&'.toUInt8 ∨ byte = '='.toUInt8 ∨ ∃ pair' ∈ pair :: rest, byte ∈ pair'.1 ∨ byte ∈ pair'.2 := by
      rcases ofPair inside with equals | within
      · exact .inr (.inl equals)
      · exact .inr (.inr ⟨pair,List.mem_cons_self,within⟩)
    cases rest with
    | nil => exact here (by simpa [queryText] using member)
    | cons next others =>
      have split : queryText (pair :: next :: others) = pairText pair ++ '&'.toUInt8 :: queryText (next :: others) := by
        simp [queryText,List.intercalate_cons_cons]
      rw [split] at member
      rcases List.mem_append.mp member with first | second
      · exact here first
      · rcases List.mem_cons.mp second with separator | later
        · exact .inl separator
        · rcases ih later with separator | equals | ⟨other,inside,within⟩
          · exact .inl separator
          · exact .inr (.inl equals)
          · exact .inr (.inr ⟨other,List.mem_cons_of_mem _ inside,within⟩)

theorem encodedQuery_noNul (escapes : encoder.plain 0 = false) (keys : PlainKeys parameters) :
    ∀ byte ∈ encodedQuery encoder parameters, byte ≠ 0 := by
  intro byte member
  rcases mem_queryText member with rfl | rfl | ⟨pair,inside,within⟩
  · decide
  · decide
  · obtain ⟨parameter,present,rfl⟩ := List.mem_map.mp inside
    rcases within with key | value
    · exact (keys.letters parameter present).plain.2.2 byte key
    · exact encode_noNul escapes parameter.2 byte value

theorem ascii_literal {key : String} (letters : KeyText (ascii key)) : (CString.literal key).bytes = ascii key := by
  have converted : ascii key = key.toList.map fun letter => letter.toNat.toUInt8 := rfl
  rw [CString.literal,CString.ofChars,← converted]
  exact ofBytes_of_noNul letters.plain.2.2

/-- A parameter is read as it was before it was encoded, if the encoded text fits the buffer. -/
theorem queryValue_encoded {library : QueryKeyValue} (reads : ReadsPairs library) (reserves : encoder.Reserves)
    (escapes : encoder.plain 0 = false) (keys : PlainKeys parameters) (uri : String)
    (room : (encodedQuery encoder parameters).length < querySize) {key : String} {text : CString}
    (given : (key,text.bytes) ∈ parameters) (size : Nat) :
    queryValue library (pageRequest uri (encodedQuery encoder parameters)) key size =
      if (encoder.encode text.bytes).length < size then some text else none := by
  have noNul := encodedQuery_noNul escapes keys
  have query : (CString.ofBytes (encodedQuery encoder parameters)).bytes = queryText (encodedPairs encoder parameters) :=
    ofBytes_of_noNul noNul
  have valueBytes : (CString.ofBytes (encoder.encode text.bytes)).bytes = encoder.encode text.bytes :=
    ofBytes_of_noNul (encode_noNul escapes text.bytes)
  have pair : ((CString.literal key).bytes,(CString.ofBytes (encoder.encode text.bytes)).bytes) ∈
      encodedPairs encoder parameters := by
    rw [ascii_literal (keys.letters _ given),valueBytes]
    exact List.mem_map.mpr ⟨_,given,rfl⟩
  have distinct : ((encodedPairs encoder parameters).map Prod.fst).Nodup := by
    rw [encodedPairs,List.map_map]
    exact keys.distinct
  have lettered : ∀ pair ∈ encodedPairs encoder parameters, KeyText pair.1 := by
    intro pair member
    obtain ⟨parameter,inside,rfl⟩ := List.mem_map.mp member
    exact keys.letters parameter inside
  have answer := reads _ _ _ _ size query (encodedPairs_plain reserves keys) lettered distinct pair
  have short : ¬(CString.ofBytes (encodedQuery encoder parameters)).bytes.length ≥ querySize := by
    rw [query]
    exact Nat.not_le.mpr room
  simp only [queryValue,pageRequest,Option.bind_eq_bind,Option.bind_some,if_neg short,answer]
  rw [valueBytes]
  by_cases fits : (encoder.encode text.bytes).length < size
  · have decoded : urlDecode (.ofBytes (encoder.encode text.bytes)) = text := by
      rw [urlDecode,valueBytes,urlDecodeBytes_decodes.encode reserves,CString.ofBytes_bytes]
    rw [if_pos fits,if_pos fits,Option.map_some,decoded]
  · rw [if_neg fits,if_neg fits,Option.map_none]

end Reading

/-! ### A library that reads pairs -/

theorem pairLookup_scan (query key : CString) (size : Nat) : pairLookup query key size =
    (scanQuery query.bytes key.bytes).bind fun value => if value.length < size then some (.ofBytes value) else none := by
  rw [pairLookup,scanQuery,Option.bind_map]
  rfl

theorem pairLookup_readsPairs : ReadsPairs pairLookup := by
  intro pairs query key value size text plain _ distinct member
  have equals := (plain _ member).2.1
  have found : valueOf pairs key.bytes = some value.bytes := by
    rw [valueOf,Option.map_eq_some_iff]
    refine ⟨(key.bytes,value.bytes),?_,rfl⟩
    cases hit : pairs.find? fun pair => pair.1 = key.bytes with
    | none => exact absurd (List.find?_eq_none.mp hit _ member) (by simp)
    | some other =>
      have named : other.1 = key.bytes := by simpa using List.find?_some hit
      exact congrArg some (List.inj_on_of_nodup_map distinct (List.mem_of_find?_eq_some hit) member named)
  rw [pairLookup_scan,text,scanQuery_queryText plain equals (List.ne_nil_of_mem member),found,Option.bind_some,
    CString.ofBytes_bytes]

end Irrigation
