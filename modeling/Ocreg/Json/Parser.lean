/-
Module: Ocreg.Json.Parser
Purpose: The strict parser of json.cpp: UTF-8 validation, strings with their escapes, integers, arrays and objects, with
  the bounds in the places where the source checks them.
-/
import Ocreg.Core.SemVer
import Ocreg.Json.Value

namespace Ocreg

/-! ### UTF-8 -/

/-- A byte that continues a sequence. -/
def isTrailingByte (byte : UInt8) : Bool := byte &&& 0xC0 == 0x80

/-- One more continuation byte of a code point. -/
def extendCodePoint (codePoint : UInt32) (byte : UInt8) : UInt32 := (codePoint <<< 6) ||| (byte &&& 0x3F).toUInt32

/-- What is left to check of a code point that took `extra` continuation bytes: no over-long form, no surrogate, nothing
    above U+10FFFF. -/
def codePointAllowed (extra : Nat) (codePoint : UInt32) : Bool :=
  !(extra == 2 && codePoint < 0x0800) && !(extra == 3 && codePoint < 0x10000) && !(codePoint > 0x10FFFF)
    && !(codePoint ≥ 0xD800 && codePoint ≤ 0xDFFF)

/-- `valid_utf8`. -/
def validUtf8 : Bytes → Bool
  | [] => true
  | byte :: rest =>
    if byte < 0x80 then validUtf8 rest
    else if byte &&& 0xE0 = 0xC0 then
      if byte &&& 0x1F < 0x02 then false
      else match rest with
        | a :: rest =>
          isTrailingByte a && codePointAllowed 1 (extendCodePoint (byte &&& 0x1F).toUInt32 a) && validUtf8 rest
        | _ => false
    else if byte &&& 0xF0 = 0xE0 then
      match rest with
      | a :: b :: rest =>
        isTrailingByte a && isTrailingByte b
          && codePointAllowed 2 (extendCodePoint (extendCodePoint (byte &&& 0x0F).toUInt32 a) b) && validUtf8 rest
      | _ => false
    else if byte &&& 0xF8 = 0xF0 then
      match rest with
      | a :: b :: c :: rest =>
        isTrailingByte a && isTrailingByte b && isTrailingByte c
          && codePointAllowed 3
            (extendCodePoint (extendCodePoint (extendCodePoint (byte &&& 0x07).toUInt32 a) b) c)
          && validUtf8 rest
      | _ => false
    else false

/-- `append_utf8`. -/
def appendUtf8 (out : Bytes) (codePoint : UInt32) : Bytes :=
  let trailing := fun shift : UInt32 => ((0x80 : UInt32) ||| ((codePoint >>> shift) &&& 0x3F)).toUInt8
  if codePoint < 0x80 then out ++ [codePoint.toUInt8]
  else if codePoint < 0x800 then out ++ [((0xC0 : UInt32) ||| (codePoint >>> 6)).toUInt8, trailing 0]
  else if codePoint < 0x10000 then out ++ [((0xE0 : UInt32) ||| (codePoint >>> 12)).toUInt8, trailing 6, trailing 0]
  else out ++ [((0xF0 : UInt32) ||| (codePoint >>> 18)).toUInt8, trailing 12, trailing 6, trailing 0]

namespace Json

/-! ### Tokens -/

/-- A space, a tab, a newline or a carriage return. -/
def isWhitespace (c : UInt8) : Bool := c == 32 || c == 9 || c == 10 || c == 13

def skipWhitespace : Bytes → Bytes
  | [] => []
  | c :: rest => if isWhitespace c then skipWhitespace rest else c :: rest

/-- Why the input does not go on as it should: it ends, or something else stands there. -/
def unexpected : Bytes → ReasonCode
  | [] => .rejectedTruncatedInput
  | _ :: _ => .rejectedMalformedDocument

def consume (expected : UInt8) (input : Bytes) : Except ReasonCode Bytes :=
  if input.head? = some expected then .ok (input.drop 1) else .error (unexpected input)

def literal (word input : Bytes) : Except ReasonCode Bytes :=
  if word.isPrefixOf input then .ok (input.drop word.length) else .error .rejectedMalformedDocument

/-- Value of a row of digits. Nineteen of them stay below 2^64. -/
def digitsValue (digits : Bytes) : Nat := digits.foldl (fun value digit => value * 10 + (digit.toNat - 48)) 0

/-- `parse_integer`. -/
def parseInteger (input : Bytes) : Except ReasonCode (JsonValue × Bytes) :=
  let negative := input.head? = some 45
  let unsigned := if negative then input.drop 1 else input
  let digits := unsigned.takeWhile isDigit
  let rest := unsigned.dropWhile isDigit
  if digits = [] then .error .rejectedMalformedDocument
  else if digits.length > 1 ∧ digits.head? = some 48 then .error .rejectedMalformedDocument
  -- a fraction or an exponent
  else if rest.head? = some 46 ∨ rest.head? = some 101 ∨ rest.head? = some 69 then .error .rejectedMalformedDocument
  else if digits.length > 19 then .error .rejectedOversizedInput
  else if negative then
    if digitsValue digits > 2 ^ 63 then .error .rejectedOversizedInput
    else .ok (.integer (Int64.ofInt (-(digitsValue digits : Int))), rest)
  else if digitsValue digits > 2 ^ 63 - 1 then .error .rejectedOversizedInput
  else .ok (.integer (Int64.ofNat (digitsValue digits)), rest)

/-! ### Strings -/

def hexValue (c : UInt8) : Option UInt32 :=
  if 48 ≤ c ∧ c ≤ 57 then some (c - 48).toUInt32
  else if 97 ≤ c ∧ c ≤ 102 then some (c - 97 + 10).toUInt32
  else if 65 ≤ c ∧ c ≤ 70 then some (c - 65 + 10).toUInt32
  else none

/-- `parse_hex4`. -/
def parseHex4 (input : Bytes) : Except ReasonCode (UInt32 × Bytes) :=
  if input.length < 4 then .error .rejectedTruncatedInput
  else match (input.take 4).mapM hexValue with
    | none => .error .rejectedMalformedDocument
    | some digits => .ok (digits.foldl (fun value digit => (value <<< 4) ||| digit) 0, input.drop 4)

/-- The escapes of one letter: quote, backslash, slash, and the control characters b, f, n, r and t. -/
def plainEscape (c : UInt8) : Option UInt8 :=
  if c = 34 then some 34
  else if c = 92 then some 92
  else if c = 47 then some 47
  else if c = 98 then some 8
  else if c = 102 then some 12
  else if c = 110 then some 10
  else if c = 114 then some 13
  else if c = 116 then some 9
  else none

/-- The code point after `\u`. The first half of a surrogate pair takes a second escape with it. -/
def parseCodePoint (input : Bytes) : Except ReasonCode (UInt32 × Bytes) := do
  let (high, rest) ← parseHex4 input
  if 0xD800 ≤ high ∧ high ≤ 0xDBFF then
    if [92, 117].isPrefixOf rest then
      let (low, rest) ← parseHex4 (rest.drop 2)
      if low < 0xDC00 ∨ low > 0xDFFF then .error .rejectedInvalidUtf8
      else .ok ((0x10000 : UInt32) + ((high - 0xD800) <<< 10) + (low - 0xDC00), rest)
    else .error .rejectedInvalidUtf8
  else if 0xDC00 ≤ high ∧ high ≤ 0xDFFF then .error .rejectedInvalidUtf8
  else .ok (high, rest)

/-- What follows a backslash, appended to the string so far. -/
def parseEscape (out : Bytes) : Bytes → Except ReasonCode (Bytes × Bytes)
  | [] => .error .rejectedTruncatedInput
  | c :: rest =>
    match plainEscape c with
    | some plain => .ok (out ++ [plain], rest)
    | none =>
      if c = 117 then do
        let (codePoint, rest) ← parseCodePoint rest
        .ok (appendUtf8 out codePoint, rest)
      else .error .rejectedMalformedDocument

/-- The characters up to the closing quote. Each round takes at least one off the input, so its length bounds the rounds.
    The bound on the string is looked at after an escape only. -/
def parseCharacters (limits : JsonLimits) : Nat → Bytes → Bytes → Except ReasonCode (Bytes × Bytes)
  | 0, _, _ => .error .rejectedTruncatedInput
  | _ + 1, _, [] => .error .rejectedTruncatedInput
  | fuel + 1, out, c :: rest =>
    if c = 34 then .ok (out, rest)
    else if c < 0x20 then .error .rejectedMalformedDocument
    else if c ≠ 92 then parseCharacters limits fuel (out ++ [c]) rest
    else do
      let (out, rest) ← parseEscape out rest
      if out.length > limits.maxStringBytes.toNat then .error .rejectedOversizedInput
      else parseCharacters limits fuel out rest

/-- `parse_string`. -/
def parseString (limits : JsonLimits) (input : Bytes) : Except ReasonCode (Bytes × Bytes) := do
  let rest ← consume 34 input
  parseCharacters limits rest.length [] rest

/-! ### Values -/

/-- What a value leaves: the rest of the input and the number of values so far. -/
abbrev ValueParser := Bytes → Nat → Except ReasonCode (JsonValue × Bytes × Nat)

/-- After an element: a comma goes on (`true`), the closing bracket ends the collection. -/
def parseSeparator (closing : UInt8) (input : Bytes) : Except ReasonCode (Bool × Bytes) :=
  if input.head? = some 44 then .ok (true, input.drop 1)
  else if input.head? = some closing then .ok (false, input.drop 1)
  else .error (unexpected input)

/-- The members of an object after the first brace or a comma. Each round takes at least the quotes of a key off the
    input. -/
def parseMembers (limits : JsonLimits) (value : ValueParser) :
    Nat → List (Bytes × JsonValue) → ValueParser
  | 0, _, _, _ => .error .rejectedTruncatedInput
  | fuel + 1, members, input, items => do
    let (key, rest) ← parseString limits (skipWhitespace input)
    if key.length > limits.maxKeyBytes.toNat then .error .rejectedOversizedInput
    else
      let rest ← consume 58 (skipWhitespace rest)
      let (member, rest, items) ← value (skipWhitespace rest) items
      if (SortedMap.lookupIn key members).isSome then .error .rejectedDuplicateKey
      else
        let members := SortedMap.insertIn key member members
        let (more, rest) ← parseSeparator 125 (skipWhitespace rest)
        if more then parseMembers limits value fuel members rest items
        else .ok (.object members, rest, items)

/-- The elements of an array after the first bracket or a comma. -/
def parseElements (value : ValueParser) : Nat → List JsonValue → ValueParser
  | 0, _, _, _ => .error .rejectedTruncatedInput
  | fuel + 1, elements, input, items => do
    let (element, rest, items) ← value (skipWhitespace input) items
    let elements := elements ++ [element]
    let (more, rest) ← parseSeparator 93 (skipWhitespace rest)
    if more then parseElements value fuel elements rest items
    else .ok (.array elements, rest, items)

/-- `parse_object`, after the opening brace. -/
def parseObject (limits : JsonLimits) (value : ValueParser) (input : Bytes) (items : Nat) :
    Except ReasonCode (JsonValue × Bytes × Nat) :=
  let rest := skipWhitespace input
  if rest.head? = some 125 then .ok (.object [], rest.drop 1, items)
  else parseMembers limits value (rest.length + 1) [] rest items

/-- `parse_array`, after the opening bracket. -/
def parseArray (value : ValueParser) (input : Bytes) (items : Nat) : Except ReasonCode (JsonValue × Bytes × Nat) :=
  let rest := skipWhitespace input
  if rest.head? = some 93 then .ok (.array [], rest.drop 1, items)
  else parseElements value (rest.length + 1) [] rest items

/-- `parse_value`. The first argument counts the levels down: at depth `d` it is `max_depth + 1 - d`, zero where the
    source finds the nesting too deep. -/
def parseValue (limits : JsonLimits) : Nat → ValueParser
  | 0, _, _ => .error .rejectedNestingTooDeep
  | _ + 1, [], _ => .error .rejectedTruncatedInput
  | levels + 1, c :: rest, items =>
    if items ≥ limits.maxItems.toNat then .error .rejectedOversizedInput
    else if c = 123 then parseObject limits (parseValue limits levels) rest (items + 1)
    else if c = 91 then parseArray (parseValue limits levels) rest (items + 1)
    else if c = 34 then do
      let (value, rest) ← parseString limits (c :: rest)
      .ok (.string value, rest, items + 1)
    else if c = 116 then do
      let rest ← literal (text "true") (c :: rest)
      .ok (.boolean true, rest, items + 1)
    else if c = 102 then do
      let rest ← literal (text "false") (c :: rest)
      .ok (.boolean false, rest, items + 1)
    else if c = 110 then do
      let rest ← literal (text "null") (c :: rest)
      .ok (.null, rest, items + 1)
    else do
      let (value, rest) ← parseInteger (c :: rest)
      .ok (value, rest, items + 1)

/-- `parse_document`. -/
def parseDocument (limits : JsonLimits) (document : Bytes) : Except ReasonCode JsonValue :=
  if document.length > limits.maxBytes.toNat then .error .rejectedOversizedInput
  else if !validUtf8 document then .error .rejectedInvalidUtf8
  else do
    let (value, rest, _) ← parseValue limits (limits.maxDepth.toNat + 1) (skipWhitespace document) 0
    if skipWhitespace rest ≠ [] then .error .rejectedTrailingGarbage else .ok value

end Json

/-- `JsonValue::parse`. -/
def JsonValue.parse (document : Bytes) (limits : JsonLimits) : Outcome JsonValue :=
  match Json.parseDocument limits document with
  | .error reason => .failure reason (text "canonical JSON rejected")
  | .ok value => .success value .ok

end Ocreg
