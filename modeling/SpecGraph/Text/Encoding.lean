import SpecGraph.Text.CodePoints

/-!
# Encodings

A file holds bytes, and an encoding makes them a text. All files here are written in UTF-8; read in
another encoding the same bytes are another text, or none. An encoding is named in any mixture of cases,
and any marks may stand between the parts of its name.
-/

namespace SpecGraph

namespace Text

/-- How bytes stand for characters. -/
inductive Encoding where
  | utf8
  /-- UTF-8 with a mark at the start that is no part of the text. -/
  | markedUtf8
  | ascii
  /-- Every byte is the character of its number. -/
  | latin
  /-- As `latin`, with other characters for the controls from 128 on. -/
  | western
  /-- Units of two bytes, whose order a mark at the start tells. -/
  | utf16
  | littleUtf16
  | bigUtf16
deriving DecidableEq, Inhabited

/-- Why bytes are no text. -/
inductive DecodingFault where
  /-- There is no encoding of this name. -/
  | unknownEncoding
  /-- The bytes stand for no characters. -/
  | badBytes
  /-- No mark tells the order of bytes. -/
  | noByteOrder
deriving DecidableEq, Inhabited

namespace Encoding

/-- The parts of a name with underscores between them, given whether a mark came before. -/
def joinParts (started marked : Bool) : List Char → List Char
  | [] => []
  | character :: rest =>
      if character.isAlphanum || character == '.' then
        (if started && marked then ['_', character.toLower] else [character.toLower]) ++
          joinParts true false rest
      else joinParts started true rest

/-- The encoding of a name. -/
def ofName? (name : String) : Option Encoding :=
  let plain := String.ofList (joinParts false false name.toList)
  if ["u8", "utf", "utf8", "utf_8", "utf8_ucs2", "utf8_ucs4", "cp65001"].contains plain then some utf8
  else if plain == "utf_8_sig" then some markedUtf8
  else if ["646", "ansi_x3.4_1968", "ansi_x3_4_1968", "ansi_x3.4_1986", "ascii", "cp367", "csascii",
      "ibm367", "iso646_us", "iso_646.irv_1991", "iso_ir_6", "us", "us_ascii"].contains plain then
    some ascii
  else if ["8859", "cp819", "csisolatin1", "ibm819", "iso8859", "iso8859_1", "iso_8859_1",
      "iso_8859_1_1987", "iso_ir_100", "l1", "latin", "latin1", "latin_1"].contains plain then
    some latin
  else if ["1252", "cp1252", "windows_1252"].contains plain then some western
  else if ["u16", "utf16", "utf_16"].contains plain then some utf16
  else if ["unicodelittleunmarked", "utf_16le", "utf_16_le"].contains plain then some littleUtf16
  else if ["unicodebigunmarked", "utf_16be", "utf_16_be"].contains plain then some bigUtf16
  else none

/-- The numbers of the characters from 128 to 159 in `western`, or zero where there is none. -/
def westernCodes : List Nat := [
  0x20ac, 0, 0x201a, 0x192, 0x201e, 0x2026, 0x2020, 0x2021, 0x2c6, 0x2030, 0x160, 0x2039, 0x152, 0,
  0x17d, 0, 0, 0x2018, 0x2019, 0x201c, 0x201d, 0x2022, 0x2013, 0x2014, 0x2dc, 0x2122, 0x161, 0x203a,
  0x153, 0, 0x17e, 0x178]

/-- The character of a byte in `western`. -/
def westernCharacter? (byte : UInt8) : Option Char :=
  if 128 ≤ byte.toNat ∧ byte.toNat < 160 then
    match westernCodes.getD (byte.toNat - 128) 0 with
    | 0 => none
    | code => some (Char.ofNat code)
  else some (Char.ofNat byte.toNat)

/-- The units of two bytes, the lesser half of which comes first or last. -/
def units (isLittle : Bool) : List UInt8 → Option (List Nat)
  | [] => some []
  | [_] => none
  | first :: second :: rest =>
      let unit :=
        if isLittle then first.toNat + 256 * second.toNat else 256 * first.toNat + second.toNat
      (units isLittle rest).map (unit :: ·)

/-- The characters of units, where two halves of a pair are one. -/
def ofUnits : List Nat → Option (List Char)
  | [] => some []
  | unit :: rest =>
      if isHighHalf unit then
        match rest with
        | low :: rest =>
            if isLowHalf low then
              let code := 0x10000 + (unit - 0xD800) * 0x400 + (low - 0xDC00)
              (ofUnits rest).map (Char.ofNat code :: ·)
            else none
        | [] => none
      else if isLowHalf unit then none
      else (ofUnits rest).map (Char.ofNat unit :: ·)

/-- The characters that bytes are in an encoding. -/
def decodeBytes (encoding : Encoding) (bytes : List UInt8) : Option (List Char) :=
  match encoding with
  | latin => some (bytes.map fun byte => Char.ofNat byte.toNat)
  | western => bytes.mapM westernCharacter?
  | bigUtf16 => (units false bytes).bind ofUnits
  | _ => (units true bytes).bind ofUnits

/-- What the bytes of a text in UTF-8 are in an encoding. -/
def decode (encoding : Encoding) (text : String) : Except DecodingFault String :=
  let decoded : Except DecodingFault String :=
    match decodeBytes encoding (toPlain text).toUTF8.toList with
    | some characters => .ok (ofPlain (String.ofList characters))
    | none => .error .badBytes
  match encoding with
  | utf8 => .ok text
  | markedUtf8 =>
      match text.toList with
      | character :: rest =>
          .ok (if character.toNat = 0xFEFF then String.ofList rest else text)
      | [] => .ok text
  | ascii => if text.toList.all fun character => character.toNat < 128 then .ok text else .error .badBytes
  | utf16 =>
      match decoded with
      | .ok text => if text == "" then .ok text else .error .noByteOrder
      | fault => fault
  | _ => decoded

end Encoding

end Text

end SpecGraph
