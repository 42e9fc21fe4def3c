import ApiKeys.Text.CodePage.List
import ApiKeys.Text.EastAsian
import ApiKeys.Text.Escaped
import ApiKeys.Text.HostName
import ApiKeys.Text.Utf7
import ApiKeys.Text.Utf8

/-!
# Encodings of files

A file of text is in one of some encodings, each of which goes by several names. In a name only
letters, digits and points count; what stands between them separates words, and case makes no
difference. Where the units of an encoding have more than one octet, a file may have to start with a
mark of their order (`Encoding.lacksMark?`).
-/

namespace ApiKeys

/-- How a file of text is encoded. -/
inductive Encoding where
  | utf8
  /-- UTF-8, perhaps after the mark of its byte order. -/
  | markedUtf8
  | utf7
  /-- Units of two octets; without an order, after the mark of it. -/
  | utf16 (order : Option OctetOrder)
  /-- Units of four octets; without an order, after the mark of it. -/
  | utf32 (order : Option OctetOrder)
  | ascii
  | page (p : CodePage)
  | eastAsian (c : EastAsianCode)
  | escaped (form : Escaped.Form)
  | punycode
  | hostName
  /-- The encoding that has no texts. -/
  | undefined
  deriving DecidableEq

namespace Encoding

/-- The encodings. -/
def list : List Encoding :=
  [utf8, markedUtf8, utf7, utf16 none, utf16 (some .leastFirst), utf16 (some .greatestFirst),
    utf32 none, utf32 (some .leastFirst), utf32 (some .greatestFirst), ascii] ++
    CodePage.list.map page ++ EastAsianCode.list.map eastAsian ++
    [escaped .full, escaped .raw, punycode, hostName, undefined]

/-! ## Names -/

/-- The name of an encoding, with a low line between words. -/
def title : Encoding → String
  | utf8 => "utf_8"
  | markedUtf8 => "utf_8_sig"
  | utf7 => "utf_7"
  | utf16 order => "utf_16" ++ (order.map fun o => "_" ++ o.title).getD ""
  | utf32 order => "utf_32" ++ (order.map fun o => "_" ++ o.title).getD ""
  | ascii => CodePage.ascii.title
  | page p => p.title
  | eastAsian c => c.title
  | escaped .full => "unicode_escape"
  | escaped .raw => "raw_unicode_escape"
  | punycode => "punycode"
  | hostName => "idna"
  | undefined => "undefined"

/-- The other names of an encoding. -/
def otherNames : Encoding → List String
  | utf8 => ["utf8", "u8", "utf", "utf8_ucs2", "utf8_ucs4", "cp65001"]
  | utf7 => ["u7", "utf7", "unicode_1_1_utf_7"]
  | utf16 none => ["u16", "utf16"]
  | utf16 (some .leastFirst) => ["unicodelittleunmarked", "utf_16le"]
  | utf16 (some .greatestFirst) => ["unicodebigunmarked", "utf_16be"]
  | utf32 none => ["u32", "utf32"]
  | utf32 (some o) => ["utf_32" ++ o.title]
  | ascii => CodePage.ascii.otherNames
  | page p => p.otherNames
  | eastAsian c => c.otherNames
  | markedUtf8 | escaped _ | punycode | hostName | undefined => []

/-- The names of ways to recode octets that make no text. -/
def titlesOfOctetCodes : List String :=
  ["base64_codec", "bz2_codec", "hex_codec", "quopri_codec", "rot_13", "uu_codec", "zlib_codec"]

/-- The other names of those. -/
def otherNamesOfOctetCodes : List String :=
  ["base64", "base_64", "bz2", "hex", "quopri", "quoted_printable", "quotedprintable", "rot13",
    "uu", "zip", "zlib"]

/-- The words of a name with a low line between them. `started` once a character has been kept;
`pending` when something has been skipped since. -/
def wordsOf : Text → (started pending : Bool) → List Char
  | [], _, _ => []
  | .surrogate _ :: t, started, _ => wordsOf t started true
  | .char c :: t, started, pending =>
    if c.isAlphanum || c = '.' then
      (if started && pending then ['_', c.toLower] else [c.toLower]) ++ wordsOf t true false
    else wordsOf t started true

/-- A name is among some: it is the title, or one of the other names, where points may also count as
ends of words. -/
def isNamed (name : Text) (title : String) (otherNames : List String) : Bool :=
  let words := wordsOf name false false
  let pointless := words.map fun c => if c = '.' then '_' else c
  String.ofList words = title || otherNames.contains (String.ofList words) ||
    otherNames.contains (String.ofList pointless)

/-- The encoding that goes by a name. -/
def ofName? (name : Text) : Option Encoding :=
  list.find? fun e => isNamed name e.title e.otherNames

/-- The name is that of a code for octets. -/
def isOctetCode (name : Text) : Bool :=
  titlesOfOctetCodes.any fun title => isNamed name title otherNamesOfOctetCodes

/-! ## Texts -/

/-- The octets without the mark of byte order in UTF-8. -/
def dropMark : List UInt8 → List UInt8
  | 0xef :: 0xbb :: 0xbf :: s => s
  | s => s

/-- The order that a mark at the start shows, where units have so many octets. -/
def markedOrder? (width : Nat) (octets : List UInt8) : Option OctetOrder :=
  [OctetOrder.leastFirst, .greatestFirst].find? fun o =>
    octets.length ≥ width && o.number (octets.take width) = octetOrderMark

/-- The text of units of several octets, in an order or in the one that the mark shows. -/
def decodeUnits (width : Nat) (order : Option OctetOrder) (octets : List UInt8)
    (decodeFrom : OctetOrder → Nat → List UInt8 → Except Undecodable Text) :
    Except Undecodable Text :=
  match order, markedOrder? width octets with
  | some o, _ => decodeFrom o 0 octets
  | none, some o => decodeFrom o width (octets.drop width)
  | none, none => decodeFrom .leastFirst 0 octets

/-- The text of octets in an encoding. -/
def decode (e : Encoding) (octets : List UInt8) : Except DecodingFault Text :=
  match e with
  | utf8 => (Text.ofUtf8 octets).mapError .octets
  | markedUtf8 => (Text.ofUtf8 (dropMark octets)).mapError .octets
  | utf7 => (Utf7.decode octets).mapError .octets
  | utf16 order => (decodeUnits 2 order octets Utf16.decodeFrom).mapError .octets
  | utf32 order => (decodeUnits 4 order octets Utf32.decodeFrom).mapError .octets
  | ascii =>
    (CodePage.ascii.decodeAs "ascii" "ordinal not in range(128)" octets).mapError .octets
  | page p => (p.decode octets).mapError .octets
  | eastAsian c => c.decode octets
  | escaped form => (Escaped.decode form octets).mapError .octets
  | punycode => Punycode.decode octets
  | hostName => HostName.decode octets
  | undefined => .error .undefined

/-- The name of the encoding where the octets should have started with a mark and did not. -/
def lacksMark? (e : Encoding) (octets : List UInt8) : Option String :=
  match e with
  | utf16 none =>
    if octets.length < 2 ∨ (markedOrder? 2 octets).isSome then none else some "UTF-16"
  | utf32 none =>
    if octets.length < 4 ∨ (markedOrder? 4 octets).isSome then none else some "UTF-32"
  | _ => none

end Encoding

end ApiKeys
