import ApiKeys.Text.Fault
import ApiKeys.Value.Literal

/-!
# Faults of settings

Everything that stops the settings from being loaded, but for values that no setting can take. The
variables of a program take texts only, and not every text (`VariableFault`); a settings file may
not be found or read (`FileFault`); the arguments may not say how to look settings up
(`SearchFault`); and the command line may not be understood (`CommandLineFault`).
-/

namespace ApiKeys.Settings

/-- What is wrong with the name or the value of a variable. -/
inductive VariableFault where
  /-- It is no text, but a value of the given kind. -/
  | notText (kind : String)
  /-- It has code points without octets. -/
  | unencodable (u : Unencodable)
  /-- It holds the zero character. -/
  | zero
  /-- The name holds an equals sign. -/
  | equalsSign
  /-- The name is empty. -/
  | nameless

/-- The text of a fault of a variable. -/
def VariableFault.message : VariableFault → Text
  | notText kind => "str expected, not " ++ kind
  | unencodable u => u.message
  | zero => "embedded null byte"
  | equalsSign => "illegal environment variable name"
  | nameless => "[Errno 22] Invalid argument"

/-! ## Files -/

/-- Why a settings file is not found or not read. -/
inductive FileFault where
  /-- A value of the given kind lists no files. -/
  | unlistable (kind : String)
  /-- A value of the given kind names no file. -/
  | notPath (kind : String)
  /-- Octets name no file. -/
  | octetPath
  /-- A path starts at the home of nobody. -/
  | homeless
  /-- The name of a user holds the zero character. -/
  | userZero
  /-- A path, or a step of it, is too long. -/
  | tooLong (path : Text)
  /-- A value of the given kind says nothing about the depth of a search. -/
  | depthKind (kind : String)
  /-- The depth of a search is no whole number. -/
  | depthFraction
  /-- A file stands in the place of a directory of secrets. -/
  | notDirectory
  /-- A value of the given kind names no encoding. -/
  | encodingType (kind : String)
  /-- The name of an encoding holds the zero character. -/
  | encodingZero
  /-- The name of an encoding or of a user has code points without octets. -/
  | unencodable (u : Unencodable)
  /-- No encoding has the name. -/
  | unknownEncoding (name : Text)
  /-- The name is that of a code for octets. -/
  | octetCode (name : Text)
  /-- The octets of the file have no text. -/
  | undecodable (f : DecodingFault)
  /-- The file lacks the mark of the order of its octets. -/
  | unmarked (encoding : String)

/-- What is wrong with octets that have no text. -/
def decodingMessage : DecodingFault → Text
  | .octets u => u.message
  | .undefined => "undefined encoding"
  | .unreadable => "internal codec error"
  | .incompleteNumber => "incomplete punicode string"
  | .notDigit c => "Invalid extended code point '" ++ Text.ofChars [c, '\'']
  | .beyondUnicode n => "Invalid character U+" ++ Text.ofChars (Nat.toDigits 16 n)
  | .inLabel f =>
    "decoding with 'punycode' codec failed (UnicodeError: " ++ decodingMessage f ++ ")"
  | .labelLength => "label empty or too long"
  | .labelDirection rule => "Violation of BIDI requirement " ++ toString rule
  | .labelMark => "Label starts with ACE prefix"
  | .labelCharacter p => "Invalid character " ++ Text.ofChars (Value.literalString [p])
  | .labelText label written =>
    let literal := fun t : Text =>
      Text.ofChars (Value.literalBytes (t.map fun p => UInt8.ofNat p.toNat))
    "('IDNA does not round-trip', " ++ literal label ++ ", " ++ literal written ++ ")"

/-- The text of a fault of a file. -/
def FileFault.message : FileFault → Text
  | unlistable kind => "'" ++ kind ++ "' object is not iterable"
  | notPath kind => "expected str, bytes or os.PathLike object, not " ++ kind
  | octetPath =>
    "argument should be a str object or an os.PathLike object returning str, not <class 'bytes'>"
  | homeless => "Could not determine home directory."
  | userZero => "embedded null byte"
  | tooLong path => "[Errno 36] File name too long: " ++ Text.ofChars (Value.literalString path)
  | depthKind kind => "'<=' not supported between instances of '" ++ kind ++ "' and 'int'"
  | depthFraction => "'float' object cannot be interpreted as an integer"
  | notDirectory => "secrets_dir must reference a directory, not a file"
  | encodingType kind => "open() argument 'encoding' must be str or None, not " ++ kind
  | encodingZero => "embedded null character"
  | unencodable u => u.message
  | unknownEncoding name => "unknown encoding: " ++ name
  | octetCode name =>
    "'" ++ name ++ ("' is not a text encoding; " ++
      "use codecs.open() to handle arbitrary codecs" : String)
  | undecodable f => decodingMessage f
  | unmarked encoding => encoding ++ " stream does not start with BOM"

/-! ## Arguments -/

/-- Why arguments do not say how to look settings up. -/
inductive SearchFault where
  /-- An argument goes by the name that stands for the settings themselves. -/
  | reserved (name : String)
  /-- Nothing can be taken away from a value of the given kind. -/
  | uncountable (kind : String)
  /-- A value of the given kind has no length. -/
  | unmeasurable (kind : String)
  /-- The name of the variable of a setting cannot be made. -/
  | nameless (setting : String)
  /-- A value of the given kind has no lower case. -/
  | caseless (kind : String)
  /-- No text starts with a value of the given kind. -/
  | notStem (kind : String)
  /-- A value of the given kind is no pair. -/
  | notPair (kind : String)
  /-- A pair has too few items. -/
  | tooFew (count : Nat)
  /-- A pair has too many items. -/
  | tooMany
  /-- A value of the given kind lists no sources. -/
  | notSources (kind : String)
  /-- A value of the given kind is no source. -/
  | notSource (kind : String)

/-- The text of a fault of arguments. -/
def SearchFault.message : SearchFault → Text
  | reserved name => "BaseSettings.__init__() got multiple values for argument '" ++ name ++ "'"
  | uncountable kind => "unsupported operand type(s) for -: '" ++ kind ++ "' and 'int'"
  | unmeasurable kind => "object of type '" ++ kind ++ "' has no len()"
  | nameless setting =>
    "error getting value for field \"" ++ setting ++ "\" from source \"EnvSettingsSource\""
  | caseless kind => "'" ++ kind ++ "' object has no attribute 'lower'"
  | notStem kind => "startswith first arg must be str or a tuple of str, not " ++ kind
  | notPair kind => "cannot unpack non-iterable " ++ kind ++ " object"
  | tooFew count => "not enough values to unpack (expected 2, got " ++ toString count ++ ")"
  | tooMany => "too many values to unpack (expected 2)"
  | notSources kind => "'" ++ kind ++ "' object is not iterable"
  | notSource kind => "'" ++ kind ++ "' object is not callable"

/-! ## The command line -/

/-- Why a command line gives no settings. -/
inductive CommandLineFault where
  /-- What stands before the names of options is no sequence of words. -/
  | badStem (stem : Text)
  /-- A value of the given kind cannot stand before the names of options. -/
  | stemKind (kind : String)
  /-- There is no character that marks options. -/
  | noMark
  /-- A value of the given kind has no characters that mark options. -/
  | noMarks (kind : String)
  /-- A value of the given kind is no command line. -/
  | notWords (kind : String)
  /-- A value of the given kind is no word of a command line. -/
  | notWord (kind : String)
  /-- Octets are no word of a command line. -/
  | octetWord
  /-- A value of the given kind has no first item. -/
  | notSubscriptable (kind : String)
  /-- A value by names has no first item. -/
  | noFirst
  /-- A value of the given kind is looked for in a text. -/
  | notInText (kind : String)
  /-- A value of the given kind cannot be looked up. -/
  | unhashable (kind : String)
  /-- The word at a place among those left over is no text, but of the given kind. -/
  | notText (place : Nat) (kind : String)
  /-- Two options have one spelling. -/
  | conflict (options spelling : Text)
  /-- The words make no sense, which is reported. -/
  | usage (message : Text)
  /-- The program ends with a code. -/
  | ended (code : Nat)

/-- The text of a fault of a command line. -/
def CommandLineFault.message : CommandLineFault → Text
  | badStem stem => "CLI settings source prefix is invalid: " ++ stem
  | stemKind kind => "'" ++ kind ++ "' object has no attribute 'startswith'"
  | noMark => "string index out of range"
  | noMarks kind => "argument of type '" ++ kind ++ "' is not iterable"
  | notWords kind =>
    "cli_parse_args must be a list or tuple of strings, received <class '" ++ kind ++ "'>"
  | notWord kind => "expected string or bytes-like object, got '" ++ kind ++ "'"
  | octetWord => "cannot use a string pattern on a bytes-like object"
  | notSubscriptable kind => "'" ++ kind ++ "' object is not subscriptable"
  | noFirst => "0"
  | notInText kind => "'in <string>' requires string as left operand, not " ++ kind
  | unhashable kind => "unhashable type: '" ++ kind ++ "'"
  | notText place kind =>
    "sequence item " ++ toString place ++ ": expected str instance, " ++ kind ++ " found"
  | conflict options spelling =>
    "argument " ++ options ++ ": conflicting option string: " ++ spelling
  | usage message => "error parsing CLI: " ++ message
  | ended code => toString code

end ApiKeys.Settings
