import ApiKeys.Key.Attribute
import ApiKeys.Rejection
import ApiKeys.Settings.Fault

/-!
# Failures

All the ways in which an operation on keys can end without a result: a request is refused, a stored
record or the settings are malformed, a date falls out of the calendar, the clock or the source of
draws has nothing more to give. Where the text of a failure would show a value that has none, that
is the failure instead.
-/

namespace ApiKeys

/-- What is wrong with a part of stored data or settings. -/
inductive Issue.Kind where
  | missing
  | modelType
  | stringType
  | stringUnicode
  | stringTooShort
  | stringTooLong
  | valueError
  | listType
  | enum
  | dateTimeType
  | dateTimeFromDateParsing
  | dateTimeParsing
  | boolType
  | boolParsing
  | literalError
  | frozenField
  deriving DecidableEq

/-- The code of a kind of issue. -/
def Issue.Kind.code : Issue.Kind → String
  | missing => "missing"
  | modelType => "model_type"
  | stringType => "string_type"
  | stringUnicode => "string_unicode"
  | stringTooShort => "string_too_short"
  | stringTooLong => "string_too_long"
  | valueError => "value_error"
  | listType => "list_type"
  | enum => "enum"
  | dateTimeType => "datetime_type"
  | dateTimeFromDateParsing => "datetime_from_date_parsing"
  | dateTimeParsing => "datetime_parsing"
  | boolType => "bool_type"
  | boolParsing => "bool_parsing"
  | literalError => "literal_error"
  | frozenField => "frozen_field"

/-- Where an issue lies: in a member, or at a position of the list in it. -/
inductive Issue.Step where
  | member (name : Text)
  | index (i : Nat)
  deriving DecidableEq

/-- One thing that is wrong, and where. -/
structure Issue where
  kind : Issue.Kind
  place : List Issue.Step
  deriving DecidableEq

/-- Why an operation has no result. -/
inductive Failure where
  /-- A request is refused. -/
  | rejected (r : Rejection)
  /-- A request is no object, but a value of the given kind. -/
  | notObject (kind : String)
  /-- No field of requests has the name, which is shown. -/
  | unknownField (shown : Text)
  /-- A value has no text, and what should have shown it cannot. -/
  | unwritten (u : Unwritten)
  /-- A date lies outside the years 1 to 9999. -/
  | dateOutOfRange
  /-- The clock has no more readings. -/
  | clockExhausted
  /-- The source has no more draws. -/
  | drawsExhausted
  /-- Stored data or settings are malformed. -/
  | malformed (issues : List Issue)
  /-- An attribute of a record is at fault. -/
  | attributeFault (f : AttributeFault)
  /-- No log level has the name. -/
  | unknownLevel (name : Text)
  /-- A value, which is shown, is of no kind that log levels have. -/
  | levelType (shown : Text)
  /-- A value of the given kind may change and names nothing. -/
  | changeable (kind : String)
  /-- A value of the given kind has no first characters. -/
  | indivisible (kind : String)
  /-- A value of the given kind is no text, and the store files texts only. -/
  | unfiled (kind : String)
  /-- A value of the given kind names no member. -/
  | notName (kind : String)
  /-- A value of the given kind is no time and cannot be compared with one. -/
  | incomparable (sign kind : String)
  /-- A value of the given kind is no time and cannot be written as one. -/
  | unwritable (kind : String)
  /-- A time lies outside the years 1 to 9999 and cannot be written. -/
  | unwritableTime
  /-- A value is nested too deeply to be written. -/
  | tooDeep
  /-- Octets have no text. -/
  | undecodable (u : Undecodable)
  /-- Code points have no octets. -/
  | unencodable (u : Unencodable)
  /-- A variable cannot be set. -/
  | unsettable (f : Settings.VariableFault)
  /-- The settings file cannot be read. -/
  | unreadable (f : Settings.FileFault)
  /-- The arguments do not say how to look settings up. -/
  | unsearchable (f : Settings.SearchFault)
  /-- The command line gives no settings. -/
  | unparsable (f : Settings.CommandLineFault)

namespace Failure

/-- The text of a failure. Malformed data is described by its issues alone, and what the store does
not file by its kind. -/
def message? : Failure → Option Text
  | rejected r => some r.message
  | notObject kind => some ("API key input must be a mapping, got " ++ kind)
  | unknownField shown => some shown
  | unwritten u => some u.message
  | dateOutOfRange => some "date value out of range"
  | clockExhausted => some "clock exhausted"
  | drawsExhausted => some "random source exhausted"
  | malformed _ => none
  | attributeFault f => some f.message
  | unknownLevel name => some ("Unknown level: " ++ Text.ofChars (Value.literalString name))
  | levelType shown => some ("Level not an integer or a valid string: " ++ shown)
  | changeable kind => some ("unhashable type: '" ++ kind ++ "'")
  | indivisible kind => some ("'" ++ kind ++ "' object is not subscriptable")
  | unfiled _ => none
  | notName kind => some ("\x60" ++ kind ++ "\x60 not valid as object key")
  | incomparable sign kind =>
    some ("'" ++ sign ++ "' not supported between instances of '" ++ kind ++
      "' and 'datetime.datetime'")
  | unwritable kind =>
    some ("Error calling function `serialize_timestamp`: AttributeError: '" ++ kind ++
      "' object has no attribute 'astimezone'")
  | unwritableTime =>
    some "Error calling function `serialize_timestamp`: OverflowError: date value out of range"
  | tooDeep => some "Maximum serialization depth exceeded"
  | undecodable u => some u.message
  | unencodable u => some u.message
  | unsettable f => some f.message
  | unreadable f => some f.message
  | unsearchable f => some f.message
  | unparsable f => some f.message

/-- The failure that shows something, or that it cannot be shown. -/
def showing {α : Type} (shown : Except Unwritten α) (failure : α → Failure) : Failure :=
  match shown with
  | .ok a => failure a
  | .error u => .unwritten u

end Failure

/-- Why a value is refused for a field. -/
def Field.refusal (room : Room) (f : Field) (v : Value) : Failure :=
  .showing (Rejection.refuse room f v) .rejected

@[simp] theorem Field.refusal_text (room : Room) (f : Field) (t : Text) :
    f.refusal room (.text t) = .rejected (.ofText f t) := by
  simp [refusal, Failure.showing]

/-- The part of a value that stands in front of it as an identifier: its first eight characters,
octets or items. -/
def Value.front : Value → Except Failure Value
  | .text t => .ok (.text (shownId t))
  | .bytes octets => .ok (.bytes (octets.take 8))
  | .list items => .ok (.list (items.take 8))
  | .tuple items => .ok (.tuple (items.take 8))
  | .object _ => .error (.changeable "slice")
  | v => .error (.indivisible v.kind)

/-- The part of a value that is shown where it stands for an identifier. -/
def Rejection.shownPart (room : Room) (v : Value) : Except Failure Text := do
  (Value.plain room.literal (← v.front)).mapError .unwritten

end ApiKeys
