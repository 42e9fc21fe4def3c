import ApiKeys.Value.Basic

/-!
# Attributes of a record

What may be wrong with an attribute of a record: with its name, with what it is given, or with what
stands in the place of it when it is used.
-/

namespace ApiKeys

/-- What is wrong with an attribute. -/
inductive AttributeFault where
  /-- A value of the given kind names no attribute. -/
  | notName (kind : String)
  /-- A record has no part with the name. -/
  | unknown (name : Text)
  /-- The name stands for something about a record that can only be read. -/
  | readOnly (name : Text)
  /-- The name stands for something that cannot be written at all. -/
  | unwritable (name : Text)
  /-- The name stands for something about all records. -/
  | shared (name : Text)
  /-- A value of the given kind has no members for parts. -/
  | notMembers (kind : String)
  /-- A value of the given kind is no class. -/
  | notClass (kind : String)
  /-- Something of the given kind has no attribute of the name. -/
  | absent (kind name : String)
  /-- A value of the given kind cannot be called. -/
  | uncallable (kind : String)

/-- The text of a fault of an attribute. -/
def AttributeFault.message : AttributeFault → Text
  | notName kind => "attribute name must be string, not '" ++ kind ++ "'"
  | unknown name => "\"Key\" object has no field \"" ++ name ++ "\""
  | readOnly name => "property '" ++ name ++ "' of 'Key' object has no setter"
  | unwritable name => "attribute '" ++ name ++ "' of 'Key' objects is not writable"
  | shared name =>
    "'" ++ name ++ "' is a ClassVar of \x60Key\x60 and cannot be set on an instance. " ++
      "If you want to set a value on the class, use \x60Key." ++ name ++ " = value\x60."
  | notMembers kind => "__dict__ must be set to a dictionary, not a '" ++ kind ++ "'"
  | notClass kind => "__class__ must be set to a class, not '" ++ kind ++ "' object"
  | absent kind name => "'" ++ kind ++ "' object has no attribute '" ++ name ++ "'"
  | uncallable kind => "'" ++ kind ++ "' object is not callable"

end ApiKeys
