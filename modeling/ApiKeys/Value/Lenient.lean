import ApiKeys.Failure

/-!
# Texts and lists, leniently

Stored data and settings may come from writers with other habits: octets stand for the text that
they encode, and every kind of sequence stands for a list.
-/

namespace ApiKeys.Value

/-- The text that a value stands for. -/
def asText : Value → Except Issue.Kind Text
  | text t => .ok t
  | bytes octets =>
    match Text.ofUtf8? octets with
    | some t => .ok t
    | none => .error .stringUnicode
  | _ => .error .stringType

/-- The items of a value that stands for a list. -/
def asList : Value → Except Issue.Kind (List Value)
  | list items | tuple items | set items | frozenSet items => .ok items
  | _ => .error .listType

end ApiKeys.Value
