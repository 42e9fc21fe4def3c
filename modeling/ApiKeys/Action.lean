import ApiKeys.Text.Basic

/-!
# Actions

What an API key can be allowed to do. Each action has one wire name, and reading a text gives an
action exactly when the text is its wire name.
-/

namespace ApiKeys

/-- A capability that can be granted to a key. -/
inductive Action where
  | all
  | search
  | documentsAdd
  | documentsGet
  | documentsDelete
  | indexesCreate
  | indexesGet
  | indexesUpdate
  | indexesDelete
  | tasksGet
  | settingsGet
  | settingsUpdate
  | statsGet
  | dumpsCreate
  | version
  deriving DecidableEq

namespace Action

/-- Every action, in the order in which they are listed. -/
def list : List Action :=
  [all, search, documentsAdd, documentsGet, documentsDelete, indexesCreate, indexesGet,
    indexesUpdate, indexesDelete, tasksGet, settingsGet, settingsUpdate, statsGet, dumpsCreate,
    version]

/-- The name that stands for an action in requests and records. -/
def wireName : Action → String
  | all => "*"
  | search => "search"
  | documentsAdd => "documents.add"
  | documentsGet => "documents.get"
  | documentsDelete => "documents.delete"
  | indexesCreate => "indexes.create"
  | indexesGet => "indexes.get"
  | indexesUpdate => "indexes.update"
  | indexesDelete => "indexes.delete"
  | tasksGet => "tasks.get"
  | settingsGet => "settings.get"
  | settingsUpdate => "settings.update"
  | statsGet => "stats.get"
  | dumpsCreate => "dumps.create"
  | version => "version"

/-- The name under which an action is listed. -/
def title : Action → String
  | all => "ALL"
  | search => "SEARCH"
  | documentsAdd => "DOCUMENTS_ADD"
  | documentsGet => "DOCUMENTS_GET"
  | documentsDelete => "DOCUMENTS_DELETE"
  | indexesCreate => "INDEXES_CREATE"
  | indexesGet => "INDEXES_GET"
  | indexesUpdate => "INDEXES_UPDATE"
  | indexesDelete => "INDEXES_DELETE"
  | tasksGet => "TASKS_GET"
  | settingsGet => "SETTINGS_GET"
  | settingsUpdate => "SETTINGS_UPDATE"
  | statsGet => "STATS_GET"
  | dumpsCreate => "DUMPS_CREATE"
  | version => "VERSION"

/-- The action with the given wire name. -/
def ofText? (t : Text) : Option Action :=
  list.find? fun a => (a.wireName : Text) = t

theorem ofText?_eq_some_iff {t : Text} {a : Action} : ofText? t = some a ↔ t = a.wireName := by
  constructor
  · intro h
    have := List.find?_some h
    simpa [eq_comm] using this
  · rintro rfl
    cases a <;> decide

end Action

end ApiKeys
