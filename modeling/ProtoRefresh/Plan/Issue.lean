-- What is wrong with a plan: for each fault its kind and the way to it
-- from the top of the data.

namespace ProtoRefresh.Plan

/-- One step from a value to a part of it. -/
inductive Step
  | name (s : String)
  | index (i : Int)
  deriving DecidableEq, Repr

/-- The kinds of faults, each with the rule that the data breaks. -/
inductive IssueKind
  | missing
  | notText
  /-- Bytes that are not UTF-8 where a text is described. -/
  | notUtf8
  | notList
  /-- Too few items. -/
  | tooShort (least found : Nat)
  | notMapping
  /-- Not a mapping where one of the named kind is described. -/
  | notModel (model : String)
  | notPath
  | renameNeedsOneSource
  deriving DecidableEq, Repr

structure Issue where
  kind : IssueKind
  location : List Step
  deriving DecidableEq, Repr

/-- The short name of a kind. -/
def IssueKind.code : IssueKind → String
  | .missing => "missing"
  | .notText => "string_type"
  | .notUtf8 => "string_unicode"
  | .notList => "list_type"
  | .tooShort _ _ => "too_short"
  | .notMapping => "dict_type"
  | .notModel _ => "model_type"
  | .notPath => "path_type"
  | .renameNeedsOneSource => "value_error"

def IssueKind.message : IssueKind → String
  | .missing => "Field required"
  | .notText => "Input should be a valid string"
  | .notUtf8 => "Input should be a valid string, unable to parse raw data as a unicode string"
  | .notList => "Input should be a valid list"
  | .tooShort least found =>
    "List should have at least " ++ toString least ++ (if least = 1 then " item" else " items") ++
      " after validation, not " ++ toString found
  | .notMapping => "Input should be a valid dictionary"
  | .notModel model => "Input should be a valid dictionary or instance of " ++ model
  | .notPath => "Input is not a valid path for <class 'pathlib.Path'>"
  | .renameNeedsOneSource => "Value error, rename requires exactly one literal source"

/-- An issue one step further from the top. -/
def Issue.below (step : Step) (issue : Issue) : Issue := { issue with location := step :: issue.location }

end ProtoRefresh.Plan
