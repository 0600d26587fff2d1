/-
What is wrong with a JSON value that should be a record: a list of issues, each a cause at a path into the value.
`Cause.code` is the short name under which a cause is reported.
-/
import TileCrew.Text.Letter

namespace TileCrew.Schema

inductive Step where
  | field (name : Text)
  | item (index : Nat)
deriving DecidableEq, Repr

/-- why a value is not accepted where it stands -/
inductive Cause where
  | missing
  | extra
  | notText
  /-- a text with a lone half of a surrogate pair, where a numeral or a word should stand -/
  | notUnicode
  | notInteger
  | integerText
  | integerSize
  | integerFraction
  | notFinite
  | notReal
  | realText
  | notList
  | notRecord
  | notWord
  | notLiteral
  | noKind
  | unknownKind
  | notTagged
  /-- a rule over several fields, with its wording -/
  | rule (wording : String)
deriving DecidableEq, Repr

/-- the short name of a cause -/
def Cause.code : Cause → String
  | .missing => "missing"
  | .extra => "extra_forbidden"
  | .notText => "string_type"
  | .notUnicode => "string_unicode"
  | .notInteger => "int_type"
  | .integerText => "int_parsing"
  | .integerSize => "int_parsing_size"
  | .integerFraction => "int_from_float"
  | .notFinite => "finite_number"
  | .notReal => "float_type"
  | .realText => "float_parsing"
  | .notList => "list_type"
  | .notRecord => "model_type"
  | .notWord => "enum"
  | .notLiteral => "literal_error"
  | .noKind => "union_tag_not_found"
  | .unknownKind => "union_tag_invalid"
  | .notTagged => "model_attributes_type"
  | .rule _ => "value_error"

structure Issue where
  path : List Step
  cause : Cause
deriving DecidableEq, Repr

/-- all issues of a value that should have been the record of that title -/
structure Report where
  title : String
  issues : List Issue
deriving DecidableEq, Repr

end TileCrew.Schema
