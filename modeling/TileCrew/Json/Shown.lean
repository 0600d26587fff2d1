/-
JSON values as messages show them: texts in quotes, null as None, truth values with a capital, objects in braces with
quoted names. A text that stands by itself is shown without quotes (`plain`). `kindName` is the word for a value's kind.
-/
import TileCrew.Json.Printer

namespace TileCrew.Json

open Decimal Text

def shownNumber : Number → List Char
  | .whole n => integerChars n
  | .real x => plainLayout.chars x

mutual
/-- a value inside a message -/
def shownChars : Json → List Char
  | .null => "None".toList
  | .bool b => if b then "True".toList else "False".toList
  | .number n => shownNumber n
  | .text t => (quoted t).toList
  | .list items => '[' :: (shownItems items ++ [']'])
  | .object fields => '\x7b' :: (shownFields fields ++ ['\x7d'])

/-- items with commas between them -/
def shownItems : List Json → List Char
  | [] => []
  | [v] => shownChars v
  | v :: w :: vs => shownChars v ++ ',' :: ' ' :: shownItems (w :: vs)

def shownFields : List (Text × Json) → List Char
  | [] => []
  | [(name, v)] => (quoted name).toList ++ ':' :: ' ' :: shownChars v
  | (name, v) :: f :: fs => (quoted name).toList ++ ':' :: ' ' :: (shownChars v ++ ',' :: ' ' :: shownFields (f :: fs))
end

def shown (v : Json) : String := String.ofList (shownChars v)

/-- a value by itself: a text without quotes -/
def plain : Json → Text
  | .text t => t
  | v => v.shown

def kindName : Json → String
  | .null => "NoneType"
  | .bool _ => "bool"
  | .number (.whole _) => "int"
  | .number (.real _) => "float"
  | .text _ => "str"
  | .list _ => "list"
  | .object _ => "dict"

end TileCrew.Json
