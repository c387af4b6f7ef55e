import Terrasmith.Regex.Segment

/-!
Sets of characters by name. Names are compared without case, blanks, hyphens and underscores.
-/
namespace Terrasmith.CharSet

/-- A name in the form in which names are compared; a leading "is" does not count, except in the one name that is
nothing but this and a letter. -/
def looseName (name : List Char) : String :=
  let plain := fun (chars : List Char) => String.ofList
    ((chars.filter fun c => c.toNat < 128 && !(c = ' ' || c = '_' || c = '-')).map Char.toLower)
  match name with
  | i :: s :: rest =>
    if i.toLower = 'i' && s.toLower = 's' then
      if plain rest = "c" then "isc" else plain rest
    else plain name
  | _ => plain name

/-- The set that a name alone denotes. -/
def named? (name : List Char) : Option CharSet :=
  let name := looseName name
  property? name <|> category? name <|> script? name

/-- The set of the characters whose property `name` has a value. -/
def valued? (name value : List Char) : Option CharSet :=
  let value := looseName value
  match looseName name with
  | "gc" | "generalcategory" => category? value
  | "sc" | "script" => script? value
  | "scx" | "scriptextensions" => scriptUse? value
  | "age" => age? value
  | "gcb" | "graphemeclusterbreak" => graphemeBreak? value
  | "wb" | "wordbreak" => wordBreak? value
  | "sb" | "sentencebreak" => sentenceBreak? value
  | _ => .none

end Terrasmith.CharSet
