import TagRules.Text.Age
import TagRules.Text.Blank
import TagRules.Text.Segmentation

/-!
# Properties by name

A property of characters is asked for by its name, or by the name of a property and a value of it.
Case, blanks, hyphens, underscores and a leading `is` do not count in names.
-/

namespace TagRules.Text

/-- A name in lower case without blanks, hyphens, underscores, characters beyond ASCII and a leading
`is`, which is looked for before anything is left out. -/
def plainName (name : List Char) : String :=
  let plain (s : List Char) :=
    lowerAscii (s.filter fun c => c.toNat < 0x80 && !(c = ' ' || c = '_' || c = '-'))
  match name with
  | i :: s :: rest =>
    if lowerAscii [i, s] = ['i', 's'] then
      let rest := plain rest
      String.ofList (if rest = ['c'] then ['i', 's', 'c'] else rest)
    else String.ofList (plain name)
  | name => String.ofList (plain name)

/-- The characters with a property of that name: one that holds or does not hold, a category or a
script. -/
def property? (name : List Char) : Option Ranges :=
  let name := plainName name
  ((binaryProperty? name).or (category? name)).or (script? name)

/-- The characters for which a property has a value. -/
def propertyValue? (property value : List Char) : Option Ranges :=
  let property := plainName property
  let value := plainName value
  let is (names : List String) := names.contains property
  if is ["gc", "generalcategory"] then category? value
  else if is ["sc", "script"] then script? value
  else if is ["scx", "scriptextensions"] then scriptExtensions? value
  else if is ["age"] then age? value
  else if is ["gcb", "graphemeclusterbreak"] then derived? graphemeBreaks value
  else if is ["wb", "wordbreak"] then derived? wordBreaks value
  else if is ["sb", "sentencebreak"] then derived? sentenceBreaks value
  else none

end TagRules.Text
