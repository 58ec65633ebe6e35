import SeriesIndex.Pattern.Written
import SeriesIndex.Unicode.Age
import SeriesIndex.Unicode.Property
import SeriesIndex.Unicode.Script
import SeriesIndex.Unicode.Segmentation

/-!
# Sets of characters by name

A name in a pattern is compared without case, blanks, dashes and underscores, and without an
`is` in front. Alone it is a binary property, a general category or a script, in this order;
with a value behind it, it is a property of many values.
-/

namespace SeriesIndex.Pattern

open Unicode

/-- The form in which names are compared. -/
def normalName (name : List Char) : String :=
  let lower := (name.filter fun char => char.toNat < 0x80).map Char.toLower
  let bare := fun (name : List Char) => name.filter fun char => !(" -_".toList.contains char)
  match name with
  | first :: second :: _ =>
      if (first = 'i' || first = 'I') && (second = 's' || second = 'S') then
        let rest := bare (lower.drop 2)
        if rest = ['c'] then "isc" else String.ofList rest
      else String.ofList (bare lower)
  | _ => String.ofList (bare lower)

/-- The set of a name that stands alone. Two short names of properties without a set are
category names here. -/
def setOfName? (name : String) : Option CharSet :=
  let name := normalName name.toList
  match Property.find? name with
  | some set => some set
  | none => (Category.find? name).orElse fun _ => Script.find? name

/-- The set of a property and one of its values. -/
def setOfValue? (property value : String) : Option CharSet :=
  let value := normalName value.toList
  match normalName property.toList with
  | "gc" | "generalcategory" => Category.find? value
  | "sc" | "script" => Script.find? value
  | "scx" | "scriptextensions" => Script.extended? value
  | "age" => Age.find? value
  | "gcb" | "graphemeclusterbreak" => Segmentation.grapheme? value
  | "wb" | "wordbreak" => Segmentation.word? value
  | "sb" | "sentencebreak" => Segmentation.sentence? value
  | _ => none

def PropertyName.set? : PropertyName → Option CharSet
  | alone name => setOfName? name
  | valued property value => setOfValue? property value

/-- The classes of characters among the first 128, by name. -/
def asciiSet (name : String) : CharSet :=
  let lower : CharRange := ⟨0x61, 0x7A⟩
  let upper : CharRange := ⟨0x41, 0x5A⟩
  let digit : CharRange := ⟨0x30, 0x39⟩
  match name with
  | "alnum" => [digit, upper, lower]
  | "alpha" => [upper, lower]
  | "ascii" => [⟨0, 0x7F⟩]
  | "blank" => [⟨0x09, 0x09⟩, ⟨0x20, 0x20⟩]
  | "cntrl" => [⟨0, 0x1F⟩, ⟨0x7F, 0x7F⟩]
  | "digit" => [digit]
  | "graph" => [⟨0x21, 0x7E⟩]
  | "lower" => [lower]
  | "print" => [⟨0x20, 0x7E⟩]
  | "punct" => [⟨0x21, 0x2F⟩, ⟨0x3A, 0x40⟩, ⟨0x5B, 0x60⟩, ⟨0x7B, 0x7E⟩]
  | "space" => [⟨0x09, 0x0D⟩, ⟨0x20, 0x20⟩]
  | "upper" => [upper]
  | "word" => [digit, upper, ⟨0x5F, 0x5F⟩, lower]
  | _ => [digit, ⟨0x41, 0x46⟩, ⟨0x61, 0x66⟩]

/-- The set of a short form, among all characters. -/
def PerlKind.set : PerlKind → CharSet
  | digit => Category.decimalNumber
  | space => Property.whiteSpace
  | word => Property.word

/-- The set of a short form, among the first 128 characters. -/
def PerlKind.asciiSet : PerlKind → CharSet
  | digit => Pattern.asciiSet "digit"
  | space => Pattern.asciiSet "space"
  | word => Pattern.asciiSet "word"

end SeriesIndex.Pattern
