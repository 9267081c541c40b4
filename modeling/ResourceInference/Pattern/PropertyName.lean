import ResourceInference.Pattern.CharClass

/-!
# Names of character properties

The names by which a pattern means general categories, scripts and a few other properties. Case,
spaces, hyphens and underscores in a name do not count.
-/

set_option autoImplicit false

namespace ResourceInference.Pattern

open Text

/-- A general category: its names, its members in ASCII, and its table beyond. -/
structure CategoryEntry where
  names : List String
  asciiRanges : List (Nat × Nat)
  table : List CodeRun

/-- All general categories of assigned code points. -/
def categories : List CategoryEntry := [
  ⟨["lu", "uppercaseletter"], [(0x41, 0x5A)], Category.lu⟩,
  ⟨["ll", "lowercaseletter"], [(0x61, 0x7A)], Category.ll⟩,
  ⟨["lt", "titlecaseletter"], [], Category.lt⟩,
  ⟨["lm", "modifierletter"], [], Category.lm⟩,
  ⟨["lo", "otherletter"], [], Category.lo⟩,
  ⟨["mn", "nonspacingmark"], [], Category.mn⟩,
  ⟨["mc", "spacingmark"], [], Category.mc⟩,
  ⟨["me", "enclosingmark"], [], Category.me⟩,
  ⟨["nd", "decimalnumber", "digit"], [(0x30, 0x39)], Category.nd⟩,
  ⟨["nl", "letternumber"], [], Category.nl⟩,
  ⟨["no", "othernumber"], [], Category.no⟩,
  ⟨["pc", "connectorpunctuation"], [(0x5F, 0x5F)], Category.pc⟩,
  ⟨["pd", "dashpunctuation"], [(0x2D, 0x2D)], Category.pd⟩,
  ⟨["ps", "openpunctuation"], [(0x28, 0x28), (0x5B, 0x5B), (0x7B, 0x7B)], Category.ps⟩,
  ⟨["pe", "closepunctuation"], [(0x29, 0x29), (0x5D, 0x5D), (0x7D, 0x7D)], Category.pe⟩,
  ⟨["pi", "initialpunctuation"], [], Category.pi⟩,
  ⟨["pf", "finalpunctuation"], [], Category.pf⟩,
  ⟨["po", "otherpunctuation"],
    [(0x21, 0x23), (0x25, 0x27), (0x2A, 0x2A), (0x2C, 0x2C), (0x2E, 0x2F), (0x3A, 0x3B),
      (0x3F, 0x40), (0x5C, 0x5C)], Category.po⟩,
  ⟨["sm", "mathsymbol"], [(0x2B, 0x2B), (0x3C, 0x3E), (0x7C, 0x7C), (0x7E, 0x7E)], Category.sm⟩,
  ⟨["sc", "currencysymbol"], [(0x24, 0x24)], Category.sc⟩,
  ⟨["sk", "modifiersymbol"], [(0x5E, 0x5E), (0x60, 0x60)], Category.sk⟩,
  ⟨["so", "othersymbol"], [], Category.so⟩,
  ⟨["zs", "spaceseparator"], [(0x20, 0x20)], Category.zs⟩,
  ⟨["zl", "lineseparator"], [], Category.zl⟩,
  ⟨["zp", "paragraphseparator"], [], Category.zp⟩,
  ⟨["cc", "control", "cntrl"], [(0x00, 0x1F), (0x7F, 0x7F)], Category.cc⟩,
  ⟨["cf", "format"], [], Category.cf⟩,
  ⟨["co", "privateuse"], [], Category.co⟩]

/-- The union of the categories whose first name satisfies `p`. -/
def categoryUnion (p : String → Bool) : CharClass :=
  let chosen := categories.filter fun entry => entry.names.head?.any p
  .named (.tables (chosen.flatMap (·.asciiRanges)) (chosen.map (·.table)))

/-- The categories whose first name starts with a letter. -/
def categoryGroup (letter : Char) : CharClass :=
  categoryUnion fun name => name.toList.head? == some letter

/-- Code points without a category. -/
def unassigned : CharClass := .complement (.named .assigned)

/-- The class of a name of general categories. -/
def categoryByName? (name : String) : Option CharClass :=
  match name with
  | "l" | "letter" => some (categoryGroup 'l')
  | "lc" | "casedletter" => some (categoryUnion ["lu", "ll", "lt"].contains)
  | "m" | "mark" | "combiningmark" => some (categoryGroup 'm')
  | "n" | "number" => some (categoryGroup 'n')
  | "p" | "punctuation" | "punct" => some (categoryGroup 'p')
  | "s" | "symbol" => some (categoryGroup 's')
  | "z" | "separator" => some (categoryGroup 'z')
  | "c" | "other" => some (.union (categoryGroup 'c') unassigned)
  | "cn" | "unassigned" => some unassigned
  | _ =>
    if categories.any fun entry => entry.names.contains name then
      some (categoryUnion fun first =>
        categories.any fun entry => entry.names.head? == some first && entry.names.contains name)
    else none

/-- ASCII letters. -/
def asciiLetters : List (Nat × Nat) := [(0x41, 0x5A), (0x61, 0x7A)]

/-- The class of a name of a script. -/
def scriptByName? (name : String) : Option CharClass :=
  match name with
  | "latin" | "latn" => some (.named (.tables asciiLetters [Property.latin]))
  | "greek" | "grek" => some (.named (.tables [] [Property.greek]))
  | "cyrillic" | "cyrl" => some (.named (.tables [] [Property.cyrillic]))
  | "han" | "hani" => some (.named (.tables [] [Property.han]))
  | "hiragana" | "hira" => some (.named (.tables [] [Property.hiragana]))
  | "katakana" | "kana" => some (.named (.tables [] [Property.katakana]))
  | "hangul" | "hang" => some (.named (.tables [] [Property.hangul]))
  | "hebrew" | "hebr" => some (.named (.tables [] [Property.hebrew]))
  | "arabic" | "arab" => some (.named (.tables [] [Property.arabic]))
  | _ => none

/-- The class of a name of another property. -/
def propertyByName? (name : String) : Option CharClass :=
  match name with
  | "any" => some (.named .anyChar)
  | "ascii" => some (.named .ascii)
  | "assigned" => some (.named .assigned)
  | "alphabetic" | "alpha" => some (.named .alphabetic)
  | "uppercase" | "upper" => some (.named .uppercase)
  | "lowercase" | "lower" => some (.named .lowercase)
  | "whitespace" | "wspace" | "space" => some (.named .whiteSpace)
  | "cased" => some (.named .cased)
  | "caseignorable" | "ci" => some (.named .caseIgnorable)
  | _ => none

/-- A name without what does not count in it. -/
def plainName (name : List Char) : String :=
  let kept := (name.filter fun c => c ≠ ' ' && c ≠ '_' && c ≠ '-').map Char.toLower
  match kept with
  | 'i' :: 's' :: c :: rest => String.ofList (c :: rest)
  | _ => String.ofList kept

/-- The class of a property, given by its name. -/
def classByName? (name : List Char) : Option CharClass :=
  let plain := plainName name
  (propertyByName? plain).or ((categoryByName? plain).or (scriptByName? plain))

/-- The class of a property, given by its name and its value. -/
def classByValue? (name value : List Char) : Option CharClass :=
  let property := plainName name
  if property = "gc" ∨ property = "generalcategory" then
    (categoryByName? (plainName value)).or
      (match plainName value with
        | "any" => some (.named .anyChar)
        | "ascii" => some (.named .ascii)
        | "assigned" => some (.named .assigned)
        | _ => none)
  else if ["sc", "script", "scx", "scriptextensions"].contains property then
    scriptByName? (plainName value)
  else none

/-- A class that has a name in brackets, over ASCII only. -/
def asciiClass? (name : String) : Option (List (Nat × Nat)) :=
  match name with
  | "alnum" => some [(0x30, 0x39), (0x41, 0x5A), (0x61, 0x7A)]
  | "alpha" => some asciiLetters
  | "ascii" => some [(0x00, 0x7F)]
  | "blank" => some [(0x09, 0x09), (0x20, 0x20)]
  | "cntrl" => some [(0x00, 0x1F), (0x7F, 0x7F)]
  | "digit" => some [(0x30, 0x39)]
  | "graph" => some [(0x21, 0x7E)]
  | "lower" => some [(0x61, 0x7A)]
  | "print" => some [(0x20, 0x7E)]
  | "punct" => some [(0x21, 0x2F), (0x3A, 0x40), (0x5B, 0x60), (0x7B, 0x7E)]
  | "space" => some [(0x09, 0x0D), (0x20, 0x20)]
  | "upper" => some [(0x41, 0x5A)]
  | "word" => some [(0x30, 0x39), (0x41, 0x5A), (0x5F, 0x5F), (0x61, 0x7A)]
  | "xdigit" => some [(0x30, 0x39), (0x41, 0x46), (0x61, 0x66)]
  | _ => none

end ResourceInference.Pattern
