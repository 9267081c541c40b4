import ResourceInference.Text.CaseTable
import ResourceInference.Text.Class

/-!
# Upper and lower case

Full case conversion of text: one character may become several (`ß` becomes `SS`, `İ` becomes
`i̇`), and a capital sigma becomes a final sigma at the end of a word. On ASCII the conversions
are core's `Char.toUpper` and `Char.toLower`, decided before any table is read.
-/

set_option autoImplicit false

namespace ResourceInference.Text

/-! ## Conversions of one character -/

/-- The upper case of a character. -/
def upperOf (c : Char) : List Char :=
  if isAscii c then [c.toUpper]
  else match CaseTable.upperExpansions.lookup c.toNat with
    | some codes => codes.map Char.ofNat
    | none => [((shifted? CaseTable.upperShifts c.toNat).map Char.ofNat).getD c]

/-- The lower case of a character that stands alone. -/
def lowerOf (c : Char) : List Char :=
  if isAscii c then [c.toLower]
  else if c = 'İ' then ['i', '\u0307']
  else [((shifted? CaseTable.lowerShifts c.toNat).map Char.ofNat).getD c]

/-- Every character that differs from `c` in case only, `c` among them. -/
def caseVariants (c : Char) : List Char :=
  let least := (shifted? CaseTable.foldShifts c.toNat).getD c.toNat
  (least :: unshifted CaseTable.foldShifts least).map Char.ofNat

/-! ## Conversions of text -/

/-- Whether the nearest character that is not case-ignorable is cased. -/
def meetsCased (cs : List Char) : Bool :=
  ((cs.dropWhile isCaseIgnorable).head?.map isCased).getD false

/-- Lower case of `rest`, where `before` is the text in front of it, nearest character first. -/
def lowerAfter (before : List Char) : List Char → List Char
  | [] => []
  | c :: rest =>
    let image :=
      if c = 'Σ' then [if meetsCased before && !meetsCased rest then 'ς' else 'σ'] else lowerOf c
    image ++ lowerAfter (c :: before) rest

/-- A text in upper case. -/
def upper (s : String) : String := String.ofList (s.toList.flatMap upperOf)

/-- A text in lower case. -/
def lower (s : String) : String := String.ofList (lowerAfter [] s.toList)

/-- A text with its ASCII capitals in lower case and all else unchanged. -/
def lowerAscii (s : String) : String := String.ofList (s.toList.map Char.toLower)

/-- Whether two texts differ in nothing but the case of ASCII letters. -/
def sameIgnoringAsciiCase (s t : String) : Bool := lowerAscii s == lowerAscii t

end ResourceInference.Text
