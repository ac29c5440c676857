import SpecTest.Text.Digits
import SpecTest.Text.Split
import SpecTest.Unicode.CategoryTable
import SpecTest.Unicode.CharSet
import SpecTest.Unicode.PropertyTable
import SpecTest.Unicode.ScriptTable

/-!
Character properties by name: general categories, scripts and two-valued properties.

Derived properties are built from the categories as the standard derives them; the table adds
what does not follow.  `property?` finds a property by any of its names, without regard to case,
blanks, hyphens and underscores.
-/

namespace SpecTest.Unicode

open SpecTest.Text

def tableWords (rows : List String) : List (List Char) :=
  rows.flatMap fun row => splitAt ' ' row.toList

def hexValue (cs : List Char) : Nat := (natIn? 16 cs).getD 0

/-- Runs written as a hexadecimal start and a label of `width` letters. -/
def decodeRuns (width : Nat) (rows : List String) : List (Nat × String) :=
  (tableWords rows).map fun w =>
    (hexValue (w.take (w.length - width)), String.ofList (w.drop (w.length - width)))

def labelledRanges (chosen : String → Bool) : List (Nat × String) → List (Nat × Nat)
  | [] => []
  | [(start, label)] => if chosen label then [(start, maxCodePoint)] else []
  | (start, label) :: next :: rest =>
    if chosen label then (start, next.1 - 1) :: labelledRanges chosen (next :: rest)
    else labelledRanges chosen (next :: rest)

/-- A range written as `first-last`, or as one number that is both. -/
def decodeRange (w : List Char) : Nat × Nat :=
  match splitAt '-' w with
  | [first, last] => (hexValue first, hexValue last)
  | _ => (hexValue w, hexValue w)

def categoryTable : List (Nat × String) := decodeRuns 2 categoryRuns

def scriptTable : List (Nat × String) := decodeRuns 4 scriptRuns

def category (codes : List String) : CharSet :=
  CharSet.ofRanges (labelledRanges codes.contains categoryTable)

def script (code : String) : CharSet :=
  CharSet.ofRanges (labelledRanges (· == code) scriptTable)

def listed? (name : String) : Option CharSet :=
  (propertyRanges.lookup name).map fun rows =>
    CharSet.ofRanges ((tableWords rows).map decodeRange)

def listed (name : String) : CharSet := (listed? name).getD CharSet.empty

def alphabetic : CharSet :=
  (category ["Lu", "Ll", "Lt", "Lm", "Lo", "Nl"]).union (listed "otheralphabetic")

def lowercase : CharSet := (category ["Ll"]).union (listed "otherlowercase")

def uppercase : CharSet := (category ["Lu"]).union (listed "otheruppercase")

def cased : CharSet := (lowercase.union uppercase).union (category ["Lt"])

def caseIgnorable : CharSet :=
  (category ["Mn", "Me", "Cf", "Lm", "Sk"]).union (listed "othercaseignorable")

def graphemeExtend : CharSet := (category ["Me", "Mn"]).union (listed "othergraphemeextend")

def idStart : CharSet :=
  ((category ["Lu", "Ll", "Lt", "Lm", "Lo", "Nl"]).union (listed "otheridstart")).diff
    ((listed "patternsyntax").union (listed "patternwhitespace"))

def idContinue : CharSet :=
  (idStart.union (category ["Mn", "Mc", "Nd", "Pc"])).union (listed "otheridcontinue")

def whiteSpace : CharSet := listed "whitespace"

def decimalDigit : CharSet := category ["Nd"]

def word : CharSet :=
  ((alphabetic.union (category ["Mn", "Mc", "Me", "Nd", "Pc"])).union (listed "joincontrol"))

def alphanumeric : CharSet := alphabetic.union (category ["Nd", "Nl", "No"])

def categoryNames : List (List String × List String) := [
  (["c", "other"], ["Cc", "Cf", "Cn", "Co", "Cs"]),
  (["cc", "control", "cntrl"], ["Cc"]),
  (["cf", "format"], ["Cf"]),
  (["cn", "unassigned"], ["Cn"]),
  (["co", "privateuse"], ["Co"]),
  (["l", "letter"], ["Lu", "Ll", "Lt", "Lm", "Lo"]),
  (["lc", "casedletter"], ["Lu", "Ll", "Lt"]),
  (["ll", "lowercaseletter"], ["Ll"]),
  (["lm", "modifierletter"], ["Lm"]),
  (["lo", "otherletter"], ["Lo"]),
  (["lt", "titlecaseletter"], ["Lt"]),
  (["lu", "uppercaseletter"], ["Lu"]),
  (["m", "mark", "combiningmark"], ["Mn", "Mc", "Me"]),
  (["mc", "spacingmark"], ["Mc"]),
  (["me", "enclosingmark"], ["Me"]),
  (["mn", "nonspacingmark"], ["Mn"]),
  (["n", "number"], ["Nd", "Nl", "No"]),
  (["nd", "decimalnumber", "digit"], ["Nd"]),
  (["nl", "letternumber"], ["Nl"]),
  (["no", "othernumber"], ["No"]),
  (["p", "punctuation", "punct"], ["Pc", "Pd", "Pe", "Pf", "Pi", "Po", "Ps"]),
  (["pc", "connectorpunctuation"], ["Pc"]),
  (["pd", "dashpunctuation"], ["Pd"]),
  (["pe", "closepunctuation"], ["Pe"]),
  (["pf", "finalpunctuation"], ["Pf"]),
  (["pi", "initialpunctuation"], ["Pi"]),
  (["po", "otherpunctuation"], ["Po"]),
  (["ps", "openpunctuation"], ["Ps"]),
  (["s", "symbol"], ["Sc", "Sk", "Sm", "So"]),
  (["sc", "currencysymbol"], ["Sc"]),
  (["sk", "modifiersymbol"], ["Sk"]),
  (["sm", "mathsymbol"], ["Sm"]),
  (["so", "othersymbol"], ["So"]),
  (["z", "separator"], ["Zl", "Zp", "Zs"]),
  (["zl", "lineseparator"], ["Zl"]),
  (["zp", "paragraphseparator"], ["Zp"]),
  (["zs", "spaceseparator"], ["Zs"])]

def propertyAliases : List (String × String) := [
  ("ahex", "asciihexdigit"), ("alpha", "alphabetic"), ("bidic", "bidicontrol"),
  ("bidim", "bidimirrored"), ("ci", "caseignorable"), ("di", "defaultignorablecodepoint"),
  ("dep", "deprecated"), ("dia", "diacritic"), ("ecomp", "emojicomponent"),
  ("emod", "emojimodifier"), ("ebase", "emojimodifierbase"), ("epres", "emojipresentation"),
  ("extpict", "extendedpictographic"), ("ext", "extender"), ("grbase", "graphemebase"),
  ("grext", "graphemeextend"), ("hex", "hexdigit"), ("idsb", "idsbinaryoperator"),
  ("idst", "idstrinaryoperator"), ("idc", "idcontinue"), ("ids", "idstart"),
  ("ideo", "ideographic"), ("joinc", "joincontrol"), ("loe", "logicalorderexception"),
  ("lower", "lowercase"), ("nchar", "noncharactercodepoint"), ("patsyn", "patternsyntax"),
  ("patws", "patternwhitespace"), ("pcm", "prependedconcatenationmark"),
  ("qmark", "quotationmark"), ("ri", "regionalindicator"), ("sterm", "sentenceterminal"),
  ("sd", "softdotted"), ("term", "terminalpunctuation"), ("uideo", "unifiedideograph"),
  ("upper", "uppercase"), ("vs", "variationselector"), ("wspace", "whitespace"),
  ("space", "whitespace"), ("xidc", "xidcontinue"), ("xids", "xidstart")]

def binaryProperty? (name : String) : Option CharSet :=
  match (propertyAliases.lookup name).getD name with
  | "alphabetic" => some alphabetic
  | "lowercase" => some lowercase
  | "uppercase" => some uppercase
  | "cased" => some cased
  | "caseignorable" => some caseIgnorable
  | "graphemeextend" => some graphemeExtend
  | "graphemebase" =>
    some ((category ["Cc", "Cf", "Cs", "Co", "Cn", "Zl", "Zp"]).union graphemeExtend).complement
  | "idstart" => some idStart
  | "idcontinue" => some idContinue
  | "xidstart" => some (idStart.diff (listed "notxidstart"))
  | "xidcontinue" => some (idContinue.diff (listed "notxidcontinue"))
  | "math" => some ((category ["Sm"]).union (listed "othermath"))
  | name => if name.startsWith "other" || name.startsWith "not" then none else listed? name

def categoryNamed? (name : String) : Option CharSet :=
  match name with
  | "any" => some CharSet.all
  | "assigned" => some (category ["Cn"]).complement
  | "ascii" => some (CharSet.range 0 127)
  | name => (categoryNames.find? (·.1.contains name)).map fun row => category row.2

def scriptNameTable : List (String × String) :=
  (tableWords scriptNames).map fun w =>
    (String.ofList (w.takeWhile (· ≠ ':')), String.ofList ((w.dropWhile (· ≠ ':')).drop 1))

def scriptNamed? (name : String) : Option CharSet := (scriptNameTable.lookup name).map script

/-- A name in lower case without blanks, hyphens, underscores and a leading `is`. -/
def looseName (name : List Char) : String :=
  let isStart : Bool :=
    match name with
    | a :: b :: _ => (a == 'i' || a == 'I') && (b == 's' || b == 'S')
    | _ => false
  let body := if isStart then name.drop 2 else name
  let kept := (body.filter fun c =>
    !(c == ' ' || c == '_' || c == '-') && decide (c.toNat < 128)).map Char.toLower
  if isStart && kept == ['c'] then "isc" else String.ofList kept

/-- The characters of the property with the name: a two-valued property, else a category, else a
script. -/
def property? (name : List Char) : Option CharSet :=
  let name := looseName name
  let binary := if ["cf", "sc", "lc"].contains name then none else binaryProperty? name
  binary <|> categoryNamed? name <|> scriptNamed? name

def propertyValue? (name value : List Char) : Option CharSet :=
  match looseName name with
  | "gc" | "generalcategory" => categoryNamed? (looseName value)
  | "sc" | "script" | "scx" | "scriptextensions" => scriptNamed? (looseName value)
  | _ => none

end SpecTest.Unicode
