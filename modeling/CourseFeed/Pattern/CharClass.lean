import CourseFeed.Pattern.Error
import CourseFeed.Pattern.Expr
import CourseFeed.Text.Age
import CourseFeed.Text.Category
import CourseFeed.Text.Folding
import CourseFeed.Text.Property
import CourseFeed.Text.Script
import CourseFeed.Text.Segment

/-!
# The sets of characters that patterns name

Sets are named by a letter, by a word between colons, or by a property. A property is asked for by
one name — of a yes-or-no property, a general category or a script, looked up in this order — or by
the name of a property and one of its values. Names are compared without case, blanks, hyphens,
underlines and a leading "is".
-/

namespace CourseFeed.Pattern

open CourseFeed.Text

/-! ## Letters and words -/

/-- The characters of words. -/
def wordChars : CharSet :=
  CharSet.unions [Property.alphabetic, Category.mark, Category.decimalNumber,
    Category.connectorPunctuation, Property.joinControl]

/-- The ASCII characters of words. -/
def asciiWordChars : CharSet :=
  CharSet.ofSpans [(0x30, 0x39), (0x41, 0x5A), (0x5F, 0x5F), (0x61, 0x7A)]

/-- The ASCII blanks. -/
def asciiBlanks : CharSet := CharSet.ofSpans [(0x9, 0xD), (0x20, 0x20)]

/-- The set that a letter stands for. -/
def Perl.chars (unicode : Bool) : Perl → CharSet
  | .digit => if unicode then Category.decimalNumber else CharSet.range '0' '9'
  | .space => if unicode then blanks else asciiBlanks
  | .word => if unicode then wordChars else asciiWordChars

/-- The set of ASCII characters that a word between colons stands for. -/
def Posix.chars : Posix → CharSet
  | .alnum => CharSet.ofSpans [(0x30, 0x39), (0x41, 0x5A), (0x61, 0x7A)]
  | .alpha => CharSet.ofSpans [(0x41, 0x5A), (0x61, 0x7A)]
  | .ascii => CharSet.ofSpans [(0x0, 0x7F)]
  | .blank => CharSet.ofSpans [(0x9, 0x9), (0x20, 0x20)]
  | .cntrl => CharSet.ofSpans [(0x0, 0x1F), (0x7F, 0x7F)]
  | .digit => CharSet.ofSpans [(0x30, 0x39)]
  | .graph => CharSet.ofSpans [(0x21, 0x7E)]
  | .lower => CharSet.ofSpans [(0x61, 0x7A)]
  | .print => CharSet.ofSpans [(0x20, 0x7E)]
  | .punct => CharSet.ofSpans [(0x21, 0x2F), (0x3A, 0x40), (0x5B, 0x60), (0x7B, 0x7E)]
  | .space => asciiBlanks
  | .upper => CharSet.ofSpans [(0x41, 0x5A)]
  | .word => asciiWordChars
  | .xdigit => CharSet.ofSpans [(0x30, 0x39), (0x41, 0x46), (0x61, 0x66)]

/-! ## Properties -/

/-- A name with lower-case letters only and without blanks, hyphens, underlines and whatever is
    not ASCII. -/
def plainName (name : List Char) : List Char :=
  (name.filter fun c => c.toNat < 0x80 && c != ' ' && c != '_' && c != '-').map Char.toLower

/-- The form of a name by which it is compared. -/
def comparedName (name : String) : String :=
  match name.toList with
  | i :: s :: rest =>
    if i.toLower = 'i' ∧ s.toLower = 's' then
      let plain := plainName rest
      if plain = ['c'] then "isc" else String.ofList plain
    else String.ofList (plainName (i :: s :: rest))
  | short => String.ofList (plainName short)

/-- Names of properties that have no set of their own. -/
def otherProperties : List String :=
  ["age", "bc", "bidiclass", "bidim", "bidimirrored", "bidimirroringglyph",
    "bidipairedbracket", "bidipairedbrackettype", "blk", "block", "bmg", "bpb", "bpt",
    "canonicalcombiningclass", "casefolding", "ccc", "ce", "cf",
    "changeswhennfkccasefolded", "cjkaccountingnumeric", "cjkcompatibilityvariant",
    "cjkiicore", "cjkirggsource", "cjkirghsource", "cjkirgjsource", "cjkirgkpsource",
    "cjkirgksource", "cjkirgmsource", "cjkirgssource", "cjkirgtsource", "cjkirguksource",
    "cjkirgusource", "cjkirgvsource", "cjkothernumeric", "cjkprimarynumeric",
    "cjkrsunicode", "compex", "compositionexclusion", "cwkcf", "decompositionmapping",
    "decompositiontype", "dm", "dt", "ea", "eastasianwidth", "equideo",
    "equivalentunifiedideograph", "expandsonnfc", "expandsonnfd", "expandsonnfkc",
    "expandsonnfkd", "fcnfkc", "fcnfkcclosure", "fullcompositionexclusion", "gc", "gcb",
    "generalcategory", "graphemeclusterbreak", "hangulsyllabletype", "hst", "idcompatmathcontinue",
    "idcompatmathstart", "identifierstatus", "identifiertype", "incb",
    "indicconjunctbreak", "indicpositionalcategory", "indicsyllabiccategory", "inpc", "insc",
    "isc", "isocomment", "jamoshortname", "jg", "joininggroup", "joiningtype", "jsn", "jt",
    "lb", "lc", "linebreak", "lowercasemapping", "mcm", "modifiercombiningmark", "na", "na1",
    "name", "namealias", "nfcqc", "nfcquickcheck", "nfdqc", "nfdquickcheck", "nfkccasefold",
    "nfkccf", "nfkcqc", "nfkcquickcheck", "nfkcscf", "nfkcsimplecasefold", "nfkdqc",
    "nfkdquickcheck", "nt", "numerictype", "numericvalue", "nv", "oalpha", "ocomment", "odi",
    "ogrext", "oidc", "oids", "olower", "omath", "otheralphabetic",
    "otherdefaultignorablecodepoint", "othergraphemeextend", "otheridcontinue", "otheridstart",
    "otherlowercase", "othermath", "otheruppercase", "oupper", "sb", "sc", "scf", "script",
    "scriptextensions", "scx", "sentencebreak", "sfc", "simplecasefolding",
    "simplelowercasemapping", "simpletitlecasemapping", "simpleuppercasemapping", "slc", "stc",
    "suc", "tc", "titlecasemapping", "uc", "unicode1name", "unicoderadicalstroke",
    "uppercasemapping", "urs", "vertorientation", "verticalorientation", "vo", "wb",
    "wordbreak", "xonfc", "xonfd", "xonfkc", "xonfkd"]

/-- Names of categories and scripts to which no character belongs. -/
def emptyValues : List String :=
  ["cs", "surrogate", "hrkt", "katakanaorhiragana", "zzzz", "unknown"]

/-- The set of a general category, or of all, all assigned or all ASCII characters. -/
def categoryChars? (name : String) : Option CharSet :=
  if name = "any" then some CharSet.all
  else if name = "assigned" then some Category.unassigned.complement
  else if name = "ascii" then some Posix.ascii.chars
  else Category.find? name

/-- The set that a single name asks for. -/
def charsNamed (name : String) : Except Error CharSet :=
  let isProperty := name ≠ "cf" ∧ name ≠ "sc" ∧ name ≠ "lc"
  match if isProperty then Property.find? name else none with
  | some set => .ok set
  | none =>
    if isProperty ∧ otherProperties.contains name then .error .propertyUnknown
    else if emptyValues.contains name then .error .propertyValueUnknown
    else
      match (categoryChars? name).or ((Script.find? name).map Script.own) with
      | some set => .ok set
      | none => .error .propertyUnknown

/-- The set that a property and one of its values ask for, if there is such a value. -/
def valueChars? (property value : String) : Option CharSet :=
  if property = "gc" ∨ property = "generalcategory" then categoryChars? value
  else if property = "sc" ∨ property = "script" then (Script.find? value).map Script.own
  else if property = "scx" ∨ property = "scriptextensions" then
    (Script.find? value).map Script.used
  else if property = "age" then Age.upTo? value
  else if property = "gcb" ∨ property = "graphemeclusterbreak" then
    Segment.find? Segment.graphemeTable value
  else if property = "wb" ∨ property = "wordbreak" then Segment.find? Segment.wordTable value
  else if property = "sb" ∨ property = "sentencebreak" then
    Segment.find? Segment.sentenceTable value
  else none

/-- The set that a property query asks for. -/
def PropertyQuery.chars : PropertyQuery → Except Error CharSet
  | .name key => charsNamed (comparedName key)
  | .value key given =>
    let property := comparedName key
    if (Property.find? property).isNone ∧ ¬ otherProperties.contains property then
      .error .propertyUnknown
    else
      match valueChars? property (comparedName given) with
      | some set => .ok set
      | none => .error .propertyValueUnknown

end CourseFeed.Pattern
