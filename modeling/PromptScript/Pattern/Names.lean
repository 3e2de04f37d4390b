import PromptScript.Pattern.CharSet

/-!
# Pattern.Names

The names of character classes: categories, scripts, properties, ages and boundary classes of the
character standard, and the classes of ASCII that are written between colons. Names of the standard
are compared without regard to case, blanks, underscores, hyphens and a leading `is`.
-/

namespace PromptScript

namespace CharSet

/-- A name in its compared form: ASCII in lower case, without separators. -/
def plainName (name : List Char) : List Char :=
  name.filterMap fun c =>
    if c = ' ' ∨ c = '_' ∨ c = '-' ∨ 128 ≤ c.toNat then Option.none else some (asciiLower c)

/-- A name in its compared form, without a leading `is`. A `c` left alone by that stays `isc`, which
names nothing. -/
def comparedName (name : List Char) : String :=
  match name with
  | a :: b :: rest =>
    if asciiLower a = 'i' ∧ asciiLower b = 's' then
      if plainName rest = ['c'] then "isc" else String.ofList (plainName rest)
    else String.ofList (plainName name)
  | _ => String.ofList (plainName name)

def categoryNames : List (Category × List String) :=
  [(.upperLetter, ["lu", "uppercaseletter"]),
   (.lowerLetter, ["ll", "lowercaseletter"]),
   (.titleLetter, ["lt", "titlecaseletter"]),
   (.modifierLetter, ["lm", "modifierletter"]),
   (.otherLetter, ["lo", "otherletter"]),
   (.nonspacingMark, ["mn", "nonspacingmark"]),
   (.spacingMark, ["mc", "spacingmark"]),
   (.enclosingMark, ["me", "enclosingmark"]),
   (.decimalDigit, ["nd", "decimalnumber", "digit"]),
   (.letterNumber, ["nl", "letternumber"]),
   (.otherNumber, ["no", "othernumber"]),
   (.connector, ["pc", "connectorpunctuation"]),
   (.dash, ["pd", "dashpunctuation"]),
   (.openBracket, ["ps", "openpunctuation"]),
   (.closeBracket, ["pe", "closepunctuation"]),
   (.initialQuote, ["pi", "initialpunctuation"]),
   (.finalQuote, ["pf", "finalpunctuation"]),
   (.otherPunctuation, ["po", "otherpunctuation"]),
   (.mathSign, ["sm", "mathsymbol"]),
   (.currencySign, ["sc", "currencysymbol"]),
   (.modifierSign, ["sk", "modifiersymbol"]),
   (.otherSign, ["so", "othersymbol"]),
   (.space, ["zs", "spaceseparator"]),
   (.lineSeparator, ["zl", "lineseparator"]),
   (.paragraphSeparator, ["zp", "paragraphseparator"]),
   (.control, ["cc", "control", "cntrl"]),
   (.format, ["cf", "format"]),
   (.privateUse, ["co", "privateuse"]),
   (.unassigned, ["cn", "unassigned"])]

def groupNames : List (List Category × List String) :=
  [([.upperLetter, .lowerLetter, .titleLetter], ["lc", "casedletter"]),
   ([.upperLetter, .lowerLetter, .titleLetter, .modifierLetter, .otherLetter], ["l", "letter"]),
   ([.nonspacingMark, .spacingMark, .enclosingMark], ["m", "mark", "combiningmark"]),
   ([.decimalDigit, .letterNumber, .otherNumber], ["n", "number"]),
   ([.connector, .dash, .openBracket, .closeBracket, .initialQuote, .finalQuote,
      .otherPunctuation], ["p", "punctuation", "punct"]),
   ([.mathSign, .currencySign, .modifierSign, .otherSign], ["s", "symbol"]),
   ([.space, .lineSeparator, .paragraphSeparator], ["z", "separator"]),
   ([.control, .format, .privateUse, .unassigned], ["c", "other"])]

/-- The set of a general category, of a group of them, or of one of the names that stand beside
them. -/
def ofCategoryName? (name : String) : Option CharSet :=
  if name = "any" then some .all
  else if name = "ascii" then some .ascii
  else if name = "assigned" then some (.compl (.category .unassigned))
  else
    match categoryNames.find? fun (_, names) => names.contains name with
    | some (k, _) => some (.category k)
    | Option.none =>
      (groupNames.find? fun (_, names) => names.contains name).map fun (ks, _) =>
        unions (ks.map .category)

def ofScriptName? (name : String) : Option CharSet := (Script.ofName? name).map .script

/-- The set of a name alone: a property, a category, or a script. The names `cf`, `sc` and `lc` are
always categories. -/
def ofName? (name : List Char) : Option CharSet :=
  let n := comparedName name
  let property :=
    if n = "cf" ∨ n = "sc" ∨ n = "lc" then Option.none else (Property.ofName? n).map .property
  match property with
  | some s => some s
  | Option.none =>
    match ofCategoryName? n with
    | some s => some s
    | Option.none => ofScriptName? n

def boundaryNames : List (Boundary × List String) :=
  [(.grapheme, ["graphemeclusterbreak", "gcb"]),
   (.word, ["wordbreak", "wb"]),
   (.sentence, ["sentencebreak", "sb"])]

/-- The set of the characters with a value of a property that has more values than two. -/
def ofNameAndValue? (name value : List Char) : Option CharSet :=
  let n := comparedName name
  let v := comparedName value
  if n = "gc" ∨ n = "generalcategory" then ofCategoryName? v
  else if n = "sc" ∨ n = "script" then ofScriptName? v
  else if n = "scx" ∨ n = "scriptextensions" then (Script.ofName? v).map .usedIn
  else if n = "age" then (Age.ofName? v).map .age
  else
    match boundaryNames.find? fun (_, names) => names.contains n with
    | some (b, _) => (BoundaryClass.ofName? b v).map .boundary
    | Option.none => Option.none

/-- A text cut at the first place where `sign` stands. -/
def cutAt (sign : List Char) : List Char → Option (List Char × List Char)
  | [] => Option.none
  | c :: rest =>
    if sign.isPrefixOf (c :: rest) then some ([], (c :: rest).drop sign.length)
    else (cutAt sign rest).map fun (before, after) => (c :: before, after)

/-- The set that the text between the braces of a property class names: a name alone, or a name and
a value with `!=`, `:` or `=` between them. -/
def ofClassText? (text : List Char) : Option CharSet :=
  match cutAt ['!', '='] text with
  | some (name, value) => (ofNameAndValue? name value).map .compl
  | Option.none =>
    match cutAt [':'] text with
    | some (name, value) => ofNameAndValue? name value
    | Option.none =>
      match cutAt ['='] text with
      | some (name, value) => ofNameAndValue? name value
      | Option.none => ofName? text

def asciiDigits : CharSet := .span 0x30 0x39

def asciiLowerLetters : CharSet := .span 0x61 0x7A

def asciiUpperLetters : CharSet := .span 0x41 0x5A

def asciiLetters : CharSet := .union asciiUpperLetters asciiLowerLetters

def asciiWord : CharSet := unions [asciiDigits, asciiLetters, .single '_']

def asciiBlanks : CharSet := .union (.span 9 13) (.single ' ')

def ofAsciiName? (name : List Char) : Option CharSet :=
  match String.ofList name with
  | "alnum" => some (.union asciiDigits asciiLetters)
  | "alpha" => some asciiLetters
  | "ascii" => some .ascii
  | "blank" => some (.union (.single '\t') (.single ' '))
  | "cntrl" => some (.union (.span 0 0x1F) (.span 0x7F 0x7F))
  | "digit" => some asciiDigits
  | "graph" => some (.span 0x21 0x7E)
  | "lower" => some asciiLowerLetters
  | "print" => some (.span 0x20 0x7E)
  | "punct" =>
    some (unions [.span 0x21 0x2F, .span 0x3A 0x40, .span 0x5B 0x60, .span 0x7B 0x7E])
  | "space" => some asciiBlanks
  | "upper" => some asciiUpperLetters
  | "word" => some asciiWord
  | "xdigit" => some (unions [asciiDigits, .span 0x41 0x46, .span 0x61 0x66])
  | _ => Option.none

end CharSet

end PromptScript
