import Emend.Unicode.GeneralCategory
import Emend.Unicode.Script
import Emend.Unicode.ScriptExtensions
import Emend.Unicode.BinaryProperty
import Emend.Unicode.Age
import Emend.Unicode.Segmentation

/-!
# Character properties by name

A pattern asks for a property by one name, such as `Greek` or `Lu`, or by a name and a value,
such as `Script=Greek`. A lookup answers with the set of code points, or says whether the
property or only its value is unknown.
-/

namespace Emend.Unicode

inductive PropertyError where
  /-- No property has the name. -/
  | unknownProperty
  /-- The property exists, and has no such value. -/
  | unknownValue
deriving DecidableEq, Repr

/-! ## Loose names -/

def significant (name : List Char) : List Char :=
  (name.filter fun c => c ≠ ' ' && c ≠ '_' && c ≠ '-' && c.toNat ≤ 0x7F).map Char.toLower

/-- The loose form of a name: a leading `is` does not count, except in `isc`. -/
def looseName (name : String) : String :=
  match name.toList with
  | first :: second :: rest =>
    if first.toLower = 'i' && second.toLower = 's' then
      let bare := significant rest
      if bare = ['c'] then "isc" else String.ofList bare
    else String.ofList (significant (first :: second :: rest))
  | short => String.ofList (significant short)

/-! ## Names of properties -/

/-- Properties that have values of their own kind, in loose form, besides the binary ones. -/
def otherPropertyNames : List String := [
  "cjkaccountingnumeric", "kaccountingnumeric", "cjkothernumeric", "kothernumeric",
  "cjkprimarynumeric", "kprimarynumeric", "nv", "numericvalue", "bmg", "bidimirroringglyph",
  "bpb", "bidipairedbracket", "cf", "casefolding", "cjkcompatibilityvariant",
  "kcompatibilityvariant", "dm", "decompositionmapping", "equideo",
  "equivalentunifiedideograph", "fcnfkc", "fcnfkcclosure", "lc", "lowercasemapping", "nfkccf",
  "nfkccasefold", "nfkcscf", "nfkcsimplecasefold", "scf", "simplecasefolding", "sfc", "slc",
  "simplelowercasemapping", "stc", "simpletitlecasemapping", "suc", "simpleuppercasemapping",
  "tc", "titlecasemapping", "uc", "uppercasemapping", "cjkiicore", "kiicore", "cjkirggsource",
  "kirggsource", "cjkirghsource", "kirghsource", "cjkirgjsource", "kirgjsource",
  "cjkirgkpsource", "kirgkpsource", "cjkirgksource", "kirgksource", "cjkirgmsource",
  "kirgmsource", "cjkirgssource", "kirgssource", "cjkirgtsource", "kirgtsource",
  "cjkirguksource", "kirguksource", "cjkirgusource", "kirgusource", "cjkirgvsource",
  "kirgvsource", "cjkrsunicode", "krsunicode", "unicoderadicalstroke", "urs", "isc",
  "isocomment", "jsn", "jamoshortname", "na", "name", "na1", "unicode1name", "namealias", "scx",
  "scriptextensions", "age", "blk", "block", "sc", "script", "bc", "bidiclass", "bpt",
  "bidipairedbrackettype", "ccc", "canonicalcombiningclass", "dt", "decompositiontype", "ea",
  "eastasianwidth", "gc", "generalcategory", "gcb", "graphemeclusterbreak", "hst",
  "hangulsyllabletype", "incb", "indicconjunctbreak", "inpc", "indicpositionalcategory", "insc",
  "indicsyllabiccategory", "jg", "joininggroup", "jt", "joiningtype", "lb", "linebreak",
  "nfcqc", "nfcquickcheck", "nfdqc", "nfdquickcheck", "nfkcqc", "nfkcquickcheck", "nfkdqc",
  "nfkdquickcheck", "nt", "numerictype", "sb", "sentencebreak", "vo", "verticalorientation",
  "wb", "wordbreak", "ce", "compositionexclusion", "compex", "fullcompositionexclusion",
  "cwkcf", "changeswhennfkccasefolded", "xonfc", "expandsonnfc", "xonfd", "expandsonnfd",
  "xonfkc", "expandsonnfkc", "xonfkd", "expandsonnfkd"]

def isPropertyName (name : String) : Bool :=
  (binaryProperties.entry? name).isSome || otherPropertyNames.contains name

/-! ## Sets by value -/

/-- Categories that collect others: their names, and the names of those they collect. -/
def categoryGroups : List (List String × List String) := [
  (["lc", "casedletter"], ["lu", "ll", "lt"]),
  (["l", "letter"], ["lu", "ll", "lt", "lm", "lo"]),
  (["m", "mark", "combiningmark"], ["mn", "mc", "me"]),
  (["n", "number"], ["nd", "nl", "no"]),
  (["p", "punctuation", "punct"], ["pc", "pd", "ps", "pe", "pi", "pf", "po"]),
  (["s", "symbol"], ["sm", "sc", "sk", "so"]),
  (["z", "separator"], ["zs", "zl", "zp"])]

def assigned : CharSet := generalCategories.union

/-- Names that stand for a category without members among the characters. -/
def surrogateNames : List String := ["cs", "surrogate"]

def unassignedNames : List String := ["cn", "unassigned"]

/-- Names of the code points that are no letters, marks, numbers, punctuation, symbols or
separators. -/
def otherNames : List String := ["c", "other"]

def categorySet? (name : String) : Option CharSet :=
  if name = "any" then some CharSet.all
  else if name = "assigned" then some assigned
  else if name = "ascii" then some CharSet.ascii
  else if unassignedNames.contains name then some assigned.complement
  else if otherNames.contains name then
    some (CharSet.unions (assigned.complement :: ["cc", "cf", "co"].filterMap fun member =>
      generalCategories.set? member))
  else
    match categoryGroups.find? fun group => group.1.contains name with
    | some (_, members) => some (CharSet.unions (members.filterMap fun member =>
        generalCategories.set? member))
    | none => generalCategories.set? name

/-- Names of scripts that no character is written in alone. -/
def emptyScriptNames : List String := ["zzzz", "unknown", "hrkt", "katakanaorhiragana"]

def scriptExtensionSet? (name : String) : Option CharSet :=
  match scriptExtensions.set? name with
  | some set => some set
  | none => scripts.set? name

/-- The code points assigned in the named version or before. -/
def ageSet? (name : String) : Option CharSet :=
  let before := ages.takeWhile fun entry => !entry.names.contains name
  (ages.entry? name).map fun entry =>
    CharSet.unions (entry.set :: before.map Entry.set)

def orError (error : PropertyError) : Option CharSet → Except PropertyError CharSet
  | some set => .ok set
  | none => .error error

/-! ## Lookups -/

def namedSet (name : String) : Except PropertyError CharSet :=
  let loose := looseName name
  if loose ≠ "cf" && loose ≠ "sc" && loose ≠ "lc" && isPropertyName loose then
    orError .unknownProperty (binaryProperties.set? loose)
  else if surrogateNames.contains loose || emptyScriptNames.contains loose then
    .error .unknownValue
  else
    match categorySet? loose with
    | some set => .ok set
    | none => orError .unknownProperty (scripts.set? loose)

def valueSet (name value : String) : Except PropertyError CharSet :=
  let property := looseName name
  let loose := looseName value
  if !isPropertyName property then .error .unknownProperty
  else orError .unknownValue <|
    if property = "gc" || property = "generalcategory" then categorySet? loose
    else if property = "sc" || property = "script" then scripts.set? loose
    else if property = "scx" || property = "scriptextensions" then scriptExtensionSet? loose
    else if property = "age" then ageSet? loose
    else if property = "gcb" || property = "graphemeclusterbreak" then
      graphemeClusterBreaks.set? loose
    else if property = "sb" || property = "sentencebreak" then sentenceBreaks.set? loose
    else if property = "wb" || property = "wordbreak" then wordBreaks.set? loose
    else none

/-! ## Shorthand sets -/

/-- The set of a binary property or category that is known to exist. -/
def knownSet (name : String) : CharSet := (namedSet name).toOption.getD CharSet.empty

def wordSet : CharSet :=
  CharSet.unions (["alphabetic", "mark", "decimalnumber", "connectorpunctuation",
    "joincontrol"].map knownSet)

def digitSet : CharSet := knownSet "decimalnumber"

def spaceSet : CharSet := knownSet "whitespace"

def alphabeticSet : CharSet := knownSet "alphabetic"

def numericSet : CharSet := knownSet "number"

end Emend.Unicode
