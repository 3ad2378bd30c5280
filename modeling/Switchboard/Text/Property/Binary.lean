import Switchboard.Text.Property.Category
import Switchboard.Text.Property.BinaryRanges

/-!
Binary properties of code points. Some are tables; the others follow from general categories and what a
table adds to them.
-/

namespace Switchboard.Text

/-- The sets that complete the properties derived from categories. -/
structure PropertyExtras where
  lowercase : CodeSet
  uppercase : CodeSet
  alphabetic : CodeSet
  graphemeExtend : CodeSet
  math : CodeSet
  idStart : CodeSet
  idContinue : CodeSet
  caseIgnorable : CodeSet
  notXidStart : CodeSet
  notXidContinue : CodeSet
  patternSyntax : CodeSet
  patternWhiteSpace : CodeSet
  joinControl : CodeSet

/-- The sets read from the tables. -/
def propertyExtras : PropertyExtras where
  lowercase := .ofTable otherLowercase
  uppercase := .ofTable otherUppercase
  alphabetic := .ofTable otherAlphabetic
  graphemeExtend := .ofTable otherGraphemeExtend
  math := .ofTable otherMath
  idStart := .ofTable otherIdStart
  idContinue := .ofTable otherIdContinue
  caseIgnorable := .ofTable otherCaseIgnorable
  notXidStart := .ofTable notXidStart
  notXidContinue := .ofTable notXidContinue
  patternSyntax := .ofTable patternSyntaxRanges
  patternWhiteSpace := .ofTable patternWhiteSpaceRanges
  joinControl := .ofTable joinControlRanges

/-- Lower-case code points. -/
def isLowercase (n : Nat) : Bool := hasCategory ["Ll"] n || propertyExtras.lowercase.contains n

/-- Upper-case code points. -/
def isUppercase (n : Nat) : Bool := hasCategory ["Lu"] n || propertyExtras.uppercase.contains n

/-- Alphabetic code points. -/
def isAlphabetic (n : Nat) : Bool :=
  hasCategory ["Ll", "Lm", "Lo", "Lt", "Lu", "Nl"] n || propertyExtras.lowercase.contains n ||
    propertyExtras.uppercase.contains n || propertyExtras.alphabetic.contains n

/-- Code points that extend the grapheme before them. -/
def isGraphemeExtend (n : Nat) : Bool :=
  hasCategory ["Me", "Mn"] n || propertyExtras.graphemeExtend.contains n

/-- Code points that start an identifier. -/
def isIdStart (n : Nat) : Bool :=
  (hasCategory ["Ll", "Lm", "Lo", "Lt", "Lu", "Nl"] n && !propertyExtras.patternSyntax.contains n &&
    !propertyExtras.patternWhiteSpace.contains n) || propertyExtras.idStart.contains n

/-- Code points that continue an identifier. -/
def isIdContinue (n : Nat) : Bool :=
  isIdStart n || hasCategory ["Mn", "Mc", "Nd", "Pc"] n || propertyExtras.idContinue.contains n

/-- Word characters: alphabetic ones, marks, digits, connectors and join controls. -/
def isWordCode (n : Nat) : Bool :=
  isAlphabetic n || hasCategory ["Mc", "Me", "Mn", "Nd", "Pc"] n ||
    propertyExtras.joinControl.contains n

/-- Printable code points: assigned ones that are neither controls nor, but for the space, separators. -/
def isPrintable (n : Nat) : Bool :=
  n == 0x20 || !hasCategory ["Cc", "Cf", "Cn", "Co", "Cs", "Zl", "Zp", "Zs"] n

/-- The tables of properties, each with its spellings in lower case. -/
def propertyTables : List (List String × List String) :=
  [(["ahex", "asciihexdigit"], asciiHexDigitRanges),
   (["bidic", "bidicontrol"], bidiControlRanges),
   (["bidim", "bidimirrored"], bidiMirroredRanges),
   (["dash"], dashRanges),
   (["di", "defaultignorablecodepoint"], defaultIgnorableCodePointRanges),
   (["dep", "deprecated"], deprecatedRanges),
   (["dia", "diacritic"], diacriticRanges),
   (["emoji"], emojiRanges),
   (["epres", "emojipresentation"], emojiPresentationRanges),
   (["emod", "emojimodifier"], emojiModifierRanges),
   (["ebase", "emojimodifierbase"], emojiModifierBaseRanges),
   (["ecomp", "emojicomponent"], emojiComponentRanges),
   (["extpict", "extendedpictographic"], extendedPictographicRanges),
   (["ext", "extender"], extenderRanges),
   (["hex", "hexdigit"], hexDigitRanges),
   (["idsb", "idsbinaryoperator"], idsBinaryOperatorRanges),
   (["idst", "idstrinaryoperator"], idsTrinaryOperatorRanges),
   (["ideo", "ideographic"], ideographicRanges),
   (["joinc", "joincontrol"], joinControlRanges),
   (["loe", "logicalorderexception"], logicalOrderExceptionRanges),
   (["nchar", "noncharactercodepoint"], noncharacterCodePointRanges),
   (["patsyn", "patternsyntax"], patternSyntaxRanges),
   (["patws", "patternwhitespace"], patternWhiteSpaceRanges),
   (["pcm", "prependedconcatenationmark"], prependedConcatenationMarkRanges),
   (["qmark", "quotationmark"], quotationMarkRanges),
   (["radical"], radicalRanges),
   (["ri", "regionalindicator"], regionalIndicatorRanges),
   (["sterm", "sentenceterminal"], sentenceTerminalRanges),
   (["sd", "softdotted"], softDottedRanges),
   (["term", "terminalpunctuation"], terminalPunctuationRanges),
   (["uideo", "unifiedideograph"], unifiedIdeographRanges),
   (["vs", "variationselector"], variationSelectorRanges),
   (["wspace", "whitespace", "space"], whiteSpaceRanges)]

/-- The test for a property, given its spelling in lower case. -/
def binaryProperty? (spelling : String) : Option (Nat → Bool) :=
  match spelling with
  | "alpha" | "alphabetic" => some isAlphabetic
  | "lower" | "lowercase" => some isLowercase
  | "upper" | "uppercase" => some isUppercase
  | "cased" => some fun n => isLowercase n || isUppercase n || hasCategory ["Lt"] n
  | "ci" | "caseignorable" => some fun n =>
    hasCategory ["Mn", "Me", "Cf", "Lm", "Sk"] n || propertyExtras.caseIgnorable.contains n
  | "grext" | "graphemeextend" => some isGraphemeExtend
  | "grbase" | "graphemebase" => some fun n =>
    !hasCategory ["Cc", "Cf", "Cs", "Co", "Cn", "Zl", "Zp"] n && !isGraphemeExtend n
  | "math" => some fun n => hasCategory ["Sm"] n || propertyExtras.math.contains n
  | "ids" | "idstart" => some isIdStart
  | "idc" | "idcontinue" => some isIdContinue
  | "xids" | "xidstart" => some fun n => isIdStart n && !propertyExtras.notXidStart.contains n
  | "xidc" | "xidcontinue" => some fun n =>
    isIdContinue n && !propertyExtras.notXidContinue.contains n
  | _ => (propertyTables.find? fun entry => entry.1.contains spelling).map fun entry =>
    (CodeSet.ofTable entry.2).contains

end Switchboard.Text
