import ZodCatalog.Pattern.Category
import ZodCatalog.Pattern.PropertySpans

/-!
Properties that a character has or has not. Most are put together from general categories and
from the code points of a few properties of their own.
-/

namespace ZodCatalog.Pattern.Property

open CharSet Text

def digit : CharSet := category .decimalNumber

def blank : CharSet :=
  unions [separators, range 9 13, single '\u0085']

/-! Case. -/

def lowercase : CharSet := union (category .lowercaseLetter) (spans otherLowercaseSpans)

def uppercase : CharSet := union (category .uppercaseLetter) (spans otherUppercaseSpans)

def titlecase : CharSet := category .titlecaseLetter

def cased : CharSet := unions [lowercase, uppercase, titlecase]

def caseIgnorable : CharSet :=
  union (categories [.nonspacingMark, .enclosingMark, .format, .modifierLetter, .modifierSymbol])
    (unions [spans midLetterSpans, spans midNumLetSpans, single '\x27'])

/-- The spans that a table of shifts moves. -/
def moved (table : List Shift) : CharSet :=
  spans (table.map fun s => ⟨s.first, s.last, s.step⟩)

def changesLowered : CharSet :=
  inter (unions [asciiUpper, moved loweringShifts, single 'İ']) known

/-- Two lower-case letters got their upper form only with the newest edition. -/
def raisedLate : CharSet := union (single '\uA7D3') (single '\uA7D5')

def changesRaised : CharSet :=
  diff (inter (unions
    [asciiLower, moved raisingShifts, spans (raisingExpansions.map fun (n, _) => ⟨n, n, 1⟩)])
    known) raisedLate

/-- The Georgian letters, which are raised but do not start a name in upper form. -/
def georgian : CharSet := union (range 0x10D0 0x10FA) (range 0x10FD 0x10FF)

/-- The digraphs in upper case, which start a name with one upper letter. -/
def digraphs : CharSet := unions [single 'Ǆ', single 'Ǉ', single 'Ǌ', single 'Ǳ']

def changesTitled : CharSet := union (diff changesRaised (union titlecase georgian)) digraphs

/-- The Cherokee letters, which are upper forms and stand for both cases. -/
def cherokee : CharSet := range 0x13A0 0x13F5

def changesFolded : CharSet := union (diff changesLowered cherokee) (spans foldedOnlySpans)

def changesCase : CharSet := unions [changesLowered, changesRaised, changesTitled]

/-! Words and names. -/

def alphabetic : CharSet :=
  unions [letters, category .letterNumber, spans otherAlphabeticSpans,
    spans otherLowercaseSpans, spans otherUppercaseSpans]

/-- Joiners, which have no form of their own. -/
def joinControl : CharSet := range 0x200C 0x200D

/-- Word characters are alphabetic, marks, decimal digits, connecting punctuation or joiners. -/
def word : CharSet :=
  unions [asciiWord, alphabetic, marks, digit, category .connectorPunctuation, joinControl]

def syntaxCharacters : CharSet :=
  union (spans patternSyntaxSpans) (spans patternWhiteSpaceSpans)

def idStart : CharSet :=
  diff (unions [letters, category .letterNumber, spans otherIdStartSpans]) syntaxCharacters

def idContinue : CharSet :=
  diff (unions [idStart, digit, spans otherIdContinueSpans,
    categories [.nonspacingMark, .spacingMark, .connectorPunctuation]]) syntaxCharacters

def xidStart : CharSet := diff idStart (spans notXidStartSpans)

def xidContinue : CharSet := diff idContinue (spans notXidContinueSpans)

/-! Signs and what is seen of them. -/

def math : CharSet := union (category .mathSymbol) (spans otherMathSpans)

def asciiHexDigit : CharSet := unions [asciiDigit, range 0x41 0x46, range 0x61 0x66]

def hexDigit : CharSet :=
  unions [asciiHexDigit, range 0xFF10 0xFF19, range 0xFF21 0xFF26, range 0xFF41 0xFF46]

def emojiModifier : CharSet := range 0x1F3FB 0x1F3FF

def regionalIndicator : CharSet := range 0x1F1E6 0x1F1FF

def bidiControl : CharSet :=
  unions [single '\u061C', range 0x200E 0x200F, range 0x202A 0x202E, range 0x2066 0x2069]

/-- Controls of annotations and of hieroglyphs, which are shown. -/
def shownControls : CharSet := union (range 0xFFF9 0xFFFB) (range 0x13430 0x13440)

def defaultIgnorable : CharSet :=
  diff (unions [spans otherDefaultIgnorableSpans, category .format, spans variationSelectorSpans])
    (unions [blank, shownControls, spans prependedConcatenationMarkSpans])

def graphemeExtend : CharSet :=
  union (categories [.nonspacingMark, .enclosingMark]) (spans otherGraphemeExtendSpans)

def graphemeBase : CharSet :=
  complement (unions
    [otherCharacters, category .lineSeparator, category .paragraphSeparator, graphemeExtend])

/-- Operators that describe ideographs by two parts, by three and by one. -/
def idsBinary : CharSet := unions [range 0x2FF0 0x2FF1, range 0x2FF4 0x2FFD, single '\u31EF']

def idsTrinary : CharSet := range 0x2FF2 0x2FF3

def idsUnary : CharSet := range 0x2FFE 0x2FFF

/-- Code points that are never assigned: a block of 32 and the last two of each plane. -/
def noncharacter : CharSet :=
  union (range 0xFDD0 0xFDEF)
    (spans [⟨0xFFFE, 0x10FFFE, 0x10000⟩, ⟨0xFFFF, 0x10FFFF, 0x10000⟩])

/-- The properties by their names without case, blanks, hyphens and low lines. -/
def all : List (List String × CharSet) :=
  [(["asciihexdigit", "ahex"], asciiHexDigit),
   (["alphabetic", "alpha"], alphabetic),
   (["bidicontrol", "bidic"], bidiControl),
   (["bidimirrored", "bidim"], spans bidiMirroredSpans),
   (["caseignorable", "ci"], caseIgnorable),
   (["cased"], cased),
   (["changeswhencasefolded", "cwcf"], changesFolded),
   (["changeswhencasemapped", "cwcm"], changesCase),
   (["changeswhenlowercased", "cwl"], changesLowered),
   (["changeswhentitlecased", "cwt"], changesTitled),
   (["changeswhenuppercased", "cwu"], changesRaised),
   (["dash"], spans dashSpans),
   (["defaultignorablecodepoint", "di"], defaultIgnorable),
   (["deprecated", "dep"], spans deprecatedSpans),
   (["diacritic", "dia"], spans diacriticSpans),
   (["emoji"], spans emojiSpans),
   (["emojicomponent", "ecomp"], spans emojiComponentSpans),
   (["emojimodifier", "emod"], emojiModifier),
   (["emojimodifierbase", "ebase"], spans emojiModifierBaseSpans),
   (["emojipresentation", "epres"], spans emojiPresentationSpans),
   (["extendedpictographic", "extpict"], spans extendedPictographicSpans),
   (["extender", "ext"], spans extenderSpans),
   (["graphemebase", "grbase"], graphemeBase),
   (["graphemeextend", "grext"], graphemeExtend),
   (["graphemelink", "grlink"], spans graphemeLinkSpans),
   (["hexdigit", "hex"], hexDigit),
   (["hyphen"], spans hyphenSpans),
   (["idcontinue", "idc"], idContinue),
   (["idstart", "ids"], idStart),
   (["idcompatmathcontinue"], union (spans mathStartSpans) (spans mathContinueSpans)),
   (["idcompatmathstart"], spans mathStartSpans),
   (["ideographic", "ideo"], spans ideographicSpans),
   (["idsbinaryoperator", "idsb"], idsBinary),
   (["idstrinaryoperator", "idst"], idsTrinary),
   (["idsunaryoperator", "idsu"], idsUnary),
   (["joincontrol", "joinc"], joinControl),
   (["logicalorderexception", "loe"], spans logicalOrderExceptionSpans),
   (["lowercase", "lower"], lowercase),
   (["math"], math),
   (["modifiercombiningmark", "mcm"], spans modifierCombiningMarkSpans),
   (["noncharactercodepoint", "nchar"], noncharacter),
   (["otheralphabetic", "oalpha"], spans otherAlphabeticSpans),
   (["otherdefaultignorablecodepoint", "odi"], spans otherDefaultIgnorableSpans),
   (["othergraphemeextend", "ogrext"], spans otherGraphemeExtendSpans),
   (["otheridcontinue", "oidc"], spans otherIdContinueSpans),
   (["otheridstart", "oids"], spans otherIdStartSpans),
   (["otherlowercase", "olower"], spans otherLowercaseSpans),
   (["othermath", "omath"], spans otherMathSpans),
   (["otheruppercase", "oupper"], spans otherUppercaseSpans),
   (["patternsyntax", "patsyn"], spans patternSyntaxSpans),
   (["patternwhitespace", "patws"], spans patternWhiteSpaceSpans),
   (["prependedconcatenationmark", "pcm"], spans prependedConcatenationMarkSpans),
   (["quotationmark", "qmark"], spans quotationMarkSpans),
   (["radical"], spans radicalSpans),
   (["regionalindicator", "ri"], regionalIndicator),
   (["sentenceterminal", "sterm"], spans sentenceTerminalSpans),
   (["softdotted", "sd"], spans softDottedSpans),
   (["terminalpunctuation", "term"], spans terminalPunctuationSpans),
   (["unifiedideograph", "uideo"], spans unifiedIdeographSpans),
   (["uppercase", "upper"], uppercase),
   (["variationselector", "vs"], spans variationSelectorSpans),
   (["whitespace", "wspace", "space"], blank),
   (["xidcontinue", "xidc"], xidContinue),
   (["xidstart", "xids"], xidStart)]

end ZodCatalog.Pattern.Property

namespace ZodCatalog.Pattern

def isWord (c : Char) : Bool := Property.word.has c

theorem isWord_of_asciiWord {c : Char} (h : CharSet.asciiWord.has c = true) :
    isWord c = true := by
  simp [isWord, Property.word, CharSet.has_unions, h]

end ZodCatalog.Pattern
