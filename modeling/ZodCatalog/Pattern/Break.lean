import ZodCatalog.Pattern.Property
import ZodCatalog.Pattern.Script

/-!
The classes of characters that decide where a text may be divided: between the characters that a
reader sees, between words and between sentences.
-/

namespace ZodCatalog.Pattern.Break

open CharSet Property Text

/-- Characters that join the one that follows. -/
def prependSpans : List Span :=
  [⟨0x600, 0x605, 1⟩, ⟨0x6DD, 0x6DD, 1⟩, ⟨0x70F, 0x70F, 1⟩, ⟨0x890, 0x891, 1⟩, ⟨0x8E2, 0x8E2, 1⟩,
   ⟨0xD4E, 0xD4E, 1⟩, ⟨0x110BD, 0x110BD, 1⟩, ⟨0x110CD, 0x110CD, 1⟩, ⟨0x111C2, 0x111C3, 1⟩,
   ⟨0x113D1, 0x113D1, 1⟩, ⟨0x1193F, 0x11941, 2⟩, ⟨0x11A3A, 0x11A3A, 1⟩, ⟨0x11A84, 0x11A89, 1⟩,
   ⟨0x11D46, 0x11D46, 1⟩, ⟨0x11F02, 0x11F02, 1⟩]

/-- Spacing marks that stand by themselves. -/
def spacingMarkExceptions : List Span :=
  [⟨0x102B, 0x102C, 1⟩, ⟨0x1038, 0x1038, 1⟩, ⟨0x1062, 0x1064, 1⟩, ⟨0x1067, 0x106D, 1⟩,
   ⟨0x1083, 0x1083, 1⟩, ⟨0x1087, 0x108C, 1⟩, ⟨0x108F, 0x108F, 1⟩, ⟨0x109A, 0x109C, 1⟩,
   ⟨0x1A61, 0x1A61, 1⟩, ⟨0x1A63, 0x1A64, 1⟩, ⟨0xAA7B, 0xAA7D, 2⟩, ⟨0x11720, 0x11721, 1⟩]

def vowelSpans : List Span :=
  [⟨0x1160, 0x11A7, 1⟩, ⟨0xD7B0, 0xD7C6, 1⟩, ⟨0x16D63, 0x16D63, 1⟩, ⟨0x16D67, 0x16D6A, 1⟩]

def katakanaSpans : List Span :=
  [⟨0x3031, 0x3035, 1⟩, ⟨0x309B, 0x309C, 1⟩, ⟨0x30A0, 0x30FA, 1⟩, ⟨0x30FC, 0x30FF, 1⟩,
   ⟨0x31F0, 0x31FF, 1⟩, ⟨0x32D0, 0x32FE, 1⟩, ⟨0x3300, 0x3357, 1⟩, ⟨0xFF66, 0xFF9D, 1⟩,
   ⟨0x1AFF0, 0x1AFF3, 1⟩, ⟨0x1AFF5, 0x1AFFB, 1⟩, ⟨0x1AFFD, 0x1AFFE, 1⟩, ⟨0x1B000, 0x1B000, 1⟩,
   ⟨0x1B120, 0x1B122, 1⟩, ⟨0x1B155, 0x1B155, 1⟩, ⟨0x1B164, 0x1B167, 1⟩]

def midNumSpans : List Span :=
  [⟨0x2C, 0x2C, 1⟩, ⟨0x3B, 0x3B, 1⟩, ⟨0x37E, 0x37E, 1⟩, ⟨0x589, 0x589, 1⟩, ⟨0x60C, 0x60D, 1⟩,
   ⟨0x66C, 0x66C, 1⟩, ⟨0x7F8, 0x7F8, 1⟩, ⟨0x2044, 0x2044, 1⟩, ⟨0xFE50, 0xFE50, 1⟩,
   ⟨0xFE54, 0xFE54, 1⟩, ⟨0xFF0C, 0xFF0C, 1⟩, ⟨0xFF1B, 0xFF1B, 1⟩]

def wordSpaceSpans : List Span :=
  [⟨0x20, 0x20, 1⟩, ⟨0x1680, 0x1680, 1⟩, ⟨0x2000, 0x2006, 1⟩, ⟨0x2008, 0x200A, 1⟩,
   ⟨0x205F, 0x205F, 1⟩, ⟨0x3000, 0x3000, 1⟩]

/-- Characters of words that are not alphabetic. -/
def alsoLetterSpans : List Span :=
  [⟨0x2C2, 0x2C5, 1⟩, ⟨0x2D2, 0x2D7, 1⟩, ⟨0x2DE, 0x2DF, 1⟩, ⟨0x2E5, 0x2EB, 1⟩, ⟨0x2ED, 0x2ED, 1⟩,
   ⟨0x2EF, 0x2FF, 1⟩, ⟨0x55A, 0x55C, 1⟩, ⟨0x55E, 0x55E, 1⟩, ⟨0x58A, 0x58A, 1⟩, ⟨0x5F3, 0x5F3, 1⟩,
   ⟨0x70F, 0x70F, 1⟩, ⟨0xA708, 0xA716, 1⟩, ⟨0xA720, 0xA721, 1⟩, ⟨0xA789, 0xA78A, 1⟩,
   ⟨0xAB5B, 0xAB5B, 1⟩]

/-- Alphabetic characters of scripts that are written without spaces. -/
def unspacedSpans : List Span :=
  [⟨0xE01, 0xE30, 1⟩, ⟨0xE32, 0xE33, 1⟩, ⟨0xE40, 0xE46, 1⟩, ⟨0xE81, 0xE82, 1⟩, ⟨0xE84, 0xE84, 1⟩,
   ⟨0xE86, 0xE8A, 1⟩, ⟨0xE8C, 0xEA3, 1⟩, ⟨0xEA5, 0xEA5, 1⟩, ⟨0xEA7, 0xEB0, 1⟩, ⟨0xEB2, 0xEB3, 1⟩,
   ⟨0xEBD, 0xEBD, 1⟩, ⟨0xEC0, 0xEC4, 1⟩, ⟨0xEC6, 0xEC6, 1⟩, ⟨0xEDC, 0xEDF, 1⟩, ⟨0x1000, 0x102A, 1⟩,
   ⟨0x103F, 0x103F, 1⟩, ⟨0x1050, 0x1055, 1⟩, ⟨0x105A, 0x105D, 1⟩, ⟨0x1061, 0x1061, 1⟩,
   ⟨0x1065, 0x1066, 1⟩, ⟨0x106E, 0x1070, 1⟩, ⟨0x1075, 0x1081, 1⟩, ⟨0x108E, 0x108E, 1⟩,
   ⟨0x1780, 0x17B3, 1⟩, ⟨0x17D7, 0x17D7, 1⟩, ⟨0x17DC, 0x17DC, 1⟩, ⟨0x1950, 0x196D, 1⟩,
   ⟨0x1970, 0x1974, 1⟩, ⟨0x1980, 0x19AB, 1⟩, ⟨0x19B0, 0x19C9, 1⟩, ⟨0x1A20, 0x1A54, 1⟩,
   ⟨0x1AA7, 0x1AA7, 1⟩, ⟨0xA9E0, 0xA9E4, 1⟩, ⟨0xA9E6, 0xA9EF, 1⟩, ⟨0xA9FA, 0xA9FE, 1⟩,
   ⟨0xAA60, 0xAA76, 1⟩, ⟨0xAA7A, 0xAA7A, 1⟩, ⟨0xAA7E, 0xAAAF, 1⟩, ⟨0xAAB1, 0xAAB1, 1⟩,
   ⟨0xAAB5, 0xAAB6, 1⟩, ⟨0xAAB9, 0xAABD, 1⟩, ⟨0xAAC0, 0xAAC2, 2⟩, ⟨0xAADB, 0xAADD, 1⟩,
   ⟨0x11700, 0x1171A, 1⟩, ⟨0x11740, 0x11746, 1⟩]

def sentenceContinueSpans : List Span :=
  [⟨0x2C, 0x2D, 1⟩, ⟨0x3A, 0x3B, 1⟩, ⟨0x37E, 0x37E, 1⟩, ⟨0x55D, 0x55D, 1⟩, ⟨0x60C, 0x60D, 1⟩,
   ⟨0x7F8, 0x7F8, 1⟩, ⟨0x1802, 0x1802, 1⟩, ⟨0x1808, 0x1808, 1⟩, ⟨0x2013, 0x2014, 1⟩,
   ⟨0x3001, 0x3001, 1⟩, ⟨0xFE10, 0xFE11, 1⟩, ⟨0xFE13, 0xFE14, 1⟩, ⟨0xFE31, 0xFE32, 1⟩,
   ⟨0xFE50, 0xFE51, 1⟩, ⟨0xFE54, 0xFE55, 1⟩, ⟨0xFE58, 0xFE58, 1⟩, ⟨0xFE63, 0xFE63, 1⟩,
   ⟨0xFF0C, 0xFF0D, 1⟩, ⟨0xFF1A, 0xFF1B, 1⟩, ⟨0xFF64, 0xFF64, 1⟩]

/-- Quotes and ornaments that close a sentence and are no brackets. -/
def sentenceCloseSpans : List Span :=
  [⟨0x22, 0x22, 1⟩, ⟨0x27, 0x27, 1⟩, ⟨0x275B, 0x2760, 1⟩, ⟨0x2E00, 0x2E01, 1⟩, ⟨0x2E06, 0x2E08, 1⟩,
   ⟨0x2E0B, 0x2E0B, 1⟩, ⟨0x1F676, 0x1F678, 1⟩]

def carriageReturn : CharSet := single '\r'

def lineFeed : CharSet := single '\n'

def joiner : CharSet := single '\u200D'

/-- What extends the character before it. -/
def extend : CharSet := diff (union graphemeExtend emojiModifier) joiner

/-- What extends a word or a sentence: spacing marks too. -/
def wideExtend : CharSet := union extend (category .spacingMark)

/-- Tags, which are shown with the character before. -/
def tags : CharSet := range 0xE0020 0xE007F

/-- Format characters that do not join what stands around them. -/
def format : CharSet :=
  diff (category .format)
    (unions [joinControl, spans prependedConcatenationMarkSpans, tags])

def control : CharSet :=
  diff (unions [format, categories [.control, .lineSeparator, .paragraphSeparator],
    inter unassigned defaultIgnorable]) (union carriageReturn lineFeed)

def spacingMark : CharSet :=
  union (diff (category .spacingMark) (union extend (spans spacingMarkExceptions)))
    (union (single '\u0E33') (single '\u0EB3'))

/-- Syllables of a consonant and a vowel: each 28th one; the others end in a consonant. -/
def openSyllable : CharSet := spans [⟨0xAC00, 0xD788, 28⟩]

def closedSyllable : CharSet := diff (range 0xAC00 0xD7A3) openSyllable

def leadingConsonant : CharSet := union (range 0x1100 0x115F) (range 0xA960 0xA97C)

def trailingConsonant : CharSet := union (range 0x11A8 0x11FF) (range 0xD7CB 0xD7FB)

/-- Classes between the characters that a reader sees. -/
def graphemes : List (List String × CharSet) :=
  [(["cn", "control"], control),
   (["cr"], carriageReturn),
   (["ex", "extend"], extend),
   (["l"], leadingConsonant),
   (["lf"], lineFeed),
   (["lv"], openSyllable),
   (["lvt"], closedSyllable),
   (["pp", "prepend"], spans prependSpans),
   (["ri", "regionalindicator"], regionalIndicator),
   (["sm", "spacingmark"], spacingMark),
   (["t"], trailingConsonant),
   (["v"], spans vowelSpans),
   (["zwj"], joiner)]

def hebrewLetter : CharSet := inter (spans Script.hebr) (category .otherLetter)

def wordLetter : CharSet :=
  union (diff alphabetic (unions [spans ideographicSpans, spans katakanaSpans,
    spans Script.hira, hebrewLetter, wideExtend, spans unspacedSpans]))
    (spans alsoLetterSpans)

/-- Signs that count as part of a number. -/
def numberSigns : CharSet :=
  union (diff (spans prependedConcatenationMarkSpans) (single '\u070F')) (single '\u19DA')

def wordNumber : CharSet := unions [digit, single '\u066B', numberSigns]

/-- Classes between words. -/
def words : List (List String × CharSet) :=
  [(["le", "aletter"], wordLetter),
   (["cr"], carriageReturn),
   (["dq", "doublequote"], single '"'),
   (["extend"], wideExtend),
   (["ex", "extendnumlet"], union (category .connectorPunctuation) (single '\u202F')),
   (["fo", "format"], diff format (single '\u200B')),
   (["hl", "hebrewletter"], hebrewLetter),
   (["ka", "katakana"], spans katakanaSpans),
   (["lf"], lineFeed),
   (["ml", "midletter"], spans midLetterSpans),
   (["mn", "midnum"], spans midNumSpans),
   (["mb", "midnumlet"], spans midNumLetSpans),
   (["nl", "newline"], unions [range 0xB 0xC, single '\u0085', range 0x2028 0x2029]),
   (["nu", "numeric"], wordNumber),
   (["ri", "regionalindicator"], regionalIndicator),
   (["sq", "singlequote"], single '\x27'),
   (["wsegspace"], spans wordSpaceSpans),
   (["zwj"], joiner)]

def sentenceExtend : CharSet := diff (union wideExtend joiner) emojiModifier

def sentenceSeparator : CharSet := union (single '\u0085') (range 0x2028 0x2029)

/-- Full stops, which may end a sentence or stand in a number. -/
def fullStop : CharSet := unions [single '.', single '\u2024', single '\uFE52', single '\uFF0E']

/-- The upper forms of the Georgian letters. -/
def georgianUpper : CharSet := union (range 0x1C90 0x1CBA) (range 0x1CBD 0x1CBF)

def sentenceLower : CharSet := diff lowercase (union wideExtend georgian)

def sentenceUpper : CharSet := diff (union uppercase titlecase) georgianUpper

def sentenceLetter : CharSet :=
  diff (union alphabetic (single '\u05F3')) (unions [sentenceLower, sentenceUpper, sentenceExtend])

/-- Classes between sentences. -/
def sentences : List (List String × CharSet) :=
  [(["at", "aterm"], fullStop),
   (["cr"], carriageReturn),
   (["cl", "close"], union brackets (spans sentenceCloseSpans)),
   (["ex", "extend"], sentenceExtend),
   (["fo", "format"], union format (single '\u070F')),
   (["lf"], lineFeed),
   (["lo", "lower"], sentenceLower),
   (["nu", "numeric"], union wordNumber (single '\u066C')),
   (["le", "oletter"], sentenceLetter),
   (["sc", "scontinue"], spans sentenceContinueSpans),
   (["st", "sterm"], diff (spans sentenceTerminalSpans) fullStop),
   (["se", "sep"], sentenceSeparator),
   (["sp"], diff blank (unions [sentenceSeparator, carriageReturn, lineFeed])),
   (["up", "upper"], sentenceUpper)]

end ZodCatalog.Pattern.Break
