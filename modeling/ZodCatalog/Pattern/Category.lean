import ZodCatalog.Pattern.CharSet

/-!
General categories and their groups by name.
-/

namespace ZodCatalog.Pattern.CharSet

def caseLetters : CharSet := categories [.uppercaseLetter, .lowercaseLetter, .titlecaseLetter]

def letters : CharSet := union caseLetters (categories [.modifierLetter, .otherLetter])

def marks : CharSet := categories [.nonspacingMark, .spacingMark, .enclosingMark]

def numbers : CharSet := categories [.decimalNumber, .letterNumber, .otherNumber]

def brackets : CharSet :=
  categories [.openPunctuation, .closePunctuation, .initialPunctuation, .finalPunctuation]

def punctuation : CharSet :=
  union (categories [.connectorPunctuation, .dashPunctuation, .otherPunctuation]) brackets

def symbols : CharSet :=
  categories [.mathSymbol, .currencySymbol, .modifierSymbol, .otherSymbol]

def separators : CharSet := categories [.spaceSeparator, .lineSeparator, .paragraphSeparator]

def unassigned : CharSet := complement (categories Text.Category.all)

def otherCharacters : CharSet :=
  union (categories [.control, .format, .privateUse]) unassigned

/-- Categories and their groups by their names. -/
def byCategory : List (List String × CharSet) :=
  [(["l", "letter"], letters),
   (["lc", "casedletter"], caseLetters),
   (["lu", "uppercaseletter"], category .uppercaseLetter),
   (["ll", "lowercaseletter"], category .lowercaseLetter),
   (["lt", "titlecaseletter"], category .titlecaseLetter),
   (["lm", "modifierletter"], category .modifierLetter),
   (["lo", "otherletter"], category .otherLetter),
   (["m", "mark", "combiningmark"], marks),
   (["mn", "nonspacingmark"], category .nonspacingMark),
   (["mc", "spacingmark"], category .spacingMark),
   (["me", "enclosingmark"], category .enclosingMark),
   (["n", "number"], numbers),
   (["nd", "decimalnumber", "digit"], category .decimalNumber),
   (["nl", "letternumber"], category .letterNumber),
   (["no", "othernumber"], category .otherNumber),
   (["p", "punctuation", "punct"], punctuation),
   (["pc", "connectorpunctuation"], category .connectorPunctuation),
   (["pd", "dashpunctuation"], category .dashPunctuation),
   (["ps", "openpunctuation"], category .openPunctuation),
   (["pe", "closepunctuation"], category .closePunctuation),
   (["pi", "initialpunctuation"], category .initialPunctuation),
   (["pf", "finalpunctuation"], category .finalPunctuation),
   (["po", "otherpunctuation"], category .otherPunctuation),
   (["s", "symbol"], symbols),
   (["sm", "mathsymbol"], category .mathSymbol),
   (["sc", "currencysymbol"], category .currencySymbol),
   (["sk", "modifiersymbol"], category .modifierSymbol),
   (["so", "othersymbol"], category .otherSymbol),
   (["z", "separator"], separators),
   (["zs", "spaceseparator"], category .spaceSeparator),
   (["zl", "lineseparator"], category .lineSeparator),
   (["zp", "paragraphseparator"], category .paragraphSeparator),
   (["c", "other"], otherCharacters),
   (["cc", "control", "cntrl"], category .control),
   (["cf", "format"], category .format),
   (["co", "privateuse"], category .privateUse),
   (["cn", "unassigned"], unassigned),
   (["any"], any), (["ascii"], ascii), (["assigned"], complement unassigned)]

end ZodCatalog.Pattern.CharSet
