import Intake.Pattern.CharSet
import Intake.Text.Property

/-!
# Named sets of characters

General categories, scripts and binary properties are sets that a pattern can call by their names.
Names are compared loosely: case does not matter, nor do blanks, hyphens and underscores between the
words, nor an `is` at the start.
-/

namespace Intake.Pattern

open Intake.Text

/-! ## Names -/

/-- The letters and digits of a name, in small letters. -/
def nameLetters (cs : List Char) : List Char :=
  (cs.filter fun c => c.toNat < 128 && c != ' ' && c != '_' && c != '-').map Char.toLower

/-- A name without case, without what stands between its words, and without an `is` at the start. The
name of the category `c` must not be lost with it. -/
def looseName (cs : List Char) : String :=
  match cs with
  | a :: b :: rest =>
    if a.toLower = 'i' ∧ b.toLower = 's' then
      let letters := nameLetters rest
      String.ofList (if letters = ['c'] then ['i', 's', 'c'] else letters)
    else String.ofList (nameLetters cs)
  | _ => String.ofList (nameLetters cs)

/-! ## Categories -/

/-- The names of the general categories and of their groups. -/
def categoryNames : List (List String × List Category) :=
  [(["l", "letter"],
      [.uppercaseLetter, .lowercaseLetter, .titlecaseLetter, .modifierLetter, .otherLetter]),
   (["lc", "casedletter"], [.uppercaseLetter, .lowercaseLetter, .titlecaseLetter]),
   (["lu", "uppercaseletter"], [.uppercaseLetter]),
   (["ll", "lowercaseletter"], [.lowercaseLetter]),
   (["lt", "titlecaseletter"], [.titlecaseLetter]),
   (["lm", "modifierletter"], [.modifierLetter]),
   (["lo", "otherletter"], [.otherLetter]),
   (["m", "mark", "combiningmark"], [.nonspacingMark, .spacingMark, .enclosingMark]),
   (["mn", "nonspacingmark"], [.nonspacingMark]),
   (["mc", "spacingmark"], [.spacingMark]),
   (["me", "enclosingmark"], [.enclosingMark]),
   (["n", "number"], [.decimalNumber, .letterNumber, .otherNumber]),
   (["nd", "decimalnumber", "digit"], [.decimalNumber]),
   (["nl", "letternumber"], [.letterNumber]),
   (["no", "othernumber"], [.otherNumber]),
   (["p", "punctuation", "punct"],
      [.connectorPunctuation, .dashPunctuation, .openPunctuation, .closePunctuation,
       .initialPunctuation, .finalPunctuation, .otherPunctuation]),
   (["pc", "connectorpunctuation"], [.connectorPunctuation]),
   (["pd", "dashpunctuation"], [.dashPunctuation]),
   (["ps", "openpunctuation"], [.openPunctuation]),
   (["pe", "closepunctuation"], [.closePunctuation]),
   (["pi", "initialpunctuation"], [.initialPunctuation]),
   (["pf", "finalpunctuation"], [.finalPunctuation]),
   (["po", "otherpunctuation"], [.otherPunctuation]),
   (["s", "symbol"], [.mathSymbol, .currencySymbol, .modifierSymbol, .otherSymbol]),
   (["sm", "mathsymbol"], [.mathSymbol]),
   (["sc", "currencysymbol"], [.currencySymbol]),
   (["sk", "modifiersymbol"], [.modifierSymbol]),
   (["so", "othersymbol"], [.otherSymbol]),
   (["z", "separator"], [.spaceSeparator, .lineSeparator, .paragraphSeparator]),
   (["zs", "spaceseparator"], [.spaceSeparator]),
   (["zl", "lineseparator"], [.lineSeparator]),
   (["zp", "paragraphseparator"], [.paragraphSeparator]),
   (["c", "other"], [.control, .format, .surrogate, .privateUse, .unassigned]),
   (["cc", "control", "cntrl"], [.control]),
   (["cf", "format"], [.format]),
   (["cs", "surrogate"], [.surrogate]),
   (["co", "privateuse"], [.privateUse]),
   (["cn", "unassigned"], [.unassigned])]

/-- The set of a category's name. -/
def categorySet? (name : String) : Option CharSet :=
  if name = "any" then some CharSet.all
  else if name = "ascii" then some CharSet.ascii
  else if name = "assigned" then some (.complement (.category [.unassigned]))
  else (categoryNames.find? fun entry => entry.1.contains name).map fun entry => .category entry.2

/-- The set of a script's name. -/
def scriptSet? (name : String) : Option CharSet := (scriptOfName? name).map .script

/-- The set of a single name: a property, a category or a script. -/
def setOfName? (cs : List Char) : Option CharSet :=
  let name := looseName cs
  ((propertyOfName? name).map .ranges).or ((categorySet? name).or (scriptSet? name))

/-- The set of a property with a value. -/
def setOfValue? (property value : List Char) : Option CharSet :=
  let property := looseName property
  if property = "generalcategory" ∨ property = "gc" then categorySet? (looseName value)
  else if property = "script" ∨ property = "sc" then scriptSet? (looseName value)
  else none

/-! ## ASCII classes -/

/-- The classes of ASCII characters that go by a name between colons. -/
def asciiClasses : List (String × Ranges) :=
  [("alnum", [(0x30, 0x39), (0x41, 0x5A), (0x61, 0x7A)]),
   ("alpha", [(0x41, 0x5A), (0x61, 0x7A)]),
   ("ascii", [(0x00, 0x7F)]),
   ("blank", [(0x09, 0x09), (0x20, 0x20)]),
   ("cntrl", [(0x00, 0x1F), (0x7F, 0x7F)]),
   ("digit", [(0x30, 0x39)]),
   ("graph", [(0x21, 0x7E)]),
   ("lower", [(0x61, 0x7A)]),
   ("print", [(0x20, 0x7E)]),
   ("punct", [(0x21, 0x2F), (0x3A, 0x40), (0x5B, 0x60), (0x7B, 0x7E)]),
   ("space", [(0x09, 0x0D), (0x20, 0x20)]),
   ("upper", [(0x41, 0x5A)]),
   ("word", asciiWordRanges),
   ("xdigit", [(0x30, 0x39), (0x41, 0x46), (0x61, 0x66)])]

end Intake.Pattern
