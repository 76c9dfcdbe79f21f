import Requisite.Stylesheet.Basic
import Requisite.Stylesheet.Specifier

/-!
# Imports of style sheets
-/

namespace Requisite.Stylesheet

def AtRule.imported (dialect : Dialect) (rule : AtRule) : List String :=
  specifiers dialect.allowsBare (splitTop ',' rule.prelude.toList)

/-- The files that the import rules of a style sheet name. -/
def imported (sheet : Stylesheet) : List String :=
  (sheet.rulesNamed sheet.dialect.importRules).flatMap (AtRule.imported sheet.dialect)

end Requisite.Stylesheet
