import RecordFormula.CharSet.Basic

/-!
# Sets of characters by general category

* `CharSet.category?` — the set of a general category, or of a union of categories, by its name in
  folded spelling (lowercase, no separators).
-/

namespace RecordFormula

namespace CharSet

/-- General categories and their unions by their names. -/
def categories : List (List String × List Category) :=
  [(["lu", "uppercaseletter"], [.lu]), (["ll", "lowercaseletter"], [.ll]),
    (["lt", "titlecaseletter"], [.lt]), (["lc", "casedletter"], [.lu, .ll, .lt]),
    (["lm", "modifierletter"], [.lm]), (["lo", "otherletter"], [.lo]),
    (["l", "letter"], [.lu, .ll, .lt, .lm, .lo]), (["mn", "nonspacingmark"], [.mn]),
    (["mc", "spacingmark"], [.mc]), (["me", "enclosingmark"], [.me]),
    (["m", "mark", "combiningmark"], [.mn, .mc, .me]), (["nd", "decimalnumber", "digit"], [.nd]),
    (["nl", "letternumber"], [.nl]), (["no", "othernumber"], [.no]),
    (["n", "number"], [.nd, .nl, .no]), (["pc", "connectorpunctuation"], [.pc]),
    (["pd", "dashpunctuation"], [.pd]), (["ps", "openpunctuation"], [.ps]),
    (["pe", "closepunctuation"], [.pe]), (["pi", "initialpunctuation"], [.pi]),
    (["pf", "finalpunctuation"], [.pf]), (["po", "otherpunctuation"], [.po]),
    (["p", "punctuation", "punct"], [.pc, .pd, .ps, .pe, .pi, .pf, .po]),
    (["sm", "mathsymbol"], [.sm]), (["sc", "currencysymbol"], [.sc]),
    (["sk", "modifiersymbol"], [.sk]), (["so", "othersymbol"], [.so]),
    (["s", "symbol"], [.sm, .sc, .sk, .so]), (["zs", "spaceseparator"], [.zs]),
    (["zl", "lineseparator"], [.zl]), (["zp", "paragraphseparator"], [.zp]),
    (["z", "separator"], [.zs, .zl, .zp]), (["cc", "control", "cntrl"], [.cc]),
    (["cf", "format"], [.cf]), (["co", "privateuse"], [.co]), (["cn", "unassigned"], [.cn]),
    (["c", "other"], [.cc, .cf, .co, .cn])]

/-- The set of a general category, or of a union of categories. -/
def category? (name : String) : Option CharSet :=
  match name with
  | "any" => some all
  | "ascii" => some basic
  | "assigned" => some (ofCategories [.cn]).complement
  | name => (categories.find? (·.1.contains name)).map fun entry => ofCategories entry.2

end CharSet

end RecordFormula
