import PageLang.Text.Blank
import PageLang.Text.Letter

/-!
# Addresses

An address in markup must not run a script. Browsers skip blanks and control characters before and
in the scheme and take it in either case, so that is how the scheme is looked for.

`neutralize` is `neutralize_url`.
-/

namespace PageLang.Markup

open Text (isBlank isControl)

/-- The schemes of addresses that run a script. -/
def scriptSchemes : List String := ["javascript:", "vbscript:"]

/-- The start of an address as a browser reads it: no blanks or control characters, in lower case,
and as long as the longest scheme that is looked for. -/
def addressStart (url : String) : List Char :=
  ((url.toList.filter fun c => !isBlank c && !isControl c).take 11).map Char.toLower

/-- Whether an address runs a script. -/
def runsScript (url : String) : Bool :=
  scriptSchemes.any fun scheme => scheme.toList.isPrefixOf (addressStart url)

/-- The address, or `#` in place of one that runs a script. -/
def neutralize (url : String) : String := if runsScript url then "#" else url

end PageLang.Markup
