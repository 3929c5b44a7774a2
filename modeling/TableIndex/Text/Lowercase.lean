/-!
# Lower case

Names of settings, levels and the like are compared in lower case, where only the letters `A` to `Z` matter.
-/

namespace TableIndex.Text

/-- The text with every letter from `A` to `Z` in lower case. -/
def asciiLower (s : String) : String := String.ofList (s.toList.map Char.toLower)

end TableIndex.Text
