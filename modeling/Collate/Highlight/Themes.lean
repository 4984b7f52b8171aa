/-!
# Themes

The names of the colour themes on offer, in alphabetical order.
-/

namespace Collate.Highlight

/-- The themes on offer. -/
def themes : List String := [
  "abap", "algol", "algol_nu", "arduino", "autumn", "borland", "bw", "coffee", "colorful",
  "default", "dracula", "emacs", "friendly", "friendly_grayscale", "fruity", "github-dark",
  "gruvbox-dark", "gruvbox-light", "igor", "inkpot", "lightbulb", "lilypond", "lovelace", "manni",
  "material", "monokai", "murphy", "native", "night-owl", "nord", "nord-darker", "one-dark",
  "paraiso-dark", "paraiso-light", "pastie", "perldoc", "rainbow_dash", "rrt", "sas",
  "solarized-dark", "solarized-light", "staroffice", "stata-dark", "stata-light", "tango", "trac",
  "vim", "vs", "xcode", "zenburn"]

end Collate.Highlight
