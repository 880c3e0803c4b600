import Evse.Config.Setting
import Evse.Text.Quote
/-!
The usage text: every variable with its kind, description and default, by variable name.
-/
namespace Evse.Configuration

/-- The entry of one setting: a line with the variable and its kind, then a tab-led line with
the description and the quoted default. -/
def Setting.usageEntry (s : Setting) : String :=
  let default := match s.default? with
    | some d => s!" (default {Text.quote d})"
    | none => ""
  s!"\n  {s.envName} {s.kind.typeName}\n    \t{s.description}{default}"

/-- The usage text. -/
def usage : String :=
  "Environment variables:" ++ String.join ((Setting.all.map Setting.usageEntry).mergeSort (· ≤ ·))

end Evse.Configuration
