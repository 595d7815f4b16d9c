/-!
# The query language, explained

The reference text that is shown to the people who write queries.
-/

namespace SpecFinder.Query

/-- The lines of the query language reference. -/
def syntaxHelpLines : List String := [
  "Search Syntax:",
  "  term              Simple term search",
  "  \"exact phrase\"    Match exact phrase",
  "  term1 AND term2   Both terms must match (AND is optional)",
  "  term1 OR term2    Either term matches",
  "  NOT term          Exclude specs with term",
  "  (a OR b) AND c    Group with parentheses",
  "",
  "  Keywords AND, OR and NOT must be uppercase.",
  "",
  "Field Filters:",
  "  status:in-progress    Filter by status (planned, in-progress, complete, archived)",
  "  tag:api               Filter by tag",
  "  priority:high         Filter by priority (low, medium, high, critical)",
  "  assignee:marvin       Filter by assignee",
  "  title:dashboard       Search in title only",
  "  name:oauth            Search in spec name",
  "",
  "Date Filters:",
  "  created:>2025-11-01             Created after date",
  "  created:<2025-11-15             Created before date",
  "  created:2025-11-01..2025-11-15  Created in date range",
  "  updated:>=2025-11-01            Updated on or after date",
  "",
  "Fuzzy Matching:",
  "  authetication~     Matches \"authentication\" (typo-tolerant)",
  "",
  "Examples:",
  "  api authentication                 Find specs with both terms",
  "  tag:api status:planned             API specs that are planned",
  "  \"user session\" OR \"token refresh\"  Either phrase",
  "  dashboard NOT deprecated           Dashboard specs, exclude deprecated",
  "  authetication~                     Find despite typo"]

def syntaxHelp : String := String.intercalate "\n" syntaxHelpLines

end SpecFinder.Query
