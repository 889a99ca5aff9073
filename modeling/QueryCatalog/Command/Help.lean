import QueryCatalog.Command.Arguments

/-!
The texts that explain how the program is used.
-/
namespace QueryCatalog.HelpTopic

def about : HelpTopic → String
  | .program => "Named query mappings: validate, list and dry-run render"
  | .validate => "Load descriptors and report every mapping problem"
  | .list => "List the versioned names of all queries"
  | .render => "Build a querier and print its statement and bound values"

def usage : HelpTopic → String
  | .program => "namedql <COMMAND>"
  | .validate => "namedql validate <FILES>..."
  | .list => "namedql list <FILES>..."
  | .render => "namedql render [OPTIONS] --query <QUERY> <FILES>..."

def details : HelpTopic → List String
  | .program =>
    ["Commands:",
      "  validate  " ++ about .validate,
      "  list      " ++ about .list,
      "  render    " ++ about .render,
      "  help      Print this message or the help of the given subcommand(s)",
      "",
      "Options:",
      "  -h, --help  Print help"]
  | .validate =>
    ["Arguments:",
      "  <FILES>...  Descriptor files (.toml or .json)",
      "",
      "Options:",
      "  -h, --help  Print help"]
  | .list =>
    ["Arguments:",
      "  <FILES>...  ",
      "",
      "Options:",
      "  -h, --help  Print help"]
  | .render =>
    ["Arguments:",
      "  <FILES>...  ",
      "",
      "Options:",
      "  -q, --query <QUERY>      Versioned query name (name or name:version)",
      "  -p, --param <PARAM>      Criteria as a JSON object [default: \x7b\x7d]",
      "      --context <CONTEXT>  Context as a JSON object [default: null]",
      "  -h, --help               Print help"]

def lines (topic : HelpTopic) : List String :=
  [topic.about, "", "Usage: " ++ topic.usage, ""] ++ topic.details

end QueryCatalog.HelpTopic
