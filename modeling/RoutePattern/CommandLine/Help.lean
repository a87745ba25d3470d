/-! # Help

What the program says about itself and its commands.
-/

namespace RoutePattern.CommandLine.Help

def lines (ls : List String) : String := String.join (ls.map (· ++ "\n"))

def version : String := lines ["routekit 0.1.0"]

def overview : String := lines [
  "routekit CLI - match and build route patterns",
  "",
  "Usage: routekit <COMMAND>",
  "",
  "Commands:",
  "  tokens   Print the token sequence of a pattern",
  "  match    Match a path against a pattern",
  "  build    Build a path from name=value parameters",
  "  resolve  Resolve paths against a route table",
  "  help     Print this message or the help of the given subcommand(s)",
  "",
  "Options:",
  "  -h, --help     Print help",
  "  -V, --version  Print version"]

def tokens : String := lines [
  "Print the token sequence of a pattern",
  "",
  "Usage: routekit tokens <PATTERN>",
  "",
  "Arguments:",
  "  <PATTERN>  Route pattern, e.g. \"/user/:id\"",
  "",
  "Options:",
  "  -h, --help  Print help"]

def matching : String := lines [
  "Match a path against a pattern",
  "",
  "Usage: routekit match [OPTIONS] <PATTERN> <PATH>",
  "",
  "Arguments:",
  "  <PATTERN>  ",
  "  <PATH>     ",
  "",
  "Options:",
  "      --sensitive     Case-sensitive matching",
  "      --strict        Reject an optional trailing delimiter",
  "      --prefix-match  Match a prefix of the path instead of the whole path",
  "      --json          Print the result as JSON",
  "  -h, --help          Print help"]

def build : String := lines [
  "Build a path from name=value parameters",
  "",
  "Usage: routekit build [OPTIONS] <PATTERN> [PARAMS]...",
  "",
  "Arguments:",
  "  <PATTERN>    ",
  "  [PARAMS]...  Parameters as name=value (repeat a name to build a sequence)",
  "",
  "Options:",
  "      --no-validate  Skip validating values against their capture patterns",
  "      --encode       Percent-encode parameter values",
  "  -h, --help         Print help"]

def resolve : String := lines [
  "Resolve paths against a route table",
  "",
  "Usage: routekit resolve [OPTIONS] <PATHS>...",
  "",
  "Arguments:",
  "  <PATHS>...  ",
  "",
  "Options:",
  "  -c, --config <CONFIG>  Route table file [default: routekit.toml]",
  "      --json             Print results as JSON",
  "  -h, --help             Print help"]

def help : String := lines [
  "Print this message or the help of the given subcommand(s)",
  "",
  "Usage: routekit help [COMMAND]...",
  "",
  "Arguments:",
  "  [COMMAND]...  Print help for the subcommand(s)"]

end RoutePattern.CommandLine.Help
