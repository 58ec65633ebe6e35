import SeriesIndex.CommandLine.Arguments

/-!
# Help

What the program tells about itself and its commands.
-/

namespace SeriesIndex.CommandLine

def programHelp : List String :=
  ["Label-indexed series search over date-bucketed postings",
   "",
   "Usage: tagsieve [OPTIONS] <COMMAND>",
   "",
   "Commands:",
   "  import  Import lines of \x60metric\x7bk=\"v\",...\x7d \"line\" [timestamp]\x60",
   "  search  Search series by selector",
   "  config  Generate default config file",
   "  help    Print this message or the help of the given subcommand(s)",
   "",
   "Options:",
   "  -c, --config <CONFIG>  Config file (default: search the standard locations)",
   "  -t, --tenant <TENANT>  Tenant as account or account:project [default: 0:0]",
   "  -h, --help             Print help",
   "  -V, --version          Print version"]

def importHelp : List String :=
  ["Import lines of \x60metric\x7bk=\"v\",...\x7d \"line\" [timestamp]\x60",
   "",
   "Usage: tagsieve import [OPTIONS] <PATH>",
   "",
   "Arguments:",
   "  <PATH>  File to import (\"-\" for stdin)",
   "",
   "Options:",
   "  -c, --config <CONFIG>        Config file (default: search the standard locations)",
   "      --timestamp <TIMESTAMP>  Timestamp for lines without one, in Unix ms (default: now)",
   "  -t, --tenant <TENANT>        Tenant as account or account:project [default: 0:0]",
   "  -h, --help                   Print help"]

def searchHelp : List String :=
  ["Search series by selector",
   "",
   "Usage: tagsieve search [OPTIONS] <SELECTOR>",
   "",
   "Arguments:",
   "  <SELECTOR>  Selector like \x60http_requests\x7bjob=~\"api|web\"\x7d\x60",
   "",
   "Options:",
   "  -c, --config <CONFIG>  Config file (default: search the standard locations)",
   "      --start <START>    Range start: now-1h, RFC 3339, or Unix ms [default: now-1d]",
   "      --end <END>        Range end: now, RFC 3339, or Unix ms [default: now]",
   "  -t, --tenant <TENANT>  Tenant as account or account:project [default: 0:0]",
   "  -l, --limit <LIMIT>    Print at most this many series",
   "  -f, --format <FORMAT>  Output format [default: table] [possible values: table, json]",
   "  -h, --help             Print help"]

def configHelp : List String :=
  ["Generate default config file",
   "",
   "Usage: tagsieve config [OPTIONS]",
   "",
   "Options:",
   "  -c, --config <CONFIG>  Config file (default: search the standard locations)",
   "  -o, --output <OUTPUT>  Output path (default: stdout)",
   "  -t, --tenant <TENANT>  Tenant as account or account:project [default: 0:0]",
   "  -h, --help             Print help"]

def helpHelp : List String :=
  ["Print this message or the help of the given subcommand(s)",
   "",
   "Usage: tagsieve help [COMMAND]...",
   "",
   "Arguments:",
   "  [COMMAND]...  Print help for the subcommand(s)"]

def Topic.lines : Topic → List String
  | program => programHelp
  | importLines => importHelp
  | search => searchHelp
  | config => configHelp
  | help => helpHelp
  | version => ["tagsieve 0.1.0"]

def Topic.text (topic : Topic) : String := String.join (topic.lines.map (· ++ "\n"))

end SeriesIndex.CommandLine
