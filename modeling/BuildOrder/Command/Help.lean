import BuildOrder.Command.Run

/-!
# Texts about arguments

What is said when help is asked for, and when arguments make no sense, is not settled here. Such a text may quote the
arguments and show the values of variables, so it may depend on all that a run is called with. A run takes these texts
as `UsageTexts`, and what is proved about runs is proved for any.

`UsageTexts.plain` is what the program says if nobody else provides for it. The wording is this library's own, and no
result depends on it.
-/

namespace BuildOrder

/-- What is said about arguments in a run. -/
structure UsageTexts where
  /-- Goes to the standard output when help about a scope is asked for. -/
  help : Invocation → Scope → String
  /-- Goes to the standard error when arguments make no sense. -/
  complaint : Invocation → Usage → String

namespace UsageTexts

def ofLines (lines : List String) : String := String.join (lines.map (· ++ "\n"))

/-- The options that are understood everywhere. -/
def commonOptions : List String :=
  ["Options:",
   "  -k, --manifest-key <KEY>       Key of the dependency sequence [default: deps]",
   "      --log-level <LEVEL>        Verbosity from 0 to 4 [default: 0]",
   "      --log-format <FORMAT>      text, json or yaml [default: text]",
   "      --log-output <STREAM>      stderr or stdout [default: stderr]",
   "  -c, --color <COLOR>            auto, always or never [default: auto]",
   "  -h, --help                     Print help",
   "  -V, --version                  Print version"]

def plainHelp : Scope → String
  | .top => ofLines (["Flatten nested dependency lists into build order", "",
      s!"Usage: {programName} [OPTIONS] [COMMAND]", "",
      "Commands:",
      "  flatten  Flatten a dependency manifest into build order",
      "  version  Show version information",
      "  help     Print help", ""] ++ commonOptions)
  | .flatten => ofLines (["Flatten a dependency manifest into build order", "",
      s!"Usage: {programName} flatten [OPTIONS] [INPUT]", "",
      "Arguments:",
      "  [INPUT]  Manifest file (JSON, TOML or YAML); '-' reads stdin", ""] ++ commonOptions
      ++ ["  -f, --input-format <FORMAT>    json, toml or yaml [default: from extension, json for stdin]",
        "  -e, --emit <STYLE>             lines or json [default: lines]"])
  | .version => ofLines (["Show version information", "", s!"Usage: {programName} version [OPTIONS]", ""]
      ++ commonOptions)

def plainReason : Usage → String
  | .unknownArgument => "unexpected argument"
  | .invalidValue => "invalid value for an argument"
  | .valueValidation => "invalid number for an argument"
  | .argumentConflict => "an argument cannot be used twice"
  | .tooManyValues => "unexpected value for an argument"
  | .invalidSubcommand => "unrecognized subcommand"
  | .help _ => "help was asked for"
  | .version _ => "the version was asked for"

/-- Short texts that quote neither arguments nor variables. -/
def plain : UsageTexts where
  help _ := plainHelp
  complaint _ u := s!"error: {plainReason u}\n\nFor more information, try '--help'.\n"

end UsageTexts

end BuildOrder
