import EventMixing.CommandLine.Grammar

/-!
# Help on the command line
-/

namespace EventMixing

def helpText : String :=
  "evmix - Categorize events on a binned grid and pool them for event mixing\n\n"
    ++ "Usage: evmix [OPTIONS] [COMMAND]\n\n"
    ++ "Commands:\n"
    ++ "  decode     Decode a category into its per-axis bins\n"
    ++ "  variables  List the observables that can be used as mixing axes\n"
    ++ "  help       Print this message\n\n"
    ++ "Options:\n"
    ++ "  -i, --input <INPUT>                 Input event table (CSV or Parquet)\n"
    ++ "  -c, --config <CONFIG>               Binning configuration (JSON)\n"
    ++ "  -o, --output <OUTPUT>               Output file (CSV or Parquet)\n"
    ++ "      --mixing-depth <N>              Events kept per category pool\n"
    ++ "      --pairs-output <FILE>           Write the mixed pairs to this file\n"
    ++ "      --no-export                     Skip the occupancy report\n"
    ++ "      --infer-schema-length <N>       Rows for type inference, 0 for all\n"
    ++ "  -h, --help                          Print help\n"
    ++ "  -V, --version                       Print version\n"

/-- What is said of arguments that are no command. -/
def UsageError.message : UsageError → String
  | .valueValidation reason => "invalid value: " ++ reason
  | .invalidValue => "a value is required and may not be empty"
  | .unknownArgument => "unexpected argument"
  | .invalidSubcommand => "unrecognized subcommand"
  | .missingRequiredArgument => "required arguments were not provided"
  | .argumentConflict => "an argument cannot be used multiple times"
  | .tooManyValues => "unexpected value for an option that takes none"
  | .displayHelp => "help was asked for"
  | .displayVersion => "the version was asked for"

end EventMixing
