import IndexSearch.CommandLine.Usage

/-!
# Help

What is printed for a command line that is not carried out.
-/

namespace IndexSearch

namespace UsageFault

def usage : Text := [
  "Usage: shard-search serve [OPTIONS] <PORT> <STATIC_DIR> <INDICES>...\n",
  "       shard-search shell <INDICES>...\n",
  "\n",
  "Options of serve:\n",
  "  -w, --workers <WORKERS>            [default: 100]\n",
  "      --family <FAMILY>              v4, v6 or unspecified [default: unspecified]\n",
  "      --crawl-root <CRAWL_ROOT>      [default: ./test_tree/]\n",
  "      --close-policy <CLOSE_POLICY>  drop-final or respond-then-close [default: drop-final]\n",
  "      --no-reverse-dns\n",
  "  -h, --help\n"].flatMap String.toList

def reason : UsageFault → Option Text
  | .helpWanted => none
  | .helpForNothing => none
  | .unknownCommand => some "unrecognized subcommand".toList
  | .unknownArgument => some "unexpected argument".toList
  | .missingArgument => some "a required argument was not provided".toList
  | .repeatedArgument => some "an argument cannot be used multiple times".toList
  | .surplusValue => some "a flag was given a value".toList
  | .invalidValue => some "an argument has no valid value".toList
  | .unreadableValue => some "an argument's value cannot be read".toList

/-- What is printed for a command line that is not carried out. -/
def message (fault : UsageFault) : Text :=
  match fault.reason with
  | none => usage
  | some reason => "error: ".toList ++ reason ++ "\n\n".toList ++ usage

end UsageFault

end IndexSearch
