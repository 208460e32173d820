import ForumSearch.Command.Invocation

/-!
The help texts of the program and its commands, and its version.
-/

namespace ForumSearch

def programName : String := "thread-finder"

def versionText : String := programName ++ " 0.1.0\n"

namespace Topic

def summary : Topic → String
  | .program => "Tag- and keyword-driven search over forum threads"
  | .search => "Run a search described by a JSON query model (`-` reads stdin)"
  | .vote => "Cast, switch or retract a tag vote and print the thread's tag stats"
  | .tags => "List the unique tag names"
  | .load => "Load authors, tags, threads and collections from a JSON dump"
  | .help => "Print this message or the help of the given subcommand(s)"

def usage : Topic → String
  | .program => "<COMMAND>"
  | .search => "search <QUERY>"
  | .vote => "vote --user <USER> --thread <THREAD> --tag <TAG> --value <VALUE>"
  | .tags => "tags"
  | .load => "import <FILE>"
  | .help => "help [COMMAND]..."

/-- What follows the usage line: headings with their lines. -/
def sections : Topic → List (String × List String)
  | .program =>
    [("Commands", ["search  " ++ summary .search, "vote    " ++ summary .vote,
      "tags    " ++ summary .tags, "import  " ++ summary .load, "help    " ++ summary .help]),
     ("Options", ["-h, --help     Print help", "-V, --version  Print version"])]
  | .search => [("Arguments", ["<QUERY>  "]), ("Options", ["-h, --help  Print help"])]
  | .vote =>
    [("Options", ["    --user <USER>      ", "    --thread <THREAD>  ", "    --tag <TAG>        ",
      "    --value <VALUE>    [possible values: up, down]", "-h, --help             Print help"])]
  | .tags => [("Options", ["-h, --help  Print help"])]
  | .load => [("Arguments", ["<FILE>  "]), ("Options", ["-h, --help  Print help"])]
  | .help => [("Arguments", ["[COMMAND]...  Print help for the subcommand(s)"])]

def text (t : Topic) : String :=
  t.summary ++ "\n\nUsage: " ++ programName ++ " " ++ t.usage ++ "\n" ++
    String.join (t.sections.map fun s =>
      "\n" ++ s.1 ++ ":\n" ++ String.join (s.2.map fun line => "  " ++ line ++ "\n"))

end Topic

end ForumSearch
