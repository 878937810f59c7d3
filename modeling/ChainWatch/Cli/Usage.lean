import ChainWatch.Service.Router

/-!
# What the program says about itself
-/

namespace ChainWatch.Cli

/-- The name of the program. -/
def programName : String := "chain-watch"

/-- What is printed for the version. -/
def versionLine : String := programName ++ " " ++ programVersion

/-- What is printed for a request for help. -/
def usage : List String :=
  ["Watch transactions until they are irreversible on a cluster of chain nodes",
    "",
    s!"Usage: {programName} [OPTIONS] <COMMAND>",
    "",
    "Commands:",
    "  serve    Run the service",
    "             -c, --config <FILE>     configuration file [default: watcher.toml if present]",
    "             --bind <ADDRESS>        where to listen, in place of the configured address",
    "  watches  Tell a service which nodes to watch",
    "             --nodes <URL>...        base urls of the nodes",
    "  run      Let a service start a run, and wait for its verdict",
    "             --freq <SECONDS>        time between submissions",
    "             --amount <NUMBER>       how many transactions to submit",
    "             --url <URL>             where to submit",
    "             --users <TEXT>          source of accounts, for the submitter",
    "             --debug <JSON>          debug value, for the submitter",
    "  stop     Let a service cancel its run",
    "  heads    Check that the heads of nodes are close together",
    "             --nodes <URL>...        base urls of the nodes",
    "             --max-spread <BLOCKS>   fail unless the spread is less",
    "             --timeout-ms <MILLIS>   how long a node may take [default: 5000]",
    "",
    "Options:",
    "      --server <URL>       the service to talk to [default: http://127.0.0.1:6666]",
    "      --log-level <LEVEL>  what to log [default: info]",
    "  -h, --help               Print help",
    "  -V, --version            Print version"]

end ChainWatch.Cli
