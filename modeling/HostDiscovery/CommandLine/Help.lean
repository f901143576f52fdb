/-!
# Help pages

The commands by name, their usage lines, and the page that each shows when it
is asked for help. The page of the program lists all commands in the order of
their names.
-/
namespace HostDiscovery.CommandLine

inductive CommandName
  | address
  | download
  | home
  | hostname
  | lookup
  | port
  | validateIp
  | version
  deriving DecidableEq, Repr

def programName : String := "recorder"

namespace CommandName

def text : CommandName → String
  | address => "address"
  | download => "download"
  | home => "home"
  | hostname => "hostname"
  | lookup => "lookup"
  | port => "port"
  | validateIp => "validate-ip"
  | version => "version"

def all : List CommandName :=
  [address, download, home, hostname, lookup, port, validateIp, version]

def ofText? (s : String) : Option CommandName := all.find? (·.text == s)

def words : CommandName → List String
  | download => ["URL", "DESTINATION"]
  | lookup => ["HOST"]
  | validateIp => ["TEXT"]
  | _ => []

def summary : CommandName → String
  | address => "Print the local non-loopback address (127.0.0.1 if none)."
  | download => "Download URL into DESTINATION."
  | home => "Validate the recorder home directory and show its layout."
  | hostname => "Print the local host name (\"localhost\" if none)."
  | lookup => "Print every address HOST resolves to."
  | port => "Print a listening port that is free right now."
  | validateIp => "Check that TEXT is a dotted-decimal IPv4 address."
  | version => "Display recorder version information."

def optionLines : CommandName → List String
  | download =>
    ["  --timeout FLOAT  Connect/read timeout in seconds (default: wait for the",
      "                   server)",
      "  --help           Show this message and exit."]
  | home =>
    ["  --dir DIRECTORY    Home directory (default: $RECORDER_HOME or",
      "                     ~/.ngrinder_recorder)",
      "  --properties TEXT  Properties file inside the home to print",
      "  --help             Show this message and exit."]
  | port =>
    ["  --bind TEXT                Address to bind (default: the resolved local",
      "                             address)",
      "  --preferred INTEGER RANGE  Port to try first; 0 lets the OS choose  [default:",
      "                             0; 0<=x<=65535]",
      "  --help                     Show this message and exit."]
  | version =>
    ["  -v, --verbose  Show detailed version information",
      "  --help         Show this message and exit."]
  | _ => ["  --help  Show this message and exit."]

def path (name : CommandName) : String := programName ++ " " ++ name.text

def usage (name : CommandName) : String :=
  " ".intercalate (["Usage:", name.path, "[OPTIONS]"] ++ name.words)

end CommandName

def page (usage summary : String) (sections : List (String × List String)) : String :=
  let blocks := sections.map fun (heading, lines) => "\n".intercalate (heading :: lines)
  "\n\n".intercalate (usage :: ("  " ++ summary) :: blocks) ++ "\n"

def CommandName.help (name : CommandName) : String :=
  page name.usage name.summary [("Options:", name.optionLines)]

namespace Program

def usage : String := "Usage: " ++ programName ++ " [OPTIONS] COMMAND [ARGS]..."

def nameWidth : Nat := 11

def commandLine (name : CommandName) : String :=
  let fill := String.ofList (List.replicate (nameWidth - name.text.length) ' ')
  "  " ++ name.text ++ fill ++ "  " ++ name.summary

def help : String :=
  page usage "Recorder command-line tool for local network discovery."
    [("Options:",
      ["  --debug  Log every resolution step to stderr",
        "  --help   Show this message and exit."]),
      ("Commands:", CommandName.all.map commandLine)]

end Program

end HostDiscovery.CommandLine
