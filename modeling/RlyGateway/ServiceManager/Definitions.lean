import RlyGateway.Providers.HttpFailure

/-!
# Service definitions

`src/service-manager/definitions.ts`: the property list of the LaunchAgent and the unit of systemd,
rendered from what a service is to run.
-/

namespace RlyGateway

/-- Everything needed to generate a per-user service definition. -/
structure ServiceDefinitionInput where
  serviceName : String
  executable : String
  /-- Absent when the executable is the stable bootstrap. -/
  entrypoint : Option String
  configPath : String
  logPath : Option String
deriving DecidableEq, Repr

/-- The command line that a definition runs. -/
def ServiceDefinitionInput.commandLine (input : ServiceDefinitionInput) : List String :=
  input.executable :: input.entrypoint.toList ++ ["gateway", "start", "--config", input.configPath]

/-- Each of the replacements is of one character, the first one of those that the others write. -/
def xmlEscape (value : String) : String :=
  String.join (value.toList.map fun c =>
    if c = '&' then "&amp;"
    else if c = '<' then "&lt;"
    else if c = '>' then "&gt;"
    else if c = '"' then "&quot;"
    else c.toString)

def buildLaunchAgentPlist (input : ServiceDefinitionInput) (label : String)
    (workingDirectory : Option String) : String :=
  let programArguments := "\n".intercalate
    (input.commandLine.map fun value => "    <string>" ++ xmlEscape value ++ "</string>")
  let workingBlock := match workingDirectory with
    | none => ""
    | some directory =>
        "  <key>WorkingDirectory</key>\n  <string>" ++ xmlEscape directory ++ "</string>\n"
  let logBlock := match input.logPath with
    | none => ""
    | some path =>
        "  <key>StandardOutPath</key>\n  <string>" ++ xmlEscape path ++
          "</string>\n  <key>StandardErrorPath</key>\n  <string>" ++ xmlEscape path ++ "</string>\n"
  "<?xml version=\"1.0\" encoding=\"UTF-8\"?>\n" ++
    "<!DOCTYPE plist PUBLIC \"-//Apple//DTD PLIST 1.0//EN\" " ++
    "\"http://www.apple.com/DTDs/PropertyList-1.0.dtd\">\n" ++
    "<plist version=\"1.0\">\n<dict>\n  <key>Label</key>\n  <string>" ++ xmlEscape label ++
    "</string>\n  <key>ProgramArguments</key>\n  <array>\n" ++ programArguments ++
    "\n  </array>\n  <key>RunAtLoad</key>\n  <true/>\n  <key>KeepAlive</key>\n  <dict>\n" ++
    "    <key>SuccessfulExit</key>\n    <false/>\n  </dict>\n  <key>ThrottleInterval</key>\n" ++
    "  <integer>10</integer>\n  <key>ProcessType</key>\n  <string>Background</string>\n" ++
    workingBlock ++ logBlock ++ "</dict>\n</plist>\n"

/-- One argument of `ExecStart`: a percent sign is doubled, and an argument with white space or
quotes is quoted. -/
def systemdQuote (value : String) : String :=
  let escaped := value.toList.flatMap fun c => if c = '%' then ['%', '%'] else [c]
  if escaped.any fun c => isTrimmed c || c == '"' || c.toNat == 0x27 then
    "\"" ++ String.ofList (escaped.flatMap fun c => if c = '"' then ['\\', '"'] else [c]) ++ "\""
  else String.ofList escaped

def buildSystemdUserUnit (input : ServiceDefinitionInput) (workingDirectory : Option String) :
    String :=
  let execStart := " ".intercalate (input.commandLine.map systemdQuote)
  let workingBlock := match workingDirectory with
    | none => ""
    | some directory => "WorkingDirectory=" ++ systemdQuote directory ++ "\n"
  let logBlock := match input.logPath with
    | none => ""
    | some path =>
        "StandardOutput=append:" ++ systemdQuote path ++
          "\nStandardError=append:" ++ systemdQuote path ++ "\n"
  "[Unit]\nDescription=RLY Gateway per-user runtime service\nAfter=default.target\n" ++
    "StartLimitIntervalSec=60\nStartLimitBurst=5\n\n[Service]\nType=simple\nExecStart=" ++
    execStart ++ "\nRestart=on-failure\nRestartSec=2\n" ++ workingBlock ++ logBlock ++
    "\n[Install]\nWantedBy=default.target\n"

end RlyGateway
