namespace StaticInjection.Commands

/-! What is printed when help is asked for. -/

def programName : String := "wiringc"

def versionText : String :=
  programName ++ " 0.1.0\n"

/-- A line of a list: the part to type, filled up to a width, and what it does. -/
def helpLine (width : Nat) (form purpose : String) : String :=
  "  " ++ form ++ String.ofList (List.replicate (width - form.length) ' ') ++ "  " ++ purpose ++ "\n"

def optionLine : String → String → String :=
  helpLine 27

def purposes : List (String × String) :=
  [("compile", "编译元数据并写出生成代码"), ("check", "只检查，不写出任何文件"),
    ("print-config", "打印生效的配置")]

def configLine : String := optionLine "-c, --config <CONFIG>" "配置文件路径（TOML）"

def inputLine : String := optionLine "-i, --input <INPUT>" "元数据 JSON 文件"

def levelLine : String := optionLine "    --log-level <LOG_LEVEL>" "日志级别，覆盖配置文件"

def outLine : String := optionLine "-o, --out <OUT>" "输出目录"

def jsonLine : String := optionLine "    --json" "以 JSON 输出构建报告"

def helpOptionLine : String := optionLine "-h, --help" "Print help"

def versionLine : String := optionLine "-V, --version" "Print version"

def overview : String :=
  "编译期依赖注入容器编译器\n\nUsage: " ++ programName ++ " [OPTIONS] <COMMAND>\n\nCommands:\n" ++
    String.join (purposes.map fun (name, purpose) => helpLine 12 name purpose) ++
    helpLine 12 "help" "Print this message or the help of the given subcommand(s)" ++
    "\nOptions:\n" ++ configLine ++ levelLine ++ helpOptionLine ++ versionLine

/-- The required options of a command as they are typed, and the lines for all of them. -/
def commandOptions : String → String × List String
  | "compile" =>
    (" --input <INPUT> --out <OUT>", [configLine, inputLine, levelLine, outLine, jsonLine])
  | "check" => (" --input <INPUT>", [configLine, inputLine, levelLine, jsonLine])
  | _ => ("", [configLine, levelLine])

def commandHelp (name : String) : String :=
  let (required, lines) := commandOptions name
  (purposes.lookup name).getD "" ++ "\n\nUsage: " ++ programName ++ " " ++ name ++ " [OPTIONS]" ++
    required ++ "\n\nOptions:\n" ++ String.join lines ++ helpOptionLine

def helpText : Option String → String
  | none => overview
  | some name => commandHelp name

end StaticInjection.Commands
