import StaticInjection.Code.ModuleCode
import StaticInjection.Text.Quoted
import StaticInjection.Text.Split

namespace StaticInjection.Code

/-! Writing code as indented lines. -/

structure Line where
  depth : Nat
  text : String
deriving DecidableEq, Repr

namespace Line

/-- A line without text is not indented either. -/
def write (line : Line) : String :=
  if line.text.isEmpty then "\n"
  else String.ofList (List.replicate (4 * line.depth) ' ') ++ line.text ++ "\n"

end Line

def lines (texts : List String) : List Line :=
  texts.map fun text => ⟨0, text⟩

def blank : List Line :=
  lines [""]

def indent (body : List Line) : List Line :=
  body.map fun line => { line with depth := line.depth + 1 }

/-- Lines between an opening and a closing one. -/
def block (opening : String) (body : List Line) (closing : String) : List Line :=
  lines [opening] ++ indent body ++ lines [closing]

def writeAll (body : List Line) : String :=
  String.join (body.map (·.write))

/-! ## Constructors -/

namespace GatherStep

def line (target : Local) (step : GatherStep) : String :=
  let target := target.text
  match step with
  | push value =>
    let value := value.text
    s!"{target}.push({value});"
  | extendOptional source =>
    let source := source.text
    s!"{target}.extend({source}.clone());"
  | extendAll source =>
    let source := source.text
    s!"{target}.extend({source}.iter().cloned());"

end GatherStep

namespace Gathering

def lines (gathering : Gathering) : List Line :=
  let target := gathering.target.text
  let type := (ValueType.several gathering.type).text
  let size := Nat.repr gathering.steps.length
  if gathering.steps.isEmpty then Code.lines [s!"let {target}: {type} = Vec::new();"]
  else
    Code.lines (s!"let mut {target}: {type} = Vec::with_capacity({size});" ::
      gathering.steps.map (·.line gathering.target))

end Gathering

namespace Construction

def text (construction : Construction) : String :=
  let constructor := construction.constructor
  let arguments := ", ".intercalate (construction.arguments.map (·.text))
  s!"{shared}::new({constructor}({arguments}))"

end Construction

def gatheringLines (gatherings : List Gathering) : List Line :=
  gatherings.flatMap (·.lines)

namespace BuildStep

def issuedLines (bean : String) : List Line :=
  block s!"if let Ok(mut issued) = t_{bean}.lock() \x7b"
    (Code.lines ["issued.retain(|weak| weak.strong_count() > 0);",
      s!"issued.push({shared}::downgrade(&bean));"])
    "\x7d"

/-- The body of a factory's function. -/
def factoryBody (bean : String) (tracked : Bool) (construction : Construction)
    (hooks : List String) : List Line :=
  let call := construction.text
  gatheringLines construction.gatherings ++
    Code.lines [s!"let bean = {call};"] ++
    Code.lines (hooks.map fun hook => s!"bean.{hook}();") ++
    (if tracked then issuedLines bean else []) ++
    Code.lines ["bean"]

def lines : BuildStep → List Line
  | singleton bean construction hooks =>
    let call := construction.text
    gatheringLines construction.gatherings ++
      Code.lines [s!"let b_{bean} = {call};"] ++
      Code.lines (hooks.map fun hook => s!"b_{bean}.{hook}();")
  | perRequest bean type tracked captured construction hooks =>
    let issuedType := (ValueType.issued type).text
    let factoryType := (ValueType.factory type).text
    (if tracked then
      Code.lines [s!"let t_{bean}: {issuedType} = {shared}::new({mutex}::new(Vec::new()));"]
    else []) ++
    block s!"let f_{bean}: {factoryType} = \x7b"
      (Code.lines (captured.map fun name =>
          let name := name.text
          s!"let {name} = {name}.clone();") ++
        block s!"{shared}::new(move || \x7b" (factoryBody bean tracked construction hooks) "\x7d)")
      "\x7d;"
  | child name moduleType inputsType gatherings fields =>
    gatheringLines gatherings ++
    block s!"let m_{name} = {shared}::new({moduleType}::new({inputsType} \x7b"
      (Code.lines (fields.map fun (field, value) =>
        let value := value.text
        s!"{field}: {value},"))
      "\x7d));"

end BuildStep

namespace Patch

def lines : Patch → List Line
  | fill cell value =>
    let cell := cell.text
    let value := value.text
    Code.lines [s!"let _ = {cell}.set({value});"]
  | fillOptional cell source =>
    let cell := cell.text
    let source := source.text
    block s!"if let Some(value) = {source}.clone() \x7b"
      (Code.lines [s!"let _ = {cell}.set(value);"]) "\x7d"

end Patch

namespace Constructor

def bindingLines (constructor : Constructor) : List Line :=
  let inputs := constructor.inputsType
  if constructor.bindings.isEmpty then Code.lines [s!"let {inputs} \x7b\x7d = sockets;"]
  else
    block s!"let {inputs} \x7b"
      (Code.lines (constructor.bindings.map fun (field, name) =>
        let name := name.text
        s!"{field}: {name},"))
      "\x7d = sockets;"

def cellLines (constructor : Constructor) : List Line :=
  Code.lines (constructor.cells.map fun (cell, type) =>
    let cell := cell.text
    let type := (ValueType.cell type).text
    s!"let {cell}: {type} = {shared}::new({onceLock}::new());")

def resultLines (constructor : Constructor) : List Line :=
  block "Self \x7b"
    (Code.lines (constructor.fields.map fun (field, name) =>
      let name := name.text
      s!"{field}: {name},"))
    "\x7d"

def body (constructor : Constructor) : List Line :=
  constructor.bindingLines ++ constructor.cellLines ++ constructor.steps.flatMap (·.lines) ++
    constructor.patches.flatMap (·.lines) ++ constructor.resultLines

end Constructor

/-! ## Modules -/

namespace Accessor

def lines : Accessor → List Line
  | singleton bean type =>
    let result := sharedOf type
    Code.lines [s!"/// 单例 `{bean}`"] ++
    block s!"pub fn {bean}(&self) -> {result} \x7b" (Code.lines [s!"{shared}::clone(&self.{bean})"])
      "\x7d"
  | perRequest bean type =>
    let result := sharedOf type
    Code.lines [s!"/// 构造新的 `{bean}`"] ++
    block s!"pub fn {bean}(&self) -> {result} \x7b" (Code.lines [s!"(self.{bean})()"]) "\x7d"
  | provider bean type =>
    let result := (ValueType.factory type).text
    Code.lines [s!"/// `{bean}` 的工厂"] ++
    block s!"pub fn {bean}_provider(&self) -> {result} \x7b"
      (Code.lines [s!"{shared}::clone(&self.{bean})"]) "\x7d"
  | child name path moduleType =>
    Code.lines [s!"/// 子模块 `{path}`"] ++
    block s!"pub fn {name}_module(&self) -> &{moduleType} \x7b"
      (Code.lines [s!"&self.{name}_module"]) "\x7d"

end Accessor

namespace ShutdownStep

def lines : ShutdownStep → List Line
  | hook bean method => Code.lines [s!"self.{bean}.{method}();"]
  | issued bean methods =>
    block s!"if let Ok(mut issued) = self.{bean}_issued.lock() \x7b"
      (block "for bean in issued.drain(..).filter_map(|weak| weak.upgrade()) \x7b"
        (Code.lines (methods.map fun method => s!"bean.{method}();")) "\x7d")
      "\x7d"
  | child name => Code.lines [s!"self.{name}_module.shutdown();"]

end ShutdownStep

namespace ModuleCode

def inputsLines (code : ModuleCode) : List Line :=
  let path := code.path
  let inputs := code.inputsType
  Code.lines [s!"/// 模块 `{path}` 的输入", "#[allow(dead_code, non_snake_case)]"] ++
  block s!"pub struct {inputs} \x7b"
    (Code.lines (code.inputs.map fun field =>
      let name := field.name
      let type := field.type.text
      s!"pub {name}: {type},"))
    "\x7d"

def typeLines (code : ModuleCode) : List Line :=
  let path := code.path
  let module := code.moduleType
  Code.lines [s!"/// 模块 `{path}`", "#[allow(dead_code, non_snake_case)]"] ++
  block s!"pub struct {module} \x7b"
    (Code.lines (code.fields.map fun field =>
      let name := field.name
      let type := field.type.text
      s!"{name}: {type},"))
    "\x7d"

def exposedLines (code : ModuleCode) : List Line :=
  Code.lines ["/// 对外暴露的 (类型, 限定符)"] ++
  block "pub const EXPOSED: &'static [(&'static str, Option<&'static str>)] = &["
    (Code.lines (code.exposed.map fun (type, qualifier) =>
      let type := Text.quote type
      let qualifier := match qualifier with
        | none => "None"
        | some text => "Some(" ++ Text.quote text ++ ")"
      s!"({type}, {qualifier}),"))
    "];"

def constructorLines (code : ModuleCode) : List Line :=
  let path := code.path
  let inputs := code.inputsType
  Code.lines [s!"/// 按依赖顺序构造模块 `{path}`",
    "#[allow(unused_variables, non_snake_case, clippy::redundant_clone)]"] ++
  block s!"pub fn new(sockets: {inputs}) -> Self \x7b" code.constructor.body "\x7d"

def shutdownLines (code : ModuleCode) : List Line :=
  Code.lines ["/// 按构造的逆序关闭"] ++
  block "pub fn shutdown(&self) \x7b" (code.shutdown.flatMap (·.lines)) "\x7d"

def lines (code : ModuleCode) : List Line :=
  let path := code.path
  let module := code.moduleType
  Code.lines ((Text.lines code.header.toList).map String.ofList) ++
  Code.lines [s!"// module: {path}"] ++ blank ++
  code.inputsLines ++ blank ++
  code.typeLines ++ blank ++
  block s!"impl {module} \x7b"
    (code.exposedLines ++ blank ++ code.constructorLines ++
      code.accessors.flatMap (fun accessor => blank ++ accessor.lines) ++
      blank ++ code.shutdownLines)
    "\x7d"

def text (code : ModuleCode) : String :=
  writeAll code.lines

end ModuleCode

end StaticInjection.Code
