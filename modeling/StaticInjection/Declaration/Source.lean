import StaticInjection.Declaration.Json
import StaticInjection.Failure
import StaticInjection.Files.Access

namespace StaticInjection

/-! Where declarations come from. -/

inductive DocumentSource where
  | file (path : String)
  | fixed (document : Document)

namespace DocumentSource

def describe : DocumentSource → String
  | file path => s!"json:{path}"
  | fixed document =>
    let count := Nat.repr document.modules.length
    s!"static:{count} 个根模块"

/-- The document of a source, given what reading files gives. -/
def load (read : String → Except FileFault String) : DocumentSource → Except Failure Document
  | fixed document => .ok document
  | file path =>
    match read path with
    | .error fault =>
      let reason := fault.message
      .error (.source s!"读取 {path} 失败: {reason}")
    | .ok text =>
      match Document.read text with
      | some document => .ok document
      | none => .error .format

end DocumentSource

end StaticInjection
