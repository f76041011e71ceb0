namespace StaticInjection

/-! What ends a whole build, unlike a diagnostic, which only concerns modules. -/

inductive ModelError where
  | unreadable (reason : String)
  | unknownModule (path : String)
deriving DecidableEq, Repr

def ModelError.message : ModelError → String
  | unreadable reason => s!"元数据取值解析失败: {reason}"
  | unknownModule path => s!"模块不存在: {path}"

inductive Failure where
  /-- The declarations cannot be fetched. -/
  | source (reason : String)
  /-- The declarations are not the JSON that is expected. -/
  | format
  /-- A file of the output cannot be written. -/
  | sink (path reason : String)
  | task (reason : String)
  | settings (reason : String)
  | logging (reason : String)
  | model (error : ModelError)
deriving DecidableEq, Repr

def Failure.message : Failure → String
  | source reason => s!"元数据加载失败: {reason}"
  | format => "元数据格式无效"
  | sink path reason => s!"产物写出失败: {path}, 原因: {reason}"
  | task reason => s!"编译任务执行失败: {reason}"
  | settings reason => s!"配置错误: {reason}"
  | logging reason => s!"日志初始化失败: {reason}"
  | model error => error.message

end StaticInjection
