import StaticInjection.Failure
import StaticInjection.Files.Access
import StaticInjection.Output.Delivery

namespace StaticInjection

/-! Artifacts as files of a directory. A file is written under another name first, so that nobody reads
one that is only half written. -/

inductive OutputAction where
  /-- Make the directory. -/
  | prepare
  | place (name content : String)
  | remove (name : String)
deriving DecidableEq, Repr

namespace OutputAction

/-- The name of a file while it is written. -/
def temporaryName (name : String) : String :=
  "." ++ name ++ ".tmp"

def failure (path : String) (fault : FileFault) : Failure :=
  let reason := fault.message
  .sink path s!"写入 {path} 失败: {reason}"

/-- Do what is asked for, or tell what went wrong. That there is nothing to remove is no failure. -/
def perform {m : Type → Type} [Monad m] (access : FileAccess m) (root : String) :
    OutputAction → m (Option Failure)
  | .prepare => do
    match ← access.createDirectories root with
    | .ok _ => return none
    | .error fault => return some (failure root fault)
  | .place name content => do
    let temporary := joinPath root (temporaryName name)
    let target := joinPath root name
    match ← access.write temporary content with
    | .error fault => return some (failure temporary fault)
    | .ok _ =>
      match ← access.rename temporary target with
      | .ok _ => return none
      | .error fault =>
        let _ ← access.remove temporary
        return some (failure target fault)
  | .remove name => do
    let target := joinPath root name
    match ← access.remove target with
    | .ok _ => return none
    | .error .notFound => return none
    | .error fault => return some (failure target fault)

/-- One action after the other, up to the first that fails. -/
def performAll {m : Type → Type} [Monad m] (access : FileAccess m) (root : String) :
    List OutputAction → m (Option Failure)
  | [] => return none
  | action :: rest => do
    match ← action.perform access root with
    | some failure => return some failure
    | none => performAll access root rest

end OutputAction

namespace Delivery

/-- The files of a module are its source and its descriptor. Descriptors are removed also when none are
written. -/
def actions (descriptors : Bool) : Delivery → List OutputAction
  | .discard path => [.remove (Naming.sourceFile path), .remove (Naming.descriptorFile path)]
  | .write artifact =>
    [.prepare, .place artifact.sourceFile artifact.source] ++
      if descriptors then [.place artifact.descriptorFile artifact.descriptor.text] else []

end Delivery

namespace Build

def actions (build : Build) (descriptors : Bool) : List OutputAction :=
  build.deliveries.flatMap (Delivery.actions descriptors)

end Build

end StaticInjection
