import StaticInjection.Build.Basic

namespace StaticInjection

/-! What happens to the output of earlier builds: artifacts take the place of older ones, and the
output of a module that was not generated is removed. -/

inductive Delivery where
  /-- Remove what is there for the module with a path. -/
  | discard (path : String)
  | write (artifact : Artifact)
deriving DecidableEq

namespace Build

/-- All removals come first. -/
def deliveries (build : Build) : List Delivery :=
  (build.outcomes.filter (·.outcome != .emitted)).map (fun entry => .discard entry.path) ++
    build.artifacts.map .write

end Build

/-! ## Artifacts in memory -/

/-- Artifacts by module path. -/
abbrev ArtifactStore := List (String × Artifact)

namespace ArtifactStore

def deliver (store : ArtifactStore) : Delivery → ArtifactStore
  | .discard path => store.filter fun (other, _) => other != path
  | .write artifact =>
    store.filter (fun (other, _) => other != artifact.path) ++ [(artifact.path, artifact)]

def get? (store : ArtifactStore) (path : String) : Option Artifact :=
  store.lookup path

end ArtifactStore

end StaticInjection
