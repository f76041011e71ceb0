import StaticInjection.Diagnostic.Json

namespace StaticInjection

/-! Diagnostics as they are reported: in an order that depends on what they say, each one once. -/

namespace Diagnostic

/-! ## Order -/

/-- Diagnostics without a failing module come first, and the place in a file is not looked at. -/
def order : Diagnostic → Diagnostic → Ordering :=
  compareLex (compareOn fun diagnostic => diagnostic.scope.map (·.index)) <|
  compareLex (compareOn fun diagnostic => diagnostic.kind.rank) <|
  compareLex (compareOn fun diagnostic => diagnostic.location.module) <|
  compareLex (compareOn fun diagnostic => diagnostic.location.bean) <|
  compareLex (compareOn fun diagnostic => diagnostic.location.socket) <|
  compareLex (compareOn fun diagnostic => diagnostic.message)
    (compareOn fun diagnostic => diagnostic.implicated)

/-- Diagnostics that the order does not tell apart stay as they come. Repetitions next to each other
are dropped. -/
def sort (diagnostics : List Diagnostic) : List Diagnostic :=
  (diagnostics.mergeSort fun left right => (order left right).isLE).eraseReps

/-! ## Summaries -/

def failingModule? (diagnostic : Diagnostic) : Option ModuleId :=
  if diagnostic.kind.isDerived then none else diagnostic.scope

/-- The modules that fail by themselves, ascending. -/
def failingModules (diagnostics : List Diagnostic) : List ModuleId :=
  (diagnostics.filterMap failingModule?).eraseDups.mergeSort fun left right =>
    left.index ≤ right.index

/-- The kinds that occur, with the number of their diagnostics. -/
def counts (diagnostics : List Diagnostic) : List (DiagnosticKind × Nat) :=
  (DiagnosticKind.all.map fun kind => (kind, diagnostics.countP (·.kind == kind))).filter
    fun (_, count) => count != 0

/-! ## Written forms -/

/-- One line for each diagnostic. -/
def lines (diagnostics : List Diagnostic) : String :=
  String.join (diagnostics.map fun diagnostic => diagnostic.text ++ "\n")

def listJson (diagnostics : List Diagnostic) : Json :=
  .array (diagnostics.map (·.toJson))

end Diagnostic

end StaticInjection
