import StaticInjection.Build.Report
import StaticInjection.Proofs.Text.Line

/-! # Diagnostics on one line

A diagnostic takes one line exactly when none of the texts that are put into it has a
line break. The report of a build is a summary on one line and the lines of its
diagnostics, in their order. -/

namespace StaticInjection

open Text

/-! ## Texts of a diagnostic -/

def SourcePosition.filesOf (position : Option SourcePosition) : List String :=
  (position.map (·.file)).toList

theorem SourcePosition.isLine_text (position : SourcePosition) :
    IsLine position.text ↔ IsLine position.file := by
  simp +decide [SourcePosition.text]

namespace Location

def texts (location : Location) : List String :=
  location.module :: location.bean.toList ++ location.socket.toList ++
    SourcePosition.filesOf location.position

theorem isLine_text (location : Location) :
    IsLine location.text ↔ AreLines location.texts := by
  rcases location with ⟨module, bean, socket, position⟩
  cases bean <;> cases socket <;> cases position <;>
    simp +decide [text, texts, SourcePosition.filesOf, SourcePosition.isLine_text, and_assoc]

end Location

namespace Diagnostic

def texts (diagnostic : Diagnostic) : List String :=
  diagnostic.location.texts ++ [diagnostic.message] ++ diagnostic.implicated ++
    diagnostic.rootCauses

theorem isLine_word (kind : DiagnosticKind) : IsLine kind.word := by
  cases kind <;> decide

/-- A list of texts in a frame, which is left out when there are none. -/
theorem isLine_framed {before after : String} (beforeLine : IsLine before)
    (afterLine : IsLine after) (parts : List String) :
    IsLine (if parts.isEmpty then "" else before ++ ", ".intercalate parts ++ after) ↔
      AreLines parts := by
  cases parts with
  | nil => simp +decide
  | cons head tail =>
      simp [beforeLine, afterLine]

theorem isLine_text (diagnostic : Diagnostic) :
    IsLine diagnostic.text ↔ AreLines diagnostic.texts := by
  unfold text
  dsimp only
  rw [isLine_append, isLine_append, isLine_framed (by decide) (by decide),
    isLine_framed (by decide) (by decide)]
  simp +decide [texts, isLine_word, Location.isLine_text, and_assoc]

end Diagnostic

/-! ## Reports -/

theorem BuildId.isLine_text (id : BuildId) : IsLine id.text := by
  have group (start count : Nat) :
      IsLine (String.ofList (((padDigits 16 32 id.value.toNat).drop start).take count)) := by
    rw [IsLine, String.toList_ofList]
    exact fun inside => newline_not_mem_padDigits _ _ _
      (List.mem_of_mem_drop (List.mem_of_mem_take inside))
  unfold BuildId.text
  dsimp only
  rw [isLine_intercalate (by decide)]
  simp only [areLines_cons, group, areLines_nil, and_self]

namespace BuildReport

theorem exists_headline (report : BuildReport) :
    ∃ headline, report.summary = headline ++ "\n" ∧ IsLine headline := by
  let id := report.id.text
  let emitted := Nat.repr (report.count .emitted)
  let failed := Nat.repr (report.count .failed)
  let skipped := Nat.repr (report.count .skipped)
  let count := Nat.repr report.diagnostics.length
  refine ⟨s!"构建 {id}: {emitted} 个模块已生成, {failed} 个失败, {skipped} 个因上游失败跳过, {count}" ++
    " 条诊断", ?_, ?_⟩
  · have ended : " 条诊断\n" = " 条诊断" ++ "\n" := by decide
    rw [String.append_assoc]
    exact congrArg (HAppend.hAppend _) ended
  · simp +decide [BuildId.isLine_text, id, emitted, failed, skipped, count]

/-- A report falls into its summary and the lines of its diagnostics, with nothing behind the last
line break. -/
theorem pieces_text (report : BuildReport) :
    ∃ headline, report.summary = headline ++ "\n" ∧ IsLine headline ∧
      pieces '\n' report.text.toList = headline.toList ::
        report.diagnostics.flatMap (fun diagnostic => pieces '\n' diagnostic.text.toList) ++ [[]] := by
  obtain ⟨headline, isSummary, line⟩ := report.exists_headline
  refine ⟨headline, isSummary, line, ?_⟩
  have texts : report.text =
      String.join ((headline :: report.diagnostics.map (·.text)).map (· ++ "\n")) := by
    rw [text, isSummary, Diagnostic.lines, List.map_cons, String.join_cons, List.map_map]
    rfl
  rw [texts, pieces_ended_lines, List.flatMap_cons, pieces_eq_singleton_iff.mpr line,
    List.flatMap_map]
  rfl

end BuildReport

end StaticInjection
