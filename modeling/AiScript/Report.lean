import AiScript.Diagnostic
import AiScript.Document

/-!
# Report documents

A load report is also kept as a file, so that it can be compared with that of another load. Rows are
shown as in storage, by their numbers, and reasons by their texts.
-/

namespace AiScript

/-- A row context as a document. -/
def RowContext.document (context : RowContext) : Document :=
  .record [("owner", .number context.owner.toInt),
    ("source_type", .number context.sourceCode.toNat),
    ("id", .number context.id.toNat),
    ("link", .number context.link.toNat),
    ("event_type", .number context.eventCode.toNat),
    ("action_type", .number context.actionCode.toNat),
    ("target_type", .number context.targetCode.toNat)]

/-- A diagnostic as a document, given the text of its reason. -/
def Diagnostic.document {α : Type} (reasonText : α → String) (diagnostic : Diagnostic α) :
    Document :=
  .record [("row", diagnostic.row.document), ("reason", .text (reasonText diagnostic.reason))]

/-- A load report as a document. -/
def LoadReport.document (report : LoadReport) : Document :=
  .record [("entities", .number report.entities),
    ("rules", .number report.rules),
    ("rejected", .list (report.rejected.map (Diagnostic.document Rejection.text))),
    ("warnings", .list (report.warnings.map (Diagnostic.document Warning.text)))]

end AiScript
