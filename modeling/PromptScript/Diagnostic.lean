/-!
# Diagnostic

Diagnostics stand in place of a result that could not be had: the failure of one command or one
variable does not stop the document. A fixed mark at the start tells them from results.
-/

namespace PromptScript

/-- The mark at the start of every diagnostic. -/
def diagnosticMark : String := "<SHIRE_ERROR>"

def diagnostic (detail : String) : String := diagnosticMark ++ ": " ++ detail

/-- Whether a text starts with the mark. -/
def isDiagnostic (text : String) : Bool := diagnosticMark.toList.isPrefixOf text.toList

end PromptScript
