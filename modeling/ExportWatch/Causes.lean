/-! Errors with their causes, the outermost first. -/

namespace ExportWatch

abbrev Causes : Type :=
  List String

namespace Causes

def message (causes : Causes) : String :=
  causes.headD ""

def text (causes : Causes) : String :=
  ": ".intercalate causes

end Causes

end ExportWatch
