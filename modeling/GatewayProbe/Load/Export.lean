import GatewayProbe.Failure
import GatewayProbe.FileTree
import GatewayProbe.Load.Report

/-!
# Exporting the report of a load run
-/

namespace GatewayProbe.Load

/-- Write a report to a file, whose directory has to be there. -/
def exportReport (files : FileTree) (path text : String) : Except ReportFault FileTree :=
  (files.write path (Text.bytesOf text)).mapError fun cause => ⟨path, cause⟩

end GatewayProbe.Load
