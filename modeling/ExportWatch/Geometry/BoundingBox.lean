import ExportWatch.Decimal.Literal
import ExportWatch.Decimal.Style
import ExportWatch.Geometry.Extent
import ExportWatch.Text.Blank

/-! Bounding boxes as text: four numbers with commas between them, of which the
first two and the last two are opposite corners. -/

namespace ExportWatch

open Text Decimal

namespace BoundingBox

inductive Fault where
  | coordinate (fault : LiteralFault)
  | count (found : Nat)
  | notFinite
  deriving DecidableEq, Repr

def Fault.message : Fault → String
  | .coordinate fault => "invalid bbox coordinate: " ++ fault.message
  | .count found =>
      "expected 4 comma-separated values (xmin,ymin,xmax,ymax), got " ++
        String.ofList (digitsOf found)
  | .notFinite => "bbox coordinates must be finite"

def coordinates (text : List Char) : Except LiteralFault (List Literal) :=
  (parts ',' text).mapM fun field => Literal.read (trim field)

/-! A field that is no number is reported first, then a wrong count, then a
number that is not finite. -/

def readLiterals (text : List Char) : Except Fault (Literal × Literal × Literal × Literal) :=
  match coordinates text with
  | .error fault => .error (.coordinate fault)
  | .ok [x1, y1, x2, y2] =>
      if [x1, y1, x2, y2].all Literal.isFinite then .ok (x1, y1, x2, y2) else .error .notFinite
  | .ok others => .error (.count others.length)

def read (text : List Char) : Except Fault (Extent Float) :=
  (readLiterals text).map fun (x1, y1, x2, y2) =>
    .ofCorners x1.toFloat y1.toFloat x2.toFloat y2.toFloat

/-- The four numbers as they are sent: the fewest digits that read back. -/
def write (extent : Extent Float) : List Char :=
  join [','] [plainText extent.west, plainText extent.south, plainText extent.east,
    plainText extent.north]

example : (read "1,2,3".toList).toOption = none := by decide +kernel
example : (read "3, 2,-1.5 ,-4".toList).toOption.map write = some "-1.5,-4,3,2".toList := by
  decide +kernel

end BoundingBox

end ExportWatch
