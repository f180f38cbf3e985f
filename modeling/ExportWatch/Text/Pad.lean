/-! Text brought to a width. Longer text stays as it is. -/

namespace ExportWatch.Text

def padRight (width : Nat) (text : List Char) : List Char :=
  text ++ List.replicate (width - text.length) ' '

def padLeftZero (width : Nat) (text : List Char) : List Char :=
  List.replicate (width - text.length) '0' ++ text

example : padRight 4 ['a', 'b'] = "ab  ".toList := by decide
example : padLeftZero 3 ['7'] = "007".toList := by decide

end ExportWatch.Text
