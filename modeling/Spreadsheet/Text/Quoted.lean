/-!
Quoting by doubling: a text between two quote characters, where each quote character inside is
written twice.
-/

namespace Spreadsheet.Text

/-- Every `quote` doubled, all else as it is. -/
def doubled (quote : Char) (cs : List Char) : List Char :=
  cs.flatMap fun c => if c = quote then [quote, quote] else [c]

/-- A text between quotes. -/
def quoted (quote : Char) (cs : List Char) : List Char := quote :: (doubled quote cs ++ [quote])

end Spreadsheet.Text
