import Spreadsheet.Number.Text
import Spreadsheet.Number.Reading
import Spreadsheet.Text.Alphanumeric
import Spreadsheet.Text.Blank
import Spreadsheet.Text.Case
import Spreadsheet.Text.Displayed
import Spreadsheet.Text.Hex
import Spreadsheet.Text.Quoted
import Spreadsheet.Text.Units16
import Spreadsheet.Grid.Offset
import Spreadsheet.CellError
import Spreadsheet.SheetName
import Spreadsheet.Token.Basic
import Spreadsheet.Token.Encode
import Spreadsheet.Token.Decode
import Spreadsheet.Token.Render
import Spreadsheet.Settings.Read
import Spreadsheet.Value.Broadcast
import Spreadsheet.Value.Compare
import Spreadsheet.Formula.Query
import Spreadsheet.Formula.Resolve
import Spreadsheet.Formula.Shared
import Spreadsheet.Formula.Evaluate
import Spreadsheet.Workbook.RegionIndex
import Spreadsheet.Workbook.Observers
import Spreadsheet.Workbook.FormulaRecord
import Spreadsheet.Workbook.FormulaStore
import Spreadsheet.Workbook.Basic
import Spreadsheet.Workbook.GridEdit
import Spreadsheet.Workbook.Edit
import Spreadsheet.Workbook.Recalculation
import Spreadsheet.Proofs.FormulaStore
import Spreadsheet.Proofs.ObserverHistory
import Spreadsheet.Proofs.Coherence
import Spreadsheet.Proofs.Replacement
import Spreadsheet.Proofs.Tracking
import Spreadsheet.Proofs.Operation
import Spreadsheet.Proofs.LateLink
import Spreadsheet.Proofs.SheetRemoval
import Spreadsheet.Proofs.Reading
import Spreadsheet.Proofs.StoredText
import Spreadsheet.Proofs.StoredForm
import Spreadsheet.Proofs.Reencoding
import Spreadsheet.Proofs.Storable
import Spreadsheet.Proofs.ReadBack
import Spreadsheet.Proofs.Decoding
import Spreadsheet.Proofs.Questions
import Spreadsheet.Proofs.CircleFree
import Spreadsheet.Proofs.Course
import Spreadsheet.Proofs.Lookup
import Spreadsheet.Proofs.StoreHistory
import Spreadsheet.Proofs.Nesting
import Spreadsheet.Proofs.Settling
import Spreadsheet.Proofs.GridEdit
import Spreadsheet.Proofs.Moves
import Spreadsheet.Proofs.EditRecords
import Spreadsheet.Proofs.EditScan
import Spreadsheet.Proofs.RequestOrder
import Spreadsheet.Proofs.Fixpoint
import Spreadsheet.Proofs.CircleChain
import Spreadsheet.Proofs.StrictFormulas
import Spreadsheet.Proofs.StrictCircle
import Spreadsheet.Proofs.StackDepth
import Spreadsheet.Proofs.ExpressionTree
import Spreadsheet.Proofs.GroupMembers
import Spreadsheet.Proofs.Anchors
import Spreadsheet.Proofs.GroupEdit
import Spreadsheet.Proofs.GroupObservers
import Spreadsheet.Proofs.EditWorkbook
import Spreadsheet.Proofs.OrdinaryWorkbook
import Spreadsheet.Proofs.EditComposition
import Spreadsheet.Proofs.EditUndo
import Spreadsheet.Proofs.Mirroring
import Spreadsheet.Proofs.MirroringLibrary
import Spreadsheet.Proofs.MirroredFormulas
import Spreadsheet.Proofs.MirroredRecalculation
import Spreadsheet.Proofs.EditValues
import Spreadsheet.Proofs.NormalForm
import Spreadsheet.Proofs.LinkRenumbering
import Spreadsheet.Proofs.BrokenReferences
import Spreadsheet.Proofs.NameTargets
import Spreadsheet.Proofs.ErrorPrecedence
import Spreadsheet.Proofs.RenderDepth
import Spreadsheet.Proofs.FiniteFloats
import Spreadsheet.Proofs.ValueRule
import Spreadsheet.Proofs.RuleRun
import Spreadsheet.Proofs.RuleLibrary
import Spreadsheet.Proofs.RuleWorkbook
import Spreadsheet.Proofs.FlatArrays
import Spreadsheet.Proofs.NumericResults
import Spreadsheet.Proofs.CheckedResults
import Spreadsheet.Proofs.FiniteNumbers
import Spreadsheet.Proofs.GroupFormulas
import Spreadsheet.Proofs.MemberTokens
import Spreadsheet.Proofs.MembersObserved
import Spreadsheet.Proofs.EditCollisions
import Spreadsheet.Proofs.CellContents
import Spreadsheet.Proofs.PassAnswers
import Spreadsheet.Proofs.FreshResults
import Spreadsheet.Proofs.SpelledTree
import Spreadsheet.Proofs.NameInlining
import Spreadsheet.Proofs.ReaderLaws
import Spreadsheet.Proofs.OffendingToken
import Spreadsheet.Proofs.AddressText
import Spreadsheet.Proofs.ExternalPrefix
import Spreadsheet.Proofs.NumberText
import Spreadsheet.Proofs.AreaText
import Spreadsheet.Proofs.ArrayText
import Spreadsheet.Proofs.SpacingText
import Spreadsheet.Proofs.SmallestRange
import Spreadsheet.Proofs.ReferenceOperators
import Spreadsheet.Proofs.UsedExtent
import Spreadsheet.Proofs.ArrayLayout
import Spreadsheet.Proofs.Broadcasting
import Spreadsheet.Proofs.FloatOrder
import Spreadsheet.Proofs.Comparison
import Spreadsheet.Proofs.EdgeMarks
import Spreadsheet.Proofs.Extents
import Spreadsheet.Proofs.PackedOffsets
import Spreadsheet.Proofs.DecodedSize
