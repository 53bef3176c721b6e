import Logline.Main
import Logline.Proofs.StyleScope
import Logline.Proofs.StyleInvisible
import Logline.Proofs.StyledLine
import Logline.Proofs.Percent
import Logline.Proofs.Query
import Logline.Proofs.ColorRun
import Logline.Proofs.StyleRun
import Logline.Proofs.Containment
import Logline.Proofs.SkippedLines
import Logline.Proofs.PrettyText
import Logline.Proofs.Grouping
import Logline.Proofs.ErrorLast
import Logline.Proofs.Spelling
import Logline.Proofs.Grammar
import Logline.Proofs.Written
import Logline.Proofs.SheetDocument
import Logline.Proofs.FalsyField
import Logline.Proofs.StyleText
import Logline.Proofs.Decoding
import Logline.Proofs.NumericText
import Logline.Proofs.OutputLength
import Logline.Proofs.HexColor
import Logline.Proofs.Hierarchy
import Logline.Proofs.TimePattern
import Logline.Proofs.SheetRun
import Logline.Proofs.CompiledDirective
import Logline.Proofs.Boundary
import Logline.Proofs.KeptText
