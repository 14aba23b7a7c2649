import MarkupCompiler.Tool
import MarkupCompiler.Json.Reader
import MarkupCompiler.Proofs.Collected.Contribution
import MarkupCompiler.Proofs.Collected.Walk
import MarkupCompiler.Proofs.Collected.Exact
import MarkupCompiler.Proofs.Interval.Painting
import MarkupCompiler.Proofs.Collected.Nesting
import MarkupCompiler.Proofs.Collected.Deciding
import MarkupCompiler.Proofs.Request.Painting
import MarkupCompiler.Proofs.Collected.InnerStyle
import MarkupCompiler.Proofs.Collected.Inline
import MarkupCompiler.Proofs.Block.Loose
import MarkupCompiler.Proofs.Block.Lossless
import MarkupCompiler.Proofs.Block.ReadingOrder
import MarkupCompiler.Proofs.Request.Arrangement
import MarkupCompiler.Proofs.Request.BlockRequests
import MarkupCompiler.Proofs.Interval.Ranges
import MarkupCompiler.Proofs.Request.AppendOnly
import MarkupCompiler.Proofs.Style.Mask
import MarkupCompiler.Proofs.Request.StyleRange
import MarkupCompiler.Proofs.Request.ListRun
import MarkupCompiler.Proofs.Block.TableRegion
import MarkupCompiler.Proofs.Block.TableSize
import MarkupCompiler.Proofs.Request.Tables
import MarkupCompiler.Proofs.Request.Composition
import MarkupCompiler.Proofs.Style.ParagraphSlot
import MarkupCompiler.Proofs.Request.Override
import MarkupCompiler.Proofs.Block.Siblings
import MarkupCompiler.Proofs.Tree.Shown
import MarkupCompiler.Proofs.Block.Layout
import MarkupCompiler.Proofs.Block.Hidden
import MarkupCompiler.Proofs.Interval.Components
import MarkupCompiler.Proofs.Request.Translation
import MarkupCompiler.Proofs.Fragment.Piece
import MarkupCompiler.Proofs.Fragment.Stretch
import MarkupCompiler.Proofs.Fragment.Bookkeeping
import MarkupCompiler.Proofs.Fragment.Spaced
import MarkupCompiler.Proofs.Interval.LastWord
import MarkupCompiler.Proofs.Interval.Coalesced
import MarkupCompiler.Proofs.Collected.Laminar
import MarkupCompiler.Proofs.Collected.Regrouping
import MarkupCompiler.Proofs.Tree.Way
import MarkupCompiler.Proofs.Block.Event
import MarkupCompiler.Proofs.Fragment.Joined
import MarkupCompiler.Proofs.Block.Origin
import MarkupCompiler.Proofs.Block.Segment
import MarkupCompiler.Proofs.Block.LooseStyles
import MarkupCompiler.Proofs.Block.ListCount
import MarkupCompiler.Proofs.Block.WellFormed
import MarkupCompiler.Proofs.Block.Quotation
import MarkupCompiler.Proofs.Request.Reuse
import MarkupCompiler.Proofs.Request.Regions
import MarkupCompiler.Proofs.Config.History
import MarkupCompiler.Proofs.Block.Boxes
import MarkupCompiler.Proofs.Style.Declarations
import MarkupCompiler.Proofs.Delivery.Attempts
import MarkupCompiler.Proofs.Delivery.Insertion
import MarkupCompiler.Proofs.Request.Object
import MarkupCompiler.Proofs.Delivery.ToolAnswer
