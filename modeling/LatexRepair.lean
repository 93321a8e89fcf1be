import LatexRepair.FileTree
import LatexRepair.Main
import LatexRepair.Proofs.EventWord
import LatexRepair.Proofs.Reading
import LatexRepair.Proofs.ScanSteps
import LatexRepair.Proofs.EnvironmentWord
import LatexRepair.Proofs.DelimiterTrace
import LatexRepair.Proofs.Conservation
import LatexRepair.Proofs.EnvironmentAccount
import LatexRepair.Proofs.AlikeScans
import LatexRepair.Proofs.BracePatch
import LatexRepair.Proofs.BraceBalance
import LatexRepair.Proofs.WellFormed
import LatexRepair.Proofs.Insertion
import LatexRepair.Proofs.CommentBlindness
import LatexRepair.Proofs.FixAccount
import LatexRepair.Proofs.CodeCuts
import LatexRepair.Proofs.LineRules
import LatexRepair.Proofs.LineRest
import LatexRepair.Proofs.MarkerReading
import LatexRepair.Proofs.AlignedPass
import LatexRepair.Proofs.Settling
import LatexRepair.Proofs.InStep
import LatexRepair.Proofs.Recovery
import LatexRepair.Proofs.CleanRepair
import LatexRepair.Proofs.RunReport
import LatexRepair.Proofs.MarkerPlaces
import LatexRepair.Proofs.Linewise
import LatexRepair.Proofs.MarkupEdits
import LatexRepair.Proofs.ProsePreservation
import LatexRepair.Proofs.ChatStage
import LatexRepair.Proofs.TreeFrames
import LatexRepair.Proofs.Backups
import LatexRepair.Proofs.Mentions
import LatexRepair.Proofs.TokenPlaces
import LatexRepair.Proofs.BracePlaces
import LatexRepair.Proofs.BraceEdits
import LatexRepair.Proofs.LineTermination
import LatexRepair.Proofs.BalancedSkeletons
import LatexRepair.Proofs.EndLines
import LatexRepair.Proofs.Remarks
import LatexRepair.Proofs.EndCount
import LatexRepair.Proofs.ComparedLines
import LatexRepair.Proofs.TrimmedEnds
import LatexRepair.Proofs.EndOfDocument
import LatexRepair.Proofs.CodePlaces
import LatexRepair.Proofs.ReadMarkers
import LatexRepair.Proofs.LineEnds
import LatexRepair.Proofs.DuplicateEnds
import LatexRepair.Proofs.Misspellings
import LatexRepair.Proofs.RulesAtRest
import LatexRepair.Proofs.FollowingEnds
import LatexRepair.Proofs.LeftLexemes
import LatexRepair.Proofs.LiveEnd
import LatexRepair.Proofs.RealPlaces
import LatexRepair.Proofs.RunAccount
import LatexRepair.Proofs.CoverageGrowth
import LatexRepair.Proofs.ListedFiles
import LatexRepair.Proofs.ToolBackups
import LatexRepair.Proofs.CheckedSlices
import LatexRepair.Proofs.Encoding
import LatexRepair.Proofs.CheckedLines
import LatexRepair.Proofs.CheckedLineRules
import LatexRepair.Proofs.CheckedAlignment
import LatexRepair.Proofs.CheckedOccurrences
import LatexRepair.Proofs.CheckedStructure
import LatexRepair.Proofs.CheckedReading
import LatexRepair.Proofs.CheckedScan
import LatexRepair.Proofs.CheckedColors
import LatexRepair.Proofs.CheckedRules
import LatexRepair.Proofs.CheckedRepair
import LatexRepair.Proofs.HiddenMarkers
import LatexRepair.Proofs.KeptAlignment
import LatexRepair.Proofs.RestoredEnds
import LatexRepair.Proofs.TrailingReading
import LatexRepair.Proofs.TrimmedBraces
import LatexRepair.Proofs.HalfClosedStyles
import LatexRepair.Proofs.Truncation
import LatexRepair.Proofs.Anchoring
import LatexRepair.Proofs.RestoredClosers
import LatexRepair.Proofs.Concatenation
import LatexRepair.Proofs.Correspondence
import LatexRepair.Proofs.OpaqueText
import LatexRepair.Proofs.Outlines
import LatexRepair.Proofs.ClosedColors
import LatexRepair.Proofs.DocumentMarkers
import LatexRepair.Proofs.Stretches
import LatexRepair.Proofs.PictureTally
import LatexRepair.Proofs.ClosedPictures
import LatexRepair.Proofs.ScoreRange
import LatexRepair.Proofs.CorrectedAtOnce
import LatexRepair.Proofs.TrailingClosers
import LatexRepair.Proofs.TextComparison
import LatexRepair.Proofs.ListedHeadings
import LatexRepair.Proofs.PlainBlocks
import LatexRepair.Proofs.CoveredSections
import LatexRepair.Proofs.DocumentsBelow
import LatexRepair.Proofs.FileTreatment
import LatexRepair.Proofs.DirectoryRepair
import LatexRepair.Proofs.ExcerptPlaces
import LatexRepair.Proofs.ClosingBraces
import LatexRepair.Proofs.UncommentedMarkers
