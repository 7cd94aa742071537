import HclLexis.CommandLine
import HclLexis.Trace
import HclLexis.Main
import HclLexis.Proofs.Tiling
import HclLexis.Proofs.Guarded
import HclLexis.Proofs.HeredocClosing
import HclLexis.Proofs.Document
import HclLexis.Proofs.ByteSlices
import HclLexis.Proofs.DocumentTokens
import HclLexis.Proofs.LineEndings
import HclLexis.Proofs.Places
import HclLexis.Proofs.PrefixStability
import HclLexis.Proofs.Respacing
import HclLexis.Proofs.Resumption
import HclLexis.Proofs.SequenceExpression
import HclLexis.Proofs.GuardedLexemes
import HclLexis.Proofs.GuardedTemplates
import HclLexis.Proofs.GuardedRun
import HclLexis.Proofs.Requests
import HclLexis.Proofs.HeredocTerminators
import HclLexis.Proofs.Indentation
import HclLexis.Proofs.LongestLexeme
import HclLexis.Proofs.StringUnits
import HclLexis.Proofs.TemplateLines
import HclLexis.Proofs.Numbers
import HclLexis.Proofs.LineBreaks
import HclLexis.Proofs.LexemesAlone
import HclLexis.Proofs.Brackets
import HclLexis.Proofs.ErrorReports
import HclLexis.Proofs.TraceReplay
import HclLexis.Proofs.CommandRuns
import HclLexis.Proofs.LocationOrder
import HclLexis.Proofs.Escapes
