import StubAssist.CommandLine.Run
import StubAssist.Go.Declaration
import StubAssist.Main
import StubAssist.Prompt.Session
import StubAssist.QuickFix
import StubAssist.Report
import StubAssist.Settings.File
import StubAssist.Shell.Tool
import StubAssist.SymbolIndex
import StubAssist.Toml.Document
import StubAssist.Workbench
import StubAssist.Proofs.Prompt.History
import StubAssist.Proofs.Prompt.Runs
import StubAssist.Proofs.Prompt.Supersession
import StubAssist.Proofs.Prompt.Script
import StubAssist.Proofs.Prompt.DueTimes
import StubAssist.Proofs.Prompt.Debounce
import StubAssist.Proofs.QuickFix.AllOrNothing
import StubAssist.Proofs.Go.Declarations
import StubAssist.Proofs.QuickFix.DeclaredStructs
import StubAssist.Proofs.Text.Lines
import StubAssist.Proofs.Go.Code
import StubAssist.Proofs.Go.Endings
import StubAssist.Proofs.Go.Insertions
import StubAssist.Proofs.QuickFix.NeutralStubs
import StubAssist.Proofs.Go.Bodies
import StubAssist.Proofs.QuickFix.Landing
import StubAssist.Proofs.Prompt.Decisions
import StubAssist.Proofs.Prompt.Deliveries
import StubAssist.Proofs.Prompt.Hearing
import StubAssist.Proofs.Prompt.UpdateStream
import StubAssist.Proofs.QuickFix.Resolution
import StubAssist.Proofs.Entries
import StubAssist.Proofs.Files.Walks
import StubAssist.Proofs.Files.Paths
import StubAssist.Proofs.Files.Writing
import StubAssist.Proofs.CommandLine.DryRun
import StubAssist.Proofs.Settings.EffectiveReceiver
import StubAssist.Proofs.Text.Splices
import StubAssist.Proofs.QuickFix.SurvivingLines
import StubAssist.Proofs.Go.MatchingBraces
import StubAssist.Proofs.Text.Splits
import StubAssist.Proofs.Index.Distinct
import StubAssist.Proofs.Index.ListedInterfaces
import StubAssist.Proofs.Go.Groups
import StubAssist.Proofs.Go.Heads
import StubAssist.Proofs.Go.Ranges
import StubAssist.Proofs.Text.Numbers
import StubAssist.Proofs.QuickFix.LineNumbers
import StubAssist.Proofs.Index.PrintedListings
import StubAssist.Proofs.Index.RepeatedNames
import StubAssist.Proofs.QuickFix.NamedInterfaces
import StubAssist.Proofs.CommandLine.TypedLines
import StubAssist.Proofs.CommandLine.ShownCalls
import StubAssist.Proofs.Settings.KeySearch
import StubAssist.Proofs.Prompt.IgnoredSelections
import StubAssist.Proofs.Go.Lexemes
import StubAssist.Proofs.Toml.Readers
import StubAssist.Proofs.Toml.Outline
import StubAssist.Proofs.Toml.Layout
import StubAssist.Proofs.Toml.Names
import StubAssist.Proofs.Toml.Sections
import StubAssist.Proofs.Toml.Additions
import StubAssist.Proofs.Settings.FaultyValues
import StubAssist.Proofs.Settings.TableKeys
