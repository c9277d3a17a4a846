import ServerLaunch.Config.Assignment
import ServerLaunch.Main
import ServerLaunch.Text.Lines
import ServerLaunch.Proofs.Action
import ServerLaunch.Proofs.History
import ServerLaunch.Proofs.Logging
import ServerLaunch.Proofs.Discovery
import ServerLaunch.Proofs.Builder
import ServerLaunch.Proofs.BuilderRun
import ServerLaunch.Proofs.LaunchCommand
import ServerLaunch.Proofs.Children
import ServerLaunch.Proofs.Handle
import ServerLaunch.Proofs.Launch
import ServerLaunch.Proofs.Supervision
import ServerLaunch.Proofs.Preparation
import ServerLaunch.Proofs.StartCommand
import ServerLaunch.Proofs.SharedWords
import ServerLaunch.Proofs.DryRun
import ServerLaunch.Proofs.BasePath
import ServerLaunch.Proofs.BuilderInvariant
import ServerLaunch.Proofs.Entries
import ServerLaunch.Proofs.JsonRoundTrip
import ServerLaunch.Proofs.PrintedCommand
import ServerLaunch.Proofs.Outcome
import ServerLaunch.Proofs.StartOutcome
import ServerLaunch.Proofs.FailedStart
import ServerLaunch.Proofs.Tables
import ServerLaunch.Proofs.LowerCase
import ServerLaunch.Proofs.EnvironmentSections
import ServerLaunch.Proofs.SectionFields
import ServerLaunch.Proofs.MergedSections
import ServerLaunch.Proofs.SettingsPrecedence
import ServerLaunch.Proofs.FlagRouting
import ServerLaunch.Proofs.OptionsOverSettings
import ServerLaunch.Proofs.Course
import ServerLaunch.Proofs.Rounds
import ServerLaunch.Proofs.TimedStart
import ServerLaunch.Proofs.IntegerText
import ServerLaunch.Proofs.FlagSetters
import ServerLaunch.Proofs.LookupChain
import ServerLaunch.Proofs.Paths
import ServerLaunch.Proofs.BuildStages
import ServerLaunch.Proofs.LaunchedFile
import ServerLaunch.Proofs.Rebuild
import ServerLaunch.Proofs.FailedBuild
import ServerLaunch.Proofs.ConfigSearch
import ServerLaunch.Proofs.NearestConfig
import ServerLaunch.Proofs.SideBySide
import ServerLaunch.Proofs.RelativeSearch
import ServerLaunch.Proofs.ValidConfig
import ServerLaunch.Proofs.OutsideQuotes
import ServerLaunch.Proofs.JsonReading
import ServerLaunch.Proofs.JsonGrammar
import ServerLaunch.Proofs.ShortestDigits
import ServerLaunch.Proofs.WrittenJson
import ServerLaunch.Proofs.StandardJson
import ServerLaunch.Proofs.CapabilitiesUsage
import ServerLaunch.Proofs.PathSlashes
import ServerLaunch.Proofs.NestedSets
import ServerLaunch.Proofs.QuotedReading
import ServerLaunch.Proofs.Merging
import ServerLaunch.Proofs.SetStore
import ServerLaunch.Proofs.MergedCalls
import ServerLaunch.Proofs.CanonicalUrl
import ServerLaunch.Proofs.Utf8Reading
import ServerLaunch.Proofs.OutputLines
import ServerLaunch.Proofs.PipeEnds
import ServerLaunch.Proofs.Registrations
import ServerLaunch.Proofs.Needs
import ServerLaunch.Proofs.Completions
import ServerLaunch.Proofs.ContainerRun
import ServerLaunch.Proofs.LogFiles
import ServerLaunch.Proofs.LoggerRun
import ServerLaunch.Proofs.SharedContext
