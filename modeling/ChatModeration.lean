import ChatModeration.Alert
import ChatModeration.Api.Exchange
import ChatModeration.Api.Routes
import ChatModeration.Bullets
import ChatModeration.Config
import ChatModeration.Config.Line
import ChatModeration.Context
import ChatModeration.Context.Data
import ChatModeration.Discord.Client
import ChatModeration.Discord.Embed
import ChatModeration.Discord.Enforcement
import ChatModeration.Discord.Inbound
import ChatModeration.Discord.Webhook
import ChatModeration.Dispatch
import ChatModeration.Fault
import ChatModeration.FilterList.Basic
import ChatModeration.FilterList.Data
import ChatModeration.FilterList.Domain
import ChatModeration.FilterList.Kinds
import ChatModeration.FilterList.Token
import ChatModeration.FilterStorage.Announcement
import ChatModeration.FilterStorage.Reload
import ChatModeration.FilterStorage.Rows
import ChatModeration.FilterStorage.Subscriber
import ChatModeration.Infraction
import ChatModeration.Instant
import ChatModeration.Log
import ChatModeration.Markdown
import ChatModeration.Number.Basic
import ChatModeration.Number.Decimal
import ChatModeration.Number.Reader
import ChatModeration.Pattern.Fold
import ChatModeration.Pattern.Match
import ChatModeration.Pattern.Reader
import ChatModeration.Pattern.Syntax
import ChatModeration.Platform
import ChatModeration.Platform.Data
import ChatModeration.Program
import ChatModeration.Registry
import ChatModeration.Registry.Build
import ChatModeration.Sanction.Apply
import ChatModeration.Sanction.Basic
import ChatModeration.Sanction.Combine
import ChatModeration.Sanction.Data
import ChatModeration.Schema.CheckRequest
import ChatModeration.Schema.Checked
import ChatModeration.Schema.Issue
import ChatModeration.Schema.RawList
import ChatModeration.Text.Basic
import ChatModeration.Text.Blank
import ChatModeration.Text.Case
import ChatModeration.Text.CaseTable
import ChatModeration.Text.Utf8
import ChatModeration.Unicode.Identifier
import ChatModeration.Unicode.Normal
import ChatModeration.Unicode.NormalTable
import ChatModeration.Unicode.RangeMap
import ChatModeration.Unicode.RangeSet
import ChatModeration.Unicode.Width
import ChatModeration.Url.Domain
import ChatModeration.Url.DomainTable
import ChatModeration.Url.Host
import ChatModeration.Url.Ipv4
import ChatModeration.Url.Ipv6
import ChatModeration.Url.Percent
import ChatModeration.Url.Punycode
import ChatModeration.Url.Target
import ChatModeration.Value.Basic
import ChatModeration.Value.Display
import ChatModeration.Value.Json
import ChatModeration.Proofs.CombineCases
import ChatModeration.Proofs.Decision
import ChatModeration.Proofs.BulletAlgebra
import ChatModeration.Proofs.CombineAssociativity
import ChatModeration.Proofs.ReloadPhases
import ChatModeration.Proofs.Conversation
import ChatModeration.Proofs.ReloadFreshness
import ChatModeration.Proofs.SanctionSteps
import ChatModeration.Proofs.DispatchConduct
import ChatModeration.Proofs.ReducedTexts
import ChatModeration.Proofs.ValidLists
import ChatModeration.Proofs.BuiltCatalogue
import ChatModeration.Proofs.Relay
import ChatModeration.Proofs.Measures
import ChatModeration.Proofs.ReportedSanctions
import ChatModeration.Proofs.DispatchStages
import ChatModeration.Proofs.SnapshotIsolation
import ChatModeration.Proofs.Obligations
import ChatModeration.Proofs.ConfirmedMeasures
import ChatModeration.Proofs.BackedReports
import ChatModeration.Proofs.ReloadExclusion
import ChatModeration.Proofs.LoadedTables
import ChatModeration.Proofs.ListFaults
import ChatModeration.Proofs.SanctionConduct
import ChatModeration.Proofs.OwnPatterns
import ChatModeration.Proofs.WrittenJson
import ChatModeration.Proofs.DryRun
import ChatModeration.Proofs.AsciiNames
import ChatModeration.Proofs.LinkedHosts
import ChatModeration.Proofs.PunctuatedLinks
import ChatModeration.Proofs.CombinedNotices
import ChatModeration.Proofs.AsciiHosts
import ChatModeration.Proofs.LabelBoundaries
import ChatModeration.Proofs.FoldedMessages
import ChatModeration.Proofs.WholeNumbers
import ChatModeration.Proofs.TimeoutBounds
import ChatModeration.Proofs.GroupedFilters
import ChatModeration.Proofs.CheckedGrammars
import ChatModeration.Proofs.ListGrammar
import ChatModeration.Proofs.WrittenLines
import ChatModeration.Proofs.WrittenNumerals
import ChatModeration.Proofs.WrittenSettings
import ChatModeration.Proofs.BlankSanctions
import ChatModeration.Proofs.KeyedTables
import ChatModeration.Proofs.RegistryTables
import ChatModeration.Proofs.CatalogueCoherence
import ChatModeration.Proofs.LastBlocks
import ChatModeration.Proofs.FoldDirections
import ChatModeration.Proofs.CutBodies
import ChatModeration.Proofs.InfractionNames
import ChatModeration.Proofs.AnsweredPrograms
import ChatModeration.Proofs.InboundHandlings
import ChatModeration.Proofs.InboundRouting
