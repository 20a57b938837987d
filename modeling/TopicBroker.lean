import TopicBroker.Qos
import TopicBroker.Message
import TopicBroker.Topic.Levels
import TopicBroker.Topic.Matching
import TopicBroker.Topic.Grammar
import TopicBroker.Trie.Node
import TopicBroker.Trie.Basic
import TopicBroker.Trie.Search
import TopicBroker.Topic.Subscriptions
import TopicBroker.Topic.Retained
import TopicBroker.Text.Unprintable
import TopicBroker.Text.Quoted
import TopicBroker.Session.Backlog
import TopicBroker.Session.Basic
import TopicBroker.Session.Registry
import TopicBroker.ClientId
import TopicBroker.Outlet
import TopicBroker.Broker.Basic
import TopicBroker.Broker.Routing
import TopicBroker.Broker.Sessions
import TopicBroker.Broker.Operation
import TopicBroker.Broker.Exchange
import TopicBroker.Text.Numeral
import TopicBroker.Text.Shortest
import TopicBroker.Text.Lowercase
import TopicBroker.Text.Alphanumeric
import TopicBroker.Text.Alphabetic
import TopicBroker.Log.Level
import TopicBroker.Log.Verbosity
import TopicBroker.Log.Pattern.Mode
import TopicBroker.Log.Pattern.Nesting
import TopicBroker.Log.Pattern.Escape
import TopicBroker.Log.Pattern.CharacterSet
import TopicBroker.Log.Pattern.WellFormed
import TopicBroker.Log.Directive
import TopicBroker.Log.Filter
import TopicBroker.Settings.Basic
import TopicBroker.Settings.Placeholder
import TopicBroker.Toml.Value
import TopicBroker.Toml.Dialect
import TopicBroker.Toml.Layout
import TopicBroker.Toml.Quoted
import TopicBroker.Toml.Moment
import TopicBroker.Toml.Scalar
import TopicBroker.Toml.Key
import TopicBroker.Toml.Table
import TopicBroker.Toml.Document
import TopicBroker.Settings.KeyPath
import TopicBroker.Settings.Environment
import TopicBroker.Settings.Decoding
import TopicBroker.Settings.Loading
import TopicBroker.Proofs.Trie.Contents
import TopicBroker.Proofs.Trie.SearchOrder
import TopicBroker.Proofs.Trie.Shape
import TopicBroker.Proofs.Topic.Validity
import TopicBroker.Proofs.Topic.LiveSubscriptions
import TopicBroker.Proofs.Topic.SubscriptionHistory
import TopicBroker.Proofs.Topic.SubscriptionTable
import TopicBroker.Proofs.Session.Registry
import TopicBroker.Proofs.Topic.RetainedMessages
import TopicBroker.Proofs.Topic.RetainedTable
import TopicBroker.Proofs.Topic.CanonicalTries
import TopicBroker.Proofs.Broker.Consistency
import TopicBroker.Proofs.Broker.Routing
import TopicBroker.Proofs.Broker.Sessions
import TopicBroker.Proofs.Broker.Histories
import TopicBroker.Proofs.Broker.Publishing
import TopicBroker.Proofs.Broker.Absence
import TopicBroker.Proofs.Since
import TopicBroker.Proofs.Broker.Lifetimes
import TopicBroker.Proofs.Broker.Causes
import TopicBroker.Proofs.Broker.Upkeep
import TopicBroker.Proofs.Broker.Wills
import TopicBroker.Proofs.Broker.Replays
import TopicBroker.Proofs.Broker.Returns
import TopicBroker.Proofs.Broker.Releases
import TopicBroker.Proofs.Broker.Connecting
import TopicBroker.Proofs.Broker.Refusals
import TopicBroker.Proofs.Broker.WithoutRetained
import TopicBroker.Proofs.Broker.Isolation
import TopicBroker.Proofs.Topic.ReportOrder
import TopicBroker.Proofs.Broker.Handovers
import TopicBroker.Proofs.Broker.Dispatch
import TopicBroker.Proofs.Trie.Sweep
import TopicBroker.Proofs.Trie.FiniteMap
import TopicBroker.Proofs.Trie.Pruning
import TopicBroker.Proofs.Topic.Matching
import TopicBroker.Proofs.Topic.Grammar
import TopicBroker.Proofs.Topic.Unsubscribing
import TopicBroker.Proofs.Session.Queues
import TopicBroker.Proofs.Settings.Placeholders
import TopicBroker.Proofs.Settings.Acceptance
import TopicBroker.Proofs.Toml.DistinctKeys
import TopicBroker.Proofs.Settings.Layers
import TopicBroker.Proofs.Settings.Keys
import TopicBroker.Proofs.Settings.Sources
import TopicBroker.Proofs.Settings.Precedence
import TopicBroker.Proofs.Log.Verbosities
import TopicBroker.Proofs.Log.Directives
import TopicBroker.Proofs.Log.Layering
import TopicBroker.Proofs.Settings.Agreement
import TopicBroker.Proofs.Topic.Addresses
