import AgentClassifier.Binary64
import AgentClassifier.Cache.Layer
import AgentClassifier.Cache.Recent
import AgentClassifier.Cache.Settings
import AgentClassifier.Cache.Settings.Reader
import AgentClassifier.CharSet
import AgentClassifier.CharSet.Category
import AgentClassifier.CharSet.Folding
import AgentClassifier.CharSet.Name
import AgentClassifier.CharSet.Property
import AgentClassifier.CharSet.Script
import AgentClassifier.Classifier
import AgentClassifier.Classifier.Reader
import AgentClassifier.Client
import AgentClassifier.Decimal
import AgentClassifier.Duration
import AgentClassifier.Error
import AgentClassifier.Labelled
import AgentClassifier.Matcher
import AgentClassifier.Parser
import AgentClassifier.Pattern
import AgentClassifier.Pattern.Assertion
import AgentClassifier.Pattern.CharClass
import AgentClassifier.Pattern.Extended
import AgentClassifier.Pattern.Extended.Reader
import AgentClassifier.Pattern.Literals
import AgentClassifier.Pattern.Machine
import AgentClassifier.Pattern.Program
import AgentClassifier.Pattern.Regular
import AgentClassifier.Pattern.Regular.Reader
import AgentClassifier.PatternSet
import AgentClassifier.Rules
import AgentClassifier.Rules.Bundled
import AgentClassifier.Rules.Reader
import AgentClassifier.Service
import AgentClassifier.Template
import AgentClassifier.Text.Blank
import AgentClassifier.Text.Quoted
import AgentClassifier.Yaml.Cursor
import AgentClassifier.Yaml.Document
import AgentClassifier.Yaml.Node
import AgentClassifier.Yaml.Scalar
import AgentClassifier.Yaml.Shape
import AgentClassifier.Yaml.Tag
import AgentClassifier.Yaml.Token
import AgentClassifier.Proofs.PatternSet.Candidates
import AgentClassifier.Proofs.Traversal
import AgentClassifier.Proofs.PatternSet.Scan
import AgentClassifier.Proofs.Cache.Latest
import AgentClassifier.Proofs.Cache.Recency
import AgentClassifier.Proofs.Matcher.FirstRule
import AgentClassifier.Proofs.Service.Latest
import AgentClassifier.Proofs.Service.Recency
import AgentClassifier.Proofs.Matcher.Faults
import AgentClassifier.Proofs.Parser.Reload
import AgentClassifier.Proofs.Service.Freshness
import AgentClassifier.Proofs.Matcher.Fields
import AgentClassifier.Proofs.Service.Fields
import AgentClassifier.Proofs.Cache.Room
import AgentClassifier.Proofs.Service.Calls
import AgentClassifier.Proofs.Service.Separation
import AgentClassifier.Proofs.Service.Batch
import AgentClassifier.Proofs.Pattern.Language
import AgentClassifier.Proofs.Pattern.Reach
import AgentClassifier.Proofs.Pattern.Beginnings
import AgentClassifier.Proofs.Pattern.Bare
import AgentClassifier.Proofs.Pattern.Passage
import AgentClassifier.Proofs.Pattern.Assembly
import AgentClassifier.Proofs.Pattern.Numbering
import AgentClassifier.Proofs.PatternSet.Soundness
import AgentClassifier.Proofs.Pattern.Shared
import AgentClassifier.Proofs.Pattern.Shared.Escape
import AgentClassifier.Proofs.Pattern.Shared.Filler
import AgentClassifier.Proofs.Pattern.Shared.Class
import AgentClassifier.Proofs.Pattern.Shared.Regular
import AgentClassifier.Proofs.Pattern.Shared.Extended
import AgentClassifier.Proofs.Pattern.Shared.Refines
import AgentClassifier.Proofs.Template.Segments
import AgentClassifier.Proofs.Service.Acceptance
import AgentClassifier.Proofs.Labelled
import AgentClassifier.Proofs.Classifier.Hints
import AgentClassifier.Proofs.Pattern.Visits
import AgentClassifier.Proofs.Pattern.Search
import AgentClassifier.Proofs.Pattern.Words
import AgentClassifier.Proofs.Classifier.Default
import AgentClassifier.Proofs.PatternSet.Ownership
import AgentClassifier.Proofs.Pattern.CaseFolding
import AgentClassifier.Proofs.Rules.Bundled
import AgentClassifier.Proofs.Yaml.Shape
import AgentClassifier.Proofs.Rules.Reader
