import Bindery.Act
import Bindery.Attribute
import Bindery.Browser.Change
import Bindery.Browser.Fault
import Bindery.Browser.Page
import Bindery.Choice
import Bindery.Clock
import Bindery.Decimal.Binary64
import Bindery.Decimal.Reading
import Bindery.Decimal.Shortest
import Bindery.Entries
import Bindery.Evaluation.Evaluators
import Bindery.Evaluation.Fault
import Bindery.Evaluation.Query
import Bindery.Gate.After
import Bindery.Gate.Fault
import Bindery.Gate.Pause
import Bindery.Host.Basic
import Bindery.Host.Files
import Bindery.Host.Shell
import Bindery.Host.Shell.Builtin
import Bindery.Host.Shell.Command
import Bindery.Host.Shell.Condition
import Bindery.Host.Shell.Expansion
import Bindery.Host.Shell.Pattern
import Bindery.Host.Shell.Printing
import Bindery.Host.Shell.Process
import Bindery.Host.Shell.Reading
import Bindery.Host.Shell.Run
import Bindery.Host.Shell.Sum
import Bindery.Host.Shell.Tool
import Bindery.Host.Status
import Bindery.Interaction.Element
import Bindery.Interaction.Fault
import Bindery.Interaction.Primitive
import Bindery.Interchange
import Bindery.Json.Path
import Bindery.Json.Reading
import Bindery.Json.Text
import Bindery.Json.Token
import Bindery.Json.Value
import Bindery.Key
import Bindery.Level
import Bindery.Locator
import Bindery.Regex.Class
import Bindery.Regex.Machine
import Bindery.Regex.Node
import Bindery.Regex.Pattern
import Bindery.Regex.Program
import Bindery.Regex.Reading
import Bindery.Regex.Size
import Bindery.Resolution.Fault
import Bindery.Resolution.Resolver
import Bindery.Resolution.Scan
import Bindery.Retry
import Bindery.Scope
import Bindery.Script
import Bindery.Session.Basic
import Bindery.Session.Fault
import Bindery.Session.Operation
import Bindery.Settings.Basic
import Bindery.Settings.Overlay
import Bindery.Settings.Reading
import Bindery.State
import Bindery.Template
import Bindery.Text.Blank
import Bindery.Text.Cut
import Bindery.Text.Numeral
import Bindery.Text.Octets
import Bindery.Text.Quoted
import Bindery.Text.Utf8
import Bindery.Unicode.Age
import Bindery.Unicode.Category
import Bindery.Unicode.Folding
import Bindery.Unicode.Property
import Bindery.Unicode.Ranges
import Bindery.Unicode.Script
import Bindery.Unicode.Segmentation
import Bindery.Vocabulary
import Bindery.Wait
import Bindery.World
import Bindery.Yaml.Block
import Bindery.Yaml.Folding
import Bindery.Yaml.Layout
import Bindery.Yaml.Node
import Bindery.Yaml.Plain
import Bindery.Yaml.Quoted
import Bindery.Yaml.Reading
import Bindery.Yaml.Scalar
import Bindery.Yaml.Scan
import Bindery.Yaml.Spot
import Bindery.Yaml.Tag
import Bindery.Yaml.Token
import Bindery.Proofs.Bounds
import Bindery.Proofs.Levels
import Bindery.Proofs.Bindings
import Bindery.Proofs.Reading
import Bindery.Proofs.LookupFrame
import Bindery.Proofs.Course
import Bindery.Proofs.Rounds
import Bindery.Proofs.WaitCourse
import Bindery.Proofs.Onward
import Bindery.Proofs.ActiveFrame
import Bindery.Proofs.Steps
import Bindery.Proofs.FrameLeak
import Bindery.Proofs.LiveText
import Bindery.Proofs.Coherence
import Bindery.Proofs.WaitTime
import Bindery.Proofs.DryRun
import Bindery.Proofs.Cutoff
import Bindery.Proofs.Cycles
import Bindery.Proofs.Stacking
import Bindery.Proofs.Journals
import Bindery.Proofs.Operations
import Bindery.Proofs.Features
import Bindery.Proofs.Outcome
import Bindery.Proofs.Rebound
import Bindery.Proofs.OuterText
import Bindery.Proofs.Reframing
import Bindery.Proofs.Rehearsal
import Bindery.Proofs.Giving
import Bindery.Proofs.Drift
import Bindery.Proofs.Placeholders
import Bindery.Proofs.Readiness
import Bindery.Proofs.Acceptance
import Bindery.Proofs.Layers
import Bindery.Proofs.Overlays
import Bindery.Proofs.Loading
import Bindery.Proofs.Caching
import Bindery.Proofs.FlatWait
import Bindery.Proofs.LatestBinding
import Bindery.Proofs.Isolation
import Bindery.Proofs.EmptyBindings
import Bindery.Proofs.Segments
import Bindery.Proofs.Substitution
import Bindery.Proofs.Chains
import Bindery.Proofs.Descent
import Bindery.Proofs.Expressions
import Bindery.Proofs.Missing
import Bindery.Proofs.Opposites
import Bindery.Proofs.SparedPage
import Bindery.Proofs.Requests
import Bindery.Proofs.Whereabouts
import Bindery.Proofs.Strokes
import Bindery.Proofs.Typing
import Bindery.Proofs.Ticking
import Bindery.Proofs.Selections
import Bindery.Proofs.PathGrammar
import Bindery.Proofs.Wrapping
import Bindery.Proofs.Significands
import Bindery.Proofs.Pauses
import Bindery.Proofs.Asking
import Bindery.Proofs.Aftermath
import Bindery.Proofs.Popping
import Bindery.Proofs.Limits
import Bindery.Proofs.Matches
import Bindery.Proofs.FreshPage
import Bindery.Proofs.FailedCalls
import Bindery.Proofs.ScriptedResults
import Bindery.Proofs.Lockstep
import Bindery.Proofs.OverlayOrder
import Bindery.Proofs.Unseen
import Bindery.Proofs.Photographs
import Bindery.Proofs.DeepUnion
import Bindery.Proofs.Forgetting
