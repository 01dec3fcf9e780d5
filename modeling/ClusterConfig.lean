import ClusterConfig.Command.Arguments
import ClusterConfig.Command.Report
import ClusterConfig.Command.Run
import ClusterConfig.Decimal.Binary64
import ClusterConfig.Decimal.Radix
import ClusterConfig.Dictionary
import ClusterConfig.Editor
import ClusterConfig.Environment
import ClusterConfig.Failure
import ClusterConfig.FileTree
import ClusterConfig.FileTree.Path
import ClusterConfig.Generated.ClusterConf
import ClusterConfig.Generated.Document
import ClusterConfig.Generated.EnvFile
import ClusterConfig.Generated.KubeSpec
import ClusterConfig.Generated.Kubeconfig
import ClusterConfig.Generated.Prometheus
import ClusterConfig.Json
import ClusterConfig.Main
import ClusterConfig.Net.Address
import ClusterConfig.Net.Network
import ClusterConfig.Project
import ClusterConfig.Resources
import ClusterConfig.Setup.Addressing
import ClusterConfig.Setup.Cluster
import ClusterConfig.Setup.ControlPlane
import ClusterConfig.Setup.Document
import ClusterConfig.Setup.Fault
import ClusterConfig.Setup.Lookup
import ClusterConfig.Setup.Node
import ClusterConfig.Setup.Service
import ClusterConfig.Shape
import ClusterConfig.Template
import ClusterConfig.Text.Blank
import ClusterConfig.Text.Split
import ClusterConfig.Text.Utf8
import ClusterConfig.Yaml.Block.Pen
import ClusterConfig.Yaml.Block.Scalar
import ClusterConfig.Yaml.Block.Writer
import ClusterConfig.Yaml.Character
import ClusterConfig.Yaml.Cursor
import ClusterConfig.Yaml.Fault
import ClusterConfig.Yaml.Gap
import ClusterConfig.Yaml.Node
import ClusterConfig.Yaml.Node.Anchors
import ClusterConfig.Yaml.Node.Document
import ClusterConfig.Yaml.Number
import ClusterConfig.Yaml.Token
import ClusterConfig.Yaml.Token.Block
import ClusterConfig.Yaml.Token.Plain
import ClusterConfig.Yaml.Token.Quoted
import ClusterConfig.Yaml.Token.Stream
import ClusterConfig.Yaml.Token.Tag
import ClusterConfig.Yaml.Value
import ClusterConfig.Yaml.Value.Document
import ClusterConfig.Yaml.Value.Scalar
import ClusterConfig.Yaml.Value.Text
import ClusterConfig.Proofs.Reading
import ClusterConfig.Proofs.Shape
import ClusterConfig.Proofs.Dictionary
import ClusterConfig.Proofs.Setup.Blocks
import ClusterConfig.Proofs.Setup.Loading
import ClusterConfig.Proofs.Yaml.DistinctKeys
import ClusterConfig.Proofs.Setup.UnreadEntries
import ClusterConfig.Proofs.Setup.FirstFault
import ClusterConfig.Proofs.Setup.Reordering
import ClusterConfig.Proofs.Text
import ClusterConfig.Proofs.Project
import ClusterConfig.Proofs.Net.Written
import ClusterConfig.Proofs.Template.Occurrence
import ClusterConfig.Proofs.Template.Division
import ClusterConfig.Proofs.Template.Rendering
import ClusterConfig.Proofs.Generated.ControlPlane
import ClusterConfig.Proofs.Generated.EnvFile
import ClusterConfig.Proofs.Generated.ClusterConf
import ClusterConfig.Proofs.Setup.Names
import ClusterConfig.Proofs.Command.Printing
import ClusterConfig.Proofs.Command.NodeList
import ClusterConfig.Proofs.FileTree
import ClusterConfig.Proofs.Project.Outcomes
import ClusterConfig.Proofs.Project.Runs
import ClusterConfig.Proofs.Command.Populating
import ClusterConfig.Proofs.Setup.Keyserver
import ClusterConfig.Proofs.Setup.SingleFaults
import ClusterConfig.Proofs.Generated.KubeSpec
import ClusterConfig.Proofs.Generated.MastersOnly
import ClusterConfig.Proofs.Command.Settings
import ClusterConfig.Proofs.Generated.BundledTemplates
import ClusterConfig.Proofs.Resources.Directory
import ClusterConfig.Proofs.Resources.Bundled
import ClusterConfig.Proofs.Setup.Resolution
import ClusterConfig.Proofs.Decimal.Radix
import ClusterConfig.Proofs.Net.Intervals
import ClusterConfig.Proofs.Environment
import ClusterConfig.Proofs.Net.Parsing
import ClusterConfig.Proofs.Command.Views
import ClusterConfig.Proofs.Template.Composition
import ClusterConfig.Proofs.Template.Assembled
import ClusterConfig.Proofs.Yaml.Text
import ClusterConfig.Proofs.Setup.Bootstrap
import ClusterConfig.Proofs.Setup.NodeEntries
import ClusterConfig.Proofs.Setup.Positions
import ClusterConfig.Proofs.Text.Bytes
import ClusterConfig.Proofs.Generated.Insertions
import ClusterConfig.Proofs.Generated.QuotedList
import ClusterConfig.Proofs.Shape.Answers
