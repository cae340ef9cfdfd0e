import TensorGraph.Command.Directory
import TensorGraph.Main
import TensorGraph.Proofs.Graph.Reorder
import TensorGraph.Proofs.Reduction.Dims
import TensorGraph.Proofs.Reduction.Binding
import TensorGraph.Proofs.Reduction.Information
import TensorGraph.Proofs.Registry.History
import TensorGraph.Proofs.Schema.WellFormed
import TensorGraph.Proofs.Graph.TypeVariables
import TensorGraph.Proofs.Reduction.Acceptance
import TensorGraph.Proofs.Schema.Slots
import TensorGraph.Proofs.Reduction.Lineage
import TensorGraph.Proofs.Graph.Refusals
import TensorGraph.Proofs.Reduction.Violations
import TensorGraph.Proofs.Graph.Bounds
import TensorGraph.Proofs.Graph.Views
import TensorGraph.Proofs.Reduction.Steps
import TensorGraph.Proofs.Graph.Defaults
import TensorGraph.Proofs.Reduction.Undeclared
import TensorGraph.Proofs.Text.ByteOrder
import TensorGraph.Proofs.Reduction.Rerun
import TensorGraph.Proofs.Registry.Canonical
import TensorGraph.Proofs.Reduction.Stable
import TensorGraph.Proofs.Tensor.Size
import TensorGraph.Proofs.Reduction.Successive
import TensorGraph.Proofs.Reduction.SingleAxis
import TensorGraph.Proofs.Graph.Signature
import TensorGraph.Proofs.Graph.Completion
import TensorGraph.Proofs.Schema.Calls
import TensorGraph.Proofs.Tensor.Arrays
import TensorGraph.Proofs.GraphFile.InputTypes
import TensorGraph.Proofs.GraphFile.Integers
import TensorGraph.Proofs.GraphFile.Tensors
import TensorGraph.Proofs.GraphFile.Lists
import TensorGraph.Proofs.Tensor.ElementCount
import TensorGraph.Proofs.Registry.Documentation
import TensorGraph.Proofs.Tensor.TypeText
import TensorGraph.Proofs.Registry.KeyText
import TensorGraph.Proofs.Tensor.Axis
import TensorGraph.Proofs.Text.SnakeCase
import TensorGraph.Proofs.Tensor.TypeSyntax
