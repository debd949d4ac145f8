import SceneMarkup.Main
import SceneMarkup.Proofs.Emit.ComponentTag
import SceneMarkup.Proofs.Emit.DepthLimit
import SceneMarkup.Proofs.Emit.Elements
import SceneMarkup.Proofs.Emit.Isolation
import SceneMarkup.Proofs.Scene.DepthCut
import SceneMarkup.Proofs.Emit.Indentation
import SceneMarkup.Proofs.Emit.TagValues
import SceneMarkup.Proofs.Emit.ComponentLine
import SceneMarkup.Proofs.Emit.Hidden
import SceneMarkup.Proofs.Scene.Header
import SceneMarkup.Proofs.Scene.WireRecords
import SceneMarkup.Proofs.Scene.Verdict
import SceneMarkup.Proofs.Scene.Unread
import SceneMarkup.Proofs.Markup.Style
import SceneMarkup.Proofs.Text.References
import SceneMarkup.Proofs.Markup.Page
import SceneMarkup.Proofs.Emit.Flavors
import SceneMarkup.Proofs.Emit.Opacity
import SceneMarkup.Proofs.Emit.Traversal
import SceneMarkup.Proofs.Emit.Markers
import SceneMarkup.Proofs.Emit.MemberOrder
import SceneMarkup.Proofs.Emit.Styling
import SceneMarkup.Proofs.Markup.Boundaries
import SceneMarkup.Proofs.CommandLine.Delivery
import SceneMarkup.Proofs.CommandLine.Components
import SceneMarkup.Proofs.Text.Lossless
import SceneMarkup.Proofs.Emit.PropertyText
import SceneMarkup.Proofs.Emit.TextRuns
import SceneMarkup.Proofs.Emit.Expressions
import SceneMarkup.Proofs.Emit.AttributeNames
import SceneMarkup.Proofs.Emit.PropertyNames
import SceneMarkup.Proofs.Emit.Background
import SceneMarkup.Proofs.Emit.Parents
import SceneMarkup.Proofs.Scale.Steps
import SceneMarkup.Proofs.Scale.Retraction
import SceneMarkup.Proofs.Emit.Resolution
import SceneMarkup.Proofs.Registry.RoundTrip
