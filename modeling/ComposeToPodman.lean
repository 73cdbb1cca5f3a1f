import ComposeToPodman.Compose.Form.Encode
import ComposeToPodman.Main
import ComposeToPodman.Options.Read
import ComposeToPodman.Proofs.Binary64
import ComposeToPodman.Proofs.Compose.Acceptance
import ComposeToPodman.Proofs.Compose.CommandLine
import ComposeToPodman.Proofs.Compose.DroppedKeys
import ComposeToPodman.Proofs.Compose.Entries
import ComposeToPodman.Proofs.Compose.Extras
import ComposeToPodman.Proofs.Compose.FileOrder
import ComposeToPodman.Proofs.Compose.FormValues
import ComposeToPodman.Proofs.Compose.Forms
import ComposeToPodman.Proofs.Compose.Guarantees
import ComposeToPodman.Proofs.Compose.Integers
import ComposeToPodman.Proofs.Compose.Interchange
import ComposeToPodman.Proofs.Compose.KeyOrder
import ComposeToPodman.Proofs.Compose.ListsAndMaps
import ComposeToPodman.Proofs.Compose.Losses
import ComposeToPodman.Proofs.Compose.Mounts
import ComposeToPodman.Proofs.Compose.PortSpelling
import ComposeToPodman.Proofs.Compose.Ports
import ComposeToPodman.Proofs.Compose.Problems
import ComposeToPodman.Proofs.Compose.Reading
import ComposeToPodman.Proofs.Compose.Records
import ComposeToPodman.Proofs.Compose.RoundTrip
import ComposeToPodman.Proofs.Compose.Sections
import ComposeToPodman.Proofs.Compose.ServiceNames
import ComposeToPodman.Proofs.Compose.ShortAndLong
import ComposeToPodman.Proofs.Compose.Skipped
import ComposeToPodman.Proofs.Compose.StartOrder
import ComposeToPodman.Proofs.Compose.Tokens
import ComposeToPodman.Proofs.Compose.WellFormed
import ComposeToPodman.Proofs.Conversion
import ComposeToPodman.Proofs.Dict
import ComposeToPodman.Proofs.Program.Outcome
import ComposeToPodman.Proofs.Rule.Effect
import ComposeToPodman.Proofs.Rule.Namespaces
import ComposeToPodman.Proofs.Rule.Order
import ComposeToPodman.Proofs.Rule.Preserve
import ComposeToPodman.Proofs.Rule.Rewrite
import ComposeToPodman.Proofs.Target.AddedService
import ComposeToPodman.Proofs.Target.ExternalNames
import ComposeToPodman.Proofs.Target.Files
import ComposeToPodman.Proofs.Target.LabelSearch
import ComposeToPodman.Proofs.Target.LabelShape
import ComposeToPodman.Proofs.Target.NetworkEntries
import ComposeToPodman.Proofs.Target.PodAnnotations
import ComposeToPodman.Proofs.Target.PodContainers
import ComposeToPodman.Proofs.Target.PodSettings
import ComposeToPodman.Proofs.Target.PodVolumes
import ComposeToPodman.Proofs.Target.Quoting
import ComposeToPodman.Proofs.Target.UndeclaredVolumes
import ComposeToPodman.Proofs.Target.UnitLines
import ComposeToPodman.Proofs.Target.UnitReferences
import ComposeToPodman.Proofs.Target.VolumeNames
import ComposeToPodman.Proofs.Text
import ComposeToPodman.Proofs.Yaml.Choice
import ComposeToPodman.Proofs.Yaml.Decode
import ComposeToPodman.Proofs.Yaml.Keys
import ComposeToPodman.Proofs.Yaml.Maps
import ComposeToPodman.Proofs.Yaml.Prune
