import ClusterBrowser.Http.Application
import ClusterBrowser.Json.Metadata
import ClusterBrowser.Json.Writer
import ClusterBrowser.Proofs.SameView
import ClusterBrowser.Proofs.Shapes
import ClusterBrowser.Registry
import ClusterBrowser.Scripted.Cluster
import ClusterBrowser.Scripted.Master
import ClusterBrowser.Settings.Launch
import ClusterBrowser.Settings.Loading
import ClusterBrowser.Proofs.Tree
import ClusterBrowser.Proofs.Coherence
import ClusterBrowser.Proofs.DirectoryView
import ClusterBrowser.Proofs.Effects
import ClusterBrowser.Proofs.Browsable
import ClusterBrowser.Proofs.Links
import ClusterBrowser.Proofs.Order
import ClusterBrowser.Proofs.Bounds
import ClusterBrowser.Proofs.Outcomes
import ClusterBrowser.Proofs.Denial
import ClusterBrowser.Proofs.ReadOnly
import ClusterBrowser.Proofs.Rearrangement
import ClusterBrowser.Proofs.Lifecycle
import ClusterBrowser.Proofs.Pages
import ClusterBrowser.Proofs.Reading
import ClusterBrowser.Proofs.Streams
import ClusterBrowser.Proofs.Encoding
import ClusterBrowser.Proofs.Locating
import ClusterBrowser.Proofs.Tiling
import ClusterBrowser.Proofs.Additions
import ClusterBrowser.Proofs.Identities
import ClusterBrowser.Proofs.Sampling
import ClusterBrowser.Proofs.Breadcrumbs
import ClusterBrowser.Proofs.Respelling
import ClusterBrowser.Proofs.Origins
import ClusterBrowser.Proofs.Joining
import ClusterBrowser.Proofs.Units
import ClusterBrowser.Proofs.Instants
import ClusterBrowser.Proofs.Tiers
