import KnFunc.Core.Act
import KnFunc.Semver.Version
import KnFunc.Yaml.Node
import KnFunc.FileSystem.Tree
import KnFunc.Function.Descriptor
import KnFunc.Migration.Migrate
import KnFunc.Migration.Chain
import KnFunc.Migration.Frame
import KnFunc.Migration.Panics
import KnFunc.Path.Clean
import KnFunc.Staleness.Fingerprint
import KnFunc.Staleness.Injective
import KnFunc.Client.Load
import KnFunc.Client.Client
import KnFunc.Client.Staleness
import KnFunc.Client.Interleaving
import KnFunc.Client.Create
import KnFunc.Client.Cluster
import KnFunc.Cmd.Run
import KnFunc.Cmd.Volumes
import KnFunc.Lifecycle.Persisted
import KnFunc.Lifecycle.Footprint
import KnFunc.Lifecycle.Built
import KnFunc.Lifecycle.Fields
